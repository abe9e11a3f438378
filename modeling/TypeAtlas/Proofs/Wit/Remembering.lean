import TypeAtlas.Proofs.Wit.Calculation
import TypeAtlas.Wit.Check

/-!
What a calculator remembers makes no difference. It may be asked for any types in any order, with
definitions shared among them and asked for again: each answer is the one that a calculator without memory
would give, since after every step the layout remembered for a label is that of its definition. The
layout check asks one calculator for the record of a struct and for all members in turn, and so finds
the same as with every layout computed anew.
-/

namespace TypeAtlas

/-! ### Sequences of questions -/

namespace Calculator

variable {definition : Label → WitType}

/-- Asks for one type after another, each time with what is remembered from those before. -/
def calculateAll : List WitType → Calculator → List Placement × Calculator
  | [], c => ([], c)
  | w :: rest, c =>
    let (p, c) := calculate w c
    let (ps, c) := calculateAll rest c
    (p :: ps, c)

theorem remembers_nil : Remembers definition [] :=
  fun _ _ found => nomatch found

theorem calculateAll_gives (asked : List WitType) (labelled : ∀ w ∈ asked, w.LabelledBy definition)
    (c : Calculator) (remembers : Remembers definition c) :
    Gives definition (asked.map WitType.layout) (calculateAll asked c) := by
  induction asked generalizing c with
  | nil => exact ⟨rfl, remembers⟩
  | cons w rest ih =>
    obtain ⟨first, others⟩ := List.forall_mem_cons.mp labelled
    obtain ⟨placement, between⟩ := calculate_gives w first c remembers
    obtain ⟨placements, after⟩ := ih others _ between
    refine ⟨?_, after⟩
    rw [List.map_cons, ← placement, ← placements]
    rfl

/-- Types whose labels name their definitions may be asked for in any order and any number of times: each
answer is that of a calculator that remembers nothing, and what is remembered in the end for a label is
the layout of its definition. -/
theorem calculates_anew (definition : Label → WitType) (asked : List WitType)
    (labelled : ∀ w ∈ asked, w.LabelledBy definition) :
    (calculateAll asked []).1 = asked.map (fun w => (calculate w []).1) ∧
      Remembers definition (calculateAll asked []).2 := by
  obtain ⟨answers, remembers⟩ := calculateAll_gives asked labelled [] remembers_nil
  refine ⟨?_, remembers⟩
  rw [answers]
  exact List.map_congr_left fun w member => (calculate_eq_layout (labelled w member)).symm

def pointType : WitType :=
  .record [2] [⟨"x", .primitive .u8⟩, ⟨"y", .primitive .u32⟩]

/-- Twice the same definition. -/
def edgeType : WitType :=
  .tuple [1] [pointType, pointType]

/-- Definitions that are used again at several depths. -/
def figureType : WitType :=
  .variant [0] [some edgeType, none, some pointType, some (.alias [3] edgeType)]

theorem figure_calculated_anew :
    (calculateAll [edgeType, figureType, pointType, .alias [3] edgeType] []).1.map Placement.size =
        [16, 20, 8, 16] ∧
      (calculateAll [edgeType, figureType, pointType, .alias [3] edgeType] []).1 =
        [edgeType, figureType, pointType, .alias [3] edgeType].map fun w => (calculate w []).1 := by
  let definition (label : Label) : WitType :=
    if label = [0] then figureType
    else if label = [1] then edgeType
    else if label = [2] then pointType
    else .alias [3] edgeType
  have point : pointType.LabelledBy definition := ⟨rfl, trivial, trivial, trivial⟩
  have edge : edgeType.LabelledBy definition := ⟨rfl, point, point, trivial⟩
  have another : (WitType.alias [3] edgeType).LabelledBy definition := ⟨rfl, edge⟩
  have figure : figureType.LabelledBy definition := ⟨rfl, edge, trivial, point, another, trivial⟩
  have labelled : ∀ w ∈ [edgeType, figureType, pointType, .alias [3] edgeType],
      w.LabelledBy definition := by
    simp only [List.forall_mem_cons]
    exact ⟨edge, figure, point, another, nofun⟩
  exact ⟨rfl, (calculates_anew definition _ labelled).1⟩

end Calculator

/-! ### Labels of records -/

namespace WitType

/-- The part at the end of a path of positions. The members of a tuple are one definition, at position 0. -/
def follow : WitType → List Nat → WitType
  | w, [] => w
  | .record _ fields, i :: path =>
    match fields[i]? with
    | some f => f.type.follow path
    | none => .absent
  | .tuple _ members, _ :: path =>
    match members.head? with
    | some w => w.follow path
    | none => .absent
  | _, _ :: _ => .absent

section Labels

variable {definition : Label → WitType}

theorem fieldsLabelledBy_of_each {fields : List (WitField WitType)}
    (each : ∀ (i : Nat) f, fields[i]? = some f → f.type.LabelledBy definition) :
    FieldsLabelledBy definition fields := by
  induction fields with
  | nil => trivial
  | cons f rest ih => exact ⟨each 0 f rfl, ih fun i => each (i + 1)⟩

theorem membersLabelledBy_replicate {w : WitType} {n : Nat} (labelled : 0 < n → w.LabelledBy definition) :
    MembersLabelledBy definition (List.replicate n w) := by
  induction n with
  | zero => trivial
  | succ n ih => exact ⟨labelled (Nat.succ_pos n), ih fun _ => labelled (Nat.succ_pos n)⟩

mutual

/-- The labels that a counterpart gives out are the paths to its definitions, after the label that it was
made for. -/
theorem labelledBy_of_counterpart : (t : TypeRep) → {path : List Text} → {label : Label} →
    {whole : TypeRep} → {w : WitType} → counterpart path label whole t = .ok w →
    (∀ p : List Nat, definition (p.reverse ++ label) = w.follow p) → w.LabelledBy definition
  | .named _ d, path, label, whole, w, made, paths => by
    rw [counterpart] at made
    exact labelledBy_of_counterpart d made paths
  | .primitive p, path, label, whole, w, made, paths => by
    rw [counterpart] at made
    split at made
    · cases made
      trivial
    · cases made
  | .array n e, path, label, whole, w, made, paths => by
    rw [counterpart] at made
    split at made
    · rename_i element found
      cases made
      refine ⟨paths [], membersLabelledBy_replicate fun some => ?_⟩
      refine labelledBy_of_counterpart e found fun p => ?_
      have deeper := paths (0 :: p)
      have first : (List.replicate n element).head? = Option.some element := by
        rw [List.head?_replicate, if_neg (Nat.ne_of_gt some)]
      rw [List.reverse_cons, List.append_assoc, List.singleton_append] at deeper
      rw [deeper, follow, first]
    · cases made
  | .struct fields, path, label, whole, w, made, paths => by
    rw [counterpart] at made
    split at made
    · rename_i ws found
      cases made
      refine ⟨paths [], fieldsLabelledBy_of_each fun i f place => ?_⟩
      refine labelledBy_of_counterparts fields found place fun p => ?_
      have deeper := paths (i :: p)
      rw [List.reverse_cons, List.append_assoc, List.singleton_append] at deeper
      rw [Nat.zero_add, deeper, follow, place]
    · cases made
  | .pointer _, _, _, _, _, made, _ | .slice _, _, _, _, _, made, _ | .map .., _, _, _, _, made, _
  | .channel .., _, _, _, _, made, _ | .function .., _, _, _, _, made, _ => by
    rw [counterpart] at made
    cases made

theorem labelledBy_of_counterparts : (fields : List (Member TypeRep)) → {path : List Text} →
    {label : Label} → {start : Nat} → {ws : List (WitField WitType)} →
    counterparts path label start fields = .ok ws → {i : Nat} → {f : WitField WitType} →
    ws[i]? = some f →
    (∀ p : List Nat, definition (p.reverse ++ (start + i) :: label) = f.type.follow p) →
    f.type.LabelledBy definition
  | [], _, _, _, ws, made, i, f, place, _ => by
    rw [counterparts] at made
    cases made
    simp at place
  | ⟨name, t, tag⟩ :: rest, path, label, start, ws, made, i, f, place, paths => by
    rw [counterparts] at made
    split at made
    · cases made
    · rename_i w first
      split at made
      · rename_i others later
        cases made
        cases i with
        | zero =>
          cases place
          exact labelledBy_of_counterpart t first paths
        | succ i =>
          refine labelledBy_of_counterparts rest later (i := i) place fun p => ?_
          rw [← paths p, Nat.succ_add_eq_add_succ]
      · cases made

end

/-- In the record of a struct no label is given to two definitions. -/
theorem labelledBy_of_recordFields {s : ErasedStruct} {fields : List (WitField WitType)}
    (made : recordFields s = .ok fields) :
    (record [] fields).LabelledBy fun label => (record [] fields).follow label.reverse := by
  refine ⟨rfl, fieldsLabelledBy_of_each fun i f place => ?_⟩
  obtain ⟨length, each⟩ := mapM_eq_ok made
  have bound : i < s.fields.length := by
    have position := (List.getElem?_eq_some_iff.mp place).1
    rwa [length, List.length_zipIdx] at position
  have field := each i (s.fields[i], i) f (by simp [bound]) place
  simp only [ofField] at field
  split at field
  · cases field
  · rename_i t type
    cases counterpart : counterpart [s.name, s.fields[i].name] [i] t t with
    | error e =>
      rw [counterpart] at field
      cases field
    | ok w =>
      rw [counterpart] at field
      cases field
      refine labelledBy_of_counterpart t counterpart fun p => ?_
      rw [List.reverse_append, List.reverse_reverse]
      simp [follow, place]

end Labels

end WitType

/-! ### A check with one calculator -/

namespace Layout

/-- Two sizes that differ, when the second one is at hand. -/
def sizesDiffer (path : List Text) (t : TypeRep) (w : WitType) (size : UInt32) : Fault :=
  Fault.of {
    path
    phase := .layout
    kind := .typeMismatch
    goType := t.text
    witType := w.text
    detail := "Go size " ++ Text.ofNat t.size ++ ", canonical size " ++ Text.ofNat size.toNat }

/-- The disagreement of a value with its counterpart as a whole or else those that `parts` finds, given the
layout. A calculator is asked for it only where the offsets agree. -/
def askWhole (path : List Text) (t : TypeRep) (offset : UInt64) (witOffset : UInt32) (w : WitType)
    (c : Calculator) (parts : Placement → Calculator → List Fault × Calculator) :
    List Fault × Calculator :=
  if offset.toNat ≠ witOffset.toNat then
    ([Fault.layoutMismatch path t.text w.text offset.toNat witOffset.toNat], c)
  else
    let (p, c) := Calculator.calculate w c
    if p.size.toNat ≠ t.size then ([sizesDiffer path t w p.size], c) else parts p c

mutual

/-- The disagreements of a value with its counterpart, found with a calculator. -/
def mismatchesAsking (path : List Text) (t : TypeRep) (offset : UInt64) (witOffset : UInt32) (w : WitType)
    (c : Calculator) : List Fault × Calculator :=
  askWhole path t offset witOffset w c fun p c =>
    match w with
    | .record _ fields =>
      fieldMismatchesAsking path offset witOffset (TypeRep.placedFields (t.fields?.getD [])) p.offsets
        fields c
    | .tuple _ members =>
      match t.underlying with
      | .array _ e => memberMismatchesAsking path e offset witOffset 0 p.offsets members c
      | _ => ([], c)
    | _ => ([], c)

def fieldMismatchesAsking (path : List Text) (offset : UInt64) (witOffset : UInt32) :
    List (Member TypeRep × Nat) → List UInt32 → List (WitField WitType) → Calculator →
    List Fault × Calculator
  | (m, o) :: ms, wo :: wos, ⟨_, w⟩ :: ws, c =>
    let (here, c) :=
      mismatchesAsking (path ++ [m.name]) m.type (offset + UInt64.ofNat o) (witOffset + wo) w c
    let (later, c) := fieldMismatchesAsking path offset witOffset ms wos ws c
    (here ++ later, c)
  | _, _, _, c => ([], c)

def memberMismatchesAsking (path : List Text) (e : TypeRep) (offset : UInt64) (witOffset : UInt32)
    (i : Nat) : List UInt32 → List WitType → Calculator → List Fault × Calculator
  | wo :: wos, w :: ws, c =>
    let (here, c) := mismatchesAsking (path ++ [("[" ++ Text.ofNat i ++ "]" : Text)]) e
      (offset + UInt64.ofNat (i * e.size)) (witOffset + wo) w c
    let (later, c) := memberMismatchesAsking path e offset witOffset (i + 1) wos ws c
    (here ++ later, c)
  | _, _, c => ([], c)

end

/-- The disagreements of the visible fields of a struct, found with one calculator. -/
def structMismatchesAsking (owner : Text) :
    List FieldInfo → List UInt32 → List (WitField WitType) → Calculator → List Fault × Calculator
  | f :: fs, wo :: wos, ⟨_, w⟩ :: ws, c =>
    let (here, c) :=
      match f.type with
      | some t => mismatchesAsking [owner, f.name] t f.offset wo w c
      | Option.none => ([], c)
    let (later, c) := structMismatchesAsking owner fs wos ws c
    (here ++ later, c)
  | _, _, _, c => ([], c)

/-- The check of a struct with one calculator, which starts with the record itself. -/
def checkAsking (s : Option ErasedStruct) : Layout × Except Abort Unit :=
  match s with
  | Option.none => (Layout.none, (WitType.record? Option.none).map fun _ => ())
  | some s =>
    match WitType.recordFields s with
    | .error e => (Layout.none, .error e)
    | .ok fields =>
      let (p, c) := Calculator.calculate (.record [] fields) []
      let (faults, _) := structMismatchesAsking s.name s.fields p.offsets fields c
      (ofPlacement p, (Failure.ofFaults s.name faults).mapError .failure)

end Layout

namespace Calculator

variable {definition : Label → WitType}

theorem Gives.append {xs ys : List Fault} {first : List Fault × Calculator}
    {second : Calculator → List Fault × Calculator} (here : Gives definition xs first)
    (later : ∀ c, Remembers definition c → Gives definition ys (second c)) :
    Gives definition (xs ++ ys) (first.1 ++ (second first.2).1, (second first.2).2) := by
  obtain ⟨found, between⟩ := here
  obtain ⟨more, after⟩ := later _ between
  exact ⟨by rw [found, more], after⟩

open Layout hiding none

theorem Gives.askWhole {w : WitType} (labelled : w.LabelledBy definition) {c : Calculator}
    (remembers : Remembers definition c) (path : List Text) (t : TypeRep) (offset : UInt64)
    (witOffset : UInt32) {faults : List Fault} {parts : Placement → Calculator → List Fault × Calculator}
    (deeper : ∀ c, Remembers definition c → Gives definition faults (parts w.layout c)) :
    Gives definition
      (match wholeMismatch? path t offset witOffset w with
        | some f => [f]
        | none => faults)
      (Layout.askWhole path t offset witOffset w c parts) := by
  obtain ⟨placement, after⟩ := calculate_gives w labelled c remembers
  unfold Layout.askWhole wholeMismatch?
  by_cases offsets : offset.toNat ≠ witOffset.toNat
  · rw [if_pos offsets, if_pos offsets]
    exact ⟨rfl, remembers⟩
  rw [if_neg offsets, if_neg offsets]
  simp only [placement]
  by_cases sizes : w.layout.size.toNat ≠ t.size
  · rw [if_pos sizes, if_pos sizes]
    exact ⟨rfl, after⟩
  · rw [if_neg sizes, if_neg sizes]
    exact deeper _ after

mutual

/-- Whatever was asked before, the same disagreements are found as with layouts computed anew. -/
theorem mismatchesAsking_gives : (w : WitType) → w.LabelledBy definition → (path : List Text) →
    (t : TypeRep) → (offset : UInt64) → (witOffset : UInt32) → (c : Calculator) → Remembers definition c →
    Gives definition (mismatches path t offset witOffset w) (mismatchesAsking path t offset witOffset w c)
  | .record label fields, labelled, path, t, offset, witOffset, c, remembers => by
    unfold mismatchesAsking mismatches
    refine Gives.askWhole labelled remembers path t offset witOffset fun c remembers => ?_
    rw [WitType.LabelledBy] at labelled
    exact fieldMismatchesAsking_gives fields labelled.2 path offset witOffset _ _ c remembers
  | .tuple label members, labelled, path, t, offset, witOffset, c, remembers => by
    unfold mismatchesAsking mismatches
    refine Gives.askWhole labelled remembers path t offset witOffset fun c remembers => ?_
    rw [WitType.LabelledBy] at labelled
    cases t.underlying with
    | array n e =>
      exact memberMismatchesAsking_gives members labelled.2 path e offset witOffset 0 _ c remembers
    | _ => exact ⟨rfl, remembers⟩
  | .absent, labelled, path, t, offset, witOffset, c, remembers
  | .primitive _, labelled, path, t, offset, witOffset, c, remembers
  | .variant .., labelled, path, t, offset, witOffset, c, remembers
  | .enum .., labelled, path, t, offset, witOffset, c, remembers
  | .option .., labelled, path, t, offset, witOffset, c, remembers
  | .result .., labelled, path, t, offset, witOffset, c, remembers
  | .list .., labelled, path, t, offset, witOffset, c, remembers
  | .flags .., labelled, path, t, offset, witOffset, c, remembers
  | .alias .., labelled, path, t, offset, witOffset, c, remembers
  | .handle _, labelled, path, t, offset, witOffset, c, remembers => by
    unfold mismatchesAsking mismatches
    refine Gives.askWhole labelled remembers path t offset witOffset fun c remembers => ?_
    exact ⟨rfl, remembers⟩

theorem fieldMismatchesAsking_gives : (fields : List (WitField WitType)) →
    WitType.FieldsLabelledBy definition fields → (path : List Text) → (offset : UInt64) →
    (witOffset : UInt32) → (placed : List (Member TypeRep × Nat)) → (witOffsets : List UInt32) →
    (c : Calculator) → Remembers definition c →
    Gives definition (fieldMismatches path offset witOffset placed witOffsets fields)
      (fieldMismatchesAsking path offset witOffset placed witOffsets fields c)
  | ⟨_, w⟩ :: ws, labelled, path, offset, witOffset, (m, o) :: ms, wo :: wos, c, remembers => by
    rw [WitType.FieldsLabelledBy] at labelled
    rw [fieldMismatches, fieldMismatchesAsking]
    exact (mismatchesAsking_gives w labelled.1 _ _ _ _ c remembers).append
      (fieldMismatchesAsking_gives ws labelled.2 path offset witOffset ms wos)
  | _, _, _, _, _, [], _, c, remembers | _ :: _, _, _, _, _, _ :: _, [], c, remembers
  | [], _, _, _, _, _ :: _, _ , c, remembers => by
    simp only [fieldMismatches, fieldMismatchesAsking]
    exact ⟨rfl, remembers⟩

theorem memberMismatchesAsking_gives : (members : List WitType) →
    WitType.MembersLabelledBy definition members → (path : List Text) → (e : TypeRep) →
    (offset : UInt64) → (witOffset : UInt32) → (i : Nat) → (witOffsets : List UInt32) →
    (c : Calculator) → Remembers definition c →
    Gives definition (memberMismatches path e offset witOffset i witOffsets members)
      (memberMismatchesAsking path e offset witOffset i witOffsets members c)
  | w :: ws, labelled, path, e, offset, witOffset, i, wo :: wos, c, remembers => by
    rw [WitType.MembersLabelledBy] at labelled
    rw [memberMismatches, memberMismatchesAsking]
    exact (mismatchesAsking_gives w labelled.1 _ _ _ _ c remembers).append
      (memberMismatchesAsking_gives ws labelled.2 path e offset witOffset (i + 1) wos)
  | [], _, _, _, _, _, _, _, c, remembers | _ :: _, _, _, _, _, _, _, [], c, remembers => by
    simp only [memberMismatches, memberMismatchesAsking]
    exact ⟨rfl, remembers⟩

end

theorem structMismatchesAsking_gives (owner : Text) (fields : List FieldInfo) (witOffsets : List UInt32)
    {ws : List (WitField WitType)} (labelled : WitType.FieldsLabelledBy definition ws) (c : Calculator)
    (remembers : Remembers definition c) :
    Gives definition (structMismatches owner fields witOffsets ws)
      (structMismatchesAsking owner fields witOffsets ws c) := by
  induction fields generalizing witOffsets ws c with
  | nil =>
    simp only [structMismatches, structMismatchesAsking]
    exact ⟨rfl, remembers⟩
  | cons f fs ih =>
    cases witOffsets with
    | nil =>
      simp only [structMismatches, structMismatchesAsking]
      exact ⟨rfl, remembers⟩
    | cons wo wos =>
      cases ws with
      | nil =>
        simp only [structMismatches, structMismatchesAsking]
        exact ⟨rfl, remembers⟩
      | cons field ws =>
        rw [WitType.FieldsLabelledBy] at labelled
        rw [structMismatches, structMismatchesAsking]
        refine Gives.append ?_ (ih wos labelled.2)
        cases f.type with
        | none => exact ⟨rfl, remembers⟩
        | some t => exact mismatchesAsking_gives field.type labelled.1 _ t _ _ c remembers

end Calculator

/-- One calculator for the record and all members finds the layout and the disagreements that are found
with every layout computed anew. -/
theorem Layout.checkAsking_eq_check (s : Option ErasedStruct) : checkAsking s = check s := by
  cases s with
  | none => rfl
  | some s =>
    cases made : WitType.recordFields s with
    | error e => simp only [checkAsking, check, made]
    | ok fields =>
      have labelled := WitType.labelledBy_of_recordFields made
      obtain ⟨placement, between⟩ :=
        Calculator.calculate_gives _ labelled [] Calculator.remembers_nil
      rw [WitType.LabelledBy] at labelled
      obtain ⟨faults, _⟩ := Calculator.structMismatchesAsking_gives s.name s.fields
        (WitType.record [] fields).layout.offsets labelled.2 _ between
      simp only [checkAsking, check, made, placement, faults]
      cases Failure.ofFaults s.name _ <;> rfl

end TypeAtlas
