import TypeAtlas.Descriptor.Printer
import TypeAtlas.Proofs.Erasure
import TypeAtlas.Proofs.Text.Lines

/-!
A destination that accepts only so many writes sees as many lines of the outline and no others. An outline is
a list of lines, one write each: the visits, the sequences of members and the loops over the fields of a
variant come to writing that list up to the first refusal, and none of them goes on after it.
-/

namespace TypeAtlas

namespace Outline

/-! ### Lines -/

def structLines (s : StructInfo) : List Text :=
  structHeader s :: s.fields.map (fieldText "\t")

def variantLines (v : VariantInfo) : List Text :=
  match v.raw with
  | some raw => [valueText v raw]
  | none =>
    if TypeRep.isNoType v.listType then [("\t" ++ v.name ++ "\n" : Text)]
    else variantHeader v :: v.fields.map (fieldText "\t\t")

def enumLines (e : EnumInfo) : List Text :=
  enumHeader e :: e.variants.flatMap variantLines

def functionLines (f : FunctionInfo) : List Text :=
  functionHeader f :: f.parameters.map parameterText ++
    if TypeRep.isNoType f.result then [] else [resultText f]

/-- The lines of the outline of a descriptor that can answer for its kind. -/
def lines? (d : Descriptor) : Option (List Text) :=
  match d.kind with
  | .struct | .union | .tuple => d.struct?.map structLines
  | .enum => d.enum?.map enumLines
  | .function => d.function?.map functionLines
  | _ => none

/-! ### Printing lines -/

namespace Printing

theorem andThen_assoc (a b c : Printing) : (a.andThen b).andThen c = a.andThen (b.andThen c) := by
  funext s
  simp only [andThen, bind, StateT.bind]
  cases a s with
  | mk outcome s => cases outcome <;> rfl

theorem andThen_none (a : Printing) : a.andThen (return none) = a := by
  funext s
  simp only [andThen, bind, StateT.bind]
  cases a s with
  | mk outcome s => cases outcome <;> rfl

theorem ofWriting_bind (first next : Writing Unit) :
    ofWriting (first >>= fun _ => next) = (ofWriting first).andThen (ofWriting next) := by
  funext s
  simp only [ofWriting, andThen, bind, StateT.bind, StateT.run, ExceptT.run, ExceptT.bind, ExceptT.mk,
    ExceptT.bindCont]
  cases first s with
  | mk outcome s => cases outcome <;> rfl

end Printing

theorem printEach_nil (s : Sink) : printEach [] s = (none, s) :=
  rfl

theorem printEach_singleton (t : Text) : printEach [t] = print t :=
  Printing.andThen_none _

theorem printEach_append (xs ys : List Text) :
    printEach (xs ++ ys) = (printEach xs).andThen (printEach ys) := by
  induction xs with
  | nil => rfl
  | cons t rest ih => rw [List.cons_append, printEach, printEach, ih, Printing.andThen_assoc]

/-- The consumer wants another result just when the visit before it refused nothing. -/
theorem firstFailure_cons {α : Type} (visit : Int → α → Printing) (position : Nat) (item : α)
    (rest : List α) :
    Visitor.firstFailure
        (Visitor.resultsFrom (fun position item => liftM (visit position item)) position
          (item :: rest)) =
      (visit position item).andThen (Visitor.firstFailure
        (Visitor.resultsFrom (fun position item => liftM (visit position item)) (position + 1)
          rest)) := by
  funext s
  simp only [Visitor.firstFailure, Visitor.resultsFrom, Printing.andThen]
  simp only [bind, StateT.bind, StateT.run, liftM, monadLift, MonadLift.monadLift, StateT.lift]
  cases visit position item s with
  | mk outcome s => cases outcome <;> rfl

/-- Visits that print lines of their items print, one after another, the lines of all items. -/
theorem untilFailure_eq {α : Type} {visit : Int → α → Printing} {lines : α → List Text}
    (each : ∀ position item, visit position item = printEach (lines item)) (items : List α) :
    Visitor.untilFailure visit items = printEach (items.flatMap lines) := by
  have from_position (position : Nat) :
      Visitor.firstFailure
          (Visitor.resultsFrom (fun position item => liftM (visit position item)) position items) =
        printEach (items.flatMap lines) := by
    -- The rest of a sequence has positions of its own, which the visits do not look at.
    induction items generalizing position with
    | nil => rfl
    | cons item rest ih =>
      rw [firstFailure_cons, ih, each, List.flatMap_cons, printEach_append]
  exact from_position 0

/-- A loop that writes lines for each item writes, one after another, the lines of all items. -/
theorem ofWriting_forM {α : Type} {write : α → Writing Unit} {lines : α → List Text}
    (each : ∀ item, Printing.ofWriting (write item) = printEach (lines item)) (items : List α) :
    Printing.ofWriting (items.forM write) = printEach (items.flatMap lines) := by
  induction items with
  | nil => rfl
  | cons item rest ih =>
    rw [List.flatMap_cons, printEach_append, ← each, ← ih, ← Printing.ofWriting_bind]
    rfl

/-! ### Both ways to an outline print its lines -/

theorem printVariant_eq (position : Int) (v : VariantInfo) :
    printVariant position v = printEach (variantLines v) := by
  unfold printVariant variantLines
  cases v.raw with
  | some raw => exact (printEach_singleton _).symm
  | none =>
    dsimp only
    split
    · exact (printEach_singleton _).symm
    · rfl

theorem ofWriting_writeVariant (v : VariantInfo) :
    Printing.ofWriting (writeVariant v) = printEach (variantLines v) := by
  unfold writeVariant variantLines
  cases v.raw with
  | some raw => exact (printEach_singleton _).symm
  | none =>
    dsimp only
    split
    · exact (printEach_singleton _).symm
    · rw [Printing.ofWriting_bind, printEach, List.map_eq_flatMap,
        ofWriting_forM fun f => (printEach_singleton (fieldText "\t\t" f)).symm]
      rfl

theorem printer_struct (s : StructInfo) : printer.struct s = printEach (structLines s) := by
  rw [structLines, printEach, List.map_eq_flatMap,
    ← untilFailure_eq fun _ f => (printEach_singleton (fieldText "\t" f)).symm]
  rfl

theorem ofWriting_writeStruct (s : StructInfo) :
    Printing.ofWriting (writeStruct s) = printEach (structLines s) := by
  rw [structLines, printEach, List.map_eq_flatMap,
    ← ofWriting_forM fun f : FieldInfo => (printEach_singleton (fieldText "\t" f)).symm]
  exact Printing.ofWriting_bind _ _

theorem printer_enum (e : EnumInfo) : printer.enum e = printEach (enumLines e) := by
  rw [enumLines, printEach, ← untilFailure_eq printVariant_eq]
  rfl

theorem ofWriting_writeEnum (e : EnumInfo) :
    Printing.ofWriting (writeEnum e) = printEach (enumLines e) := by
  rw [writeEnum, Printing.ofWriting_bind, enumLines, printEach, ofWriting_forM ofWriting_writeVariant]
  rfl

theorem printer_function (f : FunctionInfo) :
    printer.function f = printEach (functionLines f) := by
  have result : (if TypeRep.isNoType f.result then return none else print (resultText f) : Printing) =
      printEach (if TypeRep.isNoType f.result then [] else [resultText f]) := by
    split
    · rfl
    · exact (printEach_singleton _).symm
  rw [functionLines, printEach_append, ← result, printEach, List.map_eq_flatMap,
    ← untilFailure_eq fun _ p => (printEach_singleton (parameterText p)).symm]
  rfl

theorem ofWriting_writeFunction (f : FunctionInfo) :
    Printing.ofWriting (writeFunction f) = printEach (functionLines f) := by
  have result : Printing.ofWriting
        (if TypeRep.isNoType f.result then pure () else Sink.write (resultText f)) =
      printEach (if TypeRep.isNoType f.result then [] else [resultText f]) := by
    split
    · rfl
    · exact (printEach_singleton _).symm
  rw [functionLines, List.cons_append, printEach, printEach_append, ← result, List.map_eq_flatMap,
    ← ofWriting_forM fun p => (printEach_singleton (parameterText p)).symm, ← Printing.ofWriting_bind]
  exact Printing.ofWriting_bind _ _

theorem map_eq_map_printEach {α : Type} {visit : α → Printing} {lines : α → List Text}
    (each : ∀ item, visit item = printEach (lines item)) (answer : Option α) :
    answer.map visit = (answer.map lines).map printEach := by
  rw [funext each, Option.map_map]
  rfl

/-- A walk with the printer prints the lines of the outline. -/
theorem walk?_printer (d : Descriptor) :
    Visitor.walk? printer d = (lines? d).map printEach := by
  unfold Visitor.walk? lines?
  cases d.kind with
  | struct | union | tuple => exact map_eq_map_printEach printer_struct _
  | enum => exact map_eq_map_printEach printer_enum _
  | function => exact map_eq_map_printEach printer_function _
  | array | slice | unknown => rfl

/-- An outline that is written at once has the same lines. -/
theorem map_ofWriting_write? (d : Descriptor) :
    (write? d).map Printing.ofWriting = (lines? d).map printEach := by
  unfold write? lines?
  cases d.kind with
  | struct | union | tuple =>
    exact (Option.map_map ..).trans (map_eq_map_printEach ofWriting_writeStruct _)
  | enum => exact (Option.map_map ..).trans (map_eq_map_printEach ofWriting_writeEnum _)
  | function => exact (Option.map_map ..).trans (map_eq_map_printEach ofWriting_writeFunction _)
  | array | slice | unknown => rfl

/-! ### The lines end -/

theorem fieldText_endsLine (indent : Text) (f : FieldInfo) : Text.EndsLine (fieldText indent f) :=
  .append ⟨")", rfl⟩ _

theorem structLines_endLine (s : StructInfo) : ∀ line ∈ structLines s, Text.EndsLine line := by
  have header : Text.EndsLine (structHeader s) := .append ⟨" fields:", rfl⟩ _
  simp only [structLines, List.forall_mem_cons, List.forall_mem_map]
  exact ⟨header, fun f _ => fieldText_endsLine "\t" f⟩

theorem variantLines_endLine (v : VariantInfo) : ∀ line ∈ variantLines v, Text.EndsLine line := by
  have header : Text.EndsLine (variantHeader v) := .append ⟨" fields:", rfl⟩ _
  unfold variantLines
  cases v.raw with
  | some raw => exact List.forall_mem_singleton.mpr (.append ⟨[], rfl⟩ _)
  | none =>
    dsimp only
    split
    · exact List.forall_mem_singleton.mpr (.append ⟨[], rfl⟩ _)
    · simp only [List.forall_mem_cons, List.forall_mem_map]
      exact ⟨header, fun f _ => fieldText_endsLine "\t\t" f⟩

theorem enumLines_endLine (e : EnumInfo) : ∀ line ∈ enumLines e, Text.EndsLine line := by
  have header : Text.EndsLine (enumHeader e) := .append ⟨" variants:", rfl⟩ _
  simp only [enumLines, List.forall_mem_cons, List.mem_flatMap]
  refine ⟨header, ?_⟩
  rintro line ⟨v, -, member⟩
  exact variantLines_endLine v line member

theorem functionLines_endLine (f : FunctionInfo) :
    ∀ line ∈ functionLines f, Text.EndsLine line := by
  have header : Text.EndsLine (functionHeader f) := .append ⟨" parameters:", rfl⟩ _
  have result : ∀ line ∈ (if TypeRep.isNoType f.result then [] else [resultText f] : List Text),
      Text.EndsLine line := by
    split
    · exact List.forall_mem_nil _
    · exact List.forall_mem_singleton.mpr (.append ⟨[], rfl⟩ _)
  rw [functionLines, List.forall_mem_append, List.forall_mem_cons, List.forall_mem_map]
  exact ⟨⟨header, fun p _ => .append ⟨")", rfl⟩ _⟩, result⟩

theorem lines?_endLine {d : Descriptor} {lines : List Text} (described : lines? d = some lines) :
    ∀ line ∈ lines, Text.EndsLine line := by
  have answered {α : Type} {each : α → List Text} (ends : ∀ x, ∀ line ∈ each x, Text.EndsLine line)
      {answer : Option α} (found : answer.map each = some lines) :
      ∀ line ∈ lines, Text.EndsLine line := by
    obtain ⟨x, -, rfl⟩ := Option.map_eq_some_iff.mp found
    exact ends x
  unfold lines? at described
  cases kind : d.kind with
  | struct | union | tuple => exact answered structLines_endLine (by rwa [kind] at described)
  | enum => exact answered enumLines_endLine (by rwa [kind] at described)
  | function => exact answered functionLines_endLine (by rwa [kind] at described)
  | array | slice | unknown =>
    rw [kind] at described
    cases described

/-! ### Runs -/

/-- A destination without bounds takes every line. -/
theorem printEach_free (lines : List Text) (attempts : Nat) (out : Text) :
    printEach lines { room := none, attempts, out } =
      (none, { room := none, attempts := attempts + lines.length, out := out ++ lines.flatten }) := by
  induction lines generalizing attempts out with
  | nil => rw [printEach_nil, List.flatten_nil, List.append_nil, List.length_nil, Nat.add_zero]
  | cons t rest ih =>
    have step : printEach (t :: rest) { room := none, attempts, out } =
        printEach rest { room := none, attempts := attempts + 1, out := out ++ t } := rfl
    rw [step, ih, List.length_cons, List.flatten_cons, List.append_assoc, Nat.add_right_comm]
    rfl

/-- With room for `n` lines, the first `n` are taken. The one after them is refused and is the last. -/
theorem printEach_room (lines : List Text) (n attempts : Nat) (out : Text) :
    printEach lines { room := some n, attempts, out } =
      (if lines.length ≤ n then none else some Sink.refusal,
        { room := some (n - lines.length)
          attempts := attempts + min lines.length (n + 1)
          out := out ++ (lines.take n).flatten }) := by
  induction lines generalizing n attempts out with
  | nil => simp [printEach_nil]
  | cons t rest ih =>
    cases n with
    | zero =>
      have step : printEach (t :: rest) { room := some 0, attempts, out } =
          (some Sink.refusal, { room := some 0, attempts := attempts + 1, out }) := rfl
      simp [step]
    | succ n =>
      have step : printEach (t :: rest) { room := some (n + 1), attempts, out } =
          printEach rest { room := some n, attempts := attempts + 1, out := out ++ t } := rfl
      have attempted : attempts + 1 + min rest.length (n + 1) =
          attempts + min (rest.length + 1) (n + 1 + 1) := by omega
      rw [step, ih, attempted]
      simp

/-- A walk with the printer leaves a destination that accepts `n` writes with the first lines of the outline
that it leaves one that accepts everything, as many as there is room for. It reports a refusal just when
there was one, and attempts nothing after that. An outline written at once comes to the same. -/
theorem walk_stops_at_refusal {d : Descriptor} {printing : Printing}
    (dispatched : Visitor.walk? printer d = some printing) :
    ∃ lines, lines? d = some lines ∧ (∀ line ∈ lines, Text.EndsLine line) ∧
      (∃ w, write? d = some w ∧ printing = .ofWriting w) ∧
      printing.run .unbounded =
        (none, { room := none, attempts := lines.length, out := lines.flatten }) ∧
      ∀ n, printing.run (.bounded n) =
        (if n ≥ lines.length then none else some Sink.refusal,
          { room := some (n - lines.length)
            attempts := min lines.length (n + 1)
            out := (lines.take (min n lines.length)).flatten }) := by
  rw [walk?_printer, Option.map_eq_some_iff] at dispatched
  obtain ⟨lines, described, rfl⟩ := dispatched
  have written := map_ofWriting_write? d
  rw [described, Option.map_some, Option.map_eq_some_iff] at written
  obtain ⟨w, outlined, same⟩ := written
  refine ⟨lines, described, lines?_endLine described, ⟨w, outlined, same.symm⟩, ?_, ?_⟩
  · have run := printEach_free lines 0 []
    rwa [Nat.zero_add, List.nil_append] at run
  · intro n
    have run := printEach_room lines n 0 []
    rwa [Nat.zero_add, List.nil_append, List.take_eq_take_min] at run

theorem beacon_stops_within_variant :
    ∃ printing lines, Visitor.walk? printer (.enum Descriptor.beaconInfo) = some printing ∧
      lines? (.enum Descriptor.beaconInfo) = some lines ∧ lines.length = 5 ∧
      printing.run (.bounded 3) =
        (some Sink.refusal, { room := some 0, attempts := 4, out := (lines.take 3).flatten }) := by
  have dispatched : Visitor.walk? printer (.enum Descriptor.beaconInfo) =
      some (printer.enum Descriptor.beaconInfo) := rfl
  obtain ⟨lines, described, -, -, -, stops⟩ := walk_stops_at_refusal dispatched
  have five : lines.length = 5 := by
    obtain rfl := Option.some.inj described
    rfl
  refine ⟨_, lines, dispatched, described, five, ?_⟩
  rw [stops 3, five]
  rfl

end Outline

end TypeAtlas
