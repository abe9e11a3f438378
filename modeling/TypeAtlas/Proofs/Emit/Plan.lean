import TypeAtlas.Emit.Generate
import TypeAtlas.Proofs.Outcome

/-!
What a generated file describes: one descriptor for each declaration that was chosen, followed by one for
each of its members that is seen. Where descriptors go to another package, what is seen is what is
exported.
-/

namespace TypeAtlas.Emit

open Source Model

/-! ### Another package's view -/

theorem Viewpoint.sees_of_foreign {v : Viewpoint} (foreign : v.foreign = true) (name : Text) :
    v.sees name = isExported name := by
  simp [sees, foreign]

theorem Viewpoint.canName_of_foreign {v : Viewpoint} (foreign : v.foreign = true) (t : SourceType) :
    v.canName t = t.nameableOutside := by
  simp [canName, foreign]

theorem viewpoint_foreign (m : Model) {o : Options} (elsewhere : o.into ≠ []) :
    (viewpoint m o).foreign = true := by
  simpa [viewpoint] using elsewhere

/-! ### Members that another package is shown -/

/-- Leaving out repeated values keeps the order of the constants. -/
theorem firstOfEachValue_sublist (constants : List Constant) :
    (firstOfEachValue constants).Sublist constants := by
  have after (kept rest : List Constant) :
      (rest.foldl
        (fun kept c => if kept.any (·.value == c.value) then kept else kept ++ [c]) kept).Sublist
        (kept ++ rest) := by
    induction rest generalizing kept with
    | nil => simp
    | cons c rest ih =>
      rw [List.foldl_cons]
      split
      · exact (ih kept).trans (List.Sublist.append_left (List.sublist_cons_self c rest) kept)
      · simpa using ih (kept ++ [c])
  exact after [] constants

/-- The fields that another package sees and can name. -/
def shownFields (fields : List Field) : List Field :=
  fields.filter fun f => isExported f.name && f.type.nameableOutside

def shownCases (s : Sum) : List Case :=
  s.cases.filter fun c => isExported c.name && c.type.nameableOutside

def shownConstants (e : Enumeration) : List Constant :=
  firstOfEachValue (e.constants.filter (isExported ·.name))

theorem mem_shownFields {fields : List Field} {f : Field} :
    f ∈ shownFields fields ↔
      f ∈ fields ∧ isExported f.name = true ∧ f.type.nameableOutside = true := by
  simp [shownFields]

theorem mem_shownCases {s : Sum} {c : Case} :
    c ∈ shownCases s ↔ c ∈ s.cases ∧ isExported c.name = true ∧ c.type.nameableOutside = true := by
  simp [shownCases]

theorem mem_of_shownConstants {e : Enumeration} {c : Constant} (shown : c ∈ shownConstants e) :
    c ∈ e.constants ∧ isExported c.name = true :=
  List.mem_filter.mp ((firstOfEachValue_sublist _).subset shown)

namespace Viewpoint

variable {v : Viewpoint}

theorem fields_of_foreign (foreign : v.foreign = true) (fields : List Field) :
    v.fields fields = shownFields fields := by
  simp only [Viewpoint.fields, shownFields, sees_of_foreign foreign, canName_of_foreign foreign]

theorem cases_of_foreign (foreign : v.foreign = true) (s : Sum) : v.cases s = shownCases s := by
  simp only [Viewpoint.cases, shownCases, sees_of_foreign foreign, canName_of_foreign foreign]

theorem constants_of_foreign (foreign : v.foreign = true) (e : Enumeration) :
    v.constants e = shownConstants e := by
  simp only [Viewpoint.constants, shownConstants, sees_of_foreign foreign]

end Viewpoint

/-! ### Successful generation -/

theorem select_eq_ok {m : Model} {v : Viewpoint} {only : List Text} {declarations : List Declared}
    (selected : select m v only = .ok declarations) :
    (∀ name ∈ only, (m.lookup? name).isSome = true) ∧
      declarations = m.declarations.filter fun d =>
        (only.isEmpty || only.contains d.name) && v.sees d.name := by
  unfold select at selected
  split at selected
  · cases selected
  · rename_i found
    cases selected
    refine ⟨fun name member => ?_, rfl⟩
    have known := List.find?_eq_none.mp found name member
    simpa [Option.isSome_iff_ne_none] using known

theorem generate_eq_ok {m : Model} {o : Options} {out : Output} (done : generate m o = .ok out) :
    ∃ declarations, select m (viewpoint m o) o.only = .ok declarations ∧
      out.items = plan (viewpoint m o) o.register declarations ∧
      out.spelling = spellingFor (viewpoint m o) out.items ∧
      ((Names.start (viewpoint m o).foreign m.taken).claim (claimedNames out.items)).2 = none := by
  simp only [generate] at done
  split at done
  · cases done
  split at done
  · cases done
  rename_i declarations selected
  split at done
  · cases done
  rename_i names claimed
  split at done
  · split at done
    · cases done
      exact ⟨declarations, selected, rfl, rfl, congrArg Prod.snd claimed⟩
    · cases done
  · cases done

/-! ### Lines -/

@[simp] theorem line_declares_nil : Line.declares [] = [] := rfl

@[simp] theorem line_declares_declared (name : Text) (rest : Line) :
    Line.declares (.declared name :: rest) = name :: Line.declares rest := rfl

@[simp] theorem line_declares_code (c : Code) (rest : Line) :
    Line.declares (.code c :: rest) = Line.declares rest := rfl

@[simp] theorem line_code_nil : Line.code [] = [] := rfl

@[simp] theorem line_code_declared (name : Text) (rest : Line) :
    Line.code (.declared name :: rest) = Line.code rest := rfl

@[simp] theorem line_code_code (c : Code) (rest : Line) :
    Line.code (.code c :: rest) = c ++ Line.code rest := rfl

@[simp] theorem flatMap_block {α : Type} (f : Line → List α) (first : Line) (inner : List Line)
    (last : Line) : (block first inner last).flatMap f = f first ++ inner.flatMap f ++ f last := by
  simp [block]

/-- Lines that are code alone declare nothing. -/
@[simp] theorem declares_map_code {α : Type} (xs : List α) (f : α → Code) :
    (xs.map fun x => [.code (f x)]).flatMap Line.declares = [] := by
  simp [List.flatMap_map]

@[simp] theorem code_map_code {α : Type} (xs : List α) (f : α → Code) :
    (xs.map fun x => [.code (f x)]).flatMap Line.code = xs.flatMap f := by
  simp [List.flatMap_map]

@[simp] theorem declares_indexConstants (count : Text) (names : List Text) :
    (Item.indexConstants count names).flatMap Line.declares = names.map indexName ++ [count] := by
  cases names with
  | nil => rfl
  | cons first rest => simp [Item.indexConstants, List.flatMap_map, ← List.map_eq_flatMap]

theorem mem_code_indexConstants {count : Text} {names : List Text} {piece : Piece}
    (member : piece ∈ (Item.indexConstants count names).flatMap Line.code) : piece = .text " = iota" := by
  cases names with
  | nil => cases member
  | cons first rest => simpa [Item.indexConstants, List.flatMap_map] using member

@[simp] theorem declares_spreadMethod (header : Code) (body : List Code) :
    (spreadMethod header body).flatMap Line.declares = [] := by
  simp [spreadMethod]

@[simp] theorem code_spreadMethod (header : Code) (body : List Code) :
    (spreadMethod header body).flatMap Line.code =
      header ++ .text " \x7b" :: body.flatten ++ [.text "\x7d"] := by
  simp [spreadMethod, List.flatMap_id']

/-! ### What items mention -/

/-- All pieces of some code have a property. -/
def AllPieces (P : Piece → Prop) (code : Code) : Prop :=
  ∀ piece ∈ code, P piece

section

variable {P : Piece → Prop}

@[simp] theorem allPieces_nil : AllPieces P [] := nofun

@[simp] theorem allPieces_cons (piece : Piece) (code : Code) :
    AllPieces P (piece :: code) ↔ P piece ∧ AllPieces P code :=
  List.forall_mem_cons

@[simp] theorem allPieces_append (first second : Code) :
    AllPieces P (first ++ second) ↔ AllPieces P first ∧ AllPieces P second :=
  List.forall_mem_append

@[simp] theorem allPieces_flatMap {α : Type} (xs : List α) (f : α → Code) :
    AllPieces P (xs.flatMap f) ↔ ∀ x ∈ xs, AllPieces P (f x) :=
  List.forall_mem_flatMap

@[simp] theorem allPieces_flatten (codes : List Code) :
    AllPieces P codes.flatten ↔ ∀ c ∈ codes, AllPieces P c := by
  simpa using allPieces_flatMap (P := P) codes id

theorem allPieces_separated (comma : P (.text ", ")) {codes : List Code} :
    AllPieces P (separated codes) ↔ ∀ c ∈ codes, AllPieces P c := by
  fun_induction separated codes with
  | case1 => simp
  | case2 c => simp
  | case3 c rest more ih => simp [comma, ih]

/-! Of the code of an item, only what comes from elsewhere matters for a property that plain text and the
file's own identifiers have. -/

variable (plain : ∀ t, P (.text t)) (own : ∀ name, P (.generated name))

include plain

theorem allPieces_descriptor {name subject : Text} {needs : Code} :
    AllPieces P (Item.descriptor name subject needs).mentions ↔
      AllPieces P needs ∧ P (.imported library "Defaults") := by
  simp [Item.mentions, Item.needs, Item.code, Item.lines, plain]

theorem allPieces_attributes {d : Text} {attrs : List Attribute} :
    AllPieces P (Item.attributes d attrs).mentions ↔ P (.imported library "Attribute") := by
  simp [Item.mentions, Item.needs, Item.code, Item.lines, plain]

theorem allPieces_results {d subject : Text} {types : List SourceType} :
    AllPieces P (Item.results d subject types).mentions ↔ ∀ t ∈ types, P (.type t) := by
  have places : (∀ x ∈ types.zipIdx, P (.type x.1)) ↔ ∀ t ∈ types, P (.type t) := by
    rw [← List.forall_mem_map (f := Prod.fst) (P := fun t => P (.type t)), List.zipIdx_map_fst]
  rw [← places]
  simp [Item.mentions, Item.needs, Item.code, Item.lines, plain]

include own

theorem allPieces_members {d : Text} {kind : MemberKind} {names : List Text} :
    AllPieces P (Item.members d kind names).mentions ↔ P (.imported library kind.info) := by
  have constants : AllPieces P ((Item.indexConstants (kind.countName d) names).flatMap Line.code) := by
    intro piece member
    rw [mem_code_indexConstants member]
    exact plain _
  simp only [Item.mentions, Item.needs, Item.code, Item.lines, List.flatMap_append, flatMap_block,
    allPieces_append, constants]
  simp [Item.arrayEntry, Item.difference, plain, own]

theorem allPieces_method {receiver : Text} {signature : Code} {body : List Code} :
    AllPieces P (Item.method receiver signature body).mentions ↔
      AllPieces P signature ∧ ∀ statement ∈ body, AllPieces P statement := by
  simp [Item.mentions, Item.needs, Item.code, Item.lines, Item.methodHeader, plain, own]

theorem allPieces_init {descriptors : List Text} {enums : List (Text × Text)} :
    AllPieces P (Item.init descriptors enums).mentions ↔
      P (.imported registry "Default") ∧
        ∀ e ∈ enums, P (.imported registry "MustRegisterEnum") ∧ P (.source e.1) := by
  have calls : AllPieces P ((Item.registration descriptors).flatMap Line.code) := by
    unfold Item.registration
    split
    · exact allPieces_nil
    · simp [allPieces_separated, plain, own]
  simp only [Item.mentions, Item.needs, Item.code, Item.lines, List.flatMap_append, List.flatMap_cons,
    flatMap_block, allPieces_append, calls]
  simp [Item.enumRegistration, plain, own]

end

/-! ### Descriptors -/

/-- The type an item declares to describe something, and what it is said to describe. -/
def Item.descriptor? : Item → Option (Text × Text)
  | .descriptor name subject _ => some (name, subject)
  | .results d subject _ => some (resultsName d, subject)
  | _ => none

def descriptors (items : List Item) : List (Text × Text) :=
  items.filterMap Item.descriptor?

@[simp] theorem descriptors_nil : descriptors [] = [] := rfl

@[simp] theorem descriptors_append (xs ys : List Item) :
    descriptors (xs ++ ys) = descriptors xs ++ descriptors ys :=
  List.filterMap_append

@[simp] theorem descriptors_cons_descriptor (name subject : Text) (needs : Code) (rest : List Item) :
    descriptors (.descriptor name subject needs :: rest) = (name, subject) :: descriptors rest := rfl

@[simp] theorem descriptors_cons_method (receiver : Text) (signature : Code) (body : List Code)
    (rest : List Item) :
    descriptors (.method receiver signature body :: rest) = descriptors rest := rfl

@[simp] theorem descriptors_cons_results (d subject : Text) (types : List SourceType)
    (rest : List Item) :
    descriptors (.results d subject types :: rest) = (resultsName d, subject) :: descriptors rest := rfl

@[simp] theorem descriptors_cons_accessor (d : Text) (signature value : Code) (rest : List Item) :
    descriptors (accessor d signature value :: rest) = descriptors rest := rfl

theorem descriptors_flatMap {α : Type} (xs : List α) (f : α → List Item) :
    descriptors (xs.flatMap f) = xs.flatMap fun x => descriptors (f x) :=
  List.filterMap_flatMap

@[simp] theorem descriptors_memberItems (d : Text) (kind : MemberKind) (names : List Text) :
    descriptors (memberItems d kind names) = [] := by
  unfold memberItems
  split <;> rfl

@[simp] theorem descriptors_memberMethods (d : Text) (kind : MemberKind) (names : List Text) :
    descriptors (memberMethods d kind names) = [] := by
  unfold memberMethods
  split <;> rfl

@[simp] theorem descriptors_attributeItems (d : Text) (attrs : List Attribute) :
    descriptors (attributeItems d attrs) = [] := by
  unfold attributeItems
  split <;> rfl

@[simp] theorem descriptors_attributeMethods (d : Text) (attrs : List Attribute) :
    descriptors (attributeMethods d attrs) = [] := by
  unfold attributeMethods
  split <;> rfl

@[simp] theorem descriptors_headMethods (v : Viewpoint) (d kind name : Text) (attrs : List Attribute)
    (type : Code) : descriptors (headMethods v d kind name attrs type) = [] := by
  simp [headMethods]

@[simp] theorem descriptors_variantMethods (d enum name : Text) (attrs : List Attribute) :
    descriptors (variantMethods d enum name attrs) = [] := by
  simp [variantMethods]

/-- What a field is said to be. -/
def fieldSubject (v : Viewpoint) (owner field : Text) : Text :=
  v.display owner ++ "." ++ field

/-- What a parameter is said to be: it has a name or a position. -/
def paramSubject (v : Viewpoint) (f : Function) (p : Parameter) (i : Nat) : Text :=
  "parameter " ++ (if p.name.isEmpty then Text.ofNat i else p.name) ++ " of " ++ v.display f.name

@[simp] theorem descriptors_fieldItems (v : Viewpoint) (ownerName : Text) (owner : Code)
    (f : NamedField) :
    descriptors (fieldItems v ownerName owner f) =
      [(f.descriptor, fieldSubject v ownerName f.field.name)] := by
  simp [fieldItems, fieldSubject]

@[simp] theorem descriptors_constantItems (v : Viewpoint) (e : Enumeration) (c : Constant) :
    descriptors (constantItems v e c) = [(v.variantName e.name c.name, v.display c.name)] := by
  simp [constantItems]

@[simp] theorem descriptors_caseItems (v : Viewpoint) (s : Sum) (c : Case) :
    descriptors (caseItems v s c) =
      (v.variantName s.name c.name, v.display c.name) ::
        (v.namedFields (variantBase s.name c.name) (isExported s.name && isExported c.name) c.fields).map
          fun f => (f.descriptor, fieldSubject v c.name f.field.name) := by
  simp [caseItems, descriptors_flatMap, List.map_eq_flatMap]

@[simp] theorem descriptors_enumItems (v : Viewpoint) (d name : Text) (attrs : List Attribute)
    (integer : List Item) (variants : List Text) (cases : List Code) :
    descriptors (enumItems v d name attrs integer variants cases) =
      (d, v.display name) :: descriptors integer := by
  simp [enumItems]

/-- Several results have a type of their own. -/
def tupleDescriptors (v : Viewpoint) (f : Function) : List (Text × Text) :=
  if 2 ≤ f.results.length then [(resultsName (functionDescriptor v f), v.display f.name)] else []

@[simp] theorem descriptors_resultItems (v : Viewpoint) (f : Function) :
    descriptors (resultItems v f (functionDescriptor v f)).1 = tupleDescriptors v f ∧
      descriptors (resultItems v f (functionDescriptor v f)).2 = [] := by
  unfold resultItems tupleDescriptors
  split
  · rename_i none
    simp [none]
  · rename_i one
    simp [one]
  · rename_i several one
    have two : 2 ≤ f.results.length := by
      match same : f.results with
      | [] => exact absurd same several
      | [t] => exact absurd same (one t)
      | _ :: _ :: rest => simp
    simp [two]

@[simp] theorem descriptors_paramItems (v : Viewpoint) (f : Function) (p : Parameter) (i : Nat) :
    descriptors (paramItems v f p i) = [(v.paramName f p i, paramSubject v f p i)] := by
  simp [paramItems, paramSubject]

/-- The descriptors of a declaration's members, in their order. -/
def memberDescriptors (v : Viewpoint) : Declared → List (Text × Text)
  | .struct s =>
    (v.namedFields s.name (isExported s.name) s.fields).map fun f =>
      (f.descriptor, fieldSubject v s.name f.field.name)
  | .sum s =>
    (v.cases s).flatMap fun c =>
      (v.variantName s.name c.name, v.display c.name) ::
        (v.namedFields (variantBase s.name c.name) (isExported s.name && isExported c.name) c.fields).map
          fun f => (f.descriptor, fieldSubject v c.name f.field.name)
  | .enumeration e => (v.constants e).map fun c => (v.variantName e.name c.name, v.display c.name)
  | .function f =>
    tupleDescriptors v f ++
      f.params.zipIdx.map fun (p, i) => (v.paramName f p i, paramSubject v f p i)

def wholeDescriptor (v : Viewpoint) : Declared → Text
  | .struct s => structDescriptor v s
  | .sum s => sumDescriptor v s
  | .enumeration e => enumerationDescriptor v e
  | .function f => functionDescriptor v f

/-- Only functions are left out, if a type in their signature cannot be named. -/
def canDescribe (v : Viewpoint) : Declared → Bool
  | .function f => v.describes f
  | _ => true

theorem descriptors_items (v : Viewpoint) (d : Declared) :
    descriptors (items v d) =
      if canDescribe v d then (wholeDescriptor v d, v.display d.name) :: memberDescriptors v d else [] := by
  cases d with
  | struct s =>
    simp [items, structItems, descriptors_flatMap, memberDescriptors, wholeDescriptor, canDescribe,
      Declared.name, List.map_eq_flatMap]
  | sum s =>
    simp [items, sumItems, descriptors_flatMap, memberDescriptors, wholeDescriptor, canDescribe,
      Declared.name, List.map_eq_flatMap]
  | enumeration e =>
    simp [items, enumerationItems, descriptors_flatMap, memberDescriptors, wholeDescriptor,
      canDescribe, Declared.name, List.map_eq_flatMap]
  | function f =>
    rw [items, canDescribe]
    split
    · simp [functionItems, descriptors_flatMap, memberDescriptors, wholeDescriptor, Declared.name,
        List.map_eq_flatMap]
    · rfl

end TypeAtlas.Emit
