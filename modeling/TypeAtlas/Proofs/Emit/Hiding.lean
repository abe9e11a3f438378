import TypeAtlas.Proofs.Emit.Plan

/-!
What is hidden leaves no trace in another package. The output is a function of the exported part of a
model: hidden members are dropped before anything is named, claimed or imported, so two packages that
differ in them alone are described by the same file, and the indices of the members that are left count
from zero without a gap.
-/

namespace TypeAtlas

/-! ### The exported part of a model -/

namespace Model

def Struct.exportedPart (s : Struct) : Struct :=
  { s with fields := s.fields.filter (isExported ·.name) }

def Case.exportedPart (c : Case) : Case :=
  { c with fields := c.fields.filter (isExported ·.name) }

def Sum.exportedPart (s : Sum) : Sum :=
  { s with cases := (s.cases.filter (isExported ·.name)).map Case.exportedPart }

def Enumeration.exportedPart (e : Enumeration) : Enumeration :=
  { e with constants := e.constants.filter (isExported ·.name) }

def Declared.exportedPart : Declared → Declared
  | .struct s => .struct s.exportedPart
  | .sum s => .sum s.exportedPart
  | .enumeration e => .enumeration e.exportedPart
  | .function f => .function f

/-- A model without unexported declarations and members, and without the names that are taken at home. -/
def exportedPart (m : Model) : Model where
  package := m.package
  taken := []
  declarations := (m.declarations.filter (isExported ·.name)).map Declared.exportedPart

@[simp] theorem Declared.name_exportedPart (d : Declared) : d.exportedPart.name = d.name := by
  cases d <;> rfl

end Model

namespace Emit

open Source Model

variable {v : Viewpoint}

/-! ### Hidden members are not planned for -/

theorem fields_exported (foreign : v.foreign = true) (fields : List Field) :
    v.fields (fields.filter (isExported ·.name)) = v.fields fields := by
  rw [v.fields_of_foreign foreign, v.fields_of_foreign foreign, shownFields, List.filter_filter]
  apply List.filter_congr
  intro f _
  cases isExported f.name <;> simp

theorem namedFields_exported (foreign : v.foreign = true) (base : Text) (exported : Bool)
    (fields : List Field) :
    v.namedFields base exported (fields.filter (isExported ·.name)) =
      v.namedFields base exported fields := by
  rw [Viewpoint.namedFields, Viewpoint.namedFields, fields_exported foreign]

theorem structItems_exportedPart (foreign : v.foreign = true) (s : Struct) :
    structItems v s.exportedPart = structItems v s := by
  simp only [structItems, Struct.exportedPart, structDescriptor, namedFields_exported foreign]

theorem constants_exportedPart (foreign : v.foreign = true) (e : Enumeration) :
    v.constants e.exportedPart = v.constants e := by
  rw [v.constants_of_foreign foreign, v.constants_of_foreign foreign, shownConstants,
    Enumeration.exportedPart, List.filter_filter]
  simp only [Bool.and_self, shownConstants]

theorem enumerationItems_exportedPart (foreign : v.foreign = true) (e : Enumeration) :
    enumerationItems v e.exportedPart = enumerationItems v e := by
  have constants := constants_exportedPart foreign e
  have each : constantItems v e.exportedPart = constantItems v e := rfl
  simp only [enumerationItems, constants, each]
  rfl

theorem cases_exportedPart (foreign : v.foreign = true) (s : Sum) :
    v.cases s.exportedPart = (v.cases s).map Case.exportedPart := by
  rw [v.cases_of_foreign foreign, v.cases_of_foreign foreign, shownCases, Sum.exportedPart,
    List.filter_map, List.filter_filter]
  apply congrArg (List.map Case.exportedPart)
  apply List.filter_congr
  intro c _
  simp only [Function.comp_apply, Case.exportedPart]
  cases isExported c.name <;> simp

theorem caseItems_exportedPart (foreign : v.foreign = true) (s : Sum) (c : Case) :
    caseItems v s.exportedPart c.exportedPart = caseItems v s c := by
  simp only [caseItems, Sum.exportedPart, Case.exportedPart, namedFields_exported foreign]

theorem sumItems_exportedPart (foreign : v.foreign = true) (s : Sum) :
    sumItems v s.exportedPart = sumItems v s := by
  have each : (fun c => caseItems v s.exportedPart (Case.exportedPart c)) = caseItems v s :=
    funext (caseItems_exportedPart foreign s)
  simp only [sumItems, cases_exportedPart foreign, List.isEmpty_map, List.map_map, List.flatMap_map, each]
  rfl

theorem items_exportedPart (foreign : v.foreign = true) (d : Declared) :
    items v d.exportedPart = items v d := by
  cases d with
  | struct s => exact structItems_exportedPart foreign s
  | sum s => exact sumItems_exportedPart foreign s
  | enumeration e => exact enumerationItems_exportedPart foreign e
  | function f => rfl

theorem plan_exportedPart (foreign : v.foreign = true) (register : Bool) (declarations : List Declared) :
    plan v register (declarations.map Declared.exportedPart) = plan v register declarations := by
  have descriptors : registered v ∘ Declared.exportedPart = registered v := by
    funext d
    cases d <;> rfl
  have enums : registeredEnum v ∘ Declared.exportedPart = registeredEnum v := by
    funext d
    cases d <;> rfl
  have each : (fun d => items v (Declared.exportedPart d)) = items v :=
    funext (items_exportedPart foreign)
  simp only [plan, initItems, List.flatMap_map, List.filterMap_map, descriptors, enums, each]

/-! ### Models with the same exported part -/

theorem filter_exportedPart (foreign : v.foreign = true) (m : Model) (only : List Text) :
    (m.declarations.filter fun d => (only.isEmpty || only.contains d.name) && v.sees d.name).map
        Declared.exportedPart =
      m.exportedPart.declarations.filter fun d => only.isEmpty || only.contains d.name := by
  rw [exportedPart, List.filter_map, List.filter_filter]
  apply congrArg (List.map Declared.exportedPart)
  apply List.filter_congr
  intro d _
  rw [v.sees_of_foreign foreign, Function.comp_apply, Declared.name_exportedPart]

theorem select_alike (foreign : v.foreign = true) {m m' : Model} {only : List Text}
    (same : m.exportedPart = m'.exportedPart)
    (known : ∀ name ∈ only, (m.lookup? name).isSome = (m'.lookup? name).isSome) :
    (∃ f, select m v only = .error f ∧ select m' v only = .error f) ∨
      ∃ declarations declarations', select m v only = .ok declarations ∧
        select m' v only = .ok declarations' ∧
        declarations.map Declared.exportedPart = declarations'.map Declared.exportedPart := by
  have missing : (only.find? fun name => (m.lookup? name).isNone) =
      only.find? fun name => (m'.lookup? name).isNone := by
    rw [← List.head?_filter, ← List.head?_filter]
    apply congrArg List.head?
    apply List.filter_congr
    intro name member
    rw [← Option.not_isSome, ← Option.not_isSome, known name member]
  unfold select
  rw [missing]
  split
  · exact .inl ⟨_, rfl, rfl⟩
  · refine .inr ⟨_, _, rfl, rfl, ?_⟩
    rw [filter_exportedPart foreign, filter_exportedPart foreign, same]

/-- Generating for another package is a matter of the exported part of a model. -/
theorem generate_alike {m m' : Model} {o : Options} (elsewhere : o.into ≠ [])
    (same : m.exportedPart = m'.exportedPart)
    (known : ∀ name ∈ o.only, (m.lookup? name).isSome = (m'.lookup? name).isSome) :
    generate m o = generate m' o := by
  have package : m.exportedPart.package = m'.exportedPart.package := congrArg Model.package same
  simp only [exportedPart] at package
  have view : viewpoint m' o = viewpoint m o := by rw [viewpoint, viewpoint, package]
  have foreign := viewpoint_foreign m elsewhere
  have names : Names.start (viewpoint m o).foreign m'.taken =
      Names.start (viewpoint m o).foreign m.taken := by
    simp only [Names.start, foreign, if_true]
  -- From here on the two runs differ in the chosen declarations alone, and the plan does not see that.
  simp only [generate, view, names, package]
  rcases select_alike foreign same known with ⟨f, first, second⟩ | ⟨ds, ds', first, second, alike⟩
  · rw [first, second]
  · have planned : plan (viewpoint m o) o.register ds = plan (viewpoint m o) o.register ds' := by
      rw [← plan_exportedPart foreign, alike, plan_exportedPart foreign]
    simp only [first, second, planned]

/-! ### Index constants -/

/-- A line of a group of constants. -/
def specLine (s : ValueSpec) : Text :=
  Text.join ", " s.names ++ Text.when (!s.values.isEmpty) (" = " ++ Text.join ", " s.values)

/-- The group in which the first constant is its place and the others repeat it. -/
def countedGroup : List Text → List ValueSpec
  | [] => []
  | first :: rest => ⟨[first], [], none, [placeName]⟩ :: rest.map fun name => ⟨[name], [], none, []⟩

/-- However names are spelled, the index constants are such a group. -/
theorem indexConstants_eq {count : Text} {names : List Text} (nonempty : names ≠ []) (s : Spelling) :
    (Item.indexConstants count names).map s.line =
      (countedGroup (names.map indexName ++ [count])).map specLine := by
  cases names with
  | nil => exact absurd rfl nonempty
  | cons first rest =>
    have word : (" = iota" : Text) = " = " ++ placeName := by decide
    simp [Item.indexConstants, Spelling.line, Spelling.formatted, Spelling.code, Spelling.piece, countedGroup,
      specLine, Text.when, Text.join, word]

theorem repeated_bare (last : ValueSpec) (names : List Text) :
    repeated last (names.map fun name => ⟨[name], [], none, []⟩) =
      names.map fun name => ⟨[name], [], last.type, last.values⟩ := by
  induction names with
  | nil => rfl
  | cons name rest ih =>
    rw [List.map_cons, List.map_cons, repeated, ih]
    rfl

theorem entries_countedGroup (f : File) (names : List Text) :
    (Declaration.values true [] (countedGroup names)).entries f =
      names.zipIdx.map fun (name, k) => ⟨f, name, [], [], .constant ⟨none, placeName, k⟩⟩ := by
  have filled : completed true (countedGroup names) =
      names.map fun name => ⟨[name], [], none, [placeName]⟩ := by
    cases names with
    | nil => rfl
    | cons first rest =>
      simp [completed, countedGroup, repeated, repeated_bare]
  rw [Declaration.entries, filled, List.zipIdx_map, List.flatMap_map, List.map_eq_flatMap]
  simp [sharedDoc]

/-- A constant that is given as its place has it as its value, unless the word means something else. -/
theorem value_place (s : Scope) (k : Nat) (free : s.entry? placeName = none) :
    (s.value ⟨none, placeName, k⟩).2 = some (k : Int) := by
  have operand : signs placeName = (false, placeName) := by decide
  have noNumber : integer? placeName = none := by decide
  simp [Scope.value, Scope.valueFrom, operand, noNumber, free]

/-! ### Members and their indices -/

/-- A list of members: whose they are, of what sort, by which method each answers for its index, and their
descriptors in order. -/
structure MemberList where
  owner : Text
  kind : MemberKind
  answers : Text
  names : List Text

def fieldList (owner : Text) (fields : List Field) : MemberList :=
  ⟨owner, .fields, "DeclarationIndex() int", (shownFields fields).map fun f => memberBase owner f.name⟩

@[simp] theorem fieldList_owner (owner : Text) (fields : List Field) :
    (fieldList owner fields).owner = owner := rfl

@[simp] theorem fieldList_kind (owner : Text) (fields : List Field) :
    (fieldList owner fields).kind = .fields := rfl

@[simp] theorem fieldList_answers (owner : Text) (fields : List Field) :
    (fieldList owner fields).answers = "DeclarationIndex() int" := rfl

/-- The lists of members that another package gets for an exported declaration. -/
def memberLists : Declared → List MemberList
  | .struct s => [fieldList s.name s.fields]
  | .sum s =>
    ⟨s.name, .variants, "DeclarationIndex() int",
      (shownCases s).map fun c => variantBase s.name c.name⟩ ::
        (shownCases s).map fun c => fieldList (variantBase s.name c.name) c.fields
  | .enumeration e =>
    [⟨e.name, .variants, "DeclarationIndex() int",
      (shownConstants e).map fun c => variantBase e.name c.name⟩]
  | .function f =>
    if f.params.all (·.type.nameableOutside) && f.results.all (·.nameableOutside) then
      [⟨f.name, .parameters, "ParameterIndex() int",
        f.params.zipIdx.map fun (p, i) => paramBase f.name p.name i⟩]
    else []

/-- A member has an index: it answers with a constant, which has that value in the group of constants that
is written for the list. -/
structure HasIndex (items : List Item) (list : MemberList) (name : Text) (k : Nat) : Prop where
  listed : .members list.owner list.kind list.names ∈ items
  answered : accessor name [.text list.answers] [.generated (indexName name)] ∈ items
  counted : ∃ group : List ValueSpec,
    (∀ s : Spelling, (Item.indexConstants (list.kind.countName list.owner) list.names).map s.line =
      group.map specLine) ∧
      ∀ f : File, ∃ e c, ((Declaration.values true [] group).entries f)[k]? = some e ∧
        e.name = indexName name ∧ e.object = .constant c ∧
        ∀ s : Scope, s.entry? placeName = none → (s.value c).2 = some (k : Int)

theorem counted_of_getElem? {count : Text} {names : List Text} {k : Nat} {name : Text}
    (found : names[k]? = some name) :
    ∃ group : List ValueSpec,
      (∀ s : Spelling, (Item.indexConstants count names).map s.line = group.map specLine) ∧
      ∀ f : File, ∃ e c, ((Declaration.values true [] group).entries f)[k]? = some e ∧
        e.name = indexName name ∧ e.object = .constant c ∧
        ∀ s : Scope, s.entry? placeName = none → (s.value c).2 = some (k : Int) := by
  have nonempty : names ≠ [] := by
    rintro rfl
    simp at found
  have place : (names.map indexName ++ [count])[k]? = some (indexName name) := by
    rw [List.getElem?_append_left (by simpa using (List.getElem?_eq_some_iff.mp found).1),
      List.getElem?_map, found]
    rfl
  refine ⟨_, indexConstants_eq nonempty, fun f =>
    ⟨⟨f, indexName name, [], [], .constant ⟨none, placeName, k⟩⟩, _, ?_, rfl, rfl, ?_⟩⟩
  · rw [entries_countedGroup, List.getElem?_map, List.getElem?_zipIdx, place]
    simp
  · exact fun s free => value_place s k free

theorem descriptorName_of_foreign (foreign : v.foreign = true) (base : Text) :
    v.descriptorName base true = base := by
  simp [Viewpoint.descriptorName, descriptorName, foreign]

theorem namedFields_of_foreign (foreign : v.foreign = true) (base : Text) (fields : List Field) :
    v.namedFields base true fields = (shownFields fields).map fun f => ⟨f, memberBase base f.name⟩ := by
  rw [Viewpoint.namedFields, v.fields_of_foreign foreign]
  apply List.map_congr_left
  intro f member
  obtain ⟨_, exported, _⟩ := mem_shownFields.mp member
  rw [exported, Bool.and_self, descriptorName_of_foreign foreign]

theorem members_mem_memberItems {d : Text} (kind : MemberKind) {names : List Text} {k : Nat}
    {name : Text} (found : names[k]? = some name) :
    .members d kind names ∈ memberItems d kind names := by
  have nonempty : names.isEmpty = false := by
    cases names with
    | nil => simp at found
    | cons first rest => rfl
  simp [memberItems, nonempty]

theorem field_answers (foreign : v.foreign = true) (ownerName : Text) (code : Code) {owner : Text}
    {fields : List Field} {k : Nat} {name : Text}
    (found : (fieldList owner fields).names[k]? = some name) :
    accessor name [.text "DeclarationIndex() int"] [.generated (indexName name)] ∈
      (v.namedFields owner true fields).flatMap (fieldItems v ownerName code) := by
  obtain ⟨f, member, rfl⟩ := List.mem_map.mp (List.mem_of_getElem? found)
  rw [namedFields_of_foreign foreign]
  refine List.mem_flatMap.mpr ⟨_, List.mem_map.mpr ⟨f, member, rfl⟩, ?_⟩
  simp [fieldItems]

theorem names_namedFields (foreign : v.foreign = true) (base : Text) (fields : List Field) :
    (v.namedFields base true fields).map (·.descriptor) = (fieldList base fields).names := by
  rw [namedFields_of_foreign foreign, List.map_map]
  rfl

theorem variantName_of_foreign (foreign : v.foreign = true) {enum variant : Text}
    (exported : isExported enum = true) (shown : isExported variant = true) :
    v.variantName enum variant = variantBase enum variant := by
  rw [Viewpoint.variantName, exported, shown, Bool.and_self, descriptorName_of_foreign foreign]

/-- A list of members is among the items for its declaration, and so are the answers of the members. -/
def IsPlanned (items : List Item) (list : MemberList) : Prop :=
  ∀ (k : Nat) name, list.names[k]? = some name →
    .members list.owner list.kind list.names ∈ items ∧
      accessor name [.text list.answers] [.generated (indexName name)] ∈ items

theorem isPlanned_struct (foreign : v.foreign = true) {s : Struct} (exported : isExported s.name = true) :
    IsPlanned (structItems v s) (fieldList s.name s.fields) := by
  intro k name found
  have listed := members_mem_memberItems (d := s.name) .fields found
  have answer := field_answers foreign s.name [.source s.name] found
  simp only [structItems, structDescriptor, exported, descriptorName_of_foreign foreign,
    names_namedFields foreign, fieldList_owner, fieldList_kind, fieldList_answers]
  constructor
  · simp [listed]
  · exact List.mem_append_right _ answer

/-- The variants of an enum of either sort. -/
theorem members_mem_enumItems {d name : Text} {attrs : List Attribute} {integer : List Item}
    {variants : List Text} {cases : List Code} {k : Nat} {variant : Text}
    (found : variants[k]? = some variant) :
    .members d .variants variants ∈ enumItems v d name attrs integer variants cases := by
  simp [enumItems, members_mem_memberItems .variants found]

theorem answer_mem_variantMethods (d enum name : Text) (attrs : List Attribute) :
    accessor d [.text "DeclarationIndex() int"] [.generated (indexName d)] ∈
      variantMethods d enum name attrs := by
  simp [variantMethods]

theorem isPlanned_enumeration (foreign : v.foreign = true) {e : Enumeration}
    (exported : isExported e.name = true) :
    ∀ list ∈ memberLists (.enumeration e), IsPlanned (enumerationItems v e) list := by
  rintro list member k name found
  cases List.mem_singleton.mp member
  have names : (shownConstants e).map (fun c => v.variantName e.name c.name) =
      (shownConstants e).map fun c => variantBase e.name c.name := by
    apply List.map_congr_left
    intro c inside
    exact variantName_of_foreign foreign exported (mem_of_shownConstants inside).2
  simp only [enumerationItems, v.constants_of_foreign foreign, names, List.mem_append]
  constructor
  · left
    simp only [enumerationDescriptor, exported, descriptorName_of_foreign foreign]
    exact members_mem_enumItems found
  · right
    obtain ⟨c, inside, rfl⟩ := List.mem_map.mp (List.mem_of_getElem? found)
    refine List.mem_flatMap.mpr ⟨c, inside, ?_⟩
    have name := variantName_of_foreign foreign exported (mem_of_shownConstants inside).2
    have answer := answer_mem_variantMethods (variantBase e.name c.name) e.name c.name c.attrs
    simp only [constantItems, name]
    simp [answer]

theorem isPlanned_sum (foreign : v.foreign = true) {s : Sum} (exported : isExported s.name = true) :
    ∀ list ∈ memberLists (.sum s), IsPlanned (sumItems v s) list := by
  have named : ∀ c ∈ shownCases s, v.variantName s.name c.name = variantBase s.name c.name :=
    fun c inside => variantName_of_foreign foreign exported (mem_shownCases.mp inside).2.1
  rintro list member k name found
  simp only [sumItems, v.cases_of_foreign foreign, List.map_congr_left named, List.mem_append]
  rcases List.mem_cons.mp member with rfl | member
  · constructor
    · left
      simp only [sumDescriptor, exported, descriptorName_of_foreign foreign]
      exact members_mem_enumItems found
    · right
      obtain ⟨c, inside, rfl⟩ := List.mem_map.mp (List.mem_of_getElem? found)
      refine List.mem_flatMap.mpr ⟨c, inside, ?_⟩
      have answer := answer_mem_variantMethods (variantBase s.name c.name) s.name c.name c.attrs
      simp only [caseItems, named c inside, List.mem_append]
      simp [answer]
  · obtain ⟨c, inside, rfl⟩ := List.mem_map.mp member
    have listed := members_mem_memberItems (d := variantBase s.name c.name) .fields found
    have answer := field_answers foreign c.name [.type c.type] found
    have planned : ∀ item ∈ caseItems v s c, item ∈ (shownCases s).flatMap (caseItems v s) :=
      fun item member => List.mem_flatMap.mpr ⟨c, inside, member⟩
    refine ⟨.inr (planned _ ?_), .inr (planned _ ?_)⟩
    all_goals
      simp only [caseItems, named c inside, exported, (mem_shownCases.mp inside).2.1, Bool.and_self,
        names_namedFields foreign, fieldList_owner, fieldList_kind, fieldList_answers]
    · simp [listed]
    · exact List.mem_append_right _ answer

theorem isPlanned_function (foreign : v.foreign = true) {f : Function}
    (exported : isExported f.name = true) :
    ∀ list ∈ memberLists (.function f), IsPlanned (items v (.function f)) list := by
  have describes : v.describes f =
      (f.params.all (·.type.nameableOutside) && f.results.all (·.nameableOutside)) := by
    have can : v.canName = SourceType.nameableOutside := funext (v.canName_of_foreign foreign)
    simp only [Viewpoint.describes, can]
  have named : ∀ p i, v.paramName f p i = paramBase f.name p.name i := by
    intro p i
    rw [Viewpoint.paramName, exported, descriptorName_of_foreign foreign]
  intro list member k name found
  rw [memberLists, ← describes] at member
  split at member
  · rename_i can
    cases List.mem_singleton.mp member
    have listed := members_mem_memberItems (d := f.name) .parameters found
    simp only [items, can, if_true, functionItems, functionDescriptor, exported,
      descriptorName_of_foreign foreign, named, List.mem_append]
    constructor
    · simp [listed]
    · right
      obtain ⟨⟨p, i⟩, inside, rfl⟩ := List.mem_map.mp (List.mem_of_getElem? found)
      refine List.mem_flatMap.mpr ⟨_, inside, ?_⟩
      simp [paramItems, named]
  · cases member

theorem isPlanned_items (foreign : v.foreign = true) {d : Declared} (exported : isExported d.name = true) :
    ∀ list ∈ memberLists d, IsPlanned (items v d) list := by
  cases d with
  | struct s =>
    intro list member
    cases List.mem_singleton.mp member
    exact isPlanned_struct foreign exported
  | sum s => exact isPlanned_sum foreign exported
  | enumeration e => exact isPlanned_enumeration foreign exported
  | function f => exact isPlanned_function foreign exported

/-- Two models that differ in what is hidden alone give another package the same file or the same refusal,
and in a file every shown member has its place among the shown ones as its index. -/
theorem hidden_leaves_no_trace {m m' : Model} {o : Options} (elsewhere : o.into ≠ [])
    (same : m.exportedPart = m'.exportedPart)
    (known : ∀ name ∈ o.only, (m.lookup? name).isSome = (m'.lookup? name).isSome) :
    generate m o = generate m' o ∧
      ∀ out, generate m o = .ok out → ∀ d ∈ m.declarations, isExported d.name = true →
        (o.only = [] ∨ d.name ∈ o.only) → ∀ list ∈ memberLists d, ∀ (k : Nat) name,
          list.names[k]? = some name → HasIndex out.items list name k := by
  refine ⟨generate_alike elsewhere same known, ?_⟩
  intro out done d member exported chosen list shown k name found
  have foreign := viewpoint_foreign m elsewhere
  obtain ⟨declarations, selected, planned, _⟩ := generate_eq_ok done
  have picked : d ∈ declarations := by
    rw [(select_eq_ok selected).2, List.mem_filter, Viewpoint.sees_of_foreign foreign, exported]
    refine ⟨member, ?_⟩
    simpa using chosen
  have inside : ∀ item ∈ items (viewpoint m o) d, item ∈ out.items := by
    intro item member
    rw [planned, plan]
    exact List.mem_append_left _ (List.mem_flatMap.mpr ⟨d, picked, member⟩)
  obtain ⟨listed, answer⟩ := isPlanned_items foreign exported list shown k name found
  exact ⟨inside _ listed, inside _ answer, counted_of_getElem? found⟩

def yard : PackageRef := ⟨"example.com/yard", "yard"⟩

def dogFields : List Field :=
  [⟨"Name", .basic (.plain .string), []⟩, ⟨"Age", .basic (.plain .int), []⟩]

def plainYard : Model where
  package := yard
  taken := []
  declarations := [
    .struct ⟨"Dog", [], .defined (some yard) "Dog" [], dogFields⟩,
    .enumeration ⟨"Size", [], .defined (some yard) "Size" [], .plain .uint8, [⟨"Small", [], 1⟩]⟩]

/-- Hidden things stand before and between the others, one of them with the value of an exported
constant. -/
def crowdedYard : Model where
  package := yard
  taken := ["Dog", "DogAge", "secret"]
  declarations := [
    .struct ⟨"secret", [], .defined (some yard) "secret" [], []⟩,
    .struct ⟨"Dog", [], .defined (some yard) "Dog" [],
      [⟨"id", .basic (.plain .int64), []⟩, ⟨"Name", .basic (.plain .string), []⟩,
        ⟨"mood", .basic (.plain .bool), []⟩, ⟨"Age", .basic (.plain .int), []⟩]⟩,
    .enumeration ⟨"Size", [], .defined (some yard) "Size" [], .plain .uint8,
      [⟨"tiny", [], 1⟩, ⟨"Small", [], 1⟩]⟩]

def yardOptions : Options where
  into := "yardinfo"
  only := ["Dog", "Size"]

theorem crowdedYard_hidden :
    generate crowdedYard yardOptions = generate plainYard yardOptions ∧
    ∃ out, generate crowdedYard yardOptions = .ok out ∧
      HasIndex out.items (fieldList "Dog" dogFields) "DogAge" 1 := by
  obtain ⟨alike, indices⟩ :=
    @hidden_leaves_no_trace crowdedYard plainYard yardOptions (by decide) rfl (by decide)
  refine ⟨alike, ?_⟩
  have found : (generate crowdedYard yardOptions).toOption.isSome = true := by decide +kernel
  cases done : generate crowdedYard yardOptions with
  | error f => simp [done, Except.toOption] at found
  | ok out =>
    refine ⟨out, rfl, ?_⟩
    exact indices out done _ (List.mem_cons_of_mem _ (List.mem_cons_self ..)) (by decide) (by decide) _
      (List.mem_singleton.mpr rfl) 1 "DogAge" (by decide)

end Emit

end TypeAtlas
