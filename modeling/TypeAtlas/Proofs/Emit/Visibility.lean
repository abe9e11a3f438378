import TypeAtlas.Proofs.Emit.Plan
import TypeAtlas.Proofs.Model.Reading
import TypeAtlas.Proofs.Source.Visibility

/-!
What descriptors in another package give away. They describe exported declarations and their exported
members only, every identifier of the package that they use is exported, and in the types that they spell
a hidden name can stand in one of two places: among the arguments of an alias, or in the signature of a
method of an interface. Neither is looked at before a type is taken for nameable.
-/

namespace TypeAtlas.Emit

open Source Model

/-! ### Public code -/

/-- A piece of code shows nothing hidden, as far as the walk over types looks. -/
def Piece.IsPublic : Piece → Prop
  | .source name => isExported name = true
  | .type t => t.IsClear
  | .text _ | .generated _ | .imported .. => True

def IsPublic (code : Code) : Prop :=
  ∀ piece ∈ code, piece.IsPublic

def ArePublic (items : List Item) : Prop :=
  ∀ item ∈ items, IsPublic item.mentions

@[simp] theorem isPublic_nil : IsPublic [] := nofun

@[simp] theorem isPublic_cons (piece : Piece) (code : Code) :
    IsPublic (piece :: code) ↔ piece.IsPublic ∧ IsPublic code :=
  List.forall_mem_cons

@[simp] theorem isPublic_append (first second : Code) :
    IsPublic (first ++ second) ↔ IsPublic first ∧ IsPublic second :=
  List.forall_mem_append

@[simp] theorem arePublic_nil : ArePublic [] := nofun

@[simp] theorem arePublic_cons (item : Item) (items : List Item) :
    ArePublic (item :: items) ↔ IsPublic item.mentions ∧ ArePublic items :=
  List.forall_mem_cons

@[simp] theorem arePublic_append (first second : List Item) :
    ArePublic (first ++ second) ↔ ArePublic first ∧ ArePublic second :=
  List.forall_mem_append

@[simp] theorem arePublic_flatMap {α : Type} (xs : List α) (f : α → List Item) :
    ArePublic (xs.flatMap f) ↔ ∀ x ∈ xs, ArePublic (f x) := by
  simp only [ArePublic, List.mem_flatMap]
  constructor
  · exact fun each x member item inside => each item ⟨x, member, inside⟩
  · rintro each item ⟨x, member, inside⟩
    exact each x member item inside

@[simp] theorem isPublic_descriptor (name subject : Text) (needs : Code) :
    IsPublic (Item.descriptor name subject needs).mentions ↔ IsPublic needs :=
  (allPieces_descriptor fun _ => trivial).trans (and_iff_left trivial)

@[simp] theorem isPublic_results (d subject : Text) (types : List SourceType) :
    IsPublic (Item.results d subject types).mentions ↔ ∀ t ∈ types, t.IsClear :=
  allPieces_results fun _ => trivial

@[simp] theorem isPublic_method (receiver : Text) (signature : Code) (body : List Code) :
    IsPublic (Item.method receiver signature body).mentions ↔
      IsPublic signature ∧ ∀ statement ∈ body, IsPublic statement :=
  allPieces_method (fun _ => trivial) fun _ => trivial

@[simp] theorem isPublic_accessor (d : Text) (signature value : Code) :
    IsPublic (accessor d signature value).mentions ↔ IsPublic signature ∧ IsPublic value := by
  simp [accessor, Piece.IsPublic]

@[simp] theorem arePublic_memberItems (d : Text) (kind : MemberKind) (names : List Text) :
    ArePublic (memberItems d kind names) := by
  have members : IsPublic (Item.members d kind names).mentions :=
    (allPieces_members (fun _ => trivial) fun _ => trivial).mpr trivial
  unfold memberItems
  split <;> simp [members]

@[simp] theorem isPublic_described (name : Text) : IsPublic (described name) := by
  simp [described, Piece.IsPublic]

@[simp] theorem isPublic_reflectType : IsPublic reflectType := by
  simp [reflectType, Piece.IsPublic]

@[simp] theorem isPublic_typeFor (spelled : Code) : IsPublic (typeFor spelled) ↔ IsPublic spelled := by
  simp [typeFor, Piece.IsPublic]

@[simp] theorem isPublic_quoted (t : Text) : IsPublic (quoted t) := by
  simp [quoted, Piece.IsPublic]

@[simp] theorem isPublic_qualified (v : Viewpoint) (name : Text) : IsPublic (v.qualified name) := by
  simp [Viewpoint.qualified, Piece.IsPublic]

@[simp] theorem arePublic_memberMethods (d : Text) (kind : MemberKind) (names : List Text) :
    ArePublic (memberMethods d kind names) := by
  unfold memberMethods
  split <;> simp [Piece.IsPublic]

@[simp] theorem arePublic_attributeItems (d : Text) (attrs : List Attribute) :
    ArePublic (attributeItems d attrs) := by
  have table : IsPublic (Item.attributes d attrs).mentions :=
    (allPieces_attributes fun _ => trivial).mpr trivial
  unfold attributeItems
  split <;> simp [table]

@[simp] theorem arePublic_attributeMethods (d : Text) (attrs : List Attribute) :
    ArePublic (attributeMethods d attrs) := by
  unfold attributeMethods
  split <;> simp [Piece.IsPublic]

@[simp] theorem arePublic_headMethods (v : Viewpoint) (d kind name : Text) (attrs : List Attribute)
    (type : Code) : ArePublic (headMethods v d kind name attrs type) ↔ IsPublic type := by
  simp [headMethods, Piece.IsPublic]

/-! ### Structs -/

variable {v : Viewpoint}

theorem clear_of_canName (foreign : v.foreign = true) {t : SourceType} (can : v.canName t = true) :
    t.IsClear := by
  rw [v.canName_of_foreign foreign] at can
  exact SourceType.clear_of_nameableOutside can

theorem mem_namedFields (foreign : v.foreign = true) {base : Text} {exported : Bool}
    {fields : List Field} {f : NamedField} (member : f ∈ v.namedFields base exported fields) :
    f.field ∈ fields ∧ isExported f.field.name = true ∧ f.field.type.IsClear ∧
      f.descriptor =
        v.descriptorName (memberBase base f.field.name) (exported && isExported f.field.name) := by
  obtain ⟨field, kept, rfl⟩ := List.mem_map.mp member
  rw [v.fields_of_foreign foreign] at kept
  obtain ⟨inside, exported, nameable⟩ := mem_shownFields.mp kept
  exact ⟨inside, exported, SourceType.clear_of_nameableOutside nameable, rfl⟩

theorem arePublic_fieldItems {ownerName : Text} {owner : Code} {f : NamedField}
    (shown : IsPublic owner) (clear : f.field.type.IsClear) :
    ArePublic (fieldItems v ownerName owner f) := by
  simp [fieldItems, Piece.IsPublic, shown, clear]

theorem arePublic_structItems (foreign : v.foreign = true) {s : Struct}
    (exported : isExported s.name = true) : ArePublic (structItems v s) := by
  have fields : ∀ f ∈ v.namedFields s.name (isExported s.name) s.fields,
      ArePublic (fieldItems v s.name [.source s.name] f) := by
    intro f member
    apply arePublic_fieldItems
    · simpa [Piece.IsPublic] using exported
    · exact (mem_namedFields foreign member).2.2.1
  simpa [structItems, Piece.IsPublic, exported] using fields

/-! ### Enums -/

@[simp] theorem isPublic_discriminant (enum : Text) :
    IsPublic (discriminant enum) ↔ isExported enum = true := by
  simp [discriminant, Piece.IsPublic]

@[simp] theorem isPublic_newDiscriminant (enum : Text) (key : Code) :
    IsPublic (newDiscriminant enum key) ↔ isExported enum = true ∧ IsPublic key := by
  simp [newDiscriminant, Piece.IsPublic]

@[simp] theorem arePublic_variantMethods (d enum name : Text) (attrs : List Attribute) :
    ArePublic (variantMethods d enum name attrs) ↔ isExported enum = true := by
  simp [variantMethods, Piece.IsPublic]

theorem arePublic_enumItems {d name : Text} {attrs : List Attribute} {integer : List Item}
    {variants : List Text} {cases : List Code} (exported : isExported name = true)
    (first : ArePublic integer) (statements : ∀ c ∈ cases, IsPublic c) :
    ArePublic (enumItems v d name attrs integer variants cases) := by
  simp only [enumItems, arePublic_append, arePublic_cons, isPublic_method, List.forall_mem_append]
  simpa [Piece.IsPublic, exported, first] using statements

theorem mem_constants (foreign : v.foreign = true) {e : Enumeration} {c : Constant}
    (member : c ∈ v.constants e) : c ∈ e.constants ∧ isExported c.name = true := by
  rw [v.constants_of_foreign foreign] at member
  exact mem_of_shownConstants member

theorem clear_of_isInteger {b : Basic} (integer : b.isInteger = true) :
    (SourceType.basic b).IsClear := by
  refine SourceType.isClear_iff.mpr ⟨?_, by simp [SourceType.inspectedParts]⟩
  rw [SourceType.hasOpenNames, bne_iff_ne]
  rintro rfl
  cases integer

theorem arePublic_enumerationItems (foreign : v.foreign = true) {e : Enumeration}
    (exported : isExported e.name = true) (integer : e.integer.isInteger = true) :
    ArePublic (enumerationItems v e) := by
  have clear := clear_of_isInteger integer
  have names : ∀ c ∈ v.constants e, isExported c.name = true :=
    fun c member => (mem_constants foreign member).2
  have chosen : IsPublic (separated ((v.constants e).map fun c => [.source c.name])) :=
    (allPieces_separated trivial).mpr (by simpa [Piece.IsPublic] using names)
  unfold enumerationItems
  simp only [arePublic_append, arePublic_flatMap]
  constructor
  · apply arePublic_enumItems exported
    · simpa [Piece.IsPublic] using clear
    · split
      · nofun
      · simp [Piece.IsPublic, exported, chosen]
  · intro c member
    simp [constantItems, Piece.IsPublic, exported, names c member, clear]

theorem mem_cases (foreign : v.foreign = true) {s : Sum} {c : Case} (member : c ∈ v.cases s) :
    c ∈ s.cases ∧ isExported c.name = true ∧ c.type.IsClear := by
  rw [v.cases_of_foreign foreign] at member
  obtain ⟨inside, exported, nameable⟩ := mem_shownCases.mp member
  exact ⟨inside, exported, SourceType.clear_of_nameableOutside nameable⟩

theorem isPublic_caseTypes {c : Case} (clear : c.type.IsClear) : IsPublic (caseTypes c) := by
  unfold caseTypes
  split <;> simp [Piece.IsPublic, clear]

theorem arePublic_caseItems (foreign : v.foreign = true) {s : Sum} {c : Case}
    (exported : isExported s.name = true) (clear : c.type.IsClear) : ArePublic (caseItems v s c) := by
  have fields : ∀ f ∈ v.namedFields (variantBase s.name c.name)
      (isExported s.name && isExported c.name) c.fields,
      ArePublic (fieldItems v c.name [.type c.type] f) := by
    intro f member
    apply arePublic_fieldItems
    · simpa [Piece.IsPublic] using clear
    · exact (mem_namedFields foreign member).2.2.1
  simpa [caseItems, Piece.IsPublic, exported, clear] using fields

theorem arePublic_sumItems (foreign : v.foreign = true) {s : Sum}
    (exported : isExported s.name = true) : ArePublic (sumItems v s) := by
  have clear : ∀ c ∈ v.cases s, c.type.IsClear := fun c member => (mem_cases foreign member).2.2
  unfold sumItems
  simp only [arePublic_append, arePublic_flatMap]
  constructor
  · apply arePublic_enumItems exported arePublic_nil
    split
    · nofun
    · simp only [List.forall_mem_append, List.forall_mem_singleton, List.mem_flatMap]
      refine ⟨⟨by simp [Piece.IsPublic], ?_⟩, by simp [Piece.IsPublic]⟩
      rintro statement ⟨c, member, inside⟩
      have types := isPublic_caseTypes (clear c member)
      simp only [List.mem_cons, List.not_mem_nil, or_false] at inside
      rcases inside with rfl | rfl
      · simp [Piece.IsPublic, types]
      · simp [Piece.IsPublic, exported]
  · exact fun c member => arePublic_caseItems foreign exported (clear c member)

/-! ### Functions -/

theorem clear_nameless {t : SourceType} (clear : t.IsClear) : (nameless t).IsClear := by
  unfold nameless
  split
  · obtain ⟨_, parts⟩ := SourceType.isClear_iff.mp clear
    refine SourceType.isClear_iff.mpr ⟨rfl, ?_⟩
    simpa [SourceType.inspectedParts, Function.comp_def] using parts
  · exact clear

/-- The types of a function that can be described are clear, and so is the type of the function. -/
theorem clear_of_describes (foreign : v.foreign = true) {f : Function} (read : f.IsRead)
    (can : v.describes f = true) :
    (∀ p ∈ f.params, p.type.IsClear) ∧ (∀ t ∈ f.results, t.IsClear) ∧ f.signature.IsClear := by
  simp only [Viewpoint.describes, Bool.and_eq_true, List.all_eq_true] at can
  have params : ∀ p ∈ f.params, p.type.IsClear :=
    fun p member => clear_of_canName foreign (can.1 p member)
  have results : ∀ t ∈ f.results, t.IsClear :=
    fun t member => clear_of_canName foreign (can.2 t member)
  refine ⟨params, results, ?_⟩
  obtain ⟨inputs, outputs, variadic, signature, inputsRead, outputsRead⟩ := read
  rw [inputsRead, List.forall_mem_map] at params
  rw [outputsRead] at results
  rw [signature]
  refine SourceType.isClear_iff.mpr ⟨rfl, List.forall_mem_append.mpr ⟨?_, results⟩⟩
  exact List.forall_mem_map.mpr params

theorem clear_spelledTypes {f : Function} (clear : f.signature.IsClear) :
    ∀ t ∈ spelledTypes f, t.IsClear := by
  unfold spelledTypes
  split
  · rename_i params results variadic same
    rw [same] at clear
    obtain ⟨inputs, outputs⟩ := List.forall_mem_append.mp (SourceType.isClear_iff.mp clear).2
    refine List.forall_mem_append.mpr ⟨?_, outputs⟩
    split
    · rename_i e last
      split
      · -- Dots stand for the brackets of the last slice, so its element is spelled alone.
        have slice := inputs (.slice e) (List.mem_of_getLast? last)
        have element : e.IsClear := (SourceType.isClear_iff.mp slice).2 e (by simp [SourceType.inspectedParts])
        rintro t member
        rcases List.mem_append.mp member with before | only
        · exact inputs t (List.dropLast_subset _ before)
        · rw [List.mem_singleton.mp only]
          exact element
      · exact inputs
    · exact inputs
  · simp

theorem arePublic_resultItems {f : Function} {d : Text} (clear : ∀ t ∈ f.results, t.IsClear) :
    ArePublic (resultItems v f d).1 ∧ ArePublic (resultItems v f d).2 := by
  unfold resultItems
  split
  · simp
  · rename_i t one
    have only : t.IsClear := clear t (by simp [one])
    simp [Piece.IsPublic, only]
  · simpa [Piece.IsPublic] using clear

theorem arePublic_functionItems (foreign : v.foreign = true) {f : Function}
    (exported : isExported f.name = true) (read : f.IsRead) (can : v.describes f = true) :
    ArePublic (functionItems v f) := by
  obtain ⟨params, results, signature⟩ := clear_of_describes foreign read can
  have needs : IsPublic ((spelledTypes f).map .type) := by
    simpa [IsPublic, Piece.IsPublic] using clear_spelledTypes signature
  obtain ⟨tuple, answer⟩ := arePublic_resultItems (v := v) (d := functionDescriptor v f) results
  have type := clear_nameless signature
  have each : ∀ p i, (p, i) ∈ f.params.zipIdx → ArePublic (paramItems v f p i) := by
    intro p i member
    have clear := params p (List.fst_mem_of_mem_zipIdx member)
    simp [paramItems, Piece.IsPublic, clear]
  simpa [functionItems, Piece.IsPublic, exported, needs, tuple, answer, type] using each

/-! ### Files -/

theorem arePublic_items (foreign : v.foreign = true) {d : Declared}
    (exported : isExported d.name = true) (read : d.IsRead) : ArePublic (items v d) := by
  cases d with
  | struct s => exact arePublic_structItems foreign exported
  | sum s => exact arePublic_sumItems foreign exported
  | enumeration e => exact arePublic_enumerationItems foreign exported read
  | function f =>
    rw [items]
    split
    · rename_i can
      exact arePublic_functionItems foreign exported read can
    · exact arePublic_nil

theorem arePublic_initItems {declarations : List Declared}
    (exported : ∀ d ∈ declarations, isExported d.name = true) : ArePublic (initItems v declarations) := by
  simp only [initItems]
  split
  · exact arePublic_nil
  have enums : ∀ e ∈ declarations.filterMap (registeredEnum v), isExported e.1 = true := by
    intro e member
    obtain ⟨d, inside, found⟩ := List.mem_filterMap.mp member
    have shown := exported d inside
    cases d with
    | sum s =>
      cases found
      exact shown
    | enumeration e =>
      cases found
      exact shown
    | _ => cases found
  refine List.forall_mem_singleton.mpr ((allPieces_init (fun _ => trivial) fun _ => trivial).mpr ?_)
  exact ⟨trivial, fun e member => ⟨trivial, enums e member⟩⟩

/-- What a descriptor in another package may describe: a declaration, or a member of it that is exported.
Parameters and results are members whatever their names are. -/
inductive Shows (v : Viewpoint) : Declared → Text × Text → Prop
  | whole (d : Declared) : Shows v d (wholeDescriptor v d, v.display d.name)
  | field {s : Struct} {f : Field} : f ∈ s.fields → isExported f.name = true →
      Shows v (.struct s)
        (v.descriptorName (memberBase s.name f.name) (isExported s.name && isExported f.name),
          fieldSubject v s.name f.name)
  | constant {e : Enumeration} {c : Constant} : c ∈ e.constants → isExported c.name = true →
      Shows v (.enumeration e) (v.variantName e.name c.name, v.display c.name)
  | case {s : Sum} {c : Case} : c ∈ s.cases → isExported c.name = true →
      Shows v (.sum s) (v.variantName s.name c.name, v.display c.name)
  | caseField {s : Sum} {c : Case} {f : Field} : c ∈ s.cases → isExported c.name = true →
      f ∈ c.fields → isExported f.name = true →
      Shows v (.sum s)
        (v.descriptorName (memberBase (variantBase s.name c.name) f.name)
          ((isExported s.name && isExported c.name) && isExported f.name),
          fieldSubject v c.name f.name)
  | parameter {f : Function} {p : Parameter} {i : Nat} : f.params[i]? = some p →
      Shows v (.function f) (v.paramName f p i, paramSubject v f p i)
  | results {f : Function} :
      Shows v (.function f) (resultsName (functionDescriptor v f), v.display f.name)

theorem shows_of_mem_memberDescriptors (foreign : v.foreign = true) {d : Declared} {x : Text × Text}
    (member : x ∈ memberDescriptors v d) : Shows v d x := by
  cases d with
  | struct s =>
    obtain ⟨f, inside, rfl⟩ := List.mem_map.mp member
    obtain ⟨field, exported, _, name⟩ := mem_namedFields foreign inside
    rw [name]
    exact .field field exported
  | sum s =>
    obtain ⟨c, inside, member⟩ := List.mem_flatMap.mp member
    obtain ⟨case, exported, _⟩ := mem_cases foreign inside
    rcases List.mem_cons.mp member with rfl | member
    · exact .case case exported
    · obtain ⟨f, inside, rfl⟩ := List.mem_map.mp member
      obtain ⟨field, shown, _, name⟩ := mem_namedFields foreign inside
      rw [name]
      exact .caseField case exported field shown
  | enumeration e =>
    obtain ⟨c, inside, rfl⟩ := List.mem_map.mp member
    obtain ⟨constant, exported⟩ := mem_constants foreign inside
    exact .constant constant exported
  | function f =>
    rcases List.mem_append.mp member with tuple | member
    · unfold tupleDescriptors at tuple
      split at tuple
      · rw [List.mem_singleton.mp tuple]
        exact .results
      · cases tuple
    · obtain ⟨⟨p, i⟩, inside, rfl⟩ := List.mem_map.mp member
      exact .parameter (List.mem_zipIdx_iff_getElem?.mp inside)

theorem shows_of_mem_descriptors (foreign : v.foreign = true) {d : Declared} {x : Text × Text}
    (member : x ∈ descriptors (items v d)) : Shows v d x := by
  rw [descriptors_items] at member
  split at member
  · rcases List.mem_cons.mp member with rfl | member
    · exact .whole d
    · exact shows_of_mem_memberDescriptors foreign member
  · cases member

theorem descriptors_plan (v : Viewpoint) (register : Bool) (declarations : List Declared) :
    descriptors (plan v register declarations) =
      declarations.flatMap fun d => descriptors (items v d) := by
  have nothing : descriptors (initItems v declarations) = [] := by
    simp only [initItems]
    split <;> rfl
  cases register <;> simp [plan, descriptors_flatMap, nothing]

/-- What is generated for another package describes exported declarations and exported members of them,
and all identifiers of the package it uses are exported. In the types that it spells, only an argument of
an alias and the signature of a method of an interface can hold a name that is not. -/
theorem generated_shows_exported {others : List Package} {p : Package} {m : Model} {o : Options}
    {out : Output} (read : ofPackage others p = .ok m) (elsewhere : o.into ≠ [])
    (done : generate m o = .ok out) :
    (∀ x ∈ descriptors out.items,
      ∃ d ∈ m.declarations, isExported d.name = true ∧ Shows (viewpoint m o) d x) ∧
    (∀ item ∈ out.items, ∀ name, .source name ∈ item.mentions → isExported name = true) ∧
    ∀ item ∈ out.items, ∀ t ∈ item.types, ∀ u, SourceType.Occurs u t → u.hasOpenNames = false →
      ∃ outer part, SourceType.Inspected outer t ∧ part ∈ outer.skippedParts ∧
        SourceType.Occurs u part := by
  have foreign := viewpoint_foreign m elsewhere
  obtain ⟨declarations, selected, planned, _⟩ := generate_eq_ok done
  have chosen : ∀ d ∈ declarations, d ∈ m.declarations ∧ isExported d.name = true := by
    intro d member
    rw [(select_eq_ok selected).2, List.mem_filter, Bool.and_eq_true,
      Viewpoint.sees_of_foreign foreign] at member
    exact ⟨member.1, member.2.2⟩
  have shown : ArePublic out.items := by
    rw [planned, plan, arePublic_append, arePublic_flatMap]
    constructor
    · intro d member
      obtain ⟨inside, exported⟩ := chosen d member
      exact arePublic_items foreign exported (isRead_of_ofPackage read d inside)
    · split
      · exact arePublic_initItems fun d member => (chosen d member).2
      · exact arePublic_nil
  refine ⟨?_, ?_, ?_⟩
  · intro x member
    rw [planned, descriptors_plan] at member
    obtain ⟨d, inside, member⟩ := List.mem_flatMap.mp member
    obtain ⟨declared, exported⟩ := chosen d inside
    exact ⟨d, declared, exported, shows_of_mem_descriptors foreign member⟩
  · exact fun item member name mentioned => shown item member _ mentioned
  · intro item member t spelled u occurs hidden
    obtain ⟨piece, mentioned, same⟩ := List.mem_filterMap.mp spelled
    have clear : t.IsClear := by
      cases piece with
      | type t' =>
        cases same
        exact shown item member _ mentioned
      | _ => cases same
    rcases occurs.inspected_or_skipped with inspected | skipped
    · rw [clear u inspected] at hidden
      cases hidden
    · exact skipped

/-- The door of a cage is an interface with an exported method, whose parameter is of a hidden type. -/
def cagePackage : Package where
  ref := ⟨"example.com/cats", "cats"⟩
  files := [{
    name := "cats.go"
    header := []
    remarks := []
    imports := []
    declarations := [
      .types [] [⟨"hidden", [], [], false, .struct []⟩],
      .types ["//introspect:reflect"] [⟨"Cage", [], [], false,
        .struct [
          ⟨"Door", false, .interface [⟨"Open", .function [⟨[], .name "hidden"⟩] [] false⟩] [], []⟩,
          ⟨"Size", false, .name "int", []⟩]⟩]] }]

/-- A type passes over a part that holds a hidden name. -/
def passesOver (t : SourceType) : Bool :=
  t.skippedParts.any fun part => part.inspectedParts.any fun u => !u.hasOpenNames

theorem cage_shows_hidden :
    ∃ m out, ofPackage [] cagePackage = .ok m ∧ generate m { into := "catinfo" } = .ok out ∧
      ∃ item ∈ out.items, ∃ t ∈ item.types, ∃ u, SourceType.Occurs u t ∧ u.hasOpenNames = false ∧
        ∃ outer part, SourceType.Inspected outer t ∧ part ∈ outer.skippedParts ∧
          SourceType.Occurs u part := by
  have found : ((ofPackage [] cagePackage).toOption.bind fun m =>
      (generate m { into := "catinfo" }).toOption).any
        (·.items.any fun item => item.types.any passesOver) = true := by decide +kernel
  cases read : ofPackage [] cagePackage with
  | error f => simp [read, Except.toOption] at found
  | ok m =>
    cases done : generate m { into := "catinfo" } with
    | error f => simp [read, done, Except.toOption] at found
    | ok out =>
      simp only [read, done, Except.toOption, Option.bind_some, Option.any_some, passesOver,
        List.any_eq_true] at found
      obtain ⟨item, member, t, spelled, part, skipped, u, inspected, hidden⟩ := found
      have occurs : SourceType.Occurs u t :=
        .part (List.mem_append.mpr (.inr skipped))
          (.part (List.mem_append.mpr (.inl inspected)) .here)
      have closed : u.hasOpenNames = false := by simpa using hidden
      obtain ⟨_, _, places⟩ := generated_shows_exported read (by decide) done
      exact ⟨m, out, rfl, done, item, member, t, spelled, u, occurs, closed,
        places item member t spelled u occurs closed⟩

end TypeAtlas.Emit
