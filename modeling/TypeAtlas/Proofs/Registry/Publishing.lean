import TypeAtlas.Proofs.Registry.Step

/-!
Whether a registration that reports success is what lookups answer. A second descriptor for the same type
or name counts as the same when a part of it agrees with the registered one. So a registration is
faithful except when the registered descriptor agrees in that part and says something else in another:
then the new descriptor is accepted and forgotten.
-/

namespace TypeAtlas

/-! ### What descriptors say -/

/-- What a field says, apart from whose it is. -/
structure FieldContent where
  index : Int
  name : Text
  offset : UInt64
  type : Option TypeRep
  attrs : List Attribute
  deriving DecidableEq

def FieldInfo.content (f : FieldInfo) : FieldContent :=
  ⟨f.index, f.name, f.offset, f.type, f.attrs⟩

structure StructContent where
  name : Text
  kind : Kind
  attrs : List Attribute
  fields : List FieldContent
  deriving DecidableEq

def ErasedStruct.content (m : ErasedStruct) : StructContent :=
  ⟨m.name, m.kind, m.attrs, m.fields.map FieldInfo.content⟩

structure VariantContent where
  name : Text
  type : Option TypeRep
  raw : Option UInt64
  fields : List FieldContent
  discriminant : Option Discriminant
  deriving DecidableEq

structure EnumContent where
  name : Text
  attrs : List Attribute
  variants : List VariantContent
  deriving DecidableEq

/-- What a variant says. Its discriminant is part of it if `keep` holds. -/
def ErasedVariant.content (keep : Bool) (v : ErasedVariant) : VariantContent :=
  ⟨v.name, v.type, v.raw, v.fields.map FieldInfo.content, if keep then v.discriminant else none⟩

def ErasedEnum.content (keep : Bool) (m : ErasedEnum) : EnumContent :=
  ⟨m.name, m.attrs, m.variants.map (ErasedVariant.content keep)⟩

structure FunctionContent where
  name : Text
  attrs : List Attribute
  parameters : List ParameterInfo
  result : Option TypeRep
  deriving DecidableEq

def ErasedFunction.content (m : ErasedFunction) : FunctionContent :=
  ⟨m.name, m.attrs, m.parameters, m.result⟩

/-! ### What is compared -/

/-- The part of a struct that a second registration is compared by. -/
def ErasedStruct.compared (m : ErasedStruct) : Text × List (Text × UInt64 × Option TypeRep) :=
  (m.name, m.fields.map fun f => (f.name, f.offset, f.type))

/-- The part of an enumeration that a second registration is compared by. -/
def ErasedEnum.compared (m : ErasedEnum) : Text × List (Text × UInt64) :=
  (m.name, m.variants.map fun v => (v.name, v.raw.getD 0))

/-- The part of a function that a second registration is compared by. -/
def ErasedFunction.compared (m : ErasedFunction) : Option TypeRep × Nat :=
  (m.type, m.parameters.length)

namespace Registry

/-- Members are compared one by one, and there are as many on both sides. -/
theorem all_zip_iff {α γ : Type} {same : α → α → Bool} {key : α → γ}
    (same_iff : ∀ x y, same x y = true ↔ key x = key y) (a b : List α) :
    (a.length = b.length ∧ ((a.zip b).all fun (x, y) => same x y) = true) ↔ a.map key = b.map key := by
  induction a generalizing b with
  | nil => cases b <;> simp
  | cons x xs ih =>
    cases b with
    | nil => simp
    | cons y ys =>
      simp only [List.length_cons, Nat.add_right_cancel_iff, List.zip_cons_cons, List.all_cons,
        Bool.and_eq_true, same_iff, List.map_cons, List.cons.injEq, ← ih ys]
      constructor
      · rintro ⟨length, first, rest⟩
        exact ⟨first, length, rest⟩
      · rintro ⟨first, length, rest⟩
        exact ⟨length, first, rest⟩

theorem sameStruct_iff (a b : ErasedStruct) : sameStruct a b = true ↔ a.compared = b.compared := by
  have fields : ∀ f g, sameField f g = true ↔
      (f.name, f.offset, f.type) = (g.name, g.offset, g.type) := by
    intro f g
    simp only [sameField, Bool.and_eq_true, beq_iff_eq, Prod.mk.injEq, and_assoc]
  simp only [sameStruct, Bool.and_eq_true, beq_iff_eq, and_assoc, all_zip_iff fields,
    ErasedStruct.compared, Prod.mk.injEq]

theorem sameEnum_iff (a b : ErasedEnum) : sameEnum a b = true ↔ a.compared = b.compared := by
  have variants : ∀ v w, sameVariant v w = true ↔ (v.name, v.raw.getD 0) = (w.name, w.raw.getD 0) := by
    intro v w
    simp only [sameVariant, Bool.and_eq_true, beq_iff_eq, Prod.mk.injEq]
  simp only [sameEnum, Bool.and_eq_true, beq_iff_eq, and_assoc, all_zip_iff variants,
    ErasedEnum.compared, Prod.mk.injEq]

theorem sameFunction_iff (a b : ErasedFunction) :
    sameFunction a b = true ↔ a.compared = b.compared := by
  simp only [sameFunction, Bool.and_eq_true, beq_iff_eq, ErasedFunction.compared, Prod.mk.injEq]

/-! ### Faithful registrations -/

section Faithful

variable {α β γ : Type}

/-- A registration of `m` is faithful if acceptance means that the next lookup finds what `m` says, and
if an admitted `m` that says something else than the registered descriptor is refused as a duplicate. -/
def Faithful (content : α → β) (m : α) (registered : Option α) (admitted : Prop) (conflict : Failure)
    (find : Registry → Option α) (answer : Answer Unit) : Prop :=
  (answer.2 = .ok () → ∃ found, find answer.1 = some found ∧ content found = content m) ∧
    (admitted → ∀ previous, registered = some previous → content previous ≠ content m →
      answer.2 = .error conflict)

/-- An admitted descriptor is mistaken for the registered one if they agree in what is compared but not
in what they say. -/
def Mistaken (compared : α → γ) (content : α → β) (m : α) (registered : Option α) (admitted : Prop) :
    Prop :=
  admitted ∧ ∃ previous, registered = some previous ∧ compared previous = compared m ∧
    content previous ≠ content m

/-- How publishing decides about `m`: by comparison with the registered descriptor, if there is one. -/
structure Decides (r : Registry) (same : α → α → Bool) (m : α) (registered : Option α) (admitted : Prop)
    (conflict : Failure) (find : Registry → Option α) (answer : Answer Unit) : Prop where
  unfit : ¬ admitted → answer.2 ≠ .ok ()
  compare : admitted → ∀ previous, registered = some previous →
    answer = if same previous m then (r, .ok ()) else (r, .error conflict)
  store : admitted → registered = none → answer.2 = .ok () → find answer.1 = some m
  keep : ∀ previous, registered = some previous → find r = some previous

theorem Decides.faithful_iff {r : Registry} {same : α → α → Bool} {m : α} {registered : Option α}
    {admitted : Prop} {conflict : Failure} {find : Registry → Option α} {answer : Answer Unit}
    (decides : Decides r same m registered admitted conflict find answer) {compared : α → γ}
    (same_iff : ∀ a b, same a b = true ↔ compared a = compared b) (content : α → β) :
    Faithful content m registered admitted conflict find answer ↔
      ¬ Mistaken compared content m registered admitted := by
  constructor
  · rintro ⟨_, refuses⟩ ⟨fit, previous, before, agrees, differs⟩
    have refused := refuses fit previous before differs
    rw [decides.compare fit previous before, if_pos ((same_iff _ _).mpr agrees)] at refused
    cases refused
  · intro distinct
    refine ⟨?_, ?_⟩
    · intro accepted
      -- What is accepted was admitted, and what was admitted is stored or compared.
      have fit : admitted := Classical.byContradiction fun unfit => decides.unfit unfit accepted
      cases before : registered with
      | none => exact ⟨m, decides.store fit before accepted, rfl⟩
      | some previous =>
        have decision := decides.compare fit previous before
        split at decision
        · rename_i agrees
          refine ⟨previous, by rw [decision]; exact decides.keep previous before, ?_⟩
          apply Classical.byContradiction
          intro differs
          exact distinct ⟨fit, previous, before, (same_iff _ _).mp agrees, differs⟩
        · rw [decision] at accepted
          cases accepted
    · intro fit previous before differs
      rw [decides.compare fit previous before, if_neg]
      intro agrees
      exact distinct ⟨fit, previous, before, (same_iff _ _).mp agrees, differs⟩

end Faithful

/-! ### The ways to register -/

/-- What a lookup of a struct finds. -/
def findStruct (t : Option TypeRep) (r : Registry) : Option ErasedStruct :=
  (r.struct t).2.toOption

theorem findStruct_of_get? {r : Registry} {t : TypeRep} {m : ErasedStruct}
    (stored : r.structs.get? (some t) = some m) : findStruct (some t) r = some m := by
  simp only [findStruct, struct, stored]
  rfl

theorem get?_of_registeredStruct? {r : Registry} {t : Option TypeRep} {m : ErasedStruct}
    (registered : r.registeredStruct? t = some m) : r.structs.get? t = some m := by
  unfold registeredStruct? at registered
  split at registered
  · cases registered
  · exact registered

theorem vet_ne_ok {r : Registry} {verdict : Except Failure Unit} (refused : ¬ r.Admits verdict)
    (what : Text) (publish : Registry → Answer Unit) : (r.vet what verdict publish).2 ≠ .ok () := by
  obtain ⟨f, answer⟩ := vet_of_not_admits refused what publish
  rw [answer]
  exact fun accepted => nomatch accepted

theorem decides_registerStruct (r : Registry) {s : StructInfo} {t : TypeRep} (type : s.type = some t) :
    Decides r sameStruct s.erase (r.registeredStruct? s.type) (r.Admits s.validate)
      (duplicate "struct" s.name) (findStruct s.type) (r.registerStruct s) where
  unfit refused := vet_ne_ok refused _ _
  compare fit previous before := by
    rw [registerStruct, vet_of_admits fit]
    exact publishStruct_of_registered before
  store fit vacant accepted := by
    rw [registerStruct, vet_of_admits fit] at accepted ⊢
    rw [publishStruct_of_vacant vacant] at accepted ⊢
    split at accepted
    · rename_i free
      rw [if_pos free, type]
      apply findStruct_of_get?
      rw [storeStruct, Keyed.get?_set]
      exact if_pos type
    · cases accepted
  keep previous before := by
    have stored := get?_of_registeredStruct? before
    rw [type] at stored ⊢
    exact findStruct_of_get? stored

/-- Registers an enumeration, with its discriminants if `keep` holds. -/
def registerEnumKeeping (r : Registry) (keep : Bool) (e : EnumInfo) : Answer Unit :=
  if keep then r.registerEnumOf e else r.registerEnum e

theorem registerEnumKeeping_eq (r : Registry) (keep : Bool) (e : EnumInfo) :
    r.registerEnumKeeping keep e = r.registerEnumAs e (e.eraseKeeping keep) := by
  cases keep <;> rfl

theorem decides_registerEnum (r : Registry) (keep : Bool) (e : EnumInfo) :
    Decides r sameEnum (e.eraseKeeping keep) (r.enum? e.type) (r.Admits e.validate)
      (duplicate "enum" e.name) (·.enum? e.type) (r.registerEnumKeeping keep e) where
  unfit refused := by
    rw [registerEnumKeeping_eq]
    exact vet_ne_ok refused _ _
  compare fit previous before := by
    rw [registerEnumKeeping_eq, registerEnumAs, vet_of_admits fit]
    exact publishEnum_of_registered before
  store fit vacant accepted := by
    rw [registerEnumKeeping_eq, registerEnumAs, vet_of_admits fit] at accepted ⊢
    rw [publishEnum_of_vacant (m := e.eraseKeeping keep) vacant] at accepted ⊢
    split at accepted
    · rename_i free
      rw [if_pos free, enum?, storeEnum, Keyed.get?_set]
      exact if_pos rfl
    · cases accepted
  keep _ before := before

theorem decides_registerFunction (r : Registry) (f : FunctionInfo) :
    Decides r sameFunction f.erase (r.function? f.name) (r.Admits f.validate)
      (duplicate "function" f.name) (·.function? f.name) (r.registerFunction f) where
  unfit refused := vet_ne_ok refused _ _
  compare fit previous before := by
    rw [registerFunction, vet_of_admits fit]
    exact publishFunction_of_registered before
  store fit vacant accepted := by
    rw [registerFunction, vet_of_admits fit] at accepted ⊢
    rw [publishFunction_of_vacant (m := f.erase) vacant] at accepted ⊢
    split at accepted
    · rename_i free
      rw [if_pos free, function?, storeFunction, Keyed.get?_set]
      exact if_pos rfl
    · cases accepted
  keep _ before := before

/-! ### When registrations are faithful -/

def FaithfulStruct (r : Registry) (s : StructInfo) : Prop :=
  Faithful ErasedStruct.content s.erase (r.registeredStruct? s.type) (r.Admits s.validate)
    (duplicate "struct" s.name) (findStruct s.type) (r.registerStruct s)

def MistakenStruct (r : Registry) (s : StructInfo) : Prop :=
  Mistaken ErasedStruct.compared ErasedStruct.content s.erase (r.registeredStruct? s.type)
    (r.Admits s.validate)

def FaithfulEnum (r : Registry) (keep : Bool) (e : EnumInfo) : Prop :=
  Faithful (ErasedEnum.content keep) (e.eraseKeeping keep) (r.enum? e.type) (r.Admits e.validate)
    (duplicate "enum" e.name) (·.enum? e.type) (r.registerEnumKeeping keep e)

def MistakenEnum (r : Registry) (keep : Bool) (e : EnumInfo) : Prop :=
  Mistaken ErasedEnum.compared (ErasedEnum.content keep) (e.eraseKeeping keep) (r.enum? e.type)
    (r.Admits e.validate)

def FaithfulFunction (r : Registry) (f : FunctionInfo) : Prop :=
  Faithful ErasedFunction.content f.erase (r.function? f.name) (r.Admits f.validate)
    (duplicate "function" f.name) (·.function? f.name) (r.registerFunction f)

def MistakenFunction (r : Registry) (f : FunctionInfo) : Prop :=
  Mistaken ErasedFunction.compared ErasedFunction.content f.erase (r.function? f.name)
    (r.Admits f.validate)

/-- In every registry, registering a struct of a known type, an enumeration with or without its
discriminants or a function is faithful exactly when it is not mistaken for the registered one. -/
theorem faithful_iff_not_mistaken (r : Registry) :
    (∀ s t, s.type = some t → (r.FaithfulStruct s ↔ ¬ r.MistakenStruct s)) ∧
      (∀ keep e, r.FaithfulEnum keep e ↔ ¬ r.MistakenEnum keep e) ∧
      ∀ f, r.FaithfulFunction f ↔ ¬ r.MistakenFunction f := by
  refine ⟨?_, ?_, ?_⟩
  · intro s t type
    exact (r.decides_registerStruct type).faithful_iff sameStruct_iff _
  · intro keep e
    exact (r.decides_registerEnum keep e).faithful_iff sameEnum_iff _
  · intro f
    exact (r.decides_registerFunction f).faithful_iff sameFunction_iff _

/-! ### Descriptors that are accepted and forgotten -/

/-- A type without contents. -/
def markType : TypeRep :=
  .named ⟨"atlas", "atlas", "Mark"⟩ (.struct [])

def mark (attrs : List Attribute) : StructInfo where
  kind := .struct
  name := "atlas.Mark"
  attrs := attrs
  type := some markType
  count := 0
  fields := []
  listType := some TypeRep.noType

def signalType : TypeRep :=
  .named ⟨"atlas", "atlas", "Signal"⟩ (.primitive .int64)

/-- An enumeration with one variant, which has a discriminant. -/
def signal (attrs : List Attribute) : EnumInfo where
  kind := .enum
  name := "atlas.Signal"
  attrs := attrs
  type := some signalType
  integer := some (.primitive .int64)
  count := 1
  variants := [{
    index := 0
    name := "On"
    attrs := []
    owner := some signalType
    type := some TypeRep.noType
    count := 0
    fields := []
    listType := some TypeRep.noType
    raw := some 1
    discriminant := some ⟨1⟩ }]
  listType := some (.struct [⟨"F0", .struct [], []⟩])

def ring (attrs : List Attribute) : FunctionInfo where
  kind := .function
  name := "atlas.Ring"
  attrs := attrs
  type := some (.function [] [] false)
  count := 0
  parameters := []
  listType := some TypeRep.noType
  result := some TypeRep.noType

/-- A registry that holds one descriptor of each sort, all without attributes. -/
def unlabelled : Registry :=
  run {} [.registerStruct (mark []), .registerEnum (signal []), .registerFunction (ring [])]

/-- New attributes are lost on every sort of descriptor, and discriminants are lost on an enumeration that
was registered without them. -/
theorem relabelled_not_faithful :
    ¬ unlabelled.FaithfulStruct (mark [.flag "new"]) ∧
      ¬ unlabelled.FaithfulEnum false (signal [.flag "new"]) ∧
      ¬ unlabelled.FaithfulEnum true (signal []) ∧
      ¬ unlabelled.FaithfulFunction (ring [.flag "new"]) := by
  obtain ⟨structs, enums, functions⟩ := faithful_iff_not_mistaken unlabelled
  refine ⟨?_, ?_, ?_, ?_⟩
  · rw [structs _ markType rfl, Classical.not_not]
    exact ⟨fun _ => rfl, _, rfl, rfl, by decide⟩
  · rw [enums, Classical.not_not]
    exact ⟨fun _ => rfl, _, rfl, rfl, by decide⟩
  · rw [enums, Classical.not_not]
    exact ⟨fun _ => rfl, _, rfl, rfl, by decide⟩
  · rw [functions, Classical.not_not]
    exact ⟨fun _ => rfl, _, rfl, rfl, by decide⟩

end Registry

end TypeAtlas
