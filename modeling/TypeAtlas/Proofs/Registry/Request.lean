import TypeAtlas.Proofs.Registry.Names

/-!
Registrations of all sorts as one. What is registered goes to a place, a type for structs and for
enumerations and a name for functions, and one rule decides about every place. An operation puts its
requests one after another, up to the first that is refused; the history of a run is the list of the
requests that were put, each with the registry that it was put to.
-/

namespace TypeAtlas

/-- What a registry holds. -/
inductive Erased where
  | struct (m : ErasedStruct)
  | enum (m : ErasedEnum)
  | function (m : ErasedFunction)
  deriving DecidableEq

/-- Where a registry holds it. -/
inductive Place where
  | struct (t : Option TypeRep)
  | enum (t : Option TypeRep)
  | function (name : Text)
  deriving DecidableEq

namespace Erased

def descriptor : Erased → Descriptor
  | .struct m => .erasedStruct m
  | .enum m => .erasedEnum m
  | .function m => .erasedFunction m

def name (m : Erased) : Text :=
  m.descriptor.name

def type (m : Erased) : Option TypeRep :=
  m.descriptor.type

def place : Erased → Place
  | .struct m => .struct m.type
  | .enum m => .enum m.type
  | .function m => .function m.name

def noun : Erased → Text
  | .struct _ => "struct"
  | .enum _ => "enum"
  | .function _ => "function"

def isFunction : Erased → Bool
  | .function _ => true
  | _ => false

/-- Whether a second registration in the same place counts as the first one again. -/
def same : Erased → Erased → Bool
  | .struct a, .struct b => Registry.sameStruct a b
  | .enum a, .enum b => Registry.sameEnum a b
  | .function a, .function b => Registry.sameFunction a b
  | _, _ => false

theorem descriptor_injective {a b : Erased} (same : a.descriptor = b.descriptor) : a = b := by
  cases a <;> cases b <;> cases same <;> rfl

end Erased

namespace Registry

/-! ### Places -/

/-- What is registered in a place. -/
def registeredAt? (r : Registry) : Place → Option Erased
  | .struct t => (r.registeredStruct? t).map .struct
  | .enum t => (r.enums.get? t).map .enum
  | .function n => (r.functions.get? n).map .function

theorem registeredAt?_struct_iff {r : Registry} {t : Option TypeRep} {m : ErasedStruct} :
    r.registeredAt? (.struct t) = some (.struct m) ↔
      r.isReflected t = false ∧ r.structs.get? t = some m := by
  simp only [registeredAt?, registeredStruct?]
  cases r.isReflected t <;> simp

theorem registeredAt?_enum_iff {r : Registry} {t : Option TypeRep} {m : ErasedEnum} :
    r.registeredAt? (.enum t) = some (.enum m) ↔ r.enums.get? t = some m := by
  simp [registeredAt?]

theorem registeredAt?_function_iff {r : Registry} {n : Text} {m : ErasedFunction} :
    r.registeredAt? (.function n) = some (.function m) ↔ r.functions.get? n = some m := by
  simp [registeredAt?]

def store (r : Registry) : Erased → Registry
  | .struct m => r.storeStruct m
  | .enum m => r.storeEnum m
  | .function m => r.storeFunction m

/-- Whether the name is free: for a function if nobody has it, else if no other type has it. -/
def hasRoom (r : Registry) : Erased → Bool
  | .struct m => r.nameIsFree m.name m.type
  | .enum m => r.nameIsFree m.name m.type
  | .function m => (r.byName.get? m.name).isNone

def publish (r : Registry) (m : Erased) : Answer Unit :=
  match r.registeredAt? m.place with
  | some previous =>
    if previous.same m then (r, .ok ()) else (r, .error (duplicate m.noun m.name))
  | none =>
    if r.hasRoom m then (r.store m, .ok ()) else (r, .error (duplicate "name" m.name))

theorem publish_struct (r : Registry) (m : ErasedStruct) :
    r.publish (.struct m) = r.publishStruct m := by
  cases registered : r.registeredStruct? m.type with
  | some previous =>
    rw [publishStruct_of_registered registered]
    simp only [publish, registeredAt?, Erased.place, registered, Option.map_some]
    rfl
  | none =>
    rw [publishStruct_of_vacant registered]
    simp only [publish, registeredAt?, Erased.place, registered, Option.map_none]
    rfl

theorem publish_enum (r : Registry) (m : ErasedEnum) : r.publish (.enum m) = r.publishEnum m := by
  cases registered : r.enums.get? m.type with
  | some previous =>
    rw [publishEnum_of_registered registered]
    simp only [publish, registeredAt?, Erased.place, registered, Option.map_some]
    rfl
  | none =>
    rw [publishEnum_of_vacant registered]
    simp only [publish, registeredAt?, Erased.place, registered, Option.map_none]
    rfl

theorem publish_function (r : Registry) (m : ErasedFunction) :
    r.publish (.function m) = r.publishFunction m := by
  cases registered : r.functions.get? m.name with
  | some previous =>
    rw [publishFunction_of_registered registered]
    simp only [publish, registeredAt?, Erased.place, registered, Option.map_some]
    rfl
  | none =>
    rw [publishFunction_of_vacant registered]
    simp only [publish, registeredAt?, Erased.place, registered, Option.map_none]
    rfl

theorem publish_ok_iff (r : Registry) (m : Erased) :
    (r.publish m).2 = .ok () ↔
      (∃ previous, r.registeredAt? m.place = some previous ∧ previous.same m = true) ∨
        r.registeredAt? m.place = none ∧ r.hasRoom m = true := by
  unfold publish
  cases r.registeredAt? m.place with
  | some previous => cases same : previous.same m <;> simp [same]
  | none => cases room : r.hasRoom m <;> simp

/-- Storing fills one place and leaves the others as they are. -/
theorem registeredAt?_store (r : Registry) (m : Erased) (p : Place) :
    (r.store m).registeredAt? p = if m.place = p then some m else r.registeredAt? p := by
  cases m with
  | struct m =>
    cases p with
    | struct t =>
      simp only [store, registeredAt?, registeredStruct?_storeStruct, Erased.place, Place.struct.injEq]
      split <;> rfl
    | enum t => rfl
    | function n => rfl
  | enum m =>
    cases p with
    | struct t => rfl
    | enum t =>
      simp only [store, registeredAt?, storeEnum, Keyed.get?_set, Erased.place, Place.enum.injEq]
      split <;> rfl
    | function n => rfl
  | function m =>
    cases p with
    | struct t => rfl
    | enum t => rfl
    | function n =>
      simp only [store, registeredAt?, storeFunction, Keyed.get?_set, Erased.place,
        Place.function.injEq]
      split <;> rfl

theorem byName_store (r : Registry) (m : Erased) :
    (r.store m).byName = r.byName.set m.name m.descriptor := by
  cases m <;> rfl

theorem validates_store (r : Registry) (m : Erased) : (r.store m).validates = r.validates := by
  cases m <;> rfl

/-- A description by reflection registers nothing. -/
theorem registeredAt?_cacheStruct {r : Registry} {t : TypeRep} (vacant : r.structs.get? (some t) = none)
    (m : ErasedStruct) (p : Place) : (r.cacheStruct t m).registeredAt? p = r.registeredAt? p := by
  cases p with
  | struct k =>
    simp only [registeredAt?, registeredStruct?_cacheStruct]
    split
    · rename_i here
      subst here
      simp [registeredStruct?, vacant]
    · rfl
  | enum k => rfl
  | function n => rfl

/-! ### Requests -/

/-- What can be handed in for registration. An enumeration comes with the copy that would be kept. -/
inductive Request where
  | struct (s : StructInfo)
  | enum (e : EnumInfo) (m : ErasedEnum)
  | function (f : FunctionInfo)
  | unsupported (d : Descriptor) (why : Text)

def submit (r : Registry) : Request → Answer Unit
  | .struct s => r.registerStruct s
  | .enum e m => r.registerEnumAs e m
  | .function f => r.registerFunction f
  | .unsupported d why => r.unsupported d why

def offer (validates : Bool) (verdict : Except Failure Unit) (m : Erased) : Option Erased :=
  match verdict with
  | .ok () => some m
  | .error _ => if validates then none else some m

/-- What a request asks to publish, if it is fit for a registry that validates or does not. -/
def Request.offered? (validates : Bool) : Request → Option Erased
  | .struct s => offer validates s.validate (.struct s.erase)
  | .enum e m => offer validates e.validate (.enum m)
  | .function f => offer validates f.validate (.function f.erase)
  | .unsupported _ _ => none

theorem offer_eq_some {validates : Bool} {verdict : Except Failure Unit} {m m' : Erased}
    (offered : offer validates verdict m = some m') :
    m = m' ∧ (validates = true → verdict = .ok ()) := by
  cases verdict with
  | ok u =>
    cases offered
    exact ⟨rfl, fun _ => rfl⟩
  | error f =>
    simp only [offer] at offered
    split at offered
    · cases offered
    · rename_i lenient
      cases offered
      exact ⟨rfl, fun strict => absurd strict lenient⟩

theorem not_admits_of_offer {r : Registry} {verdict : Except Failure Unit} {m : Erased}
    (unfit : offer r.validates verdict m = none) : ¬ r.Admits verdict := by
  intro admitted
  cases verdict with
  | ok u => cases unfit
  | error f =>
    simp only [offer] at unfit
    split at unfit
    · rename_i validates
      cases admitted validates
    · cases unfit

theorem submit_of_offered {r : Registry} {q : Request} {m : Erased}
    (offered : q.offered? r.validates = some m) : r.submit q = r.publish m := by
  cases q with
  | struct s =>
    obtain ⟨rfl, admitted⟩ := offer_eq_some offered
    rw [publish_struct]
    exact vet_of_admits admitted _ (·.publishStruct s.erase)
  | enum e m =>
    obtain ⟨rfl, admitted⟩ := offer_eq_some offered
    rw [publish_enum]
    exact vet_of_admits admitted _ (·.publishEnum m)
  | function f =>
    obtain ⟨rfl, admitted⟩ := offer_eq_some offered
    rw [publish_function]
    exact vet_of_admits admitted _ (·.publishFunction f.erase)
  | unsupported d why => cases offered

theorem submit_of_not_offered {r : Registry} {q : Request} (unfit : q.offered? r.validates = none) :
    ∃ f, r.submit q = (r, .error f) := by
  cases q with
  | struct s => exact vet_of_not_admits (not_admits_of_offer unfit) _ (·.publishStruct s.erase)
  | enum e m => exact vet_of_not_admits (not_admits_of_offer unfit) _ (·.publishEnum m)
  | function f => exact vet_of_not_admits (not_admits_of_offer unfit) _ (·.publishFunction f.erase)
  | unsupported d why => exact ⟨_, rfl⟩

/-- A request is refused, says again what is registered, or is stored in a vacant place. -/
theorem submit_cases (r : Registry) (q : Request) :
    (∃ f, r.submit q = (r, .error f)) ∨
      (∃ m previous, q.offered? r.validates = some m ∧ r.registeredAt? m.place = some previous ∧
        previous.same m = true ∧ r.submit q = (r, .ok ())) ∨
      ∃ m, q.offered? r.validates = some m ∧ r.registeredAt? m.place = none ∧ r.hasRoom m = true ∧
        r.submit q = (r.store m, .ok ()) := by
  cases offered : q.offered? r.validates with
  | none => exact .inl (submit_of_not_offered offered)
  | some m =>
    rw [submit_of_offered offered]
    unfold publish
    split
    · rename_i previous registered
      split
      · rename_i same
        exact .inr (.inl ⟨m, previous, rfl, registered, same, rfl⟩)
      · exact .inl ⟨_, rfl⟩
    · rename_i vacant
      split
      · rename_i room
        exact .inr (.inr ⟨m, rfl, vacant, room, rfl⟩)
      · exact .inl ⟨_, rfl⟩

theorem step_submit (r : Registry) (q : Request) : Step r (r.submit q).1 := by
  cases q with
  | struct s => exact r.step_registerStruct s
  | enum e m => exact r.step_registerEnumAs e m
  | function f => exact r.step_registerFunction f
  | unsupported d why => exact .stay

/-- A lookup fails, finds what is stored, or keeps a description of a type that had none. -/
theorem struct_cases (r : Registry) (t : Option TypeRep) :
    (∃ f, r.struct t = (r, .error f)) ∨
      (∃ u m, t = some u ∧ r.structs.get? (some u) = some m ∧ r.struct t = (r, .ok m)) ∨
      ∃ u m, t = some u ∧ r.structs.get? (some u) = none ∧ Reflection.struct u = .ok m ∧
        r.struct t = (r.cacheStruct u m, .ok m) := by
  unfold struct
  split
  · exact .inl ⟨_, rfl⟩
  · rename_i u
    split
    · rename_i m stored
      exact .inr (.inl ⟨u, m, rfl, stored, rfl⟩)
    · rename_i vacant
      split
      · exact .inl ⟨_, rfl⟩
      · split
        · exact .inl ⟨_, rfl⟩
        · rename_i m described
          exact .inr (.inr ⟨u, m, rfl, vacant, described, rfl⟩)

theorem struct_of_get? {r : Registry} {t : TypeRep} {m : ErasedStruct}
    (stored : r.structs.get? (some t) = some m) : r.struct (some t) = (r, .ok m) := by
  simp only [struct, stored]

/-! ### Operations as requests -/

def structRequest (d : Descriptor) : Request :=
  match d.struct? with
  | some s => .struct s
  | none => .unsupported d "struct kind without StructInfo"

def enumRequest (d : Descriptor) : Request :=
  match d with
  | .enum e => .enum e e.erase
  | .erasedEnum m => .enum m.info m
  | _ => .unsupported d "enum kind without EnumInfo"

def functionRequest (d : Descriptor) : Request :=
  match d.function? with
  | some f => .function f
  | none => .unsupported d "function kind without FunctionInfo"

/-- The request that a descriptor stands for by its kind. -/
def request (d : Descriptor) : Request :=
  match d.kind with
  | .struct | .union | .tuple => structRequest d
  | .enum => enumRequest d
  | .function => functionRequest d
  | k => .unsupported d ("kind " ++ k.keyword)

theorem register_eq_submit (r : Registry) (d : Descriptor) : r.register d = r.submit (request d) := by
  have asStruct : r.registerAsStruct d = r.submit (structRequest d) := by
    unfold registerAsStruct structRequest
    cases d.struct? <;> rfl
  have asEnum : r.registerAsEnum d = r.submit (enumRequest d) := by
    cases d <;> rfl
  have asFunction : r.registerAsFunction d = r.submit (functionRequest d) := by
    unfold registerAsFunction functionRequest
    cases d.function? <;> rfl
  unfold register request
  cases d.kind with
  | struct => exact asStruct
  | union => exact asStruct
  | tuple => exact asStruct
  | enum => exact asEnum
  | function => exact asFunction
  | _ => rfl

/-- Puts requests up to the first that is refused. -/
def submitAll (r : Registry) : List Request → Answer Unit
  | [] => (r, .ok ())
  | q :: rest =>
    match r.submit q with
    | (r, .ok ()) => r.submitAll rest
    | (r, .error f) => (r, .error f)

theorem submitAll_singleton (r : Registry) (q : Request) : r.submitAll [q] = r.submit q := by
  simp only [submitAll]
  split
  · rename_i answer
    exact answer.symm
  · rename_i answer
    exact answer.symm

theorem registerAll_eq_submitAll (r : Registry) (ds : List Descriptor) :
    r.registerAll ds = r.submitAll (ds.map request) := by
  induction ds generalizing r with
  | nil => rfl
  | cons d rest ih =>
    rw [List.map_cons, registerAll, submitAll, register_eq_submit]
    obtain ⟨next, answer⟩ := r.submit (request d)
    cases answer with
    | ok u => exact ih next
    | error f => rfl

def Operation.requests : Operation → List Request
  | .registerStruct s => [.struct s]
  | .registerEnum e => [.enum e e.erase]
  | .registerEnumOf e => [.enum e e.eraseTyped]
  | .registerFunction f => [.function f]
  | .register ds => ds.map request
  | .struct _ => []
  | .reset => []

/-- An operation is a lookup, empties every registry or puts its requests. -/
theorem perform_cases (op : Operation) :
    (∃ t, op = .struct t) ∨ op = .reset ∨ ∀ r, perform r op = r.submitAll op.requests := by
  cases op with
  | registerStruct s => exact .inr (.inr fun r => (r.submitAll_singleton (.struct s)).symm)
  | registerEnum e => exact .inr (.inr fun r => (r.submitAll_singleton (.enum e e.erase)).symm)
  | registerEnumOf e => exact .inr (.inr fun r => (r.submitAll_singleton (.enum e e.eraseTyped)).symm)
  | registerFunction f => exact .inr (.inr fun r => (r.submitAll_singleton (.function f)).symm)
  | register ds => exact .inr (.inr fun r => r.registerAll_eq_submitAll ds)
  | struct t => exact .inl ⟨t, rfl⟩
  | reset => exact .inr (.inl rfl)

/-! ### Histories -/

def accepted (r : Registry) (q : Request) : Bool :=
  (r.submit q).2.isOk

theorem accepted_iff {r : Registry} {q : Request} : r.accepted q = true ↔ (r.submit q).2 = .ok () := by
  unfold accepted
  cases (r.submit q).2 <;> simp [Except.isOk, Except.toBool]

/-- The requests that are put, each with the registry that it is put to. -/
def attempts (r : Registry) : List Request → List (Registry × Request)
  | [] => []
  | q :: rest => (r, q) :: if r.accepted q then (r.submit q).1.attempts rest else []

/-- The requests of a run, in the order in which they are put. -/
def history (r : Registry) : List Operation → List (Registry × Request)
  | [] => []
  | op :: rest => r.attempts op.requests ++ (r.perform op).1.history rest

theorem submitAll_cons (r : Registry) (q : Request) (rest : List Request) :
    r.submitAll (q :: rest) = if r.accepted q then (r.submit q).1.submitAll rest else r.submit q := by
  rw [submitAll, accepted]
  split
  · rename_i answer
    simp [answer, Except.isOk, Except.toBool]
  · rename_i answer
    simp [answer, Except.isOk, Except.toBool]

end Registry

end TypeAtlas
