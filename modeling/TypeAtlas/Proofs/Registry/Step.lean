import TypeAtlas.Registry

/-!
What an operation does to a registry, said once: it leaves the registry as it is, stores one descriptor
where there was room for it, keeps a description by reflection, or removes everything. Whatever these
changes preserve holds along every run.
-/

namespace TypeAtlas

namespace Registry

/-! ### Admission -/

/-- A descriptor is admitted when it keeps its contract or the registry does not ask. -/
def Admits (r : Registry) (verdict : Except Failure Unit) : Prop :=
  r.validates = true → verdict = .ok ()

theorem vet_of_admits {r : Registry} {verdict : Except Failure Unit} (admitted : r.Admits verdict)
    (what : Text) (publish : Registry → Answer Unit) : r.vet what verdict publish = publish r := by
  unfold vet
  split
  · rfl
  · rename_i cause
    split
    · rename_i validates
      cases admitted validates
    · rfl

theorem vet_of_not_admits {r : Registry} {verdict : Except Failure Unit} (refused : ¬ r.Admits verdict)
    (what : Text) (publish : Registry → Answer Unit) :
    ∃ f, r.vet what verdict publish = (r, .error f) := by
  unfold vet
  split
  · exact absurd (fun _ => rfl) refused
  · rename_i cause
    split
    · exact ⟨_, rfl⟩
    · rename_i lenient
      exact absurd (fun validates => absurd validates lenient) refused

/-! ### Publishing -/

/-- The struct that was registered for a type. A description by reflection was not. -/
def registeredStruct? (r : Registry) (t : Option TypeRep) : Option ErasedStruct :=
  if r.isReflected t then none else r.structs.get? t

theorem publishStruct_of_registered {r : Registry} {m previous : ErasedStruct}
    (registered : r.registeredStruct? m.type = some previous) :
    r.publishStruct m =
      if sameStruct previous m then (r, .ok ()) else (r, .error (duplicate "struct" m.name)) := by
  unfold registeredStruct? at registered
  split at registered
  · cases registered
  · rename_i explicit
    simp only [publishStruct, registered, explicit, Bool.false_eq_true, if_false]

theorem publishStruct_of_vacant {r : Registry} {m : ErasedStruct}
    (vacant : r.registeredStruct? m.type = none) :
    r.publishStruct m =
      if r.nameIsFree m.name m.type then (r.storeStruct m, .ok ())
      else (r, .error (duplicate "name" m.name)) := by
  unfold registeredStruct? at vacant
  split at vacant
  · rename_i reflected
    cases stored : r.structs.get? m.type <;> simp only [publishStruct, stored, reflected, if_true]
  · simp only [publishStruct, vacant]

theorem publishEnum_of_registered {r : Registry} {m previous : ErasedEnum}
    (registered : r.enums.get? m.type = some previous) :
    r.publishEnum m =
      if sameEnum previous m then (r, .ok ()) else (r, .error (duplicate "enum" m.name)) := by
  simp only [publishEnum, registered]

theorem publishEnum_of_vacant {r : Registry} {m : ErasedEnum} (vacant : r.enums.get? m.type = none) :
    r.publishEnum m =
      if r.nameIsFree m.name m.type then (r.storeEnum m, .ok ())
      else (r, .error (duplicate "name" m.name)) := by
  simp only [publishEnum, vacant]

theorem publishFunction_of_registered {r : Registry} {m previous : ErasedFunction}
    (registered : r.functions.get? m.name = some previous) :
    r.publishFunction m =
      if sameFunction previous m then (r, .ok ()) else (r, .error (duplicate "function" m.name)) := by
  simp only [publishFunction, registered]

theorem publishFunction_of_vacant {r : Registry} {m : ErasedFunction}
    (vacant : r.functions.get? m.name = none) :
    r.publishFunction m =
      if (r.byName.get? m.name).isNone then (r.storeFunction m, .ok ())
      else (r, .error (duplicate "name" m.name)) := by
  simp only [publishFunction, vacant]
  cases r.byName.get? m.name <;> rfl

/-! ### Steps -/

/-- The changes that operations are made of. -/
inductive Step (r : Registry) : Registry → Prop where
  | stay : Step r r
  | storeStruct (m : ErasedStruct) (vacant : r.registeredStruct? m.type = none)
      (free : r.nameIsFree m.name m.type = true) : Step r (r.storeStruct m)
  | storeEnum (m : ErasedEnum) (vacant : r.enums.get? m.type = none)
      (free : r.nameIsFree m.name m.type = true) : Step r (r.storeEnum m)
  | storeFunction (m : ErasedFunction) (vacant : r.functions.get? m.name = none)
      (free : r.byName.get? m.name = none) : Step r (r.storeFunction m)
  | cacheStruct (t : TypeRep) (m : ErasedStruct) (vacant : r.structs.get? (some t) = none)
      (described : Reflection.struct t = .ok m) : Step r (r.cacheStruct t m)
  | reset : Step r r.reset

theorem step_publishStruct (r : Registry) (m : ErasedStruct) : Step r (r.publishStruct m).1 := by
  cases registered : r.registeredStruct? m.type with
  | some previous =>
    rw [publishStruct_of_registered registered]
    split <;> exact .stay
  | none =>
    rw [publishStruct_of_vacant registered]
    split
    · rename_i free
      exact .storeStruct m registered free
    · exact .stay

theorem step_publishEnum (r : Registry) (m : ErasedEnum) : Step r (r.publishEnum m).1 := by
  cases registered : r.enums.get? m.type with
  | some previous =>
    rw [publishEnum_of_registered registered]
    split <;> exact .stay
  | none =>
    rw [publishEnum_of_vacant registered]
    split
    · rename_i free
      exact .storeEnum m registered free
    · exact .stay

theorem step_publishFunction (r : Registry) (m : ErasedFunction) : Step r (r.publishFunction m).1 := by
  cases registered : r.functions.get? m.name with
  | some previous =>
    rw [publishFunction_of_registered registered]
    split <;> exact .stay
  | none =>
    rw [publishFunction_of_vacant registered]
    split
    · rename_i free
      exact .storeFunction m registered (Option.isNone_iff_eq_none.mp free)
    · exact .stay

theorem step_vet {r : Registry} {what : Text} {verdict : Except Failure Unit}
    {publish : Registry → Answer Unit} (step : Step r (publish r).1) :
    Step r (r.vet what verdict publish).1 := by
  by_cases admitted : r.Admits verdict
  · rw [vet_of_admits admitted]
    exact step
  · obtain ⟨f, refused⟩ := vet_of_not_admits admitted what publish
    rw [refused]
    exact .stay

theorem step_registerStruct (r : Registry) (s : StructInfo) : Step r (r.registerStruct s).1 :=
  step_vet (r.step_publishStruct s.erase)

theorem step_registerEnumAs (r : Registry) (e : EnumInfo) (m : ErasedEnum) :
    Step r (r.registerEnumAs e m).1 :=
  step_vet (r.step_publishEnum m)

theorem step_registerFunction (r : Registry) (f : FunctionInfo) : Step r (r.registerFunction f).1 :=
  step_vet (r.step_publishFunction f.erase)

theorem step_registerAsStruct (r : Registry) (d : Descriptor) : Step r (r.registerAsStruct d).1 := by
  unfold registerAsStruct
  split
  · exact r.step_registerStruct _
  · exact .stay

theorem step_registerAsEnum (r : Registry) (d : Descriptor) : Step r (r.registerAsEnum d).1 := by
  unfold registerAsEnum
  split
  · exact r.step_registerEnumAs _ _
  · exact r.step_registerEnumAs _ _
  · exact .stay

theorem step_registerAsFunction (r : Registry) (d : Descriptor) :
    Step r (r.registerAsFunction d).1 := by
  unfold registerAsFunction
  split
  · exact r.step_registerFunction _
  · exact .stay

theorem step_register (r : Registry) (d : Descriptor) : Step r (r.register d).1 := by
  unfold register
  split
  · exact r.step_registerAsStruct d
  · exact r.step_registerAsStruct d
  · exact r.step_registerAsStruct d
  · exact r.step_registerAsEnum d
  · exact r.step_registerAsFunction d
  · exact .stay

theorem step_struct (r : Registry) (t : Option TypeRep) : Step r (r.struct t).1 := by
  unfold struct
  split
  · exact .stay
  · rename_i t
    split
    · exact .stay
    · rename_i vacant
      split
      · exact .stay
      · split
        · exact .stay
        · rename_i m described
          exact .cacheStruct t m vacant described

/-! ### Runs -/

section Preserved

variable {I : Registry → Prop}

theorem registerAll_preserves (preserved : ∀ r r', Step r r' → I r → I r') (ds : List Descriptor)
    {r : Registry} (holds : I r) : I (r.registerAll ds).1 := by
  induction ds generalizing r with
  | nil => exact holds
  | cons d rest ih =>
    have next := preserved r _ (r.step_register d) holds
    unfold registerAll
    split
    · rename_i after registered
      rw [registered] at next
      exact ih next
    · rename_i after f refused
      rw [refused] at next
      exact next

theorem perform_preserves (preserved : ∀ r r', Step r r' → I r → I r') (op : Operation) {r : Registry}
    (holds : I r) : I (r.perform op).1 := by
  cases op with
  | registerStruct s => exact preserved r _ (r.step_registerStruct s) holds
  | registerEnum e => exact preserved r _ (r.step_registerEnumAs e _) holds
  | registerEnumOf e => exact preserved r _ (r.step_registerEnumAs e _) holds
  | registerFunction f => exact preserved r _ (r.step_registerFunction f) holds
  | register ds => exact registerAll_preserves preserved ds holds
  | struct t => exact preserved r _ (r.step_struct t) holds
  | reset => exact preserved r _ .reset holds

/-- What every change preserves holds after every run. -/
theorem run_preserves (preserved : ∀ r r', Step r r' → I r → I r') (ops : List Operation) {r : Registry}
    (holds : I r) : I (r.run ops) := by
  induction ops generalizing r with
  | nil => exact holds
  | cons op rest ih => exact ih (perform_preserves preserved op holds)

end Preserved

/-- The registries that operations can lead to from an empty one. -/
def Reachable (r : Registry) : Prop :=
  ∃ fallback validates ops, r = run { fallback, validates } ops

end Registry

end TypeAtlas
