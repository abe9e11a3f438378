import TypeAtlas.Descriptor.Contract
import TypeAtlas.Proofs.Outcome

/-!
What a descriptor promises once it has passed its contract: each check finds nothing exactly when what it
looks at is as it should be, and the promises of a whole descriptor are put together from these.
-/

namespace TypeAtlas

theorem Kind.hasFields_iff {k : Kind} : k.hasFields = true ↔ k = .struct ∨ k = .union ∨ k = .tuple := by
  cases k <;> simp [hasFields]

namespace Contract

theorem checkName_eq_nil_iff {name : Text} : checkName name = [] ↔ name ≠ [] := by
  simp [checkName]

theorem checkAttributes_eq_nil_iff {path : List Text} {attrs : List Attribute} :
    checkAttributes path attrs = [] ↔ ∀ a ∈ attrs, a.name ≠ [] := by
  simp [checkAttributes]

/-! ### Counts -/

/-- A type that can list `n` members: the absent type lists none, a struct as many as it has fields. -/
structure Lists (t : TypeRep) (n : Nat) : Prop where
  absent : t = TypeRep.noType ↔ n = 0
  members : t ≠ TypeRep.noType → ∀ fields, t.fields? = some fields → fields.length = n

theorem checkCount_eq_nil_iff {path : List Text} {what : Text} {declared : Int} {actual : Nat}
    {listType : Option TypeRep} :
    checkCount path what declared actual listType = [] ↔
      declared = actual ∧ ∃ t, listType = some t ∧ Lists t actual := by
  unfold checkCount
  rw [List.append_eq_nil_iff]
  refine and_congr (by simp) ?_
  cases listType with
  | none => simp
  | some t =>
    simp only [Option.some.injEq, exists_eq_left']
    have agree : TypeRep.isNoType (some t) = (actual == 0) ↔ (t = TypeRep.noType ↔ actual = 0) := by
      rw [Bool.eq_iff_iff]
      simp [TypeRep.isNoType]
    by_cases here : TypeRep.isNoType (some t) = (actual == 0)
    · rw [if_neg (not_not_intro here)]
      by_cases absent : t = TypeRep.noType
      · rw [if_pos (by simp [TypeRep.isNoType, absent])]
        exact ⟨fun _ => ⟨agree.mp here, fun other => absurd absent other⟩, fun _ => rfl⟩
      · rw [if_neg (by simp [TypeRep.isNoType, absent])]
        constructor
        · intro nothing
          refine ⟨agree.mp here, fun _ fields found => ?_⟩
          simpa [found] using nothing
        · intro lists
          cases found : t.fields? with
          | none => rfl
          | some fields => simp [lists.members absent fields found]
    · rw [if_pos here]
      exact ⟨fun nothing => by simp at nothing, fun lists => absurd (agree.mpr lists.absent) here⟩

/-! ### Scans -/

/-- Members are looked at one after another, each at its position and with the keys of those before it at
hand. Nothing is found exactly if each of them is as it should be and apart from all before it. -/
theorem scan_eq_nil_iff {α κ : Type} {check : List κ → Nat → α → List Fault}
    {scan : List κ → Nat → List α → List Fault} (key : α → κ) (Kept : Nat → α → Prop)
    (Apart : κ → α → Prop) (stop : ∀ seen position, scan seen position [] = [])
    (step : ∀ seen position x rest, scan seen position (x :: rest) =
      check seen position x ++ scan (key x :: seen) (position + 1) rest)
    (clean : ∀ seen position x,
      check seen position x = [] ↔ Kept position x ∧ ∀ k ∈ seen, Apart k x)
    {seen : List κ} {position : Nat} {members : List α} :
    scan seen position members = [] ↔
      (∀ i x, members[i]? = some x → Kept (position + i) x) ∧
      members.Pairwise (fun x y => Apart (key x) y) ∧ ∀ x ∈ members, ∀ k ∈ seen, Apart k x := by
  induction members generalizing seen position with
  | nil => simp [stop]
  | cons first rest ih =>
    rw [step, List.append_eq_nil_iff, clean, ih, List.pairwise_cons, List.forall_mem_cons]
    constructor
    · rintro ⟨⟨kept, unseen⟩, later, distinct, fresh⟩
      refine ⟨?_, ⟨fun x member => fresh x member _ List.mem_cons_self, distinct⟩, unseen,
        fun x member k known => fresh x member k (List.mem_cons_of_mem _ known)⟩
      intro i x found
      cases i with
      | zero =>
        cases found
        exact kept
      | succ i => simpa [Nat.add_assoc, Nat.add_comm 1 i] using later i x found
    · rintro ⟨kept, ⟨others, distinct⟩, unseen, fresh⟩
      refine ⟨⟨kept 0 first rfl, unseen⟩, ?_, distinct, ?_⟩
      · intro i x found
        simpa [Nat.add_assoc, Nat.add_comm 1 i] using kept (i + 1) x found
      · intro x member k known
        rcases List.mem_cons.mp known with rfl | known
        · exact others x member
        · exact fresh x member k known

/-! ### Fields -/

/-- A field that keeps its promises at a position: it lies inside its owner and where its type may lie. -/
structure FieldKept (owner : Option TypeRep) (position : Nat) (f : FieldInfo) : Prop where
  index : f.index = position
  owned : f.owner = owner
  named : ∀ a ∈ f.attrs, a.name ≠ []
  placed : ∃ t, f.type = some t ∧ f.offset.toNat % t.align = 0 ∧
    ∀ o, owner = some o → f.offset.toNat + t.size ≤ o.size

theorem checkField_eq_nil_iff {path : List Text} {owner : Option TypeRep} {seen : List Text}
    {position : Nat} {f : FieldInfo} :
    checkField path owner seen position f = [] ↔
      FieldKept owner position f ∧ ∀ name ∈ seen, f.name = [] ∨ f.name ≠ name := by
  simp only [checkField, List.append_eq_nil_iff, checkAttributes_eq_nil_iff]
  have inside (offset size whole : Nat) :
      (offset > whole ∨ size > whole - offset) ↔ ¬ offset + size ≤ whole := by omega
  constructor
  · rintro ⟨⟨⟨⟨index, fresh⟩, owned⟩, named⟩, placed⟩
    refine ⟨⟨by simpa using index, by simpa using owned, named, ?_⟩, ?_⟩
    · split at placed
      · cases placed
      · rename_i t type
        obtain ⟨bounds, aligned⟩ := List.append_eq_nil_iff.mp placed
        refine ⟨t, type, by simpa using aligned, ?_⟩
        rintro o rfl
        simpa [inside] using bounds
    · intro name known
      by_cases blank : f.name = []
      · exact .inl blank
      · refine .inr ?_
        rintro rfl
        simp [blank, known] at fresh
  · rintro ⟨⟨index, owned, named, t, type, aligned, bounds⟩, fresh⟩
    refine ⟨⟨⟨⟨by simp [index], ?_⟩, by simp [owned]⟩, named⟩, ?_⟩
    · by_cases blank : f.name = []
      · simp [blank]
      · have unseen : f.name ∉ seen := fun known => (fresh _ known).elim blank fun other => other rfl
        simp [unseen]
    · rw [type]
      cases owner with
      | none => simp [aligned]
      | some o => simp [aligned, inside, bounds o rfl]

theorem checkFieldsFrom_eq_nil_iff {path : List Text} {owner : Option TypeRep} {seen : List Text}
    {position : Nat} {fields : List FieldInfo} :
    checkFieldsFrom path owner seen position fields = [] ↔
      (∀ i f, fields[i]? = some f → FieldKept owner (position + i) f) ∧
      fields.Pairwise (fun f g => g.name = [] ∨ g.name ≠ f.name) ∧
      ∀ f ∈ fields, ∀ name ∈ seen, f.name = [] ∨ f.name ≠ name :=
  scan_eq_nil_iff FieldInfo.name (FieldKept owner) (fun name f => f.name = [] ∨ f.name ≠ name)
    (fun _ _ => rfl) (fun _ _ _ _ => rfl) fun _ _ _ => checkField_eq_nil_iff

/-- Fields that keep their promises together; fields may be without a name, but none has another's. -/
structure FieldsKept (owner : Option TypeRep) (count : Int) (fields : List FieldInfo)
    (listType : Option TypeRep) : Prop where
  counted : count = fields.length
  listed : ∃ t, listType = some t ∧ Lists t fields.length
  kept : ∀ i f, fields[i]? = some f → FieldKept owner i f
  distinct : fields.Pairwise fun f g => g.name = [] ∨ g.name ≠ f.name

theorem checkFields_eq_nil_iff {path : List Text} {owner : Option TypeRep} {count : Int}
    {fields : List FieldInfo} {listType : Option TypeRep} :
    checkFields path owner count fields listType = [] ↔ FieldsKept owner count fields listType := by
  rw [checkFields, List.append_eq_nil_iff, checkCount_eq_nil_iff, checkFieldsFrom_eq_nil_iff]
  simp only [Nat.zero_add, List.not_mem_nil, false_implies, implies_true, and_true]
  constructor
  · rintro ⟨⟨counted, listed⟩, kept, distinct⟩
    exact ⟨counted, listed, kept, distinct⟩
  · intro kept
    exact ⟨⟨kept.counted, kept.listed⟩, kept.kept, kept.distinct⟩

theorem checkStruct_eq_nil_iff {s : StructInfo} :
    checkStruct s = [] ↔
      s.name ≠ [] ∧ s.kind.hasFields = true ∧ (∀ a ∈ s.attrs, a.name ≠ []) ∧
      FieldsKept s.type s.count s.fields s.listType := by
  simp only [checkStruct, List.append_eq_nil_iff, checkName_eq_nil_iff, checkAttributes_eq_nil_iff,
    checkFields_eq_nil_iff, and_assoc]
  cases s.kind.hasFields <;> simp

/-! ### Variants -/

/-- A variant that keeps its promises at a position. It has a value exactly if the enumeration has integers,
and its fields are those of its own type. -/
structure VariantKept (e : EnumInfo) (position : Nat) (v : VariantInfo) : Prop where
  index : v.index = position
  named : v.name ≠ []
  owned : v.owner = e.type
  attributes : ∀ a ∈ v.attrs, a.name ≠ []
  valued : v.raw ≠ none ↔ e.integer ≠ some TypeRep.noType
  fields : FieldsKept v.type v.count v.fields v.listType

theorem checkValue_eq_nil_iff {path : List Text} {integer : Bool} {earlier : List VariantInfo}
    {v : VariantInfo} :
    checkValue path integer earlier v = [] ↔
      (v.raw ≠ none ↔ integer = true) ∧ ∀ u ∈ earlier, v.raw = none ∨ v.raw ≠ u.raw := by
  unfold checkValue
  cases integer with
  | false => cases v.raw <;> simp
  | true =>
    cases v.raw with
    | none => simp
    | some raw =>
      -- The variant that is found is named in the fault; all that counts is whether there is one.
      cases found : earlier.find? (·.raw == some raw) with
      | none =>
        have fresh : ∀ u ∈ earlier, some raw ≠ u.raw := by
          intro u member same
          exact List.find?_eq_none.mp found u member (beq_iff_eq.mpr same.symm)
        simpa [found] using fresh
      | some u =>
        have same : u.raw = some raw := by simpa using List.find?_some found
        simp only [found, List.cons_ne_nil, false_iff]
        rintro ⟨-, apart⟩
        exact (apart u (List.mem_of_find?_eq_some found)).elim nofun fun other => other same.symm

theorem checkVariant_eq_nil_iff {e : EnumInfo} {earlier : List VariantInfo} {position : Nat}
    {v : VariantInfo} :
    checkVariant e earlier position v = [] ↔
      VariantKept e position v ∧
        ∀ u ∈ earlier, v.name ≠ u.name ∧ (v.raw = none ∨ v.raw ≠ u.raw) := by
  have integer : (!TypeRep.isNoType e.integer) = true ↔ e.integer ≠ some TypeRep.noType := by
    simp [TypeRep.isNoType]
  simp only [checkVariant, List.append_eq_nil_iff, checkAttributes_eq_nil_iff, checkValue_eq_nil_iff,
    checkFields_eq_nil_iff, integer]
  constructor
  · rintro ⟨⟨⟨⟨⟨index, name⟩, owned⟩, attributes⟩, valued, values⟩, fields⟩
    split at name
    · cases name
    · rename_i named
      refine ⟨⟨by simpa using index, by simpa using named, by simpa using owned, attributes, valued, fields⟩,
        fun u member => ⟨?_, values u member⟩⟩
      intro same
      simp only [ite_eq_right_iff, List.cons_ne_nil, imp_false, List.any_eq_true, not_exists, not_and,
        beq_iff_eq] at name
      exact name u member same.symm
  · rintro ⟨⟨index, named, owned, attributes, valued, fields⟩, apart⟩
    refine ⟨⟨⟨⟨⟨by simp [index], ?_⟩, by simp [owned]⟩, attributes⟩, valued,
      fun u member => (apart u member).2⟩, fields⟩
    have fresh : ¬ earlier.any (·.name == v.name) = true := by
      simp only [List.any_eq_true, not_exists, not_and, beq_iff_eq]
      exact fun u member same => (apart u member).1 same.symm
    rw [if_neg (by simpa using named), if_neg fresh]

theorem checkVariantsFrom_eq_nil_iff {e : EnumInfo} {earlier variants : List VariantInfo}
    {position : Nat} :
    checkVariantsFrom e earlier position variants = [] ↔
      (∀ i v, variants[i]? = some v → VariantKept e (position + i) v) ∧
      variants.Pairwise (fun u v => v.name ≠ u.name ∧ (v.raw = none ∨ v.raw ≠ u.raw)) ∧
      ∀ v ∈ variants, ∀ u ∈ earlier, v.name ≠ u.name ∧ (v.raw = none ∨ v.raw ≠ u.raw) :=
  scan_eq_nil_iff id (VariantKept e) (fun u v => v.name ≠ u.name ∧ (v.raw = none ∨ v.raw ≠ u.raw))
    (fun _ _ => rfl) (fun _ _ _ _ => rfl) fun _ _ _ => checkVariant_eq_nil_iff

/-! ### Whole descriptors -/

/-- A struct, union or tuple that keeps the contract. -/
structure StructKept (s : StructInfo) : Prop where
  named : s.name ≠ []
  kind : s.kind = .struct ∨ s.kind = .union ∨ s.kind = .tuple
  attributes : ∀ a ∈ s.attrs, a.name ≠ []
  fields : FieldsKept s.type s.count s.fields s.listType

/-- An enumeration that keeps the contract. Variants all have names, and no two share one; nor do they share
a value, if they have values. -/
structure EnumKept (e : EnumInfo) : Prop where
  named : e.name ≠ []
  kind : e.kind = .enum
  attributes : ∀ a ∈ e.attrs, a.name ≠ []
  counted : e.count = e.variants.length
  listed : ∃ t, e.listType = some t ∧ Lists t e.variants.length
  kept : ∀ i v, e.variants[i]? = some v → VariantKept e i v
  names : e.variants.Pairwise fun u v => v.name ≠ u.name
  values : e.variants.Pairwise fun u v => v.raw = none ∨ v.raw ≠ u.raw

theorem checkEnum_eq_nil_iff {e : EnumInfo} : checkEnum e = [] ↔ EnumKept e := by
  simp only [checkEnum, List.append_eq_nil_iff, checkName_eq_nil_iff, checkAttributes_eq_nil_iff,
    checkCount_eq_nil_iff, checkVariantsFrom_eq_nil_iff, List.pairwise_and_iff]
  simp only [Nat.zero_add, List.not_mem_nil, false_implies, implies_true, and_true, ite_eq_left_iff,
    List.cons_ne_nil, imp_false, Decidable.not_not]
  constructor
  · rintro ⟨⟨⟨⟨named, kind⟩, attributes⟩, counted, listed⟩, kept, names, values⟩
    exact ⟨named, kind, attributes, counted, listed, kept, names, values⟩
  · rintro ⟨named, kind, attributes, counted, listed, kept, names, values⟩
    exact ⟨⟨⟨⟨named, kind⟩, attributes⟩, counted, listed⟩, kept, names, values⟩

end Contract

/-! ### Structs -/

theorem StructInfo.validate_iff {s : StructInfo} :
    s.validate = .ok () ↔
      s.name ≠ [] ∧ s.kind.hasFields = true ∧ (∀ a ∈ s.attrs, a.name ≠ []) ∧
      Contract.FieldsKept s.type s.count s.fields s.listType :=
  Failure.ofFaults_eq_ok_iff.trans Contract.checkStruct_eq_nil_iff

theorem StructInfo.hasFields_of_validate {s : StructInfo} (kept : s.validate = .ok ()) :
    s.kind.hasFields = true :=
  (validate_iff.mp kept).2.1

/-- The fields of a struct that keeps its contract lie inside its type. -/
theorem StructInfo.field_inside {s : StructInfo} {owner : TypeRep} (kept : s.validate = .ok ())
    (type : s.type = some owner) :
    ∀ f ∈ s.fields, ∃ t, f.type = some t ∧ f.offset.toNat + t.size ≤ owner.size := by
  intro f member
  obtain ⟨_, _, _, fields⟩ := validate_iff.mp kept
  obtain ⟨i, found⟩ := List.getElem?_of_mem member
  obtain ⟨t, placed, _, inside⟩ := (fields.kept i f found).placed
  exact ⟨t, placed, inside owner type⟩

/-! ### Enumerations -/

theorem EnumInfo.validate_iff {e : EnumInfo} : e.validate = .ok () ↔ Contract.EnumKept e :=
  Failure.ofFaults_eq_ok_iff.trans Contract.checkEnum_eq_nil_iff

theorem EnumInfo.kind_of_validate {e : EnumInfo} (kept : e.validate = .ok ()) : e.kind = .enum :=
  (validate_iff.mp kept).kind

theorem EnumInfo.count_of_validate {e : EnumInfo} (kept : e.validate = .ok ()) :
    e.count = e.variants.length :=
  (validate_iff.mp kept).counted

theorem EnumInfo.fieldsKept_of_validate {e : EnumInfo} (kept : e.validate = .ok ()) :
    ∀ v ∈ e.variants, Contract.FieldsKept v.type v.count v.fields v.listType := by
  intro v member
  obtain ⟨i, found⟩ := List.getElem?_of_mem member
  exact ((validate_iff.mp kept).kept i v found).fields

/-! ### Functions -/

theorem FunctionInfo.kind_of_validate {f : FunctionInfo} (kept : f.validate = .ok ()) :
    f.kind = .function := by
  have nothing := Failure.ofFaults_eq_ok_iff.mp kept
  simp only [Contract.checkFunction, List.append_eq_nil_iff] at nothing
  simpa using nothing.1.1.1.1.1.2

theorem FunctionInfo.count_of_validate {f : FunctionInfo} (kept : f.validate = .ok ()) :
    f.count = f.parameters.length := by
  have nothing := Failure.ofFaults_eq_ok_iff.mp kept
  simp only [Contract.checkFunction, List.append_eq_nil_iff, Contract.checkCount_eq_nil_iff] at nothing
  exact nothing.1.1.1.2.1

/-! ### The contract -/

/-- Validation accepts exactly the descriptors that keep the contract. -/
theorem validation_exact :
    (∀ s : StructInfo, s.validate = .ok () ↔ Contract.StructKept s) ∧
      ∀ e : EnumInfo, e.validate = .ok () ↔ Contract.EnumKept e := by
  refine ⟨fun s => StructInfo.validate_iff.trans ?_, fun e => EnumInfo.validate_iff⟩
  rw [Kind.hasFields_iff]
  constructor
  · rintro ⟨named, kind, attributes, fields⟩
    exact ⟨named, kind, attributes, fields⟩
  · intro kept
    exact ⟨kept.named, kept.kind, kept.attributes, kept.fields⟩

end TypeAtlas
