import TypeAtlas.Proofs.Pointer.Access

/-!
Truth values inside other values. Which bytes of a value hold them is said once without looking at any
function, following arrays and structs down to the truth values. Settling them in place goes over the same
type and changes one byte at a time, at the address it has come to; it settles these bytes of the value,
whatever lies between them, and no byte around it.
-/

namespace TypeAtlas

/-! ### Where truth values are -/

namespace TypeRep

/-- Byte `i` of a value of this type holds a truth value, at any depth of arrays and structs. The name of
a member plays no part. -/
inductive HoldsBool : TypeRep → Nat → Prop
  | bool : HoldsBool (.primitive .bool) 0
  | named {name : TypeName} {d : TypeRep} {i : Nat} : HoldsBool d i → HoldsBool (.named name d) i
  | element {n k : Nat} {e : TypeRep} {i : Nat} : k < n → HoldsBool e i →
      HoldsBool (.array n e) (k * e.size + i)
  | member {fields : List (Member TypeRep)} {m : Member TypeRep} {o i : Nat} :
      (m, o) ∈ placedFields fields → HoldsBool m.type i → HoldsBool (.struct fields) (o + i)

theorem isBoolAtMember_of_mem {fields : List (Member TypeRep)} {places : List Nat} {m : Member TypeRep}
    {o i : Nat} (found : (m, o) ∈ fields.zip places) (truth : m.type.isBoolAt i = true) :
    isBoolAtMember fields places (o + i) = true := by
  induction fields generalizing places with
  | nil => cases found
  | cons first rest ih =>
    cases places with
    | nil => cases found
    | cons place others =>
      rw [isBoolAtMember, Bool.or_eq_true]
      cases found with
      | head => exact .inl (by simp [truth])
      | tail _ later => exact .inr (ih later)

theorem HoldsBool.isBoolAt {t : TypeRep} {i : Nat} (holds : t.HoldsBool i) : t.isBoolAt i = true := by
  induction holds with
  | bool => rfl
  | named _ ih => simpa only [TypeRep.isBoolAt] using ih
  | @element n k e i inside _ ih =>
    have short := e.lt_size_of_isBoolAt i ih
    have index : (k * e.size + i) / e.size = k := by
      rw [Nat.mul_comm, Nat.mul_add_div (Nat.zero_lt_of_lt short), Nat.div_eq_of_lt short, Nat.add_zero]
    have rest : (k * e.size + i) % e.size = i := by
      rw [Nat.mul_comm, Nat.mul_add_mod, Nat.mod_eq_of_lt short]
    simp only [TypeRep.isBoolAt, index, rest, ih, inside, decide_true, Bool.and_true]
  | member found _ ih =>
    simp only [TypeRep.isBoolAt]
    exact isBoolAtMember_of_mem found ih

mutual

theorem holdsBool_of_isBoolAt : (t : TypeRep) → (i : Nat) → t.isBoolAt i = true → t.HoldsBool i
  | .primitive p, i, truth => by
    simp only [isBoolAt, Bool.and_eq_true, beq_iff_eq] at truth
    obtain ⟨rfl, rfl⟩ := truth
    exact .bool
  | .named _ d, i, truth => by
    simp only [isBoolAt] at truth
    exact .named (holdsBool_of_isBoolAt d i truth)
  | .array n e, i, truth => by
    simp only [isBoolAt, Bool.and_eq_true, decide_eq_true_eq] at truth
    have inner := HoldsBool.element truth.1 (holdsBool_of_isBoolAt e _ truth.2)
    rwa [Nat.div_add_mod'] at inner
  | .struct fields, i, truth => by
    simp only [isBoolAt] at truth
    obtain ⟨m, o, found, start, inner⟩ := holdsBool_of_isBoolAtMember fields (offsets fields) i truth
    have whole := HoldsBool.member found inner
    rwa [Nat.add_sub_cancel' start] at whole
  | .pointer _, _, truth | .map .., _, truth | .channel .., _, truth | .function .., _, truth
  | .slice _, _, truth => by cases truth

theorem holdsBool_of_isBoolAtMember : (fields : List (Member TypeRep)) → (places : List Nat) → (i : Nat) →
    isBoolAtMember fields places i = true →
      ∃ m o, (m, o) ∈ fields.zip places ∧ o ≤ i ∧ m.type.HoldsBool (i - o)
  | ⟨name, t, tag⟩ :: rest, o :: places, i, truth => by
    simp only [isBoolAtMember, Bool.or_eq_true, Bool.and_eq_true, decide_eq_true_eq] at truth
    rcases truth with ⟨start, here⟩ | later
    · exact ⟨⟨name, t, tag⟩, o, List.mem_cons_self, start, holdsBool_of_isBoolAt t _ here⟩
    · obtain ⟨m, o', found, start, inner⟩ := holdsBool_of_isBoolAtMember rest places i later
      exact ⟨m, o', List.mem_cons_of_mem _ found, start, inner⟩
  | [], _, _, truth | _ :: _, [], _, truth => by simp [isBoolAtMember] at truth

end

theorem isBoolAt_iff {t : TypeRep} {i : Nat} : t.isBoolAt i = true ↔ t.HoldsBool i :=
  ⟨t.holdsBool_of_isBoolAt i, HoldsBool.isBoolAt⟩

instance (t : TypeRep) (i : Nat) : Decidable (t.HoldsBool i) :=
  decidable_of_iff _ isBoolAt_iff

end TypeRep

/-- A settled truth value is zero or one. -/
theorem Bytes.settle_isBoolAt (t : TypeRep) (i : Nat) (b : UInt8) :
    settle (t.isBoolAt i) b = if t.HoldsBool i then if b = 0 then 0 else 1 else b := by
  by_cases truth : t.HoldsBool i
  · rw [if_pos truth, TypeRep.isBoolAt_iff.mpr truth, settle, Bool.true_and]
    grind
  · rw [if_neg truth, Bool.eq_false_iff.mpr (mt TypeRep.isBoolAt_iff.mp truth)]
    rfl

/-! ### Settling in place -/

theorem Bytes.settle_settle (p q : Bool) (b : UInt8) : settle q (settle p b) = settle (p || q) b := by
  by_cases large : 1 < b <;> cases p <;> cases q <;> simp [settle, large]

namespace Memory

mutual

/-- Makes every truth value of the value of the given type at `addr` a zero or a one, each where it is. -/
def settleBools (m : Memory) (addr : UInt64) : TypeRep → Memory
  | .primitive p => if p == .bool && 1 < m.byte addr then m.write addr [1] else m
  | .named _ d => settleBools m addr d
  | .array n e =>
    (List.range n).foldl (fun m i => settleBools m (addr + UInt64.ofNat (i * e.size)) e) m
  | .struct fields => settleMembers m addr fields (TypeRep.offsets fields)
  | _ => m

def settleMembers (m : Memory) (addr : UInt64) : List (Member TypeRep) → List Nat → Memory
  | ⟨_, t, _⟩ :: rest, offset :: offsets =>
    settleMembers (settleBools m (addr + UInt64.ofNat offset) t) addr rest offsets
  | _, _ => m

end

theorem byte_settle_primitive (p : Primitive) (m : Memory) (addr a : UInt64) :
    (m.settleBools addr (.primitive p)).byte a =
      Bytes.settle (TypeRep.isBoolAt (.primitive p) (a - addr).toNat) (m.byte a) := by
  have here : (a - addr).toNat = 0 ↔ a = addr := by
    rw [← UInt64.toNat_inj, UInt64.toNat_sub]
    have first := a.toNat_lt
    have second := addr.toNat_lt
    omega
  simp only [settleBools, TypeRep.isBoolAt]
  by_cases same : a = addr
  · subst same
    rw [UInt64.sub_self]
    by_cases settled : (p == .bool && 1 < m.byte a) = true
    · rw [if_pos settled, byte_write, UInt64.sub_self]
      simp_all [Bytes.settle]
    · rw [if_neg settled, Bytes.settle, if_neg]
      simpa using settled
  · have apart := mt here.mp same
    have unsettled : (p == .bool && (a - addr).toNat == 0) = false := by simp [apart]
    rw [unsettled]
    split
    · rw [byte_write, List.getElem?_eq_none (Nat.pos_of_ne_zero apart)]
      rfl
    · rfl

/-- Steps that each settle one byte or leave it settle it together if any of them does. -/
theorem byte_foldl_settle {step : Memory → Nat → Memory} {a : UInt64} {settles : Nat → Bool}
    {indices : List Nat}
    (each : ∀ i ∈ indices, ∀ m, (step m i).byte a = Bytes.settle (settles i) (m.byte a)) (m : Memory) :
    (indices.foldl step m).byte a = Bytes.settle (indices.any settles) (m.byte a) := by
  induction indices generalizing m with
  | nil => rfl
  | cons i rest ih =>
    obtain ⟨first, others⟩ := List.forall_mem_cons.mp each
    rw [List.foldl_cons, ih others, first, Bytes.settle_settle, List.any_cons]

/-- A part of a value is settled from its own start on. Bytes before the part seem to lie far behind it,
past the end of its type. -/
theorem isBoolAt_part {t : TypeRep} {offset : Nat} (fits : offset + t.size ≤ 2 ^ 64) (addr a : UInt64) :
    t.isBoolAt (a - (addr + UInt64.ofNat offset)).toNat =
      (offset ≤ (a - addr).toNat && t.isBoolAt ((a - addr).toNat - offset)) := by
  have range := (a - addr).toNat_lt
  have shift : (a - (addr + UInt64.ofNat offset)).toNat =
      (2 ^ 64 - offset % 2 ^ 64 + (a - addr).toNat) % 2 ^ 64 := by
    have after : a - (addr + UInt64.ofNat offset) = a - addr - UInt64.ofNat offset := by grind
    rw [after, UInt64.toNat_sub, UInt64.toNat_ofNat']
  by_cases after : offset ≤ (a - addr).toNat
  · have distance : (a - (addr + UInt64.ofNat offset)).toNat = (a - addr).toNat - offset := by omega
    rw [distance, decide_eq_true after, Bool.true_and]
  · rw [decide_eq_false after, Bool.false_and]
    apply Bool.eq_false_iff.mpr
    intro truth
    have := t.lt_size_of_isBoolAt _ truth
    omega

theorem any_isBoolAt_array {n : Nat} {e : TypeRep} (k : Nat) :
    ((List.range n).any fun i => i * e.size ≤ k && e.isBoolAt (k - i * e.size)) =
      TypeRep.isBoolAt (.array n e) k := by
  rw [Bool.eq_iff_iff, List.any_eq_true, TypeRep.isBoolAt_iff]
  constructor
  · rintro ⟨i, inside, here⟩
    rw [Bool.and_eq_true, decide_eq_true_eq, TypeRep.isBoolAt_iff] at here
    have whole := TypeRep.HoldsBool.element (List.mem_range.mp inside) here.2
    rwa [Nat.add_sub_cancel' here.1] at whole
  · rintro (_ | _)
    rename_i i j inside inner
    refine ⟨i, List.mem_range.mpr inside, ?_⟩
    simp [inner.isBoolAt]

mutual

/-- Settling in place settles the bytes that hold truth values, and only those. -/
theorem byte_settleBools : (t : TypeRep) → t.size ≤ 2 ^ 64 → (m : Memory) → (addr a : UInt64) →
    (m.settleBools addr t).byte a = Bytes.settle (t.isBoolAt (a - addr).toNat) (m.byte a)
  | .primitive p, _, m, addr, a => byte_settle_primitive p m addr a
  | .named _ d, fits, m, addr, a => by
    simp only [settleBools, TypeRep.isBoolAt]
    exact byte_settleBools d fits m addr a
  | .array n e, fits, m, addr, a => by
    rw [settleBools, ← any_isBoolAt_array]
    apply byte_foldl_settle
    intro i inside m
    have room : i * e.size + e.size ≤ 2 ^ 64 := by
      rw [← Nat.succ_mul]
      exact Nat.le_trans (Nat.mul_le_mul_right e.size (List.mem_range.mp inside)) fits
    rw [byte_settleBools e (by omega), isBoolAt_part room]
  | .struct fields, fits, m, addr, a => by
    simp only [settleBools, TypeRep.isBoolAt]
    apply byte_settleMembers
    intro x found
    exact Nat.le_trans (TypeRep.placedField_inside found) fits
  | .pointer _, _, _, _, _ | .map .., _, _, _, _ | .channel .., _, _, _, _ | .function .., _, _, _, _
  | .slice _, _, _, _, _ => rfl

theorem byte_settleMembers : (fields : List (Member TypeRep)) → (places : List Nat) →
    (∀ x ∈ fields.zip places, x.2 + x.1.type.size ≤ 2 ^ 64) → (m : Memory) → (addr a : UInt64) →
    (m.settleMembers addr fields places).byte a =
      Bytes.settle (TypeRep.isBoolAtMember fields places (a - addr).toNat) (m.byte a)
  | ⟨_, t, _⟩ :: rest, offset :: places, fit, m, addr, a => by
    obtain ⟨first, others⟩ := List.forall_mem_cons.mp fit
    have room : offset + t.size ≤ 2 ^ 64 := first
    rw [settleMembers, byte_settleMembers rest places others, byte_settleBools t (by omega),
      isBoolAt_part room, Bytes.settle_settle, TypeRep.isBoolAtMember]
  | [], _, _, _, _, _ | _ :: _, [], _, _, _, _ => by simp [settleMembers, TypeRep.isBoolAtMember, Bytes.settle]

end

end Memory

end TypeAtlas
