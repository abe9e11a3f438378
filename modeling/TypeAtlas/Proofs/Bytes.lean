import Mathlib.Algebra.Group.Nat.Defs
import TypeAtlas.LinearMemory
import TypeAtlas.Proofs.Extent
import TypeAtlas.Value

/-!
Bytes of values and of linear memory, one at a time. Every operation that moves bytes is described by
what it puts at each position, so that a frame is the other branch of one case distinction.
-/

namespace TypeAtlas

namespace Bytes

variable {offset size : Nat} {part bytes : List UInt8}

@[simp]
theorem length_put : (put offset part bytes).length = bytes.length := by
  unfold put
  split
  · simp only [List.length_take, List.length_append, List.length_drop]
    omega
  · rfl

/-- What is put covers its own range and nothing else. -/
theorem getElem?_put (fits : offset + part.length ≤ bytes.length) (i : Nat) :
    (put offset part bytes)[i]? =
      if offset ≤ i ∧ i < offset + part.length then part[i - offset]? else bytes[i]? := by
  rw [put, if_pos (by omega)]
  have before : (bytes.take offset).length = offset := by
    rw [List.length_take]
    omega
  by_cases inside : i < bytes.length
  · rw [List.getElem?_take_of_lt inside, List.append_assoc, List.getElem?_append, before]
    split
    · rename_i earlier
      rw [if_neg (by omega), List.getElem?_take_of_lt earlier]
    · rw [List.getElem?_append]
      split
      · rw [if_pos (by omega)]
      · rw [if_neg (by omega), List.getElem?_drop]
        congr 1
        omega
  · rw [if_neg (by omega), List.getElem?_eq_none (by simp only [List.length_take]; omega),
      List.getElem?_eq_none (by omega)]

@[simp]
theorem put_nil : put offset [] bytes = bytes := by
  simp [put]

/-- Bytes that are as many as those they are put over replace them all. -/
theorem put_whole (same : part.length = bytes.length) : put 0 part bytes = part := by
  rw [put, if_pos (Nat.zero_le _), List.take_zero, List.nil_append, Nat.zero_add,
    List.drop_eq_nil_of_le (Nat.le_of_eq same.symm), List.append_nil, ← same, List.take_length]

theorem length_sub (fits : offset + size ≤ bytes.length) : (sub offset size bytes).length = size := by
  rw [sub, List.length_take, List.length_drop]
  omega

theorem getElem?_sub {i : Nat} (inside : i < size) : (sub offset size bytes)[i]? = bytes[offset + i]? := by
  rw [sub, List.getElem?_take_of_lt inside, List.getElem?_drop]

theorem sub_append (fits : offset + size ≤ bytes.length) (rest : List UInt8) :
    sub offset size (bytes ++ rest) = sub offset size bytes := by
  rw [sub, sub, List.drop_append_of_le_length (by omega),
    List.take_append_of_le_length (by rw [List.length_drop]; omega)]

/-- A byte as a truth value, if it is one. -/
def settle (isBool : Bool) (b : UInt8) : UInt8 :=
  if isBool && 1 < b then 1 else b

theorem settle_of_le {b : UInt8} (isBool : Bool) (small : b ≤ 1) : settle isBool b = b := by
  have settled : ¬ 1 < b := UInt8.not_lt.mpr small
  simp [settle, settled]

@[simp]
theorem length_settleBools (t : TypeRep) (start : Nat) :
    (settleBools t start bytes).length = bytes.length := by
  simp [settleBools]

theorem getElem?_settleBools (t : TypeRep) (start i : Nat) :
    (settleBools t start bytes)[i]? =
      bytes[i]?.map (settle (start ≤ i && t.isBoolAt (i - start))) := by
  rw [settleBools, List.getElem?_mapIdx]
  rfl

end Bytes

/-! ### Where truth values are -/

namespace TypeRep

mutual

theorem lt_size_of_isBoolAt : (t : TypeRep) → (i : Nat) → t.isBoolAt i = true → i < t.size
  | .primitive p, i, isBool => by
    simp only [isBoolAt, Bool.and_eq_true, beq_iff_eq] at isBool
    obtain ⟨rfl, rfl⟩ := isBool
    decide
  | .named _ d, i, isBool => by
    simp only [isBoolAt] at isBool
    exact lt_size_of_isBoolAt d i isBool
  | .array n e, i, isBool => by
    simp only [isBoolAt, Bool.and_eq_true, decide_eq_true_eq] at isBool
    have inner := lt_size_of_isBoolAt e _ isBool.2
    show i < n * e.size
    exact (Nat.div_lt_iff_lt_mul (Nat.lt_of_le_of_lt (Nat.zero_le _) inner)).mp isBool.1
  | .struct fields, i, isBool => by
    simp only [isBoolAt] at isBool
    obtain ⟨m, o, member, inner⟩ := covered_of_isBoolAtMember fields (offsets fields) i isBool
    exact Nat.lt_of_lt_of_le inner (placedField_inside member)
  | .pointer _, _, isBool | .map .., _, isBool | .channel .., _, isBool | .function .., _, isBool
  | .slice _, _, isBool => by cases isBool

theorem covered_of_isBoolAtMember : (fields : List (Member TypeRep)) → (places : List Nat) → (i : Nat) →
    isBoolAtMember fields places i = true →
      ∃ m o, (m, o) ∈ fields.zip places ∧ i < o + m.type.size
  | ⟨name, t, tag⟩ :: rest, o :: places, i, isBool => by
    simp only [isBoolAtMember, Bool.or_eq_true, Bool.and_eq_true, decide_eq_true_eq] at isBool
    rcases isBool with ⟨start, here⟩ | later
    · have inner := lt_size_of_isBoolAt t _ here
      exact ⟨⟨name, t, tag⟩, o, List.mem_cons_self, Nat.sub_lt_iff_lt_add' start |>.mp inner⟩
    · obtain ⟨m, o', member, inner⟩ := covered_of_isBoolAtMember rest places i later
      exact ⟨m, o', List.mem_cons_of_mem _ member, inner⟩
  | [], _, _, isBool | _ :: _, [], _, isBool => by simp [isBoolAtMember] at isBool

end

mutual

/-- A type with a truth value in it has bytes. -/
theorem size_pos_of_hasBool : (t : TypeRep) → t.hasBool = true → 0 < t.size
  | .primitive p, has => by
    simp only [hasBool, beq_iff_eq] at has
    subst has
    decide
  | .named _ d, has => by
    simp only [hasBool] at has
    exact size_pos_of_hasBool d has
  | .array n e, has => by
    simp only [hasBool, Bool.and_eq_true, decide_eq_true_eq] at has
    exact Nat.mul_pos has.1 (size_pos_of_hasBool e has.2)
  | .struct fields, has => by
    simp only [hasBool] at has
    obtain ⟨m, found, positive⟩ := member_of_hasBoolMember fields has
    obtain ⟨o, member⟩ := exists_placedField found
    have inside := placedField_inside member
    omega
  | .pointer _, has | .map .., has | .channel .., has | .function .., has | .slice _, has => by cases has

theorem member_of_hasBoolMember : (fields : List (Member TypeRep)) → hasBoolMember fields = true →
    ∃ m ∈ fields, 0 < m.type.size
  | [], has => by cases has
  | ⟨name, t, tag⟩ :: rest, has => by
    simp only [hasBoolMember, Bool.or_eq_true] at has
    rcases has with here | later
    · exact ⟨_, List.mem_cons_self, size_pos_of_hasBool t here⟩
    · obtain ⟨m, found, positive⟩ := member_of_hasBoolMember rest later
      exact ⟨m, List.mem_cons_of_mem _ found, positive⟩

end

theorem isBoolAt_of_empty {t : TypeRep} (empty : t.size = 0) (i : Nat) : t.isBoolAt i = false :=
  Bool.eq_false_iff.mpr fun truth => by
    have := t.lt_size_of_isBoolAt i truth
    omega

theorem hasBool_of_empty {t : TypeRep} (empty : t.size = 0) : t.hasBool = false :=
  Bool.eq_false_iff.mpr fun has => by
    have := t.size_pos_of_hasBool has
    omega

end TypeRep

/-! ### Linear memory -/

namespace LinearMemory

variable {m : LinearMemory} {addr : UInt32}

theorem toNat_sub_address {a : UInt32} (after : addr.toNat ≤ a.toNat) :
    (a - addr).toNat = a.toNat - addr.toNat :=
  UInt32.toNat_sub_of_le _ _ (UInt32.le_iff_toNat_le.mpr after)

/-- Data that ends before the last address is put at its own range and nowhere else. -/
theorem byte_put {data : List UInt8} (fits : addr.toNat + data.length ≤ 2 ^ 32) (a : UInt32) :
    some ((m.put addr data).byte a) =
      if addr.toNat ≤ a.toNat ∧ a.toNat < addr.toNat + data.length then data[a.toNat - addr.toNat]?
      else some (m.byte a) := by
  have range := a.toNat_lt
  have start := addr.toNat_lt
  simp only [put]
  by_cases after : addr.toNat ≤ a.toNat
  · rw [toNat_sub_address after]
    split
    · rename_i inside
      rw [List.getElem?_eq_getElem (by omega), Option.getD_some]
    · rw [List.getElem?_eq_none (by omega), Option.getD_none]
  · rw [if_neg (by omega)]
    have before : (a - addr).toNat = 2 ^ 32 - addr.toNat + a.toNat := by
      rw [UInt32.toNat_sub, Nat.mod_eq_of_lt (by omega)]
    rw [List.getElem?_eq_none (by omega), Option.getD_none]

theorem length_bytes (n : Nat) : (m.bytes addr n).length = n := by
  simp [bytes]

theorem getElem?_bytes {n i : Nat} (inside : i < n) :
    (m.bytes addr n)[i]? = some (m.byte (addr + UInt32.ofNat i)) := by
  simp [bytes, inside]

theorem toNat_add_address {i : Nat} (fits : addr.toNat + i < 2 ^ 32) :
    (addr + UInt32.ofNat i).toNat = addr.toNat + i := by
  rw [UInt32.toNat_add, UInt32.toNat_ofNat_of_lt' (show i < 2 ^ 32 by omega), Nat.mod_eq_of_lt fits]

theorem toNat_add_place {place : UInt32} (fits : addr.toNat + place.toNat < 2 ^ 32) :
    (addr + place).toNat = addr.toNat + place.toNat := by
  rw [UInt32.toNat_add, Nat.mod_eq_of_lt fits]

theorem read_inside (readable : m.readable = true) {path : List Text} {n : UInt32}
    (inside : addr.toNat + n.toNat ≤ m.size.toNat) : m.read path addr n = .ok (m.bytes addr n.toNat) := by
  simp [read, contains, readable, inside]

/-- A write is refused, or it puts its bytes and costs one of the writes that are left. -/
theorem write_cases (m : LinearMemory) (path : List Text) (addr : UInt32) (data : List UInt8) :
    (∃ f, m.write path addr data = (m, .error f)) ∧
        (m.size.toNat < addr.toNat + data.length ∨ m.writesLeft = some 0) ∨
      ∃ after, m.write path addr data = (after, .ok ()) ∧ after.size = m.size ∧
        after.byte = (m.put addr data).byte ∧ m.writesLeft = after.writesLeft.map (· + 1) := by
  by_cases passes : (m.contains addr (UInt32.ofNat data.length) && m.writesLeft != some 0) = true
  · right
    refine ⟨_, if_pos passes, rfl, rfl, ?_⟩
    have left := (Bool.and_eq_true_iff.mp passes).2
    cases writes : m.writesLeft with
    | none => rfl
    | some n =>
      have positive : n ≠ 0 := by simpa [writes] using left
      simp only [Option.map_some, Nat.sub_add_cancel (Nat.pos_of_ne_zero positive)]
  · left
    refine ⟨⟨_, if_neg passes⟩, ?_⟩
    rcases Bool.and_eq_false_iff.mp (Bool.eq_false_iff.mpr passes) with outside | spent
    · have word : (UInt32.ofNat data.length).toNat ≤ data.length := by
        rw [UInt32.toNat_ofNat']
        exact Nat.mod_le _ _
      have := of_decide_eq_false outside
      exact .inl (by omega)
    · exact .inr (by simpa using spent)

/-- A memory that refuses nothing takes every write inside it. -/
theorem write_inside (free : m.writesLeft = none) {path : List Text} {data : List UInt8}
    (inside : addr.toNat + data.length ≤ m.size.toNat) :
    m.write path addr data = (m.put addr data, .ok ()) := by
  have small : data.length < 2 ^ 32 := by
    have := m.size.toNat_lt
    omega
  have contained : m.contains addr (UInt32.ofNat data.length) = true := by
    simp only [contains, UInt32.toNat_ofNat_of_lt' small, decide_eq_true_eq]
    exact inside
  simp [write, contained, free, put]

end LinearMemory

end TypeAtlas
