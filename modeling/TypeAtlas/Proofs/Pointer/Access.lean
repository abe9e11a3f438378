import TypeAtlas.Pointer.Slice
import TypeAtlas.Proofs.Bytes

/-!
What single accesses do. The bytes an access touches are counted from its address on, modulo the word;
a region that does not wrap around the address space holds all of them as soon as the bounds check
passes, whatever the offset was before. Copies are made element by element or byte by byte, and both
ways move the same bytes.
-/

namespace TypeAtlas

/-- `a` is one of the `n` bytes from `addr` on. -/
def Reaches (addr : UInt64) (n : Nat) (a : UInt64) : Prop :=
  (a - addr).toNat < n

/-! ### Memory -/

namespace Memory

variable {m : Memory}

theorem byte_write (addr : UInt64) (bytes : List UInt8) (a : UInt64) :
    (m.write addr bytes).byte a = (bytes[(a - addr).toNat]?).getD (m.byte a) :=
  rfl

/-- A write leaves all bytes alone that it does not reach. -/
theorem reaches_of_changed {addr a : UInt64} {bytes : List UInt8}
    (changed : (m.write addr bytes).byte a ≠ m.byte a) : Reaches addr bytes.length a := by
  apply Nat.lt_of_not_le
  intro outside
  rw [byte_write, List.getElem?_eq_none outside, Option.getD_none] at changed
  exact changed rfl

@[simp]
theorem length_read (addr : UInt64) (n : Nat) : (m.read addr n).length = n := by
  simp [read]

theorem read_congr {m' : Memory} {addr : UInt64} {n : Nat}
    (same : ∀ a, Reaches addr n a → m'.byte a = m.byte a) : m'.read addr n = m.read addr n := by
  apply List.map_congr_left
  intro i member
  have inside := List.mem_range.mp member
  apply same
  rw [Reaches, UInt64.add_comm, UInt64.add_sub_cancel, UInt64.toNat_ofNat']
  exact Nat.lt_of_le_of_lt (Nat.mod_le _ _) inside

/-! ### Elements side by side -/

theorem read_add (addr : UInt64) (n k : Nat) :
    m.read addr (n + k) = m.read addr n ++ m.read (addr + UInt64.ofNat n) k := by
  simp only [read, List.range_add, List.map_append, List.map_map]
  congr 1
  apply List.map_congr_left
  intro i _
  simp only [Function.comp, UInt64.ofNat_add, UInt64.add_assoc]

theorem flatten_readElements (addr size : UInt64) (count : Nat) :
    (m.readElements addr size count).flatten = m.read addr (count * size.toNat) := by
  induction count with
  | zero => simp [readElements, read]
  | succ count ih =>
    have last : m.readElements addr size (count + 1) =
        m.readElements addr size count ++ [m.read (addr + UInt64.ofNat count * size) size.toNat] := by
      simp [readElements, List.range_succ]
    rw [last, List.flatten_append, ih, Nat.succ_mul, read_add, UInt64.ofNat_mul, UInt64.ofNat_toNat]
    simp

theorem length_readElements (addr size : UInt64) (n : Nat) : (m.readElements addr size n).length = n := by
  simp [readElements]

theorem getElem?_readElements (addr size : UInt64) {n k : Nat} (position : k < n) :
    (m.readElements addr size n)[k]? = some (m.read (addr + UInt64.ofNat k * size) size.toNat) := by
  simp [readElements, position]

theorem write_append (addr : UInt64) {v w : List UInt8} (small : v.length + w.length ≤ 2 ^ 64) :
    (m.write addr v).write (addr + UInt64.ofNat v.length) w = m.write addr (v ++ w) := by
  unfold write
  congr 1
  funext a
  have shift : (a - (addr + UInt64.ofNat v.length)).toNat =
      (2 ^ 64 - v.length + (a - addr).toNat) % 2 ^ 64 := by
    have start := addr.toNat_lt
    rw [UInt64.toNat_sub, UInt64.toNat_sub, UInt64.toNat_add, UInt64.toNat_ofNat']
    omega
  have range := (a - addr).toNat_lt
  simp only [shift]
  rw [List.getElem?_append]
  split
  · rename_i first
    rw [List.getElem?_eq_none (l := w) (by omega), Option.getD_none]
  · rename_i later
    have index : (2 ^ 64 - v.length + (a - addr).toNat) % 2 ^ 64 = (a - addr).toNat - v.length := by
      omega
    rw [index, List.getElem?_eq_none (l := v) (by omega), Option.getD_none]

theorem writeElements_eq (addr size : UInt64) {values : List (List UInt8)}
    (lengths : ∀ v ∈ values, v.length = size.toNat) (small : values.flatten.length ≤ 2 ^ 64) :
    m.writeElements addr size values = m.write addr values.flatten := by
  induction values generalizing m addr with
  | nil => rfl
  | cons v rest ih =>
    rw [List.forall_mem_cons] at lengths
    rw [List.flatten_cons, List.length_append] at small
    rw [writeElements, ih _ lengths.2 (by omega), List.flatten_cons, ← write_append addr small, lengths.1,
      UInt64.ofNat_toNat]

end Memory

/-! ### Effects -/

/-- What an access comes down to. -/
inductive Effect where
  | refused
  | nothing
  | read (source : UInt64) (n : Nat)
  | write (target : UInt64) (bytes : List UInt8)
  | copy (source target : UInt64) (n : Nat)

namespace Effect

/-- The memory afterwards and the bytes that were read, or nothing if the access was refused. -/
def run (m : Memory) : Effect → Memory × Option (List UInt8)
  | .refused => (m, none)
  | .nothing => (m, some [])
  | .read source n => (m, some (m.read source n))
  | .write target bytes => (m.write target bytes, some [])
  | .copy source target n => (m.write target (m.read source n), some [])

/-- Bytes that an effect touches: where they begin, how many they are, and whether they are written. -/
structure Range where
  start : UInt64
  count : Nat
  isWritten : Bool

def ranges : Effect → List Range
  | .refused | .nothing => []
  | .read source n => [⟨source, n, false⟩]
  | .write target bytes => [⟨target, bytes.length, true⟩]
  | .copy source target n => [⟨source, n, false⟩, ⟨target, n, true⟩]

def Range.Has (r : Range) (a : UInt64) : Prop :=
  Reaches r.start r.count a

theorem run_eq_none {effect : Effect} {m : Memory} (refused : (effect.run m).2 = none) :
    (effect.run m).1 = m := by
  cases effect with
  | refused => rfl
  | nothing | read _ _ | write _ _ | copy _ _ _ => cases refused

theorem changed_isWritten {effect : Effect} {m : Memory} {a : UInt64}
    (changed : (effect.run m).1.byte a ≠ m.byte a) :
    ∃ r ∈ effect.ranges, r.isWritten = true ∧ r.Has a := by
  cases effect with
  | refused | nothing | read _ _ => exact absurd rfl changed
  | write target bytes => exact ⟨_, List.mem_singleton_self _, rfl, Memory.reaches_of_changed changed⟩
  | copy source target n =>
    have reached := Memory.reaches_of_changed changed
    rw [Memory.length_read] at reached
    exact ⟨_, List.mem_cons_of_mem _ (List.mem_singleton_self _), rfl, reached⟩

/-- Memories that agree on the bytes an effect touches answer alike and agree on them afterwards. -/
theorem run_congr {effect : Effect} {m m' : Memory}
    (same : ∀ r ∈ effect.ranges, ∀ a, r.Has a → m'.byte a = m.byte a) :
    (effect.run m').2 = (effect.run m).2 ∧
      ∀ r ∈ effect.ranges, ∀ a, r.Has a → (effect.run m').1.byte a = (effect.run m).1.byte a := by
  cases effect with
  | refused | nothing => exact ⟨rfl, same⟩
  | read source n =>
    refine ⟨?_, same⟩
    simp only [run, Memory.read_congr (same _ (List.mem_singleton_self _))]
  | write target bytes =>
    refine ⟨rfl, ?_⟩
    intro r member a has
    simp only [run, Memory.byte_write, same r member a has]
  | copy source target n =>
    refine ⟨rfl, ?_⟩
    intro r member a has
    simp only [run, Memory.read_congr (same _ List.mem_cons_self), Memory.byte_write, same r member a has]

end Effect

/-! ### Bounds -/

/-- The byte belongs to the region. -/
def Region.Holds (r : Region) (a : UInt64) : Prop :=
  ∃ base, r.origin = .address base ∧ base.toNat ≤ a.toNat ∧ a.toNat < base.toNat + r.size.toNat

/-- The region ends inside the address space. -/
def Region.Fits (r : Region) : Prop :=
  ∀ base, r.origin = .address base → base.toNat + r.size.toNat ≤ 2 ^ 64

@[simp]
theorem Element.length_bytes (e : Element) (value : List UInt8) :
    (e.bytes value).length = e.size.toNat := by
  rw [bytes, Bytes.padTo, Bytes.length_put, List.length_replicate]

/-- The bytes that `count` elements take, in exact arithmetic. Less than none count as none. -/
def Element.bytesOf (e : Element) (count : Int64) : Nat :=
  count.toNatClampNeg * e.size.toNat

theorem Element.bytesOf_zero (e : Element) : e.bytesOf 0 = 0 :=
  Nat.zero_mul _

/-- The bytes of so many elements are counted exactly or not at all. -/
theorem Element.span_eq_some_iff {e : Element} {count : Int64} {n : UInt64} :
    e.span count = some n ↔ 0 ≤ count ∧ n.toNat = count.toNatClampNeg * e.size.toNat := by
  by_cases negative : count < 0
  · have not : ¬ 0 ≤ count := Int64.not_le.mpr negative
    simp [span, negative, not]
  have positive : 0 ≤ count := Int64.not_lt.mp negative
  have number := Int64.toNat_toUInt64_of_le positive
  have zero : e.size = 0 ↔ e.size.toNat = 0 := UInt64.toNat_inj.symm
  have limit : (0xFFFFFFFFFFFFFFFF : UInt64).toNat = 2 ^ 64 - 1 := rfl
  have overflow : (e.size ≠ 0 ∧ 0xFFFFFFFFFFFFFFFF / e.size < count.toUInt64) ↔
      2 ^ 64 ≤ count.toNatClampNeg * e.size.toNat := by
    rw [UInt64.lt_iff_toNat_lt, UInt64.toNat_div, limit, number, Ne, zero]
    by_cases empty : e.size.toNat = 0
    · simp [empty]
    · rw [Nat.div_lt_iff_lt_mul (Nat.pos_of_ne_zero empty)]
      simp only [empty, not_false_iff, true_and]
      omega
  simp only [span, negative, decide_false, Bool.false_or, Bool.and_eq_true, decide_eq_true_eq, overflow,
    positive, true_and]
  split
  · have range := n.toNat_lt
    simp only [reduceCtorEq, false_iff]
    omega
  · have product : (count.toUInt64 * e.size).toNat = count.toNatClampNeg * e.size.toNat := by
      rw [UInt64.toNat_mul, number, Nat.mod_eq_of_lt (by omega)]
    rw [Option.some.injEq, ← UInt64.toNat_inj, product]
    exact eq_comm

theorem Element.span_of_lt {e : Element} {count : Int64} (positive : 0 ≤ count)
    (small : e.bytesOf count < 2 ^ 64) : e.span count = some (UInt64.ofNat (e.bytesOf count)) :=
  Element.span_eq_some_iff.mpr ⟨positive, UInt64.toNat_ofNat_of_lt' small⟩

namespace Pointer

variable {e : Element} {p target : Pointer e} {m : Memory}

/-- The `n` bytes from the pointer on lie inside its region, which has an address, in exact arithmetic. -/
structure Encloses (p : Pointer e) (n : Nat) : Prop where
  located : ∃ base, p.region.origin = .address base
  inside : p.offset.toNat + n ≤ p.region.size.toNat

theorem hasBytes_iff {n : UInt64} : p.hasBytes n = true ↔ p.Encloses n.toNat := by
  unfold hasBytes
  constructor
  · intro has
    cases origin : p.region.origin with
    | none | symbol _ => simp [origin] at has
    | address base =>
      simp only [origin, Bool.and_eq_true, decide_eq_true_eq, UInt64.le_iff_toNat_le] at has
      obtain ⟨start, room⟩ := has
      rw [UInt64.toNat_sub_of_le _ _ (UInt64.le_iff_toNat_le.mpr start)] at room
      exact ⟨⟨base, origin⟩, by omega⟩
  · rintro ⟨⟨base, origin⟩, room⟩
    have start : p.offset.toNat ≤ p.region.size.toNat := by omega
    simp only [origin, Bool.and_eq_true, decide_eq_true_eq, UInt64.le_iff_toNat_le]
    rw [UInt64.toNat_sub_of_le _ _ (UInt64.le_iff_toNat_le.mpr start)]
    omega

/-- All bytes that pass the bounds check belong to the region. -/
theorem holds_of_hasBytes {n : UInt64} {a : UInt64} (fits : p.region.Fits) (has : p.hasBytes n = true)
    (reached : Reaches p.address n.toNat a) : p.region.Holds a := by
  obtain ⟨⟨base, origin⟩, room⟩ := hasBytes_iff.mp has
  have bound := fits base origin
  have start : p.address = base + p.offset := by
    rw [address, Region.start, origin]
  have first := base.toNat_lt
  have last := a.toNat_lt
  rw [Reaches, start, UInt64.toNat_sub, UInt64.toNat_add] at reached
  refine ⟨base, origin, ?_, ?_⟩ <;> omega

/-! ### Reading and writing -/

/-- An access that changes memory, with a report in the form of a read without bytes. -/
def report (r : Memory × Bool) : Memory × Option (List UInt8) :=
  (r.1, if r.2 then some [] else none)

theorem reference?_eq (p : Pointer e) :
    p.reference? = if p.hasBytes e.size && p.isAligned then some p.address else none :=
  rfl

theorem read_effect (p : Pointer e) :
    (∀ m, (m, p.read m) = Effect.refused.run m) ∨
      p.hasBytes e.size = true ∧ ∀ m, (m, p.read m) = (Effect.read p.address e.size.toNat).run m := by
  simp only [read, reference?_eq]
  split
  · rename_i allowed
    exact .inr ⟨(Bool.and_eq_true_iff.mp allowed).1, fun _ => rfl⟩
  · exact .inl fun _ => rfl

theorem readUnaligned_effect (p : Pointer e) :
    (∀ m, (m, p.readUnaligned m) = Effect.refused.run m) ∨
      p.hasBytes e.size = true ∧
        ∀ m, (m, p.readUnaligned m) = (Effect.read p.address e.size.toNat).run m := by
  simp only [readUnaligned]
  split
  · rename_i allowed
    exact .inr ⟨allowed, fun _ => rfl⟩
  · exact .inl fun _ => rfl

theorem write_effect (p : Pointer e) (value : List UInt8) :
    (∀ m, report (p.write m value) = Effect.refused.run m) ∨
      p.hasBytes e.size = true ∧
        ∀ m, report (p.write m value) = (Effect.write p.address (e.bytes value)).run m := by
  simp only [write, reference?_eq]
  split
  · rename_i addr allowed
    split at allowed
    · rename_i bounds
      cases allowed
      exact .inr ⟨(Bool.and_eq_true_iff.mp bounds).1, fun _ => rfl⟩
    · cases allowed
  · exact .inl fun _ => rfl

/-! ### Copying -/

theorem copyElements_eq (count : Nat) (small : count * e.size.toNat ≤ 2 ^ 64) :
    p.copyElements m target count = p.copyBytes m target (count * e.size.toNat) := by
  have flat := Memory.flatten_readElements (m := m) p.address e.size count
  rw [copyElements, copyBytes, ← flat]
  apply Memory.writeElements_eq
  · intro v member
    obtain ⟨i, _, rfl⟩ := List.mem_map.mp member
    exact Memory.length_read _ _
  · rw [flat, Memory.length_read]
    exact small

/-- Elements that both regions have where elements may lie can be copied as bytes, to the same effect. -/
theorem copyElements_eq_copyBytes {count : Int64} (m : Memory) (has : p.hasElements count = true)
    (has' : target.hasElements count = true) :
    ∃ n, e.span count = some n ∧ p.hasBytes n = true ∧ target.hasBytes n = true ∧
      p.copyElements m target count.toUInt64.toNat = p.copyBytes m target n.toNat := by
  rw [hasElements] at has has'
  cases counted : e.span count with
  | none =>
    rw [counted] at has
    cases has
  | some n =>
    obtain ⟨positive, bytes⟩ := Element.span_eq_some_iff.mp counted
    have number := Int64.toNat_toUInt64_of_le positive
    have range := n.toNat_lt
    simp only [counted, Bool.and_eq_true] at has has'
    refine ⟨n, rfl, has.2, has'.2, ?_⟩
    rw [copyElements_eq _ (by rw [number]; omega), number, ← bytes]

/-- Whether elements are copied one by one or as bytes makes no difference. -/
theorem copyTo_eq (m : Memory) (p target : Pointer e) (count : Int64) :
    p.copyTo m target count =
      if count < 0 then (m, false)
      else if count = 0 then (m, true)
      else
        match e.span count with
        | none => (m, false)
        | some n =>
          if p.hasBytes n && target.hasBytes n then (p.copyBytes m target n.toNat, true) else (m, false) := by
  unfold copyTo
  by_cases negative : count < 0
  · rw [if_pos negative, if_pos negative]
  rw [if_neg negative, if_neg negative]
  by_cases none : count = 0
  · rw [if_pos none, if_pos none]
  rw [if_neg none, if_neg none]
  split
  · rename_i aligned
    obtain ⟨has, has'⟩ := Bool.and_eq_true_iff.mp aligned
    obtain ⟨n, counted, bytes, bytes', same⟩ := copyElements_eq_copyBytes m has has'
    simp only [counted, bytes, bytes', same, Bool.and_self, if_true]
  · rfl

/-- There is nothing to copy, or there are elements whose bytes a word counts and both regions have. -/
def CanCopy (p target : Pointer e) (count : Int64) : Prop :=
  count = 0 ∨
    0 < count ∧ e.bytesOf count < 2 ^ 64 ∧ p.Encloses (e.bytesOf count) ∧ target.Encloses (e.bytesOf count)

/-- A copy is made if it is in order, and otherwise it is refused. -/
theorem copyTo_cases (p target : Pointer e) (count : Int64) :
    p.CanCopy target count ∧
        (∀ m, p.copyTo m target count = (p.copyBytes m target (e.bytesOf count), true)) ∨
      ¬ p.CanCopy target count ∧ ∀ m, p.copyTo m target count = (m, false) := by
  simp only [copyTo_eq]
  by_cases negative : count < 0
  · refine .inr ⟨?_, fun _ => if_pos negative⟩
    rintro (rfl | ⟨positive, _⟩)
    · exact absurd negative (by decide)
    · exact Int64.lt_irrefl (Int64.lt_trans negative positive)
  simp only [if_neg negative]
  by_cases none : count = 0
  · subst none
    refine .inl ⟨.inl rfl, ?_⟩
    intro m
    rw [if_pos rfl, Element.bytesOf_zero]
    rfl
  simp only [if_neg none]
  have positive : 0 < count := Int64.lt_of_le_of_ne (Int64.not_lt.mp negative) (Ne.symm none)
  cases counted : e.span count with
  | none =>
    refine .inr ⟨?_, fun _ => rfl⟩
    rintro (zero | ⟨_, small, _⟩)
    · exact none zero
    · rw [Element.span_of_lt (Int64.le_of_lt positive) small] at counted
      cases counted
  | some n =>
    have bytes : n.toNat = e.bytesOf count := (Element.span_eq_some_iff.mp counted).2
    have small := n.toNat_lt
    have both : (p.hasBytes n && target.hasBytes n) = true ↔
        p.Encloses (e.bytesOf count) ∧ target.Encloses (e.bytesOf count) := by
      rw [Bool.and_eq_true, hasBytes_iff, hasBytes_iff, bytes]
    rw [bytes] at small
    simp only [bytes]
    split
    · rename_i allowed
      exact .inl ⟨.inr ⟨positive, small, both.mp allowed⟩, fun _ => rfl⟩
    · rename_i forbidden
      refine .inr ⟨?_, fun _ => rfl⟩
      rintro (zero | ⟨_, _, enclosed⟩)
      · exact none zero
      · exact forbidden (both.mpr enclosed)

/-- A copy is refused, copies nothing, or copies elements that both regions have. -/
theorem copyTo_effect (p target : Pointer e) (count : Int64) :
    (∀ m, report (p.copyTo m target count) = Effect.refused.run m) ∨
      count = 0 ∧ (∀ m, report (p.copyTo m target count) = Effect.nothing.run m) ∨
      0 < count ∧ ∃ n : UInt64, n.toNat = count.toNatClampNeg * e.size.toNat ∧
        p.hasBytes n = true ∧ target.hasBytes n = true ∧
        ∀ m, report (p.copyTo m target count) = (Effect.copy p.address target.address n.toNat).run m := by
  rcases copyTo_cases p target count with ⟨allowed, done⟩ | ⟨_, refused⟩
  · rcases allowed with rfl | ⟨positive, small, enclosed, enclosed'⟩
    · refine .inr (.inl ⟨rfl, ?_⟩)
      intro m
      rw [done, Element.bytesOf_zero]
      rfl
    · have bytes : (UInt64.ofNat (e.bytesOf count)).toNat = e.bytesOf count :=
        UInt64.toNat_ofNat_of_lt' small
      refine .inr (.inr ⟨positive, _, bytes, ?_, ?_, ?_⟩)
      · rwa [hasBytes_iff, bytes]
      · rwa [hasBytes_iff, bytes]
      · simp only [done, bytes]
        exact fun _ => rfl
  · simp only [refused]
    exact .inl fun _ => rfl

/-- Ranges that overlap are refused before memory is looked at; all others are copied. -/
theorem copyToNonoverlapping_cases (p target : Pointer e) (count : Int64) :
    (∀ m, p.copyToNonoverlapping m target count = (m, false)) ∨
      ∀ m, p.copyToNonoverlapping m target count = p.copyTo m target count := by
  simp only [copyToNonoverlapping]
  split
  · split
    · exact .inl fun _ => rfl
    · split
      · exact .inl fun _ => rfl
      · exact .inr fun _ => rfl
  · exact .inr fun _ => rfl

end Pointer

end TypeAtlas
