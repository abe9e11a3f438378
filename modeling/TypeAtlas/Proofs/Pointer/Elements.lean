import TypeAtlas.Proofs.Pointer.Access
import TypeAtlas.Proofs.Pointer.Displacement

/-!
Slices as wholes and element by element. The whole is measured once, with one product and one look at the
alignment; elements are looked up one at a time, by moves that wrap around. Both agree: if each element lies
inside the region then no move between them has wrapped, so that the bytes of all of them do. Elements that
take no room are the exception. Each of them can be used, but a slice of them cannot be had as a whole.
-/

namespace TypeAtlas

/-! ### Elements that can lie side by side -/

/-- Alignments are powers of two, and sizes are multiples of them. -/
structure Element.IsRegular (e : Element) : Prop where
  power : ∃ b, e.align.toNat = 2 ^ b
  multiple : e.align.toNat ∣ e.size.toNat

theorem Element.toNat_size_ofType {t : TypeRep} (small : t.size < 2 ^ 64) :
    (Element.ofType t).size.toNat = t.size :=
  UInt64.toNat_ofNat_of_lt' small

theorem Element.toNat_align_ofType (t : TypeRep) : (Element.ofType t).align.toNat = t.align := by
  obtain ⟨b, low, align⟩ := t.exists_align_eq_two_pow
  have short : t.align < 2 ^ 64 := by
    rw [align]
    exact Nat.pow_lt_pow_right (by decide) (by omega)
  exact UInt64.toNat_ofNat_of_lt' short

/-- So it is for every type that a word can measure. -/
theorem Element.isRegular_ofType {t : TypeRep} (small : t.size < 2 ^ 64) :
    (Element.ofType t).IsRegular := by
  obtain ⟨b, _, align⟩ := t.exists_align_eq_two_pow
  constructor
  · exact ⟨b, (toNat_align_ofType t).trans align⟩
  · rw [toNat_align_ofType, toNat_size_ofType small]
    exact Nat.dvd_of_mod_eq_zero t.size_mod_align

/-- Wrapping around does not change what is a multiple of the alignment. -/
theorem Element.IsRegular.dvd_word {e : Element} (regular : e.IsRegular) : e.align.toNat ∣ 2 ^ 64 := by
  obtain ⟨b, power⟩ := regular.power
  have word := e.align.toNat_lt
  rw [power] at word ⊢
  exact Nat.pow_dvd_pow 2 (Nat.le_of_lt ((Nat.pow_lt_pow_iff_right (by decide)).mp word))

namespace Pointer

variable {e : Element} {p : Pointer e} {n k : Nat}

/-- The pointer `k` elements on. -/
def ahead (p : Pointer e) (k : Nat) : Pointer e :=
  p.byteAdd (UInt64.ofNat k * e.size)

theorem ahead_zero : p.ahead 0 = p := by
  have none : UInt64.ofNat 0 * e.size = 0 := UInt64.zero_mul
  rw [ahead, none, byteAdd_zero]

theorem offsetBy_of_nonneg {i : Int64} (positive : 0 ≤ i) : p.offsetBy i = p.ahead i.toNatClampNeg := by
  have word : i.toUInt64 = UInt64.ofNat i.toNatClampNeg := by
    rw [← Int64.toNat_toUInt64_of_le positive, UInt64.ofNat_toNat]
  rw [offsetBy, ahead, word]

theorem toNat_offset_ahead (small : p.offset.toNat + k * e.size.toNat < 2 ^ 64) :
    (p.ahead k).offset.toNat = p.offset.toNat + k * e.size.toNat := by
  rw [ahead, byteAdd, UInt64.toNat_add, UInt64.toNat_mul, UInt64.toNat_ofNat', Nat.mod_mul_mod,
    Nat.add_mod_mod, Nat.mod_eq_of_lt small]

theorem isAligned_iff : p.isAligned = true ↔ e.align.toNat ∣ p.address.toNat := by
  rw [isAligned, beq_iff_eq, ← UInt64.toNat_inj, UInt64.toNat_mod]
  exact (Nat.dvd_iff_mod_eq_zero ..).symm

/-- From an aligned pointer all elements are aligned. -/
theorem isAligned_ahead (regular : e.IsRegular) (aligned : p.isAligned = true) :
    (p.ahead k).isAligned = true := by
  rw [isAligned_iff] at aligned ⊢
  rw [ahead, address_byteAdd, UInt64.toNat_add, UInt64.toNat_mul, Nat.dvd_mod_iff regular.dvd_word]
  apply Nat.dvd_add aligned
  rw [Nat.dvd_mod_iff regular.dvd_word]
  exact Nat.dvd_mul_left_of_dvd regular.multiple _

/-! ### All elements and each of them -/

theorem encloses_ahead (enclosed : p.Encloses (n * e.size.toNat)) (position : k < n) :
    (p.ahead k).Encloses e.size.toNat := by
  have inside := enclosed.inside
  have size := p.region.size.toNat_lt
  have next : (k + 1) * e.size.toNat ≤ n * e.size.toNat := Nat.mul_le_mul_right _ position
  rw [Nat.succ_mul] at next
  refine ⟨enclosed.located, ?_⟩
  rw [toNat_offset_ahead (by omega)]
  show _ ≤ p.region.size.toNat
  omega

/-- Elements that each lie inside the region do so together. One after the other their offsets turn out to
be exact, for the next begins where the last one ended, inside the region. -/
theorem encloses_of_each (each : ∀ k < n, (p.ahead k).Encloses e.size.toNat) (some : 0 < n) :
    p.Encloses (n * e.size.toNat) := by
  have size := p.region.size.toNat_lt
  have first := each 0 some
  rw [ahead_zero] at first
  have upTo : ∀ k ≤ n, p.offset.toNat + k * e.size.toNat ≤ p.region.size.toNat := by
    intro k
    induction k with
    | zero =>
      intro _
      have inside := first.inside
      omega
    | succ k ih =>
      intro last
      have here := ih (Nat.le_of_succ_le last)
      have inside : (p.ahead k).offset.toNat + e.size.toNat ≤ p.region.size.toNat := (each k last).inside
      rw [toNat_offset_ahead (by omega)] at inside
      rw [Nat.succ_mul]
      omega
  exact ⟨first.located, upTo n (Nat.le_refl n)⟩

theorem reference?_ne_none_iff :
    p.reference? ≠ none ↔ p.Encloses e.size.toNat ∧ p.isAligned = true := by
  rw [reference?_eq, ← hasBytes_iff, ← Bool.and_eq_true_iff]
  split
  · rename_i allowed
    simp [allowed]
  · rename_i forbidden
    simp [forbidden]

theorem read_of_reference? {m : Memory} (usable : p.reference? ≠ none) :
    p.read m = some (m.read p.address e.size.toNat) := by
  rw [reference?_eq] at usable
  rw [read, reference?_eq]
  split
  · rfl
  · rename_i forbidden
    exact absurd (if_neg forbidden) usable

theorem hasElements_iff (sized : e.size ≠ 0) {count : Int64} (positive : 0 ≤ count) :
    p.hasElements count = true ↔ p.Encloses (e.bytesOf count) ∧ p.isAligned = true := by
  cases counted : e.span count with
  | none =>
    have large : ¬ e.bytesOf count < 2 ^ 64 := by
      intro small
      rw [Element.span_of_lt positive small] at counted
      cases counted
    simp only [hasElements, counted, Bool.false_eq_true, false_iff]
    rintro ⟨enclosed, _⟩
    have inside := enclosed.inside
    have size := p.region.size.toNat_lt
    omega
  | some n =>
    have bytes : n.toNat = e.bytesOf count := (Element.span_eq_some_iff.mp counted).2
    simp only [hasElements, counted, Bool.and_eq_true, decide_eq_true_eq, sized, not_false_iff, true_and,
      hasBytes_iff, bytes, ne_eq]
    exact and_comm

theorem hasElements_of_empty (empty : e.size = 0) (count : Int64) : p.hasElements count = false := by
  unfold hasElements
  split
  · simp [empty]
  · rfl

/-- Elements that take room are there as a whole if each of them can be used. -/
theorem hasElements_iff_each (regular : e.IsRegular) (sized : e.size ≠ 0) {count : Int64}
    (some : 0 < count) :
    p.hasElements count = true ↔ ∀ k < count.toNatClampNeg, (p.ahead k).reference? ≠ none := by
  have first : 0 < count.toNatClampNeg := (Int64.toNatClampNeg_pos_iff count).mpr some
  rw [hasElements_iff sized (Int64.le_of_lt some)]
  simp only [reference?_ne_none_iff]
  constructor
  · rintro ⟨enclosed, aligned⟩ k position
    exact ⟨encloses_ahead enclosed position, isAligned_ahead regular aligned⟩
  · intro each
    have start := (each 0 first).2
    rw [ahead_zero] at start
    exact ⟨encloses_of_each (fun k position => (each k position).1) first, start⟩

end Pointer

/-! ### Slices -/

theorem Word.toNatClampNeg_lt {i j : Int64} (low : 0 ≤ i) (less : i < j) :
    i.toNatClampNeg < j.toNatClampNeg := by
  have number := Int64.cast_toNatClampNeg i low
  have number' := Int64.cast_toNatClampNeg j (Int64.le_of_lt (Int64.lt_of_le_of_lt low less))
  have below := Int64.lt_iff_toInt_lt.mp less
  omega

namespace Slice

variable {e : Element} {s : Slice e} {m : Memory}

theorem get?_of_inside {i : Int64} (low : 0 ≤ i) (high : i < s.length) :
    s.get? i = some (s.data.ahead i.toNatClampNeg) := by
  have inside : (i < 0 || s.length ≤ i) = false := by
    simp [Int64.not_lt.mpr low, Int64.not_le.mpr high]
  rw [get?, inside, getUnchecked, Pointer.offsetBy_of_nonneg low]
  rfl

/-- The length is no negative number, and looking up any element gives a pointer that can be used. -/
structure EachUsable (s : Slice e) : Prop where
  length : 0 ≤ s.length
  element : ∀ i, 0 ≤ i → i < s.length → ∃ q, s.get? i = some q ∧ q.reference? ≠ none

theorem eachUsable_iff :
    s.EachUsable ↔
      0 ≤ s.length ∧ ∀ k < s.length.toNatClampNeg, (s.data.ahead k).reference? ≠ none := by
  constructor
  · rintro ⟨positive, element⟩
    refine ⟨positive, ?_⟩
    intro k position
    have small := s.length.toNatClampNeg_lt
    have number := Int64.toInt_ofNat_of_lt (show k < 2 ^ 63 by omega)
    have length := Int64.cast_toNatClampNeg s.length positive
    have low : 0 ≤ Int64.ofNat k := Int64.le_iff_toInt_le.mpr (by rw [number]; exact Int.natCast_nonneg k)
    have high : Int64.ofNat k < s.length := Int64.lt_iff_toInt_lt.mpr (by omega)
    obtain ⟨q, found, usable⟩ := element _ low high
    rw [get?_of_inside low high, Int64.toNatClampNeg_ofNat_of_lt (by omega)] at found
    rwa [Option.some.inj found]
  · rintro ⟨positive, element⟩
    refine ⟨positive, ?_⟩
    intro i low high
    exact ⟨_, get?_of_inside low high, element _ (Word.toNatClampNeg_lt low high)⟩

/-! ### The whole and its elements -/

/-- A slice can be had as a whole if each element can be used, provided that elements take room or there
are none. -/
theorem exists_values?_iff (regular : e.IsRegular) (m : Memory) (s : Slice e) :
    (∃ vs, s.values? m = some vs) ↔ s.EachUsable ∧ (e.size ≠ 0 ∨ s.length = 0) := by
  rw [eachUsable_iff, values?]
  by_cases negative : s.length < 0
  · simp [if_pos negative, Int64.not_le.mpr negative]
  rw [if_neg negative]
  by_cases none : s.length = 0
  · simp [none]
  rw [if_neg none]
  have positive := Int64.not_lt.mp negative
  have some : 0 < s.length := Int64.lt_of_le_of_ne positive (Ne.symm none)
  by_cases empty : e.size = 0
  · rw [Pointer.hasElements_of_empty empty]
    simp [empty, none]
  · rw [← Pointer.hasElements_iff_each regular empty some]
    by_cases has : s.data.hasElements s.length = true
    · simp [has, positive, empty]
    · simp [has]

theorem eq_readElements_of_values? {vs : List (List UInt8)} (whole : s.values? m = some vs) :
    vs = m.readElements s.data.address e.size s.length.toNatClampNeg := by
  unfold values? at whole
  split at whole
  · cases whole
  rename_i nonnegative
  split at whole
  · rename_i none
    cases whole
    rw [none]
    rfl
  split at whole
  · cases whole
    rw [Int64.toNat_toUInt64_of_le (Int64.not_lt.mp nonnegative)]
  · cases whole

/-- Each element can be used. It is read as the bytes that the whole has at its position. -/
structure Comprises (m : Memory) (s : Slice e) (vs : List (List UInt8)) : Prop where
  length : (vs.length : Int) = s.length.toInt
  element : ∀ i, 0 ≤ i → i < s.length →
    ∃ q v, s.get? i = some q ∧ q.read m = some v ∧ vs[i.toNatClampNeg]? = some v

theorem comprises_of_values? (regular : e.IsRegular) {vs : List (List UInt8)}
    (whole : s.values? m = some vs) : s.Comprises m vs := by
  have usable := ((exists_values?_iff regular m s).mp ⟨vs, whole⟩).1
  have values := eq_readElements_of_values? whole
  constructor
  case length =>
    rw [values, Memory.length_readElements]
    exact Int64.cast_toNatClampNeg s.length usable.length
  case element =>
    intro i low high
    have position := Word.toNatClampNeg_lt low high
    have read := Pointer.read_of_reference? (m := m) ((eachUsable_iff.mp usable).2 _ position)
    refine ⟨_, _, get?_of_inside low high, read, ?_⟩
    rw [values, Memory.getElem?_readElements _ _ position, Pointer.ahead, Pointer.address_byteAdd]

/-- A slice can be had as a whole exactly if each element can be used, and then it comprises them. -/
structure Agrees (m : Memory) (s : Slice e) : Prop where
  whole : (∃ vs, s.values? m = some vs) ↔ s.EachUsable
  parts : ∀ vs, s.values? m = some vs → s.Comprises m vs

/-- There are elements and each of them can be used, but they take no room. -/
structure Weightless (s : Slice e) : Prop where
  empty : e.size = 0
  some : 0 < s.length
  usable : s.EachUsable

/-- Only slices of elements that take no room differ from their elements. They cannot be had as a whole;
a whole that can be had always comprises the elements. -/
theorem agrees_iff_not_weightless (regular : e.IsRegular) (m : Memory) (s : Slice e) :
    (s.Agrees m ↔ ¬ s.Weightless) ∧ (s.Weightless → s.values? m = none) ∧
      ∀ vs, s.values? m = some vs → s.Comprises m vs := by
  have exists_iff := exists_values?_iff regular m s
  have refused : s.Weightless → ¬ ∃ vs, s.values? m = some vs := by
    rintro ⟨empty, some, _⟩ whole
    rcases (exists_iff.mp whole).2 with sized | none
    · exact sized empty
    · exact Int64.lt_irrefl (none ▸ some)
  refine ⟨⟨?_, ?_⟩, ?_, fun _ => comprises_of_values? regular⟩
  · rintro ⟨whole, _⟩ weightless
    exact refused weightless (whole.mpr weightless.usable)
  · intro heavy
    refine ⟨?_, fun _ => comprises_of_values? regular⟩
    rw [exists_iff, and_iff_left_iff_imp]
    intro usable
    by_cases empty : e.size = 0
    · right
      apply Decidable.byContradiction
      intro some
      exact heavy ⟨empty, Int64.lt_of_le_of_ne usable.length (Ne.symm some), usable⟩
    · exact .inl empty
  · intro weightless
    exact Option.eq_none_iff_forall_ne_some.mpr fun vs whole => refused weightless ⟨vs, whole⟩

/-- Elements without room can be used wherever the first one can. -/
theorem eachUsable_of_empty (empty : e.size = 0) (length : 0 ≤ s.length) (usable : s.data.reference? ≠ none) :
    s.EachUsable := by
  refine eachUsable_iff.mpr ⟨length, ?_⟩
  intro k _
  have still : s.data.ahead k = s.data := by
    rw [Pointer.ahead, empty, UInt64.mul_zero, Pointer.byteAdd_zero]
  rwa [still]

/-- Two records without fields, at the start of four bytes. -/
def emptyPair : Slice (.ofType (.struct [])) :=
  ⟨.ofBytes (some 64) 4, 2⟩

theorem emptyPair_not_whole :
    emptyPair.EachUsable ∧ emptyPair.values? ⟨fun _ => 0⟩ = none ∧ ¬ emptyPair.Agrees ⟨fun _ => 0⟩ := by
  have weightless : emptyPair.Weightless :=
    ⟨by decide, by decide, eachUsable_of_empty (by decide) (by decide) (by decide)⟩
  obtain ⟨agrees, refused, _⟩ :=
    agrees_iff_not_weightless (Element.isRegular_ofType (by decide)) ⟨fun _ => 0⟩ emptyPair
  exact ⟨weightless.usable, refused weightless, fun both => agrees.mp both weightless⟩

end Slice

end TypeAtlas
