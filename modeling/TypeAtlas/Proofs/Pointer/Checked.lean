import Mathlib.Algebra.Group.Int.Defs
import Mathlib.Algebra.Group.Nat.Defs
import TypeAtlas.Pointer.Move

/-!
Moves that are checked against the region. The product of count and size, the offset and the room that is
left are all compared as signed words, while offsets and sizes of regions are unsigned. An accepted move
is exact all the same: it starts and stops inside the region and covers the distance that was asked for.
But a move is accepted only where signed words can count both parts of the region, the one before the
pointer and the one after it; otherwise even staying in place is refused.
-/

namespace TypeAtlas

/-! ### Signed words -/

namespace Word

theorem toInt_toInt64 (w : UInt64) : w.toInt64.toInt = (w.toNat : Int).bmod (2 ^ 64) :=
  BitVec.toInt_eq_toNat_bmod _

theorem toNat_toUInt64 (i : Int64) : (i.toUInt64.toNat : Int) = i.toInt % 2 ^ 64 := by
  have signed : i.toInt = (i.toUInt64.toNat : Int).bmod (2 ^ 64) := BitVec.toInt_eq_toNat_bmod _
  have range := i.toUInt64.toNat_lt
  rw [Int.bmod_def] at signed
  omega

/-- A number that a signed word holds is not changed by wrapping. -/
theorem bmod_of_toInt {i : Int64} {n : Int} (word : i.toInt = n) : n.bmod (2 ^ 64) = n := by
  have low := i.le_toInt
  have high := i.toInt_lt
  exact Int.bmod_eq_of_le (by omega) (by omega)

/-- Dividing the wrapped product by one factor gives the other only if nothing was wrapped, with one
exception: the least number divided by minus one is itself. -/
theorem mul_div_eq_iff {a b : Int64} (nonzero : b ≠ 0) (ordinary : ¬ (b = -1 ∧ a = Int64.minValue)) :
    a * b / b = a ↔ (a * b).toInt = a.toInt * b.toInt := by
  have divisor : b.toInt ≠ 0 := fun zero => nonzero (Int64.toInt_inj.mp zero)
  rw [← Int64.toInt_inj, Int64.toInt_div]
  constructor
  · intro back
    have low := (a * b).le_toInt
    have high := (a * b).toInt_lt
    have least := b.le_toInt
    have greatest := b.toInt_lt
    have wrapped := Int.bmod_eq_self_sub_mul_bdiv (a.toInt * b.toInt) (2 ^ 64)
    rw [← Int64.toInt_mul] at wrapped
    have whole := Int.mul_tdiv_add_tmod (a * b).toInt b.toInt
    have rest : ((a * b).toInt.tmod b.toInt).natAbs < b.toInt.natAbs := by
      rw [Int.natAbs_tmod]
      exact Nat.mod_lt _ (by omega)
    have small := Int.natAbs_tdiv_le_natAbs (a * b).toInt b.toInt
    have quotient : (a * b).toInt.tdiv b.toInt = a.toInt := by
      by_cases large : (a * b).toInt.tdiv b.toInt = 2 ^ 63
      · exfalso
        rw [large] at whole back
        apply ordinary
        constructor
        · apply Int64.toInt_inj.mp
          show b.toInt = -1
          omega
        · apply Int64.toInt_inj.mp
          rw [← back]
          decide
      · rw [← back, Int.bmod_eq_of_le (by omega) (by omega)]
    -- What was wrapped off is a multiple of the word size, and it is the remainder of the division.
    rw [quotient, Int.mul_comm] at whole
    omega
  · intro exactly
    rw [exactly, Int.mul_tdiv_cancel _ divisor]
    exact bmod_of_toInt rfl

theorem refuses_iff {a b : Int64} (nonzero : b ≠ 0) :
    (a * b / b ≠ a || (a = -1 && b = Int64.minValue) || (b = -1 && a = Int64.minValue)) = true ↔
      (a * b).toInt ≠ a.toInt * b.toInt := by
  simp only [Bool.or_eq_true, Bool.and_eq_true, decide_eq_true_eq]
  by_cases least : b = -1 ∧ a = Int64.minValue
  · obtain ⟨rfl, rfl⟩ := least
    decide
  by_cases mirrored : a = -1 ∧ b = Int64.minValue
  · obtain ⟨rfl, rfl⟩ := mirrored
    decide
  simp only [least, mirrored, or_false, ne_eq, mul_div_eq_iff nonzero least]

end Word

/-- There is a checked product exactly if a signed word holds the product, and then it is that word. -/
theorem checkedMul_eq_some_iff {a b c : Int64} :
    checkedMul a b = some c ↔ c.toInt = a.toInt * b.toInt := by
  by_cases zero : a = 0 ∨ b = 0
  · have product : a.toInt * b.toInt = (0 : Int64).toInt := by
      rcases zero with rfl | rfl
      · exact Int.zero_mul _
      · exact Int.mul_zero _
    rw [checkedMul, if_pos (by simpa using zero), product, Int64.toInt_inj, Option.some.injEq, eq_comm]
  have nonzero : b ≠ 0 := fun none => zero (.inr none)
  have tested := Word.refuses_iff (a := a) nonzero
  simp only [checkedMul, if_neg (show ¬ (decide (a = 0) || decide (b = 0)) = true by simpa using zero)]
  by_cases exactly : (a * b).toInt = a.toInt * b.toInt
  · rw [if_neg (fun refused => tested.mp refused exactly), Option.some.injEq, ← Int64.toInt_inj, exactly,
      eq_comm]
  · rw [if_pos (tested.mpr exactly)]
    simp only [reduceCtorEq, false_iff]
    intro word
    apply exactly
    rw [Int64.toInt_mul, Word.bmod_of_toInt word]

/-! ### Distances -/

/-- The bytes from an element to the one `count` elements further on, in exact arithmetic. -/
def Element.distance (e : Element) (count : Int64) : Int :=
  count.toInt * e.size.toNat

section Distances

variable {e : Element} {count delta : Int64}

theorem Element.toInt_size (bounded : e.size.toNat < 2 ^ 63) : e.size.toInt64.toInt = e.size.toNat := by
  rw [Word.toInt_toInt64, Int.bmod_eq_of_le (by omega) (by omega)]

theorem checkedMul_size (bounded : e.size.toNat < 2 ^ 63) :
    checkedMul count e.size.toInt64 = some delta ↔ delta.toInt = e.distance count := by
  rw [checkedMul_eq_some_iff, Element.toInt_size bounded, Element.distance]

end Distances

namespace Pointer

variable {e : Element} {p : Pointer e}

/-! ### Bounds -/

/-- A move by `count` elements that should be accepted: its distance is a signed word, and it starts and
stops inside the region, in exact arithmetic. -/
structure Admits (p : Pointer e) (count : Int64) : Prop where
  start : p.offset.toNat ≤ p.region.size.toNat
  counted : Int64.minValue.toInt ≤ e.distance count ∧ e.distance count ≤ Int64.maxValue.toInt
  stop : 0 ≤ p.offset.toNat + e.distance count ∧
    p.offset.toNat + e.distance count ≤ p.region.size.toNat

/-- Signed words can count the bytes of the region before the pointer, as a negative number, and those
after it. -/
structure InSignedReach (p : Pointer e) : Prop where
  before : p.offset.toNat ≤ 2 ^ 63
  after : p.region.size.toNat < p.offset.toNat + 2 ^ 63

/-- Inside a region, the comparisons of signed words are those of exact arithmetic and ask besides that
signed words reach both ends. -/
theorem signed_bounds {offset size : UInt64} (delta : Int64) (start : offset.toNat ≤ size.toNat) :
    (size.toInt64 - offset.toInt64 < delta || delta < -offset.toInt64) = false ↔
      (0 ≤ offset.toNat + delta.toInt ∧ offset.toNat + delta.toInt ≤ size.toNat) ∧
        offset.toNat ≤ 2 ^ 63 ∧ size.toNat < offset.toNat + 2 ^ 63 := by
  have low := delta.le_toInt
  have high := delta.toInt_lt
  have word := size.toNat_lt
  rw [Bool.or_eq_false_iff, decide_eq_false_iff_not, decide_eq_false_iff_not, Int64.lt_iff_toInt_lt,
    Int64.lt_iff_toInt_lt, ← UInt64.toInt64_sub, Int64.toInt_neg, Word.toInt_toInt64, Word.toInt_toInt64,
    UInt64.toNat_sub_of_le _ _ (UInt64.le_iff_toNat_le.mpr start)]
  simp only [Int.bmod_def]
  omega

theorem toNat_signed_sum {offset : UInt64} {delta : Int64} (start : 0 ≤ offset.toNat + delta.toInt)
    (stop : offset.toNat + delta.toInt < 2 ^ 64) :
    ((offset.toInt64 + delta).toUInt64.toNat : Int) = offset.toNat + delta.toInt := by
  rw [Word.toNat_toUInt64, Int64.toInt_add, Word.toInt_toInt64]
  simp only [Int.bmod_def]
  omega

/-! ### What a checked move does -/

theorem checkedOffset_of_bare (bare : p.hasRegion = false) (count : Int64) :
    p.checkedOffset count = (p, decide (count = 0)) := by
  simp [checkedOffset, bare]

/-- A checked move inside a region is made, or it is refused and the pointer stays. -/
theorem checkedOffset_cases (region : p.hasRegion = true) (bounded : e.size.toNat < 2 ^ 63)
    (count : Int64) :
    (p.Admits count ∧ p.InSignedReach) ∧
        (∃ q : Pointer e, p.checkedOffset count = (q, true) ∧ q.region = p.region ∧
          (q.offset.toNat : Int) = p.offset.toNat + e.distance count) ∨
      ¬ (p.Admits count ∧ p.InSignedReach) ∧ p.checkedOffset count = (p, false) := by
  simp only [checkedOffset, region, Bool.not_true, Bool.false_eq_true, if_false]
  by_cases start : p.offset.toNat ≤ p.region.size.toNat
  case neg =>
    rw [if_pos (UInt64.lt_iff_toNat_lt.mpr (Nat.lt_of_not_le start))]
    exact .inr ⟨fun both => start both.1.start, rfl⟩
  rw [if_neg (fun past => Nat.not_lt_of_le start (UInt64.lt_iff_toNat_lt.mp past))]
  split
  · rename_i unheld
    refine .inr ⟨?_, rfl⟩
    -- A signed word for the distance would be the product.
    rintro ⟨admits, -⟩
    have word : (Int64.ofInt (e.distance count)).toInt = e.distance count := by
      have counted := admits.counted
      rw [Int64.toInt_minValue, Int64.toInt_maxValue] at counted
      exact Int64.toInt_ofInt.trans (Int.bmod_eq_of_le (by simp; omega) (by simp; omega))
    rw [(checkedMul_size bounded).mpr word] at unheld
    cases unheld
  · rename_i delta held
    have distance := (checkedMul_size bounded).mp held
    have tested := signed_bounds delta start
    rw [distance] at tested
    have low := delta.le_toInt
    have high := delta.toInt_lt
    split
    · rename_i refused
      refine .inr ⟨?_, rfl⟩
      rintro ⟨admits, reach⟩
      exact absurd (tested.mpr ⟨admits.stop, reach.before, reach.after⟩) (by simp [refused])
    · rename_i accepted
      obtain ⟨stop, before, after⟩ := tested.mp (Bool.eq_false_iff.mpr accepted)
      have word := p.region.size.toNat_lt
      refine .inl ⟨⟨⟨start, ?_, stop⟩, before, after⟩, _, rfl, rfl, ?_⟩
      · rw [Int64.toInt_minValue, Int64.toInt_maxValue]
        omega
      · rw [← distance, toNat_signed_sum (by omega) (by omega)]

theorem checkedOffset_eq_true_iff (region : p.hasRegion = true) (bounded : e.size.toNat < 2 ^ 63)
    (count : Int64) :
    (p.checkedOffset count).2 = true ↔ p.Admits count ∧ p.InSignedReach := by
  rcases checkedOffset_cases region bounded count with ⟨both, q, made, _⟩ | ⟨neither, refused⟩
  · simp only [made, both, and_self]
  · simp only [refused, Bool.false_eq_true, neither]

/-! ### There and back -/

/-- Where a signed word counts the bytes between two pointers that are whole elements apart, dividing it
counts the elements. -/
theorem offsetFrom_of_bytes {q : Pointer e} {count : Int64}
    (bytes : (q.byteOffsetFrom p).toInt = e.distance count) (bounded : e.size.toNat < 2 ^ 63)
    (nonzero : e.size ≠ 0) : q.offsetFrom p = .ok count := by
  have limit : ¬ Int64.maxValue.toUInt64 < e.size := by
    rw [UInt64.lt_iff_toNat_lt]
    exact Nat.not_lt_of_le (Nat.le_of_lt_succ bounded)
  have divisor : (e.size.toNat : Int) ≠ 0 := by
    intro zero
    exact nonzero (UInt64.toNat_inj.mp (Int.ofNat.inj zero))
  have quotient : q.byteOffsetFrom p / e.size.toInt64 = count := by
    apply Int64.toInt_inj.mp
    rw [Int64.toInt_div, bytes, Element.toInt_size bounded, Element.distance,
      Int.mul_tdiv_cancel _ divisor]
    exact Word.bmod_of_toInt rfl
  simp [offsetFrom, nonzero, limit, quotient]

/-- The distance back to where a move by a signed word of bytes began, counted in elements. -/
theorem offsetFrom_of_distance {q : Pointer e} {count : Int64} (same : q.region = p.region)
    (exactly : (q.offset.toNat : Int) = p.offset.toNat + e.distance count)
    (counted : Int64.minValue.toInt ≤ e.distance count ∧ e.distance count ≤ Int64.maxValue.toInt)
    (bounded : e.size.toNat < 2 ^ 63) (nonzero : e.size ≠ 0) : q.offsetFrom p = .ok count := by
  rw [Int64.toInt_minValue, Int64.toInt_maxValue] at counted
  apply offsetFrom_of_bytes ?_ bounded nonzero
  have cancelled : q.address - p.address = q.offset - p.offset := by
    rw [address, address, same]
    grind
  rw [byteOffsetFrom, cancelled, UInt64.toInt64_sub, Int64.toInt_sub, Word.toInt_toInt64,
    Word.toInt_toInt64]
  simp only [Int.bmod_def]
  omega

/-! ### Accepted moves -/

/-- The pointer `q` is where a move of `p` by `count` elements inside the region leads. -/
structure LeadsTo (p : Pointer e) (count : Int64) (q : Pointer e) : Prop where
  region : q.region = p.region
  start : p.offset ≤ p.region.size
  stop : q.offset ≤ p.region.size
  exactly : (q.offset.toNat : Int) = p.offset.toNat + count.toInt * e.size.toNat
  back : e.size ≠ 0 → q.offsetFrom p = .ok count

/-- A checked move that is refused leaves the pointer as it was. One that is accepted stays inside the
region and is exact, and the distance back counts the elements; where there is no region, only staying in
place is accepted. -/
theorem checkedOffset_exact (p : Pointer e) (count : Int64) (bounded : e.size ≤ Int64.maxValue.toUInt64) :
    ((p.checkedOffset count).2 = false → (p.checkedOffset count).1 = p) ∧
      (p.hasRegion = true → (p.checkedOffset count).2 = true →
        p.LeadsTo count (p.checkedOffset count).1) ∧
      (p.hasRegion = false →
        ((p.checkedOffset count).2 = true ↔ count = 0) ∧ (p.checkedOffset count).1 = p) := by
  have size : e.size.toNat < 2 ^ 63 := Nat.lt_succ_of_le (UInt64.le_iff_toNat_le.mp bounded)
  cases region : p.hasRegion with
  | false =>
    rw [checkedOffset_of_bare region]
    exact ⟨fun _ => rfl, nofun, fun _ => ⟨decide_eq_true_iff, rfl⟩⟩
  | true =>
    rcases checkedOffset_cases region size count with
      ⟨⟨admits, _⟩, q, made, same, exactly⟩ | ⟨_, refused⟩
    · rw [made]
      refine ⟨nofun, fun _ _ => ?_, nofun⟩
      have stop := admits.stop
      have inside : q.offset.toNat ≤ p.region.size.toNat := by omega
      exact {
        region := same
        start := UInt64.le_iff_toNat_le.mpr admits.start
        stop := UInt64.le_iff_toNat_le.mpr inside
        exactly := exactly
        back := offsetFrom_of_distance same exactly admits.counted size }
    · rw [refused]
      exact ⟨fun _ => rfl, nofun, nofun⟩

/-- A pointer in the middle of a region that is too large for a signed word. -/
def midPointer : Pointer ⟨8, 8⟩ :=
  ⟨⟨.symbol 0, 0x8000000000000007⟩, 0x8000000000000000⟩

theorem midPointer_to_start :
    midPointer.checkedOffset (-0x1000000000000000) = (⟨midPointer.region, 0⟩, true) ∧
      (⟨midPointer.region, 0⟩ : Pointer ⟨8, 8⟩).offsetFrom midPointer = .ok (-0x1000000000000000) := by
  have made : midPointer.checkedOffset (-0x1000000000000000) = (⟨midPointer.region, 0⟩, true) := by
    decide
  obtain ⟨_, moved, _⟩ := checkedOffset_exact midPointer (-0x1000000000000000) (by decide)
  have leads := moved rfl (by rw [made])
  rw [made] at leads
  exact ⟨made, leads.back (by decide)⟩

/-! ### Moves that should be accepted -/

/-- Of the moves that should be accepted those are, and no others, that begin where signed words reach
both ends of the region. This is everywhere in a region of less than 2 ^ 63 bytes. -/
theorem checkedOffset_accepts_iff {p : Pointer e} (region : p.hasRegion = true)
    (bounded : e.size ≤ Int64.maxValue.toUInt64) (count : Int64) :
    ((p.checkedOffset count).2 = true ↔ p.Admits count ∧ p.InSignedReach) ∧
      (p.region.size.toNat < 2 ^ 63 → ((p.checkedOffset count).2 = true ↔ p.Admits count)) := by
  have size : e.size.toNat < 2 ^ 63 := Nat.lt_succ_of_le (UInt64.le_iff_toNat_le.mp bounded)
  have accepted := checkedOffset_eq_true_iff region size count
  refine ⟨accepted, ?_⟩
  intro small
  rw [accepted, and_iff_left_iff_imp]
  intro admits
  have start := admits.start
  exact ⟨by omega, by omega⟩

/-- The start of a region without an address that is just too large for a signed word. -/
def vastPointer : Pointer .byte :=
  .symbolic 0 0x8000000000000000

/-- A pointer past the middle of the largest region. -/
def latePointer : Pointer .byte :=
  ⟨⟨.symbol 0, 0xFFFFFFFFFFFFFFFF⟩, 0x8000000000000008⟩

theorem vastPointer_stuck :
    (vastPointer.Admits 0 ∧ (vastPointer.checkedOffset 0).2 = false) ∧
      latePointer.Admits (-8) ∧ (latePointer.checkedOffset (-8)).2 = false := by
  have vast := (checkedOffset_accepts_iff (p := vastPointer) rfl (by decide) 0).1
  have late := (checkedOffset_accepts_iff (p := latePointer) rfl (by decide) (-8)).1
  refine ⟨⟨⟨by decide, by decide, by decide⟩, ?_⟩, ⟨by decide, by decide, by decide⟩, ?_⟩
  · exact Bool.eq_false_iff.mpr fun accepted => absurd (vast.mp accepted).2.after (by decide)
  · exact Bool.eq_false_iff.mpr fun accepted => absurd (late.mp accepted).2.before (by decide)

end Pointer

end TypeAtlas
