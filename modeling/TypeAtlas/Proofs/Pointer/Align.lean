import Mathlib.Data.Nat.ModEq
import Mathlib.Order.Bounds.Basic
import TypeAtlas.Pointer.Align

/-!
The distance to the next aligned element is exact. Dividing out the common power of two turns the
congruence `addr + k * stride ≡ 0` into one with an odd factor, which has one solution modulo what is left
of the alignment; five steps of the iteration invert that factor in all 64 bits.
-/

namespace TypeAtlas

namespace Word

/-! ### Masks and shifts -/

theorem toNat_and_low {mask : UInt64} {b : Nat} (low : mask.toNat = 2 ^ b - 1) (w : UInt64) :
    (w &&& mask).toNat = w.toNat % 2 ^ b := by
  rw [UInt64.toNat_and, low, Nat.and_two_pow_sub_one_eq_mod]

theorem toNat_sub_one {w : UInt64} {b : Nat} (power : w.toNat = 2 ^ b) : (w - 1).toNat = 2 ^ b - 1 := by
  have positive := Nat.two_pow_pos b
  have one : (1 : UInt64).toNat = 1 := rfl
  rw [UInt64.toNat_sub_of_le _ _ (UInt64.le_iff_toNat_le.mpr (by omega)), power, one]

theorem toNat_shiftRight_ofNat {n : Nat} (width : n < 64) (w : UInt64) :
    (w >>> UInt64.ofNat n).toNat = w.toNat / 2 ^ n := by
  rw [UInt64.toNat_shiftRight, UInt64.toNat_ofNat_of_lt' (show n < 2 ^ 64 by omega),
    Nat.mod_eq_of_lt width, Nat.shiftRight_eq_div_pow]

theorem toNat_one_shiftLeft {n : Nat} (width : n < 64) :
    ((1 : UInt64) <<< UInt64.ofNat n).toNat = 2 ^ n := by
  have one : (1 : UInt64).toNat = 1 := rfl
  rw [UInt64.toNat_shiftLeft, UInt64.toNat_ofNat_of_lt' (show n < 2 ^ 64 by omega),
    Nat.mod_eq_of_lt width, Nat.shiftLeft_eq, one, Nat.one_mul,
    Nat.mod_eq_of_lt (Nat.pow_lt_pow_right (by decide) width)]

theorem isPowerOfTwo_of_toNat {w : UInt64} {b : Nat} (power : w.toNat = 2 ^ b) :
    isPowerOfTwo w = true := by
  have positive := Nat.two_pow_pos b
  have nonzero : w ≠ 0 := by
    rintro rfl
    have zero : (0 : UInt64).toNat = 0 := rfl
    omega
  have single : w &&& (w - 1) = 0 := by
    apply UInt64.toNat_inj.mp
    rw [toNat_and_low (toNat_sub_one power), power, Nat.mod_self]
    rfl
  simp [isPowerOfTwo, nonzero, single]

/-- The zeros below the lowest one count the factors of two. -/
theorem trailingZeros_spec {w : UInt64} (nonzero : w ≠ 0) :
    trailingZeros w < 64 ∧ 2 ^ trailingZeros w ∣ w.toNat ∧ w.toNat / 2 ^ trailingZeros w % 2 = 1 := by
  have found : trailingZeros w < (List.range 64).length := by
    apply List.findIdx_lt_length.mpr
    by_contra none
    apply nonzero
    apply UInt64.toNat_inj.mp
    apply Nat.eq_of_testBit_eq
    intro i
    by_cases inside : i < 64
    · have clear : ¬ w.toNat.testBit i = true :=
        fun bit => none ⟨i, List.mem_range.mpr inside, bit⟩
      simpa using clear
    · have above : w.toNat < 2 ^ i :=
        Nat.lt_of_lt_of_le w.toNat_lt (Nat.pow_le_pow_right (by decide) (Nat.not_lt.mp inside))
      rw [Nat.testBit_lt_two_pow above]
      simp
  refine ⟨by simpa using found, ?_, ?_⟩
  · apply Nat.dvd_of_mod_eq_zero
    apply Nat.eq_of_testBit_eq
    intro i
    rw [Nat.testBit_mod_two_pow, Nat.zero_testBit]
    by_cases below : i < trailingZeros w
    · have clear := List.not_of_lt_findIdx below
      rw [List.getElem_range] at clear
      simp [clear]
    · simp [below]
  · have bit : w.toNat.testBit (List.range 64)[trailingZeros w] = true := List.findIdx_getElem
    rw [List.getElem_range, Nat.testBit_eq_decide_div_mod_eq] at bit
    exact of_decide_eq_true bit

/-! ### Inverses -/

/-- Each step squares what is missing to an inverse. -/
theorem inverseStep_error (s : UInt64) (k : Nat) :
    1 - s * inverseStep s (k + 1) =
      (1 - s * inverseStep s k) * (1 - s * inverseStep s k) := by
  simp only [inverseStep]
  grind

theorem eight_dvd_error {s : UInt64} (odd : s.toNat % 2 = 1) : 8 ∣ (1 - s * s).toNat := by
  have one : (1 : UInt64).toNat = 1 := rfl
  have square : s.toNat * s.toNat % 8 = 1 := by
    have : s.toNat % 8 = 1 ∨ s.toNat % 8 = 3 ∨ s.toNat % 8 = 5 ∨ s.toNat % 8 = 7 := by omega
    rw [Nat.mul_mod]
    rcases this with residue | residue | residue | residue <;> rw [residue]
  rw [UInt64.toNat_sub, UInt64.toNat_mul, one]
  omega

/-- After `k` steps an odd word and its approximate inverse multiply to one in `3 * 2 ^ k` bits, as far
as a word has them. -/
theorem two_pow_dvd_error {s : UInt64} (odd : s.toNat % 2 = 1) (k : Nat) :
    2 ^ min 64 (3 * 2 ^ k) ∣ (1 - s * inverseStep s k).toNat := by
  induction k with
  | zero => exact eight_dvd_error odd
  | succ k ih =>
    rw [inverseStep_error, UInt64.toNat_mul]
    generalize (1 - s * inverseStep s k).toNat = error at ih
    have squared : 2 ^ min 64 (3 * 2 ^ (k + 1)) ∣ error * error := by
      refine Nat.dvd_trans ?_ (Nat.mul_dvd_mul ih ih)
      rw [← Nat.pow_add]
      apply Nat.pow_dvd_pow
      rw [Nat.pow_succ]
      omega
    exact (Nat.dvd_mod_iff (Nat.pow_dvd_pow 2 (Nat.min_le_left _ _))).mpr squared

theorem mul_inverseStep {s : UInt64} (odd : s.toNat % 2 = 1) : s * inverseStep s 5 = 1 := by
  have none : (1 - s * inverseStep s 5).toNat = 0 :=
    Nat.eq_zero_of_dvd_of_lt (two_pow_dvd_error odd 5) (UInt64.toNat_lt _)
  have equal : 1 - s * inverseStep s 5 = 0 := UInt64.toNat_inj.mp none
  grind

/-- The inverse modulo a power of two consists of the low bits of the inverse in the whole word. -/
theorem toNat_inverse {m : UInt64} {b : Nat} (power : m.toNat = 2 ^ b) (s : UInt64) :
    (inverse s m).toNat = (inverseStep s 5).toNat % 2 ^ b := by
  rw [inverse, toNat_and_low (toNat_sub_one power)]

theorem mul_inverse {s m : UInt64} {b : Nat} (width : b ≤ 64) (power : m.toNat = 2 ^ b)
    (odd : s.toNat % 2 = 1) : s.toNat * (inverse s m).toNat ≡ 1 [MOD 2 ^ b] := by
  have whole : s.toNat * (inverseStep s 5).toNat ≡ 1 [MOD 2 ^ 64] := by
    have product := congrArg UInt64.toNat (mul_inverseStep odd)
    rw [UInt64.toNat_mul] at product
    exact product
  have reduced : (inverse s m).toNat ≡ (inverseStep s 5).toNat [MOD 2 ^ b] := by
    rw [toNat_inverse power]
    exact Nat.mod_modEq _ _
  calc s.toNat * (inverse s m).toNat
      ≡ s.toNat * (inverseStep s 5).toNat [MOD 2 ^ b] := reduced.mul_left _
    _ ≡ 1 [MOD 2 ^ b] := whole.of_dvd (Nat.pow_dvd_pow 2 width)

/-- Five steps invert an odd word in all of its bits. Cut down to the bits below a power of two, from the
first to the highest that is a word, the inverse is less than that power and stays an inverse modulo it. -/
theorem inverse_exact {s m : UInt64} {b : Nat} (odd : s.toNat % 2 = 1) (width : b ≤ 63)
    (power : m.toNat = 2 ^ b) :
    s * inverseStep s 5 = 1 ∧ (inverse s m).toNat < m.toNat ∧
      s.toNat * (inverse s m).toNat ≡ 1 [MOD m.toNat] := by
  have reduced : (inverse s m).toNat < m.toNat := by
    rw [toNat_inverse power, power]
    exact Nat.mod_lt _ (Nat.two_pow_pos b)
  have product : s.toNat * (inverse s m).toNat ≡ 1 [MOD m.toNat] := by
    rw [power]
    exact mul_inverse (by omega) power odd
  exact ⟨mul_inverseStep odd, reduced, product⟩

/-- The highest modulus, and a word with bits above it. -/
theorem highWord_inverse :
    inverse 0xFEDCBA9876543211 0x8000000000000000 = 9146829530324860657 ∧
      9146829530324860657 < 2 ^ 63 ∧ 0xFEDCBA9876543211 * 9146829530324860657 ≡ 1 [MOD 2 ^ 63] := by
  have power : (0x8000000000000000 : UInt64).toNat = 2 ^ 63 := rfl
  obtain ⟨_, reduced, product⟩ := inverse_exact (s := 0xFEDCBA9876543211) rfl (Nat.le_refl 63) power
  have computed : inverse 0xFEDCBA9876543211 0x8000000000000000 = 9146829530324860657 := by
    decide +kernel
  rw [computed] at reduced product
  exact ⟨computed, reduced, product⟩

/-! ### Distances -/

/-- Going `k` strides on from `addr` leads to a multiple of `align`, in exact arithmetic. -/
def Aligns (addr stride align : UInt64) (k : Nat) : Prop :=
  align.toNat ∣ addr.toNat + k * stride.toNat

/-- What the answer to "how far to an aligned address" should be: the least number of strides, or the word
that stands for none. -/
inductive IsDistance (addr stride align : UInt64) : UInt64 → Prop where
  | least {k : UInt64} (first : IsLeast {j | Aligns addr stride align j} k.toNat)
      (small : k.toNat < align.toNat) : IsDistance addr stride align k
  | never (unreached : ∀ k, ¬ Aligns addr stride align k) : IsDistance addr stride align noOffset

/-- Two numbers that are opposite to the same number modulo `n` are congruent. -/
theorem dvd_add_iff_modEq {n a gap x : Nat} (opposite : n ∣ a + gap) : n ∣ a + x ↔ x ≡ gap [MOD n] := by
  constructor
  · intro divides
    have same : a + x ≡ a + gap [MOD n] :=
      (Nat.modEq_zero_iff_dvd.mpr divides).trans (Nat.modEq_zero_iff_dvd.mpr opposite).symm
    exact Nat.ModEq.add_left_cancel' a same
  · intro same
    exact ((Nat.ModEq.rfl.add same).dvd_iff (Nat.dvd_refl n)).mpr opposite

/-- The solutions of the congruence, when there are any, are one class modulo what is left of the
alignment once the common power of two is divided out. -/
theorem two_pow_dvd_iff {z w a gap factor inv : Nat} (opposite : 2 ^ (z + w) ∣ a + 2 ^ z * gap)
    (inverse : factor * inv ≡ 1 [MOD 2 ^ w]) (k : Nat) :
    2 ^ (z + w) ∣ a + k * (2 ^ z * factor) ↔ k ≡ gap * inv [MOD 2 ^ w] := by
  rw [dvd_add_iff_modEq opposite, Nat.pow_add, Nat.mul_left_comm]
  constructor
  · intro congruent
    have reduced : k * factor ≡ gap [MOD 2 ^ w] :=
      Nat.ModEq.mul_left_cancel' (Nat.two_pow_pos z).ne' congruent
    calc k = k * 1 := (Nat.mul_one k).symm
      _ ≡ k * (factor * inv) [MOD 2 ^ w] := inverse.symm.mul_left k
      _ = k * factor * inv := (Nat.mul_assoc k factor inv).symm
      _ ≡ gap * inv [MOD 2 ^ w] := reduced.mul_right inv
  · intro congruent
    apply Nat.ModEq.mul_left'
    calc k * factor
        ≡ gap * inv * factor [MOD 2 ^ w] := congruent.mul_right factor
      _ = gap * (factor * inv) := by rw [Nat.mul_assoc, Nat.mul_comm inv]
      _ ≡ gap * 1 [MOD 2 ^ w] := inverse.mul_left gap
      _ = gap := Nat.mul_one gap

/-- What is missing to the next multiple of the alignment. -/
theorem toNat_gap {addr align : UInt64} {b : Nat} (power : align.toNat = 2 ^ b)
    (unaligned : ¬ addr &&& (align - 1) = 0) :
    ((align - (addr &&& (align - 1))) &&& (align - 1)).toNat = 2 ^ b - addr.toNat % 2 ^ b := by
  have low := toNat_and_low (toNat_sub_one power) addr
  have positive : addr.toNat % 2 ^ b ≠ 0 := by
    intro zero
    rw [zero] at low
    exact unaligned (UInt64.toNat_inj.mp low)
  have below := Nat.mod_lt addr.toNat (Nat.two_pow_pos b)
  have difference : (align - (addr &&& (align - 1))).toNat = 2 ^ b - addr.toNat % 2 ^ b := by
    rw [UInt64.toNat_sub_of_le _ _ (UInt64.le_iff_toNat_le.mpr (by omega)), power, low]
  rw [toNat_and_low (toNat_sub_one power), difference, Nat.mod_eq_of_lt (by omega)]

theorem two_pow_dvd_add_gap (a b : Nat) : 2 ^ b ∣ a + (2 ^ b - a % 2 ^ b) := by
  have below := Nat.mod_lt a (Nat.two_pow_pos b)
  have parts := Nat.div_add_mod a (2 ^ b)
  have sum : a + (2 ^ b - a % 2 ^ b) = 2 ^ b * (a / 2 ^ b + 1) := by
    rw [Nat.mul_add, Nat.mul_one]
    omega
  exact ⟨_, sum⟩

section Distances

variable {addr stride align : UInt64} {b : Nat}

theorem and_mask_eq_zero_iff (power : align.toNat = 2 ^ b) :
    addr &&& (align - 1) = 0 ↔ align.toNat ∣ addr.toNat := by
  rw [← UInt64.toNat_inj, toNat_and_low (toNat_sub_one power), power]
  exact (Nat.dvd_iff_mod_eq_zero ..).symm

/-- Strides that are multiples of the alignment never lead to an aligned address. -/
theorem not_aligns_of_dvd (unaligned : ¬ align.toNat ∣ addr.toNat) (coarse : align.toNat ∣ stride.toNat)
    (k : Nat) : ¬ Aligns addr stride align k := by
  intro reached
  exact unaligned ((Nat.dvd_add_iff_left (Nat.dvd_mul_left_of_dvd coarse k)).mpr reached)

/-- Neither do strides with a power of two that the gap does not have. -/
theorem not_aligns_of_gap {z : Nat} (power : align.toNat = 2 ^ b) (less : z ≤ b)
    (common : 2 ^ z ∣ stride.toNat) (odd : ¬ 2 ^ z ∣ 2 ^ b - addr.toNat % 2 ^ b) (k : Nat) :
    ¬ Aligns addr stride align k := by
  intro reached
  rw [Aligns, power] at reached
  have finer := Nat.pow_dvd_pow 2 less
  have start : 2 ^ z ∣ addr.toNat :=
    (Nat.dvd_add_iff_left (Nat.dvd_mul_left_of_dvd common k)).mpr (Nat.dvd_trans finer reached)
  have whole := Nat.dvd_trans finer (two_pow_dvd_add_gap addr.toNat b)
  exact odd ((Nat.dvd_add_iff_right start).mpr whole)

/-- Where the gap has the common power of two, the solutions are one class, of which the computed
distance is the first. -/
theorem isDistance_solution {z : Nat} {m g s : UInt64} (power : align.toNat = 2 ^ b) (width : b < 64)
    (less : z < b) (common : 2 ^ z ∣ stride.toNat) (odd : stride.toNat / 2 ^ z % 2 = 1)
    (rest : m.toNat = 2 ^ (b - z)) (gap : 2 ^ z * g.toNat = 2 ^ b - addr.toNat % 2 ^ b)
    (factor : s.toNat = stride.toNat / 2 ^ z % 2 ^ (b - z)) :
    IsDistance addr stride align ((g * inverse s m) &&& (m - 1)) := by
  have exponent : z + (b - z) = b := by omega
  have result : ((g * inverse s m) &&& (m - 1)).toNat =
      g.toNat * (inverse s m).toNat % 2 ^ (b - z) := by
    rw [toNat_and_low (toNat_sub_one rest), UInt64.toNat_mul,
      Nat.mod_mod_of_dvd _ (Nat.pow_dvd_pow 2 (by omega))]
  have oddFactor : s.toNat % 2 = 1 := by
    rw [factor, Nat.mod_mod_of_dvd _ (dvd_pow_self 2 (by omega))]
    exact odd
  have inverts : stride.toNat / 2 ^ z * (inverse s m).toNat ≡ 1 [MOD 2 ^ (b - z)] := by
    refine Nat.ModEq.trans (Nat.ModEq.mul_right _ ?_) (mul_inverse (by omega) rest oddFactor)
    rw [factor]
    exact (Nat.mod_modEq _ _).symm
  have solutions (k : Nat) :
      Aligns addr stride align k ↔ k ≡ g.toNat * (inverse s m).toNat [MOD 2 ^ (b - z)] := by
    have opposite : 2 ^ (z + (b - z)) ∣ addr.toNat + 2 ^ z * g.toNat := by
      rw [gap, exponent]
      exact two_pow_dvd_add_gap addr.toNat b
    have classes := two_pow_dvd_iff opposite inverts k
    rw [exponent, Nat.mul_div_cancel' common] at classes
    rw [Aligns, power]
    exact classes
  refine .least ⟨?_, ?_⟩ ?_
  · rw [result]
    exact (solutions _).mpr (Nat.mod_modEq _ _)
  · intro k reached
    have same : g.toNat * (inverse s m).toNat % 2 ^ (b - z) = k % 2 ^ (b - z) :=
      ((solutions k).mp reached).symm
    rw [result, same]
    exact Nat.mod_le _ _
  · rw [result]
    calc g.toNat * (inverse s m).toNat % 2 ^ (b - z)
        < 2 ^ (b - z) := Nat.mod_lt _ (Nat.two_pow_pos _)
      _ ≤ 2 ^ b := Nat.pow_le_pow_right (by decide) (Nat.sub_le b z)
      _ = align.toNat := power.symm

theorem isDistance_alignOffset (width : b < 64) (power : align.toNat = 2 ^ b) (addr stride : UInt64) :
    IsDistance addr stride align (alignOffset addr stride align) := by
  simp only [alignOffset]
  split
  · rename_i aligned
    have here := (and_mask_eq_zero_iff power).mp aligned
    refine .least ⟨?_, fun k _ => Nat.zero_le k⟩ (by rw [power]; exact Nat.two_pow_pos b)
    simpa [Aligns] using here
  · rename_i unaligned
    have off : ¬ align.toNat ∣ addr.toNat := fun here => unaligned ((and_mask_eq_zero_iff power).mpr here)
    have gap := toNat_gap power unaligned
    split
    · rename_i still
      subst still
      exact .never (not_aligns_of_dvd off (Nat.dvd_zero _))
    · rename_i moves
      obtain ⟨short, common, odd⟩ := trailingZeros_spec moves
      have divisor := toNat_one_shiftLeft short
      have coarse : align ≤ (1 : UInt64) <<< UInt64.ofNat (trailingZeros stride) ↔
          b ≤ trailingZeros stride := by
        rw [UInt64.le_iff_toNat_le, power, divisor, Nat.pow_le_pow_iff_right (by decide)]
      have inGap : (align - (addr &&& (align - 1))) &&& (align - 1) &&&
          ((1 : UInt64) <<< UInt64.ofNat (trailingZeros stride) - 1) = 0 ↔
            2 ^ trailingZeros stride ∣ 2 ^ b - addr.toNat % 2 ^ b := by
        rw [and_mask_eq_zero_iff divisor, divisor, gap]
      simp only [ne_eq, Bool.or_eq_true, decide_eq_true_eq, coarse, inGap]
      split
      · rename_i refused
        apply IsDistance.never
        by_cases multiple : b ≤ trailingZeros stride
        · apply not_aligns_of_dvd off
          rw [power]
          exact Nat.dvd_trans (Nat.pow_dvd_pow 2 multiple) common
        · exact not_aligns_of_gap power (by omega) common (refused.resolve_left multiple)
      · rename_i accepted
        obtain ⟨less, divides⟩ := not_or.mp accepted
        have rest : (align >>> UInt64.ofNat (trailingZeros stride)).toNat =
            2 ^ (b - trailingZeros stride) := by
          rw [toNat_shiftRight_ofNat short, power, Nat.pow_div (by omega) (by decide)]
        apply isDistance_solution power width (Nat.not_le.mp less) common odd rest
        · rw [toNat_shiftRight_ofNat short, gap, Nat.mul_div_cancel' (not_not.mp divides)]
        · rw [toNat_and_low (toNat_sub_one rest), toNat_shiftRight_ofNat short]

end Distances

end Word

namespace Pointer

/-- The distance of a pointer with an address to the next multiple of a power of two. If any number of
elements short of `noOffset` leads to an aligned address, the answer is the least such number; it is less
than the alignment and never mistaken for `noOffset`. Otherwise the answer is `noOffset`. -/
theorem alignOffset_least {e : Element} {p : Pointer e} (located : p.isSymbolic = false) {align : UInt64}
    {b : Nat} (power : align.toNat = 2 ^ b) :
    ∃ k, p.alignOffset align = .ok k ∧
      ((∃ j ≤ 2 ^ 64 - 2, Word.Aligns p.address e.size align j) →
        IsLeast {j | Word.Aligns p.address e.size align j} k.toNat ∧ k.toNat < align.toNat ∧
          k ≠ Word.noOffset) ∧
      ((¬ ∃ j ≤ 2 ^ 64 - 2, Word.Aligns p.address e.size align j) → k = Word.noOffset) := by
  have width : b < 64 := by
    have word := align.toNat_lt
    rw [power] at word
    exact (Nat.pow_lt_pow_iff_right (by decide)).mp word
  have bound : align.toNat ≤ 2 ^ 63 := by
    rw [power]
    exact Nat.pow_le_pow_right (by decide) (by omega)
  obtain ⟨k, computed⟩ : ∃ k, Word.alignOffset p.address e.size align = k := ⟨_, rfl⟩
  have distance := Word.isDistance_alignOffset width power p.address e.size
  rw [computed] at distance
  refine ⟨k, ?_, ?_, ?_⟩
  · simp [alignOffset, Word.isPowerOfTwo_of_toNat power, located, computed]
  · rintro ⟨j, _, reached⟩
    cases distance with
    | least first small =>
      refine ⟨first, small, ?_⟩
      intro none
      rw [none] at small
      have word : Word.noOffset.toNat = 2 ^ 64 - 1 := rfl
      omega
    | never unreached => exact absurd reached (unreached j)
  · intro unreached
    cases distance with
    | least first small => exact absurd ⟨_, by omega, first.1⟩ unreached
    | never _ => rfl

/-- Eight bytes below the top of the address space, in elements of twelve bytes. -/
def farPointer : Pointer ⟨12, 4⟩ := .ofAddress 0xFFFFFFFFFFFFFFF8

theorem farPointer_distance :
    farPointer.alignOffset 0x8000000000000000 = .ok 1537228672809129302 ∧
      IsLeast {j | Word.Aligns farPointer.address 12 0x8000000000000000 j} 1537228672809129302 := by
  have power : (0x8000000000000000 : UInt64).toNat = 2 ^ 63 := rfl
  obtain ⟨k, answer, found, _⟩ := alignOffset_least (p := farPointer) rfl power
  have computed : farPointer.alignOffset 0x8000000000000000 = .ok 1537228672809129302 := by
    decide +kernel
  obtain rfl : 1537228672809129302 = k := Except.ok.inj (computed.symm.trans answer)
  have reached : Word.Aligns farPointer.address 12 0x8000000000000000 1537228672809129302 := by
    unfold Word.Aligns
    decide +kernel
  exact ⟨computed, (found ⟨_, by decide, reached⟩).1⟩

end Pointer

end TypeAtlas
