import Mathlib.Algebra.Group.Nat.Defs
import TypeAtlas.Proofs.Runes

/-!
Decimal numerals read back as the numbers that they write, so different numbers have different numerals.
-/

namespace TypeAtlas.Text

/-- The number that decimal digits write behind those of `before`. -/
def valueAfter (before : Nat) (digits : Text) : Nat :=
  digits.foldl (fun n b => n * 10 + (b.toNat - 0x30)) before

theorem valueAfter_padded (width before n : Nat) :
    valueAfter before (padded 10 width n) = before * 10 ^ width + n % 10 ^ width := by
  induction width generalizing n with
  | zero => rw [padded, Nat.pow_zero, Nat.mod_one, Nat.mul_one]; rfl
  | succ width ih =>
    have last : (digit (n % 10)).toNat - 0x30 = n % 10 := by
      rw [digit_toNat (Nat.mod_lt n (by decide)), Nat.add_sub_cancel_left]
    have front := ih (n / 10)
    rw [valueAfter] at front
    rw [valueAfter, padded, List.foldl_append, front, List.foldl_cons, List.foldl_nil, last, Nat.pow_succ,
      Nat.mul_comm (10 ^ width) 10, Nat.mod_mul, Nat.mul_left_comm before 10]
    omega

/-- The width of a numeral is enough for its number. -/
theorem lt_pow_numeralWidth {base fuel n : Nat} (large : 2 ≤ base) (enough : n < 2 ^ fuel) :
    n < base ^ numeralWidth base fuel n := by
  induction fuel generalizing n with
  | zero =>
    rw [numeralWidth, Nat.pow_one]
    omega
  | succ fuel ih =>
    rw [numeralWidth]
    split
    · rename_i small
      rwa [Nat.pow_one]
    · have half : n / base < 2 ^ fuel := by
        rw [Nat.div_lt_iff_lt_mul (by omega)]
        calc n < 2 ^ fuel * 2 := by rwa [← Nat.pow_succ]
          _ ≤ 2 ^ fuel * base := Nat.mul_le_mul_left _ large
      rw [Nat.pow_succ, ← Nat.div_lt_iff_lt_mul (by omega)]
      exact ih half

theorem value_ofNat (n : Nat) : valueAfter 0 (ofNat n) = n := by
  have fits : n < 10 ^ numeralWidth 10 n.log2.succ n :=
    lt_pow_numeralWidth (by decide) Nat.lt_log2_self
  rw [ofNat, numeral, valueAfter_padded, Nat.zero_mul, Nat.zero_add, Nat.mod_eq_of_lt fits]

theorem ofNat_inj {m n : Nat} (same : ofNat m = ofNat n) : m = n := by
  rw [← value_ofNat m, same, value_ofNat]

end TypeAtlas.Text
