import Mathlib.Algebra.Order.Field.Basic
import Mathlib.Data.Rat.Cast.Order
import TableSchema.Number.Double

/-!
# Exact values of doubles

A double is one rational number, and the fraction that its arithmetic works with is that number without the
sign. `floorNat_lt_iff`: cutting the digits behind the point does not change what exceeds a double.
-/

namespace TableSchema

namespace Double

/-- The number that the double is. -/
def value (x : Double) : ℚ :=
  (if x.negative then -1 else 1) * (x.mantissa * (2 : ℚ) ^ x.exponent)

theorem zpow_eq_div (e : Int) :
    (2 : ℚ) ^ e = ((Nat.pow 2 e.toNat : Nat) : ℚ) / ((Nat.pow 2 (-e).toNat : Nat) : ℚ) := by
  have hparts : e = (e.toNat : Int) - ((-e).toNat : Int) := by omega
  conv_lhs => rw [hparts]
  rw [zpow_sub₀ (by norm_num), zpow_natCast, zpow_natCast]
  simp only [Nat.pow_eq, Nat.cast_pow, Nat.cast_ofNat]

theorem ratio_pos (x : Double) : 0 < x.ratio.2 := by
  unfold ratio scaleDown
  exact Nat.mul_pos Nat.one_pos (Nat.pow_pos (by decide))

theorem value_eq_ratio (x : Double) :
    x.value = (if x.negative then -1 else 1) * ((x.ratio.1 : ℚ) / (x.ratio.2 : ℚ)) := by
  unfold value ratio scaleDown
  rw [zpow_eq_div, Int.neg_neg, Nat.cast_mul, Nat.cast_mul, Nat.cast_one, one_mul, mul_div_assoc]

theorem value_nonpos {x : Double} (hx : x.negative = true) : x.value ≤ 0 := by
  have hratio : 0 ≤ (x.ratio.1 : ℚ) / (x.ratio.2 : ℚ) := div_nonneg (Nat.cast_nonneg _) (Nat.cast_nonneg _)
  rw [value_eq_ratio, if_pos hx, neg_one_mul]
  exact neg_nonpos.mpr hratio

theorem floorNat_lt_iff (x : Double) {n : Nat} (hn : 0 < n) : x.floorNat < n ↔ x.value < n := by
  unfold floorNat
  cases hx : x.negative with
  | true =>
    have hpos : (0 : ℚ) < n := Nat.cast_pos.mpr hn
    exact iff_of_true hn (lt_of_le_of_lt (value_nonpos hx) hpos)
  | false =>
    have hden : (0 : ℚ) < x.ratio.2 := Nat.cast_pos.mpr x.ratio_pos
    rw [value_eq_ratio, hx]
    simp only [Bool.false_eq_true, if_false, one_mul]
    rw [Nat.div_lt_iff_lt_mul x.ratio_pos, div_lt_iff₀ hden, ← Nat.cast_mul, Nat.cast_lt]

end Double

end TableSchema
