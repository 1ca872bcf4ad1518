import Mathlib.Tactic.NormNum
import TableSchema.Proofs.Number.Value

/-!
# Integers of 64 bits as doubles

Comparing doubles and cutting them are exact, so a double is taken for the integer that it is and for nothing
else: `int64?_eq_some_iff`. What is rounded are the bounds and integers above `2⁶³`; the greater bound is rounded to
`2⁶³` itself, and rounding takes none of those integers below it.
-/

namespace TableSchema

namespace Double

/-! ## Comparing and cutting -/

theorem value_eq_numerator (x : Double) : x.value = (x.numerator : ℚ) / (x.ratio.2 : ℚ) := by
  rw [value_eq_ratio]
  unfold numerator
  cases x.negative with
  | true => simp [neg_div]
  | false => simp

theorem le_iff (x y : Double) : x.le y = true ↔ x.value ≤ y.value := by
  have hx : (0 : ℚ) < x.ratio.2 := Nat.cast_pos.mpr x.ratio_pos
  have hy : (0 : ℚ) < y.ratio.2 := Nat.cast_pos.mpr y.ratio_pos
  unfold le
  rw [decide_eq_true_iff, value_eq_numerator, value_eq_numerator, div_le_div_iff₀ hx hy]
  exact_mod_cast Iff.rfl

theorem lt_iff (x y : Double) : x.lt y = true ↔ x.value < y.value := by
  unfold lt
  rw [Bool.not_eq_true', ← Bool.not_eq_true, le_iff, not_le]

theorem value_eq_int_iff (x : Double) (n : Int) : x.value = n ↔ x.numerator = n * x.ratio.2 := by
  have hden : (x.ratio.2 : ℚ) ≠ 0 := Nat.cast_ne_zero.mpr x.ratio_pos.ne'
  rw [value_eq_numerator, div_eq_iff hden]
  exact_mod_cast Iff.rfl

theorem isIntegral_iff (x : Double) : x.isIntegral = true ↔ ∃ n : Int, x.value = n := by
  unfold isIntegral
  rw [beq_iff_eq, ← Int.dvd_iff_emod_eq_zero]
  simp only [value_eq_int_iff, Dvd.dvd, mul_comm]

theorem toInt64_of_value {x : Double} {n : Int} (h : x.value = n) (hl : minInt64 ≤ n) (hr : n ≤ maxInt64) :
    x.toInt64 = n := by
  have hden : (x.ratio.2 : Int) ≠ 0 := Int.natCast_ne_zero.mpr x.ratio_pos.ne'
  unfold toInt64
  rw [(value_eq_int_iff x n).mp h, Int.mul_tdiv_cancel n hden, min_eq_right hr, max_eq_right hl]

/-! ## Rounded bounds -/

theorem value_ofInt_minInt64 : (ofInt minInt64).value = (minInt64 : ℚ) := by
  have h : ofInt minInt64 = ⟨true, Nat.pow 2 52, 11⟩ := by decide
  rw [h]
  norm_num [value, minInt64, Nat.pow_eq]

theorem value_ofInt_maxInt64 : (ofInt maxInt64).value = (maxInt64 : ℚ) + 1 := by
  have h : ofInt maxInt64 = ⟨false, Nat.pow 2 52, 11⟩ := by decide
  rw [h]
  norm_num [value, maxInt64, Nat.pow_eq]

theorem int64?_eq_some_iff (x : Double) (n : Int) :
    x.int64? = some n ↔ x.value = n ∧ minInt64 ≤ n ∧ n ≤ maxInt64 := by
  -- the upper bound rounds up to a power of two, and nothing below it is lost
  have hguard : (x.isIntegral && (ofInt minInt64).le x && x.lt (ofInt maxInt64)) = true ↔
      ∃ m : Int, x.value = m ∧ minInt64 ≤ m ∧ m ≤ maxInt64 := by
    rw [Bool.and_eq_true, Bool.and_eq_true, isIntegral_iff, le_iff, lt_iff, value_ofInt_minInt64, value_ofInt_maxInt64]
    apply Iff.intro
    · rintro ⟨⟨⟨m, hm⟩, hl⟩, hr⟩
      rw [hm] at hl hr
      exact ⟨m, hm, by exact_mod_cast hl, Int.lt_add_one_iff.mp (by exact_mod_cast hr)⟩
    · rintro ⟨m, hm, hl, hr⟩
      rw [hm]
      exact ⟨⟨⟨m, rfl⟩, by exact_mod_cast hl⟩, by exact_mod_cast Int.lt_add_one_iff.mpr hr⟩
  unfold int64?
  rw [Option.ite_none_right_eq_some, hguard]
  apply Iff.intro
  · rintro ⟨⟨m, hm, hl, hr⟩, heq⟩
    rw [← Option.some.inj heq, toInt64_of_value hm hl hr]
    exact ⟨hm, hl, hr⟩
  · rintro ⟨hn, hl, hr⟩
    exact ⟨⟨n, hn, hl, hr⟩, congrArg some (toInt64_of_value hn hl hr)⟩

/-! ## Integers above the bounds -/

theorem le_roundDiv (num den : Nat) : num / den ≤ roundDiv num den := by
  grind [roundDiv]

theorem scaleDown_natCast (num e : Nat) : scaleDown num 1 e = (num, Nat.pow 2 e) := by
  simp [scaleDown]

section
variable {n : Nat} (hl : Nat.pow 2 63 ≤ n) (hr : n < Nat.pow 2 64)

include hl hr

theorem exponentOf_above : exponentOf n 1 = 11 := by
  have hpos : n ≠ 0 := (Nat.lt_of_lt_of_le (by decide) hl).ne'
  have hlog : n.log2 = 63 := (Nat.log2_eq_iff hpos).mpr ⟨hl, hr⟩
  have hexp : (n.log2 : Int) - Nat.log2 1 - 53 = (10 : Nat) := by rw [hlog]; rfl
  have hbits : Nat.pow 2 53 ≤ n / Nat.pow 2 10 := by
    rw [Nat.le_div_iff_mul_le (by decide)]
    exact hl
  unfold exponentOf
  simp only [hexp, scaleDown_natCast]
  exact congrArg (max minExponent) (if_pos hbits)

theorem le_value_ofInt : (maxInt64 : ℚ) + 1 ≤ (ofInt n).value := by
  have hpos : n ≠ 0 := (Nat.lt_of_lt_of_le (by decide) hl).ne'
  have hsign : decide ((n : Int) < 0) = false := by simp
  have hexp : exponentOf n 1 = (11 : Nat) := exponentOf_above hl hr
  -- the mantissa keeps its highest bit, whichever way it is rounded
  have hround : Nat.pow 2 52 ≤ roundDiv n (Nat.pow 2 11) := by
    refine Nat.le_trans ?_ (le_roundDiv n (Nat.pow 2 11))
    rw [Nat.le_div_iff_mul_le (by decide)]
    exact hl
  unfold ofInt ofRatio?
  simp only [Int.natAbs_natCast, if_neg hpos, hsign, hexp, scaleDown_natCast]
  generalize roundDiv n (Nat.pow 2 11) = m at hround
  by_cases hm : m = Nat.pow 2 53
  · rw [if_pos hm]
    norm_num [value, maxInt64, Nat.pow_eq, maxExponent]
  · rw [if_neg hm]
    have hscaled : 9223372036854775808 ≤ m * 2048 := Nat.mul_le_mul_right 2048 hround
    norm_num [value, maxInt64, Nat.pow_eq, maxExponent]
    exact_mod_cast hscaled

end

end Double

end TableSchema
