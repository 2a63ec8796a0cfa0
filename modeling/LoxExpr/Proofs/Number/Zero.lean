import Mathlib
import LoxExpr.Number.Double

/-!
# The zeros

The two zeros are one number (`equal_zero_iff`). Main statement `div_of_equal_zero`: division by
either of them has a result.
-/

namespace LoxExpr.Double

theorem limit_ne_zero : limit ≠ 0 := by
  unfold limit
  exact Nat.ne_of_gt (two_pow_pos _)

theorem signed_eq_zero_iff {negative : Bool} {n : Nat} : signed negative n = 0 ↔ n = 0 := by
  cases negative <;> simp [signed]

/-- Both zeros are equal to zero, and nothing else is. -/
theorem equal_zero_iff {x : Double} :
    x.equal (.zero false) = true ↔ ∃ negative, x = .zero negative := by
  have hzero : signed false 0 = 0 := rfl
  cases x with
  | nan => simp [equal, compare, place, zero]
  | infinity negative =>
    -- an infinity lies just beyond every finite number, and so not at zero
    simp only [equal, compare, place, zero, hzero, beq_iff_eq, signed_eq_zero_iff, limit_ne_zero,
      reduceCtorEq, exists_false]
  | finite negative units h =>
    simp only [equal, compare, place, zero, hzero, beq_iff_eq, signed_eq_zero_iff, finite.injEq,
      exists_eq_left']

/-- Division by a zero gives an infinity, or not-a-number if there is nothing to divide. -/
theorem div_of_equal_zero (x : Double) {y : Double} (h : y.equal (.zero false) = true) :
    x / y = if x = .nan ∨ x.equal (.zero false) = true then .nan
      else .infinity (x.isNegative != y.isNegative) := by
  obtain ⟨negative, rfl⟩ := equal_zero_iff.1 h
  simp only [equal_zero_iff]
  show div x _ = _
  cases x with
  | nan => rfl
  | infinity m => simp [zero, div, isNegative]
  | finite m units hm => simp [zero, div, isNegative]

end LoxExpr.Double
