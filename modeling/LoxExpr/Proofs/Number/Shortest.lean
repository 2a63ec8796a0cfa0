import LoxExpr.Number.Shortest
import LoxExpr.Proofs.Number.ByValue
import LoxExpr.Proofs.Number.Plain

/-!
# The shortest decimal reads back

Seventeen digits are enough: the decimal with seventeen digits that is nearest to a double is
closer to it than a part in `2 ^ 54`. The shorter ones are tried by reading them. Main statement
`toDouble_shortest`.
-/

namespace LoxExpr.Double

section
variable {units : Nat}

/-! ## Grids -/

theorem div_eq_floor_add_rest (num : Nat) {den : Nat} (hden : 0 < den) :
    (num : ℚ) / den = (num / den : Nat) + (num % den : Nat) / den := by
  have hpos : (0 : ℚ) < den := by exact_mod_cast hden
  rw [div_eq_iff hpos.ne', add_mul, div_mul_cancel₀ _ hpos.ne', mul_comm]
  exact_mod_cast (Nat.div_add_mod num den).symm

theorem abs_sub_nearest_le (num : Nat) {den : Nat} (hden : 0 < den) :
    |(nearest num den : ℚ) - num / den| ≤ 1 / 2 := by
  have hpos : (0 : ℚ) < den := by exact_mod_cast hden
  have hmod : ((num % den : Nat) : ℚ) < den := by exact_mod_cast Nat.mod_lt num hden
  rw [div_eq_floor_add_rest num hden]
  simp only [nearest]
  split
  · next h =>
    have hle : 2 * ((num % den : Nat) : ℚ) ≤ den := by
      exact_mod_cast (by omega : 2 * (num % den) ≤ den)
    rw [sub_add_cancel_left, abs_neg, abs_of_nonneg (by positivity), div_le_iff₀ hpos]
    linarith
  · next h =>
    have hle : (den : ℚ) ≤ 2 * ((num % den : Nat) : ℚ) := by
      exact_mod_cast (by omega : den ≤ 2 * (num % den))
    have hone : ((num % den : Nat) : ℚ) / den ≤ 1 := (div_le_one hpos).2 hmod.le
    have hhalf : 1 / 2 ≤ ((num % den : Nat) : ℚ) / den := by
      rw [le_div_iff₀ hpos]
      linarith
    push_cast
    rw [abs_le]
    constructor <;> linarith

/-- A magnitude on the grid of multiples of a power of ten. -/
theorem overPower_eq (units : Nat) (exponent : Int) :
    0 < (overPower units exponent).2 ∧
      ((overPower units exponent).1 : ℚ) / (overPower units exponent).2 =
        units / (10 ^ exponent * scale) := by
  have hscale := scale_pos
  cases exponent with
  | ofNat k =>
    simp only [overPower, Int.ofNat_eq_natCast, zpow_natCast, Nat.pow_eq, Nat.cast_mul,
      Nat.cast_pow, Nat.cast_ofNat]
    exact ⟨Nat.mul_pos hscale (Nat.pow_pos (by decide)), by rw [mul_comm (scale : ℚ)]⟩
  | negSucc k =>
    simp only [overPower, zpow_negSucc, Nat.pow_eq, Nat.cast_mul, Nat.cast_pow, Nat.cast_ofNat]
    exact ⟨hscale, by rw [div_mul_eq_div_div, div_inv_eq_mul]⟩

/-! ## The first digit -/

theorem scale_le_pow_lift : scale ≤ 10 ^ lift := by
  have hlift : lift = 10 * 33 := rfl
  unfold scale
  generalize hplaces : 1074 = places
  rw [hlift, Nat.pow_mul]
  calc 2 ^ places ≤ 2 ^ (33 * 33) := Nat.pow_le_pow_right (by decide) (by omega)
    _ = (2 ^ 33) ^ 33 := Nat.pow_mul ..
    _ ≤ (10 ^ 10) ^ 33 := Nat.pow_le_pow_left (by decide) 33

theorem pow_length_toDigits_le {n : Nat} (hn : n ≠ 0) :
    10 ^ ((Nat.toDigits 10 n).length - 1) ≤ n := by
  by_contra hlt
  rw [not_le] at hlt
  have hpos : 0 < (Nat.toDigits 10 n).length - 1 := by
    by_contra hzero
    obtain h : (Nat.toDigits 10 n).length - 1 = 0 := by omega
    rw [h] at hlt
    omega
  have hle := (Nat.length_toDigits_le_iff (by decide) hpos).2 hlt
  omega

/-- The point is right before the first digit. -/
theorem pow_decimalPoint_le (h : units ≠ 0) :
    (10 : ℚ) ^ (decimalPoint units - 1) * scale ≤ units := by
  have hlift := scale_le_pow_lift
  have hscale := scale_pos
  simp only [decimalPoint, Nat.pow_eq]
  generalize scale = scale at *
  generalize lift = lift at *
  have hfloor : units * 10 ^ lift / scale ≠ 0 := by
    refine (Nat.div_pos ?_ hscale).ne'
    exact hlift.trans (Nat.le_mul_of_pos_left _ (Nat.pos_of_ne_zero h))
  have hdigits := pow_length_toDigits_le hfloor
  have hlength : 0 < (Nat.toDigits 10 (units * 10 ^ lift / scale)).length :=
    Nat.length_toDigits_pos
  rw [Nat.le_div_iff_mul_le hscale] at hdigits
  generalize (Nat.toDigits 10 (units * 10 ^ lift / scale)).length = length at *
  have hexponent : (length : Int) - lift - 1 = (length - 1 : Nat) - (lift : Int) := by omega
  rw [hexponent, zpow_sub₀ (by norm_num), zpow_natCast, zpow_natCast, div_mul_eq_mul_div,
    div_le_iff₀ (by positivity)]
  exact_mod_cast hdigits

/-! ## Reading back -/

theorem toDouble_of_readsBack {d : Decimal} (hmagnitude : IsMagnitude units)
    (h : readsBack units d = true) : d.toDouble false = .finite false units hmagnitude := by
  have hunsigned := Decimal.isUnsigned_toDouble d
  unfold readsBack at h
  split at h
  · next negative units' hunits' heq =>
    rw [heq] at hunsigned ⊢
    obtain rfl : units' = units := by simpa using h
    obtain rfl : negative = false := hunsigned.2
    rfl
  · cases h

/-- What is at most half a step away, on a grid with `10 ^ 16` steps up to it, is close to a
double, as `2 ^ 54 < 2 * 10 ^ 16`. -/
theorem close_of_half_step {n x step : ℚ} (hstep : 0 < step) (hhalf : |n - x / step| ≤ 1 / 2)
    (hlow : 10 ^ 16 * step ≤ x) : |n * step - x| < x / 2 ^ 54 := by
  have herror : n * step - x = (n - x / step) * step := by
    rw [sub_mul, div_mul_cancel₀ _ hstep.ne']
  have hpart : (2 : ℚ) ^ 54 < 2 * 10 ^ 16 := by norm_num
  rw [herror, abs_mul, abs_of_pos hstep, lt_div_iff₀ (by positivity)]
  calc |n - x / step| * step * 2 ^ 54 ≤ 1 / 2 * step * 2 ^ 54 := by gcongr
    _ < 1 / 2 * step * (2 * 10 ^ 16) := by gcongr
    _ = 10 ^ 16 * step := by ring
    _ ≤ x := hlow

/-- Seventeen digits suffice: the nearest decimal with so many is close enough. -/
theorem toDouble_seventeen {num den : Nat} {exponent : Int} (h : units ≠ 0)
    (hmagnitude : IsMagnitude units) (hexponent : decimalPoint units - 1 = (16 : Nat) + exponent)
    (hover : overPower units exponent = (num, den)) :
    (Decimal.mk (nearest num den) exponent).toDouble false = .finite false units hmagnitude := by
  have hratio := overPower_eq units exponent
  rw [hover] at hratio
  obtain ⟨hden, hratio⟩ := hratio
  have hnearest := abs_sub_nearest_le num hden
  rw [hratio] at hnearest
  have hpoint := pow_decimalPoint_le h
  rw [hexponent, zpow_add₀ (by norm_num), zpow_natCast, mul_assoc] at hpoint
  have hscale : (0 : ℚ) < scale := by exact_mod_cast scale_pos
  refine Decimal.toDouble_of_close false h hmagnitude ?_
  rw [Decimal.value, mul_assoc]
  exact close_of_half_step (mul_pos (by positivity) hscale) hnearest hpoint

theorem toDouble_shortestAt {point : Int} (h : units ≠ 0) (hmagnitude : IsMagnitude units)
    (hpoint : decimalPoint units = point) :
    (shortestAt units point).toDouble false = .finite false units hmagnitude := by
  have hexponent : decimalPoint units - 1 = (16 : Nat) + (point - 17) := by
    rw [hpoint]
    clear hpoint
    omega
  have hseventeen (num den : Nat) := @toDouble_seventeen units num den _ h hmagnitude hexponent
  clear hexponent hpoint
  unfold shortestAt
  cases hfound : (List.range 16).findSome? fun n : Nat => onGrid? units (point - (n + 1)) with
  | none => exact hseventeen _ _ rfl
  | some d =>
    obtain ⟨n, -, hgrid⟩ := List.exists_of_findSome?_eq_some hfound
    unfold onGrid? at hgrid
    exact toDouble_of_readsBack hmagnitude (List.find?_some hgrid)

/-- The shortest decimal of a double is read as that double. -/
theorem toDouble_shortest (h : units ≠ 0) (hmagnitude : IsMagnitude units) :
    (shortest units).toDouble false = .finite false units hmagnitude :=
  toDouble_shortestAt h hmagnitude rfl

end

end LoxExpr.Double
