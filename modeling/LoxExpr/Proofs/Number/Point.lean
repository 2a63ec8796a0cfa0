import LoxExpr.Number.Layout
import LoxExpr.Proofs.Number.Shortest

/-!
# The place of the point

The shortest decimal of a double has its point where the double has it, or one place later if it
was rounded up to a power of ten. Main statement `isPlain_significant`: a double with a fraction has
at most sixteen digits before the point, and so it is displayed without an exponent unless it is
below `10⁻⁴`.
-/

namespace LoxExpr.Double

section
variable {units : Nat}

/-! ## Where the point is -/

/-- The point is right before the first digit, and no later. -/
theorem lt_pow_decimalPoint (units : Nat) : (units : ℚ) < 10 ^ decimalPoint units * scale := by
  have hscale := scale_pos
  simp only [decimalPoint, Nat.pow_eq]
  generalize scale = scale at *
  generalize lift = lift at *
  have hlength : 0 < (Nat.toDigits 10 (units * 10 ^ lift / scale)).length :=
    Nat.length_toDigits_pos
  have hfloor := (Nat.length_toDigits_le_iff (by decide) hlength).1
    (Nat.le_refl (Nat.toDigits 10 (units * 10 ^ lift / scale)).length)
  rw [Nat.div_lt_iff_lt_mul hscale] at hfloor
  generalize (Nat.toDigits 10 (units * 10 ^ lift / scale)).length = length at *
  rw [zpow_sub₀ (by norm_num), zpow_natCast, zpow_natCast, div_mul_eq_mul_div,
    lt_div_iff₀ (by positivity)]
  exact_mod_cast hfloor

/-- What is found on a grid is one of the two neighbours of the value there. -/
theorem onGrid?_eq_some {exponent : Int} {d : Decimal} (h : onGrid? units exponent = some d) :
    d.exponent = exponent ∧
      (overPower units exponent).1 / (overPower units exponent).2 ≤ d.coefficient ∧
      d.coefficient ≤ (overPower units exponent).1 / (overPower units exponent).2 + 1 := by
  unfold onGrid? at h
  generalize overPower units exponent = grid at h ⊢
  obtain ⟨num, den⟩ := grid
  have hle := nearest_le num den
  have hge := le_nearest num den
  have hmem := List.mem_of_find?_eq_some h
  simp only [List.map_cons, List.map_nil, List.mem_cons, List.not_mem_nil, or_false] at hmem
  rcases hmem with rfl | rfl
  · exact ⟨rfl, hge, hle⟩
  · dsimp only
    refine ⟨rfl, ?_⟩
    split <;> omega

/-- The shortest decimal is one of the two neighbours of the value on its own grid, which is no
coarser than the first digit. -/
theorem exists_grid (units : Nat) (point : Int) :
    ∃ (n : Nat) (exponent : Int), point - 1 = n + exponent ∧
      (shortestAt units point).exponent = exponent ∧
      (overPower units exponent).1 / (overPower units exponent).2 ≤
        (shortestAt units point).coefficient ∧
      (shortestAt units point).coefficient ≤
        (overPower units exponent).1 / (overPower units exponent).2 + 1 := by
  unfold shortestAt
  cases hfound : (List.range 16).findSome? fun n : Nat => onGrid? units (point - (n + 1)) with
  | none => exact ⟨16, point - 17, by omega, rfl, le_nearest _ _, nearest_le _ _⟩
  | some d =>
    obtain ⟨n, -, hgrid⟩ := List.exists_of_findSome?_eq_some hfound
    exact ⟨n, point - (n + 1), by omega, onGrid?_eq_some hgrid⟩

/-- The shortest decimal has no digit before the first one of the value, and is at most one step of
its grid above the value. -/
theorem shortestAt_bounds {point : Int} (h : (10 : ℚ) ^ (point - 1) * scale ≤ units) :
    ∃ n : Nat, point - 1 = n + (shortestAt units point).exponent ∧
      10 ^ n ≤ (shortestAt units point).coefficient ∧
      ((shortestAt units point).coefficient : ℚ) ≤
        units / (10 ^ (shortestAt units point).exponent * scale) + 1 := by
  obtain ⟨n, exponent, hsplit, hexponent, hge, hle⟩ := exists_grid units point
  obtain ⟨hden, hratio⟩ := overPower_eq units exponent
  have hscale : (0 : ℚ) < scale := by exact_mod_cast scale_pos
  rw [hexponent]
  generalize shortestAt units point = d at *
  generalize overPower units exponent = grid at *
  generalize scale = scale at *
  obtain ⟨num, den⟩ := grid
  have hden' : (0 : ℚ) < den := by exact_mod_cast hden
  refine ⟨n, hsplit, hge.trans' ?_, ?_⟩
  · rw [Nat.le_div_iff_mul_le hden]
    rw [hsplit, zpow_add₀ (by norm_num), zpow_natCast, mul_assoc,
      ← le_div_iff₀ (by positivity), ← hratio, le_div_iff₀ hden'] at h
    exact_mod_cast h
  · calc (d.coefficient : ℚ) ≤ (num / den : Nat) + 1 := by exact_mod_cast hle
      _ ≤ num / den + 1 := by gcongr; exact Nat.cast_div_le
      _ = units / (10 ^ exponent * scale) + 1 := by rw [hratio]

/-- The point does not move to the front by rounding. -/
theorem decimalPoint_le_significant (h : units ≠ 0) :
    decimalPoint units ≤ (significant units).2 := by
  obtain ⟨n, hsplit, hge, -⟩ := shortestAt_bounds (pow_decimalPoint_le h)
  unfold significant shortest
  generalize decimalPoint units = point at *
  generalize shortestAt units point = d at *
  have hlength : ¬(Nat.toDigits 10 d.coefficient).length ≤ n := by
    intro hle
    rcases Nat.eq_zero_or_pos n with rfl | hpos
    · exact absurd hle (Nat.not_le.2 Nat.length_toDigits_pos)
    · exact absurd ((Nat.length_toDigits_le_iff (by decide) hpos).1 hle) (Nat.not_lt.2 hge)
  dsimp only
  omega

theorem decimalPoint_le_sixteen (h : units ≠ 0) (hlt : units < 2 ^ 52 * scale) :
    decimalPoint units ≤ 16 := by
  have hlow := pow_decimalPoint_le h
  have hscale : (0 : ℚ) < scale := by exact_mod_cast scale_pos
  have hlt' : (units : ℚ) < 2 ^ 52 * scale := by exact_mod_cast hlt
  generalize decimalPoint units = point at *
  generalize scale = scale at *
  by_contra hgt
  have hpow : (10 : ℚ) ^ (16 : Nat) ≤ 10 ^ (point - 1) := by
    rw [← zpow_natCast]
    exact zpow_le_zpow_right₀ (by norm_num) (by omega)
  have hle : (10 : ℚ) ^ 16 * scale < 2 ^ 52 * scale :=
    (mul_le_mul_of_nonneg_right hpow hscale.le).trans_lt (hlow.trans_lt hlt')
  have := lt_of_mul_lt_mul_right hle hscale.le
  norm_num at this

/-- A value with a fraction has sixteen digits before its point at most, also after rounding. -/
theorem significant_le (h : units ≠ 0) (hlt : units < 2 ^ 52 * scale) :
    (significant units).2 ≤ 16 := by
  have hlow := pow_decimalPoint_le h
  have hpoint := decimalPoint_le_sixteen h hlt
  obtain ⟨n, hsplit, -, hle⟩ := shortestAt_bounds hlow
  have hscale : (0 : ℚ) < scale := by exact_mod_cast scale_pos
  have hlt' : (units : ℚ) < 2 ^ 52 * scale := by exact_mod_cast hlt
  unfold significant shortest
  generalize decimalPoint units = point at *
  generalize shortestAt units point = d at *
  generalize scale = scale at *
  obtain ⟨places, hplaces⟩ : ∃ places : Nat, d.exponent + (places + 1 : Nat) = 16 :=
    ⟨(15 - d.exponent).toNat, by omega⟩
  have hlength : (Nat.toDigits 10 d.coefficient).length ≤ places + 1 := by
    have hstep : (0 : ℚ) < 10 ^ d.exponent := by positivity
    have hcoarse : (10 : ℚ) ^ d.exponent ≤ 10 ^ (15 : Nat) := by
      rw [← zpow_natCast]
      exact zpow_le_zpow_right₀ (by norm_num) (by omega)
    have hfull : (10 : ℚ) ^ (places + 1) * 10 ^ d.exponent = 10 ^ (16 : Nat) := by
      rw [← zpow_natCast, ← zpow_add₀ (by norm_num), add_comm, hplaces]
      rfl
    refine (Nat.length_toDigits_le_iff (by decide) places.succ_pos).2 ?_
    have hcoefficient : (d.coefficient : ℚ) < 10 ^ (places + 1) := by
      refine hle.trans_lt (lt_of_mul_lt_mul_right ?_ hstep.le)
      calc ((units : ℚ) / (10 ^ d.exponent * scale) + 1) * 10 ^ d.exponent
          = units / scale + 10 ^ d.exponent := by field_simp
        _ < 2 ^ 52 + 10 ^ 15 := add_lt_add_of_lt_of_le ((div_lt_iff₀ hscale).2 hlt') hcoarse
        _ < 10 ^ 16 := by norm_num
        _ = 10 ^ (places + 1) * 10 ^ d.exponent := hfull.symm
    exact_mod_cast hcoefficient
  dsimp only
  omega

/-! ## Values with a fraction -/

theorem ne_zero_of_not_dvd (h : ¬scale ∣ units) : units ≠ 0 := by
  rintro rfl
  exact h (Nat.dvd_zero _)

/-- From `2 ^ 52` on all doubles are whole. -/
theorem lt_of_not_dvd (hmagnitude : IsMagnitude units) (h : ¬scale ∣ units) :
    units < 2 ^ 52 * scale := by
  by_contra hge
  rw [not_lt] at hge
  have hne := ne_zero_of_not_dvd h
  refine h (Nat.dvd_trans ?_ hmagnitude.1)
  unfold spacing
  unfold scale at hge ⊢
  generalize 1074 = places at hge ⊢
  rw [Nat.pow_eq, ← Nat.pow_add] at hge
  have hlog := (Nat.le_log2 hne).2 hge
  exact Nat.pow_dvd_pow 2 (by omega)

theorem neg_four_lt_decimalPoint (h : scale ≤ 10 ^ 4 * units) : -4 < decimalPoint units := by
  have hscale : (0 : ℚ) < scale := by exact_mod_cast scale_pos
  have hunits := lt_pow_decimalPoint units
  have hsize : (scale : ℚ) ≤ 10 ^ 4 * units := by exact_mod_cast h
  clear h
  generalize decimalPoint units = point at *
  generalize scale = scale at *
  by_contra hle
  have hpow : (10 : ℚ) ^ point ≤ 10 ^ (-4 : ℤ) :=
    zpow_le_zpow_right₀ (by norm_num) (not_lt.1 hle)
  have hsmall : (units : ℚ) < 10 ^ (-4 : ℤ) * scale :=
    hunits.trans_le (mul_le_mul_of_nonneg_right hpow hscale.le)
  norm_num at hsmall
  linarith

/-- A value with a fraction is displayed without an exponent, unless it is too small. -/
theorem isPlain_significant (hmagnitude : IsMagnitude units) (hfraction : ¬scale ∣ units)
    (hsize : scale ≤ 10 ^ 4 * units) : isPlain (significant units).2 = true := by
  have hne := ne_zero_of_not_dvd hfraction
  have hlow := (neg_four_lt_decimalPoint hsize).trans_le (decimalPoint_le_significant hne)
  have hhigh := significant_le hne (lt_of_not_dvd hmagnitude hfraction)
  simp [isPlain, hlow, hhigh]

end

end LoxExpr.Double
