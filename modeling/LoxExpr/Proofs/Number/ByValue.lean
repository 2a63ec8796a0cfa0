import LoxExpr.Number.Decimal
import LoxExpr.Proofs.Number.Rounding

/-!
# Doubles by value

Rounding depends on the quotient alone, not on its numerator and denominator, and a multiple of
its own spacing is the result for all quotients close to it (`roundUnits_eq`). So a decimal is
read by its value: main statement `Decimal.toDouble_congr`.
-/

namespace LoxExpr

namespace Double

section
variable {num den num' den' k : Nat}

/-! ## Quotients -/

theorem nearest_mul_right (num den : Nat) (hk : 0 < k) :
    nearest (num * k) (den * k) = nearest num den := by
  have hmod : 2 * (num * k % (den * k)) = 2 * (num % den) * k := by
    rw [Nat.mul_mod_mul_right, Nat.mul_assoc]
  simp only [nearest, hmod, Nat.mul_div_mul_right _ _ hk, Nat.mul_lt_mul_right hk,
    Nat.mul_left_inj hk.ne']

theorem roundUnits_mul_right (num den : Nat) (hk : 0 < k) :
    roundUnits (num * k) (den * k) = roundUnits num den := by
  simp only [roundUnits, Nat.mul_div_mul_right _ _ hk]
  rw [Nat.mul_right_comm den k, nearest_mul_right _ _ hk]

theorem roundUnits_congr (hden : 0 < den) (hden' : 0 < den')
    (h : (num : ℚ) / den = num' / den') : roundUnits num den = roundUnits num' den' := by
  have hcross : num * den' = num' * den := by
    have hpos : (den : ℚ) ≠ 0 ∧ (den' : ℚ) ≠ 0 := by
      constructor <;> positivity
    rw [div_eq_div_iff hpos.1 hpos.2] at h
    exact_mod_cast h
  rw [← roundUnits_mul_right num den hden', hcross, Nat.mul_comm den,
    roundUnits_mul_right num' den' hden]

/-- Equal quotients have one double. -/
theorem ofRatio_congr (negative : Bool) (hden : 0 < den) (hden' : 0 < den')
    (h : (num : ℚ) / den = num' / den') : ofRatio negative num den = ofRatio negative num' den' := by
  have hround := roundUnits_congr hden hden' h
  simp only [ofRatio, hround]

/-! ## Very large and very small quotients -/

/-- Rounding does not go below a power of two. -/
theorem two_pow_le_roundUnits {j : Nat} (h : 2 ^ j ≤ num / den) : 2 ^ j ≤ roundUnits num den := by
  have hpos : num / den ≠ 0 := by
    have := Nat.two_pow_pos j
    omega
  have hlog : j ≤ (num / den).log2 := (Nat.le_log2 hpos).2 h
  have hstep : spacing (num / den) ∣ 2 ^ (num / den).log2 := Nat.pow_dvd_pow 2 (Nat.sub_le _ _)
  calc 2 ^ j ≤ 2 ^ (num / den).log2 := Nat.pow_le_pow_right (by decide) hlog
    _ = 2 ^ (num / den).log2 / spacing (num / den) * spacing (num / den) :=
      (Nat.div_mul_cancel hstep).symm
    _ ≤ num / den / spacing (num / den) * spacing (num / den) :=
      Nat.mul_le_mul_right _ (Nat.div_le_div_right (Nat.log2_self_le hpos))
    _ ≤ roundUnits num den := by
      rw [Nat.div_div_eq_div_mul]
      exact Nat.mul_le_mul_right _ (le_nearest _ _)

theorem limit_le_roundUnits (h : limit ≤ num / den) : limit ≤ roundUnits num den := by
  unfold limit at h ⊢
  generalize limitLog = places at h ⊢
  exact two_pow_le_roundUnits h

theorem ofRatio_of_limit_le (negative : Bool) (h : limit ≤ num / den) :
    ofRatio negative num den = .infinity negative :=
  dif_neg (Nat.not_lt.2 (limit_le_roundUnits h))

/-- Less than half a unit is rounded to nothing. -/
theorem ofRatio_of_two_mul_lt (negative : Bool) (h : 2 * num < den) :
    ofRatio negative num den = .zero negative := by
  have hfloor : num / den = 0 := Nat.div_eq_of_lt (by omega)
  have hone : spacing 0 = 1 := rfl
  have hround : roundUnits num den = 0 := by
    have hmod : num % den = num := Nat.mod_eq_of_lt (by omega)
    simp only [roundUnits, hfloor, hone, Nat.mul_one, nearest, hmod, h, true_or, if_true]
  have hlt : roundUnits num den < limit := by
    rw [hround]
    exact isMagnitude_zero.2
  rw [ofRatio_of_lt _ hlt]
  simp only [hround, zero]

/-! ## Quotients close to a double -/

theorem nearest_eq {n : Nat} (hden : 0 < den) (h : |(num : ℚ) / den - n| < 1 / 2) :
    nearest num den = n := by
  obtain ⟨hlow, hhigh⟩ := abs_lt.1 h
  have hpos : (0 : ℚ) < den := by exact_mod_cast hden
  have hlow' : (2 * (n * den) : ℚ) < 2 * num + den := by
    have := (lt_div_iff₀ hpos).1 (by linarith : (n : ℚ) - 1 / 2 < num / den)
    linarith
  have hhigh' : (2 * num : ℚ) < 2 * (n * den) + den := by
    have := (div_lt_iff₀ hpos).1 (by linarith : (num : ℚ) / den < n + 1 / 2)
    linarith
  have hlow'' : 2 * (n * den) < 2 * num + den := by exact_mod_cast hlow'
  have hhigh'' : 2 * num < 2 * (n * den) + den := by exact_mod_cast hhigh'
  have hdivmod := Nat.div_add_mod num den
  have hmod := Nat.mod_lt num hden
  simp only [nearest]
  generalize num / den = floor at *
  -- a whole number less than one away is the floor or the one above it
  have hge : floor ≤ n := by
    by_contra hlt
    have := Nat.mul_le_mul_right den (by omega : n + 1 ≤ floor)
    rw [Nat.succ_mul, Nat.mul_comm floor] at this
    omega
  have hle : n ≤ floor + 1 := by
    by_contra hgt
    have := Nat.mul_le_mul_right den (by omega : floor + 2 ≤ n)
    rw [Nat.add_mul, Nat.mul_comm floor] at this
    omega
  obtain rfl | rfl : n = floor ∨ n = floor + 1 := by omega
  · rw [Nat.mul_comm n] at hlow'' hhigh''
    rw [if_pos (by omega)]
  · rw [Nat.add_mul floor, Nat.mul_comm floor] at hlow'' hhigh''
    rw [if_neg (by omega)]

/-- A multiple of the step at which a quotient is rounded, with the quotient less than half a step
away. -/
theorem roundUnits_of_dvd {m : Nat} (hden : 0 < den) (hdvd : spacing (num / den) ∣ m)
    (hsmall : m ≤ 2 ^ 53 * spacing (num / den)) (h : |(num : ℚ) / den - m| < m / 2 ^ 54) :
    roundUnits num den = m := by
  obtain ⟨n, rfl⟩ := hdvd
  have hstep : 0 < spacing (num / den) := Nat.two_pow_pos _
  rw [roundUnits]
  generalize spacing (num / den) = step at *
  have hpos : (0 : ℚ) < step := by exact_mod_cast hstep
  have hnear : nearest num (den * step) = n := by
    refine nearest_eq (Nat.mul_pos hden hstep) ?_
    have hle : ((step * n : Nat) : ℚ) ≤ 2 ^ 53 * step := by exact_mod_cast hsmall
    have hquotient : (num : ℚ) / (den * step : Nat) - n = (num / den - (step * n : Nat)) / step := by
      push_cast
      field_simp
    rw [hquotient, abs_div, abs_of_pos hpos, div_lt_iff₀ hpos]
    linarith
  rw [hnear, Nat.mul_comm]

theorem add_le_of_dvd {step a b : Nat} (ha : step ∣ a) (hb : step ∣ b) (h : a < b) :
    a + step ≤ b := by
  have hle := Nat.le_of_dvd (Nat.sub_pos_of_lt h) (Nat.dvd_sub hb ha)
  omega

/-- What is true of a magnitude other than zero, its binade and its spacing. -/
theorem binade_of_ne_zero {m : Nat} (hm : m ≠ 0) :
    2 ^ m.log2 ≤ m ∧ m < 2 * 2 ^ m.log2 ∧ spacing m ∣ 2 ^ m.log2 ∧
      2 ^ m.log2 ≤ 2 ^ 52 * spacing m := by
  have hlog := (Nat.log2_eq_iff hm).1 rfl
  rw [Nat.pow_succ, Nat.mul_comm _ 2] at hlog
  refine ⟨hlog.1, hlog.2, Nat.pow_dvd_pow 2 (Nat.sub_le _ _), ?_⟩
  show 2 ^ m.log2 ≤ 2 ^ 52 * 2 ^ (m.log2 - 52)
  rw [← Nat.pow_add]
  exact Nat.pow_le_pow_right (by decide) (by omega)

theorem div_lt_floor_add_one (num den : Nat) : (num : ℚ) / den < (num / den : Nat) + 1 := by
  rw [← Nat.floor_div_eq_div (K := ℚ)]
  exact Nat.lt_floor_add_one _

/-- The floor of a quotient close to a magnitude is less than one spacing away, and more than half of
the magnitude. -/
theorem floor_of_close {m : Nat} (hm : m ≠ 0) (h : |(num : ℚ) / den - m| < m / 2 ^ 54) :
    num / den < m + spacing m ∧ m < num / den + 1 + spacing m ∧ m < 2 * (num / den + 1) := by
  obtain ⟨hlow, hhigh⟩ := abs_lt.1 h
  obtain ⟨-, hlt, -, hsmall⟩ := binade_of_ne_zero hm
  have hfloor : ((num / den : Nat) : ℚ) ≤ num / den := Nat.cast_div_le
  have hfloor' := div_lt_floor_add_one num den
  have hhalf : (m : ℚ) ≤ 2 ^ 53 * spacing m := by
    have : m ≤ 2 ^ 53 * spacing m := by omega
    exact_mod_cast this
  have hpos : (0 : ℚ) < m := by exact_mod_cast Nat.pos_of_ne_zero hm
  generalize (num : ℚ) / den = x at *
  generalize num / den = floor at *
  have habove : (floor : ℚ) < (m + spacing m : Nat) := by
    push_cast
    linarith
  have hbelow : (m : ℚ) < (floor + 1 + spacing m : Nat) := by
    push_cast
    linarith
  have htwice : (m : ℚ) < (2 * (floor + 1) : Nat) := by
    push_cast
    linarith
  exact ⟨by exact_mod_cast habove, by exact_mod_cast hbelow, by exact_mod_cast htwice⟩

/-- A quotient close to a magnitude is in its binade; or else the magnitude is the least of its
binade, and the quotient is in the one below. -/
theorem log2_div_of_close {m : Nat} (hm : m ≠ 0) (hdvd : spacing m ∣ m)
    (h : |(num : ℚ) / den - m| < m / 2 ^ 54) :
    (num / den).log2 = m.log2 ∨
      m = 2 ^ m.log2 ∧ (num / den).log2 ≤ m.log2 ∧ m.log2 ≤ (num / den).log2 + 1 := by
  obtain ⟨hle, hlt, hstep, -⟩ := binade_of_ne_zero hm
  obtain ⟨habove, hbelow, htwice⟩ := floor_of_close hm h
  generalize num / den = floor at *
  rcases Nat.lt_trichotomy floor.log2 m.log2 with hlog | hlog | hlog
  · right
    have hfloor : floor + 1 ≤ 2 ^ m.log2 :=
      Nat.lt_log2_self.trans_le (Nat.pow_le_pow_right (by decide) hlog)
    refine ⟨?_, hlog.le, ?_⟩
    · by_contra hne
      have hnext := add_le_of_dvd hstep hdvd (by omega : 2 ^ m.log2 < m)
      omega
    · by_contra hfar
      have hfloor : floor + 1 ≤ 2 ^ (m.log2 - 1) :=
        Nat.lt_log2_self.trans_le (Nat.pow_le_pow_right (by decide) (by omega))
      have hpow : 2 ^ (m.log2 - 1) * 2 = 2 ^ m.log2 := by
        rw [← Nat.pow_succ]
        congr 1
        omega
      omega
  · exact .inl hlog
  · exfalso
    have hne : floor ≠ 0 := by
      rintro rfl
      simp at hlog
    have hfloor : 2 * 2 ^ m.log2 ≤ floor := by
      rw [Nat.mul_comm, ← Nat.pow_succ]
      exact (Nat.le_log2 hne).1 hlog
    have hnext := add_le_of_dvd hdvd (Nat.dvd_mul_left_of_dvd hstep 2) hlt
    omega

/-- A multiple of its own spacing is the result for all quotients that are closer to it than a part
in `2 ^ 54`. -/
theorem roundUnits_eq {m : Nat} (hden : 0 < den) (hm : m ≠ 0) (hdvd : spacing m ∣ m)
    (h : |(num : ℚ) / den - m| < m / 2 ^ 54) : roundUnits num den = m := by
  obtain ⟨hle, hlt, -, hsmall⟩ := binade_of_ne_zero hm
  rcases log2_div_of_close hm hdvd h with hlog | ⟨hmin, hlog, hlog'⟩
  · have hspacing : spacing (num / den) = spacing m := by
      show Nat.pow 2 _ = Nat.pow 2 _
      rw [hlog]
    refine roundUnits_of_dvd hden (hspacing ▸ hdvd) ?_ h
    rw [hspacing]
    omega
  · refine roundUnits_of_dvd hden ?_ ?_ h
    · rw [hmin]
      exact Nat.pow_dvd_pow 2 (by omega)
    · rw [hmin]
      show 2 ^ m.log2 ≤ 2 ^ 53 * 2 ^ ((num / den).log2 - 52)
      rw [← Nat.pow_add]
      exact Nat.pow_le_pow_right (by decide) (by omega)

end

/-! ## Units -/

theorem scale_pos : 0 < scale := by
  unfold scale
  apply two_pow_pos

theorem limit_eq : limit = 2 ^ 1024 * scale := by
  unfold limit scale
  have hlog : limitLog = 1024 + 1074 := rfl
  generalize limitLog = sum at hlog
  generalize 1024 = places at hlog
  generalize 1074 = places' at hlog
  rw [hlog]
  exact Nat.pow_add 2 places places'

end Double

namespace Decimal

/-- The number that a decimal stands for. -/
def value (d : Decimal) : ℚ := d.coefficient * 10 ^ d.exponent

theorem eight_pow_le (k : Nat) : 2 ^ (3 * k) ≤ 10 ^ k := by
  rw [Nat.pow_mul]
  exact Nat.pow_le_pow_left (by decide) k

/-- What is beyond the largest double by its logarithm is beyond it. -/
theorem limit_le_of_log2 {c k : Nat} (hc : c ≠ 0) (h : 1024 ≤ c.log2 + 3 * k) :
    Double.limit ≤ c * 10 ^ k * Double.scale := by
  rw [Double.limit_eq]
  refine Nat.mul_le_mul_right _ ?_
  generalize 1024 = places at h ⊢
  calc 2 ^ places ≤ 2 ^ (c.log2 + 3 * k) := Nat.pow_le_pow_right (by decide) h
    _ = 2 ^ c.log2 * 2 ^ (3 * k) := Nat.pow_add _ _ _
    _ ≤ c * 10 ^ k := Nat.mul_le_mul (Nat.log2_self_le hc) (eight_pow_le k)

/-- What is below half of the smallest double by its logarithm is below it. -/
theorem two_mul_lt_of_log2 {c k : Nat} (h : c.log2 + 1076 ≤ 3 * k) :
    2 * (c * Double.scale) < 10 ^ k := by
  unfold Double.scale
  generalize hplaces : 1074 = places
  calc 2 * (c * 2 ^ places) < 2 * (2 ^ (c.log2 + 1) * 2 ^ places) :=
        Nat.mul_lt_mul_of_pos_left
          (Nat.mul_lt_mul_of_pos_right Nat.lt_log2_self (Nat.two_pow_pos _)) (by decide)
    _ = 2 ^ (c.log2 + 1 + places + 1) := by ring
    _ ≤ 2 ^ (3 * k) := Nat.pow_le_pow_right (by decide) (by omega)
    _ ≤ 10 ^ k := eight_pow_le k

/-- Reading a decimal rounds its value in units. -/
theorem toDouble_eq_ofRatio (negative : Bool) (d : Decimal) :
    ∃ num den : Nat, 0 < den ∧ (num : ℚ) / den = d.value * Double.scale ∧
      d.toDouble negative = .ofRatio negative num den := by
  obtain ⟨c, exponent⟩ := d
  by_cases hc : c = 0
  · subst hc
    have hzero : Double.ofRatio negative 0 1 = .zero negative :=
      Double.ofRatio_of_two_mul_lt negative (by decide)
    refine ⟨0, 1, by decide, ?_, ?_⟩
    · rw [value, Nat.cast_zero, zero_mul, zero_mul, zero_div]
    · rw [hzero, toDouble, if_pos rfl]
  cases exponent with
  | ofNat k =>
    refine ⟨c * 10 ^ k * Double.scale, 1, by decide, ?_, ?_⟩
    · simp only [value, Int.ofNat_eq_natCast, zpow_natCast, Nat.cast_mul, Nat.cast_pow,
        Nat.cast_ofNat, Nat.cast_one, div_one]
    · simp only [toDouble, hc, if_false]
      split
      · next h =>
        rw [Double.ofRatio_of_limit_le]
        rw [Nat.div_one]
        exact limit_le_of_log2 hc h
      · rfl
  | negSucc k =>
    refine ⟨c * Double.scale, 10 ^ (k + 1), Nat.pow_pos (by decide), ?_, ?_⟩
    · simp only [value, zpow_negSucc, Nat.cast_mul, Nat.cast_pow, Nat.cast_ofNat]
      rw [div_eq_mul_inv, mul_right_comm]
    · simp only [toDouble, hc, if_false]
      split
      · next h => rw [Double.ofRatio_of_two_mul_lt _ (two_mul_lt_of_log2 h)]
      · rfl

/-- Decimals of one value are read as one double. -/
theorem toDouble_congr (negative : Bool) {d d' : Decimal} (h : d.value = d'.value) :
    d.toDouble negative = d'.toDouble negative := by
  obtain ⟨num, den, hden, hratio, hd⟩ := toDouble_eq_ofRatio negative d
  obtain ⟨num', den', hden', hratio', hd'⟩ := toDouble_eq_ofRatio negative d'
  rw [hd, hd', Double.ofRatio_congr negative hden hden']
  rw [hratio, hratio', h]

/-- A decimal that is closer to a magnitude than a part in `2 ^ 54` is read as that magnitude. -/
theorem toDouble_of_close (negative : Bool) {d : Decimal} {units : Nat} (hunits : units ≠ 0)
    (hmagnitude : Double.IsMagnitude units) (h : |d.value * Double.scale - units| < units / 2 ^ 54) :
    d.toDouble negative = .finite negative units hmagnitude := by
  obtain ⟨num, den, hden, hratio, hd⟩ := toDouble_eq_ofRatio negative d
  rw [← hratio] at h
  have hround := Double.roundUnits_eq hden hunits hmagnitude.1 h
  have hlt : Double.roundUnits num den < Double.limit := hround ▸ hmagnitude.2
  rw [hd, Double.ofRatio_of_lt negative hlt]
  simp only [hround]

end Decimal

end LoxExpr
