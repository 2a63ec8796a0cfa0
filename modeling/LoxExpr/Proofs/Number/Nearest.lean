import LoxExpr.Proofs.Number.Shortest

/-!
# Correct rounding

What it means to be the double nearest to a number, said without an algorithm: no double is closer,
and if another one is as close, then the last binary digit is zero. Infinity has its place at
`2 ^ 1024`. There is one such double at most (`IsNearest.unique`). Main statement
`isNearest_toDouble`: a decimal is read as the double nearest to its value.
-/

namespace LoxExpr.Double

/-! ## The nearest double -/

/-- The last binary digit of a magnitude is zero: it is an even multiple of the spacing there. -/
def IsEven (units : Nat) : Prop := 2 * spacing units ∣ units

/-- A double without a sign is nearest to a number: no double is closer, and none is as close unless
the last digit is even. -/
structure IsNearest (value : ℚ) (x : Double) : Prop where
  unsigned : x.IsUnsigned
  closest : ∃ units : Nat, x.place = some (units : Int) ∧
    ∀ (y : Double) (place : Int), y.place = some place →
      |value * scale - units| ≤ |value * scale - place| ∧
        (|value * scale - units| = |value * scale - place| → place = units ∨ IsEven units)

/-! ## Places -/

section
variable {p q : Nat}

theorem spacing_dvd_spacing (h : p ≤ q) : spacing p ∣ spacing q := by
  have hlog : p.log2 ≤ q.log2 := by
    rw [Nat.log2_eq_log_two, Nat.log2_eq_log_two]
    exact Nat.log_mono_right h
  exact Nat.pow_dvd_pow 2 (Nat.sub_le_sub_right hlog 52)

theorem spacing_pos (units : Nat) : 0 < spacing units := Nat.two_pow_pos _

theorem spacing_dvd_two_pow (k : Nat) : spacing (2 ^ k) ∣ 2 ^ k := by
  unfold spacing
  rw [Nat.log2_two_pow]
  exact Nat.pow_dvd_pow 2 (Nat.sub_le _ _)

theorem spacing_dvd_limit : spacing limit ∣ limit := by
  unfold limit
  generalize limitLog = places
  exact spacing_dvd_two_pow places

/-- The places of doubles without a sign are the multiples of their own spacing up to `limit`. -/
theorem exists_place (hdvd : spacing q ∣ q) (hle : q ≤ limit) :
    ∃ y : Double, y.place = some (q : Int) := by
  rcases Nat.lt_or_eq_of_le hle with hlt | heq
  · exact ⟨.finite false q ⟨hdvd, hlt⟩, rfl⟩
  · exact ⟨.infinity false, by rw [heq]; rfl⟩

theorem natAbs_signed (negative : Bool) (n : Nat) : (signed negative n).natAbs = n := by
  cases negative <;> simp [signed]

theorem place_natAbs {y : Double} {place : Int} (h : y.place = some place) :
    spacing place.natAbs ∣ place.natAbs ∧ place.natAbs ≤ limit := by
  cases y with
  | nan => cases h
  | infinity negative =>
    obtain rfl := Option.some.inj h
    rw [natAbs_signed]
    exact ⟨spacing_dvd_limit, Nat.le_refl _⟩
  | finite negative units hmagnitude =>
    obtain rfl := Option.some.inj h
    rw [natAbs_signed]
    exact ⟨hmagnitude.1, hmagnitude.2.le⟩

/-- A double without a sign is told by its place. -/
theorem IsUnsigned.eq_of_place {x y : Double} (hx : x.IsUnsigned) (hy : y.IsUnsigned)
    (h : x.place = y.place) : x = y := by
  cases x with
  | nan => exact absurd rfl hx.1
  | infinity negative =>
    obtain rfl : negative = false := hx.2
    cases y with
    | nan => exact absurd rfl hy.1
    | infinity negative =>
      obtain rfl : negative = false := hy.2
      rfl
    | finite negative units hmagnitude =>
      obtain rfl : negative = false := hy.2
      have hplace : (limit : Int) = units := Option.some.inj h
      exact absurd hmagnitude.2 (by omega)
  | finite negative units hmagnitude =>
    obtain rfl : negative = false := hx.2
    cases y with
    | nan => exact absurd rfl hy.1
    | infinity negative =>
      obtain rfl : negative = false := hy.2
      have hplace : (units : Int) = limit := Option.some.inj h
      exact absurd hmagnitude.2 (by omega)
    | finite negative units' hmagnitude' =>
      obtain rfl : negative = false := hy.2
      have hplace : (units : Int) = units' := Option.some.inj h
      obtain rfl : units = units' := by omega
      rfl

/-- One step of the spacing leads from a magnitude to the next one. -/
theorem spacing_dvd_add_spacing (h : spacing p ∣ p) : spacing (p + spacing p) ∣ p + spacing p := by
  have hlt := div_spacing_lt p
  have hnext : p + spacing p = (p / spacing p + 1) * Nat.pow 2 (p.log2 - 52) := by
    rw [Nat.succ_mul]
    exact congrArg (· + spacing p) (Nat.div_mul_cancel h).symm
  rw [hnext]
  exact spacing_dvd_mul_two_pow _ hlt

/-! ## One nearest double -/

/-- Of two magnitudes that are as close as any, the lower one is odd or the higher one is. -/
theorem not_isEven_of_tie {r : ℚ} (hp : spacing p ∣ p) (hq : spacing q ∣ q) (hlt : p < q)
    (htie : |r - p| = |r - q|)
    (hclosest : ∀ u : Nat, spacing u ∣ u → u ≤ q → |r - p| ≤ |r - u|) :
    ¬(IsEven p ∧ IsEven q) := by
  rintro ⟨hevenp, hevenq⟩
  have hltq : (p : ℚ) < q := by exact_mod_cast hlt
  have hmiddle : r = (p + q) / 2 := by
    rcases abs_eq_abs.1 htie with heq | heq <;> linarith
  have hle : p + spacing p ≤ q :=
    add_le_of_dvd hp ((spacing_dvd_spacing hlt.le).trans hq) hlt
  have hnext := hclosest _ (spacing_dvd_add_spacing hp) hle
  have hstep : (0 : ℚ) < spacing p := by exact_mod_cast spacing_pos p
  have heq : p + spacing p = q := by
    by_contra hne
    have hless : ((p + spacing p : Nat) : ℚ) < q := by exact_mod_cast lt_of_le_of_ne hle hne
    push_cast at hnext hless
    -- the next magnitude is strictly between the two, and closer to their middle
    rw [hmiddle, abs_of_pos (by linarith : (0 : ℚ) < (p + q) / 2 - p)] at hnext
    rcases abs_cases ((p + q) / 2 - ((p : ℚ) + spacing p)) with ⟨h, -⟩ | ⟨h, -⟩ <;> linarith
  have hevenq' : 2 * spacing p ∣ p + spacing p :=
    heq ▸ (Nat.mul_dvd_mul_left 2 (spacing_dvd_spacing hlt.le)).trans hevenq
  have hdvd : 2 * spacing p ∣ spacing p := (Nat.dvd_add_right hevenp).1 hevenq'
  have := Nat.le_of_dvd (spacing_pos p) hdvd
  have := spacing_pos p
  omega

/-- The place of a nearest double, and how it compares with the magnitudes that doubles have. -/
theorem IsNearest.exists_units {value : ℚ} {x : Double} (h : IsNearest value x) :
    ∃ units : Nat, x.place = some (units : Int) ∧ spacing units ∣ units ∧ units ≤ limit ∧
      ∀ q : Nat, spacing q ∣ q → q ≤ limit →
        |value * scale - units| ≤ |value * scale - q| ∧
          (|value * scale - units| = |value * scale - q| → q = units ∨ IsEven units) := by
  obtain ⟨units, hplace, hclosest⟩ := h.closest
  obtain ⟨hdvd, hle⟩ := place_natAbs hplace
  refine ⟨units, hplace, hdvd, hle, fun q hq hqle => ?_⟩
  obtain ⟨y, hy⟩ := exists_place hq hqle
  exact_mod_cast hclosest y q hy

/-- There is one nearest double at most. -/
theorem IsNearest.unique {value : ℚ} {x y : Double} (hx : IsNearest value x)
    (hy : IsNearest value y) : x = y := by
  obtain ⟨p, hp, hpdvd, hple, hclosest⟩ := hx.exists_units
  obtain ⟨q, hq, hqdvd, hqle, hclosest'⟩ := hy.exists_units
  refine hx.unsigned.eq_of_place hy.unsigned ?_
  have htie : |value * scale - p| = |value * scale - q| :=
    le_antisymm (hclosest q hqdvd hqle).1 (hclosest' p hpdvd hple).1
  have heven : p ≠ q → IsEven p ∧ IsEven q := by
    intro hne
    have hp' := (hclosest q hqdvd hqle).2 htie
    have hq' := (hclosest' p hpdvd hple).2 htie.symm
    exact ⟨hp'.resolve_left hne.symm, hq'.resolve_left hne⟩
  rcases Nat.lt_trichotomy p q with hlt | rfl | hgt
  · exact absurd (heven hlt.ne) (not_isEven_of_tie hpdvd hqdvd hlt htie
      fun u hu hle => (hclosest u hu (hle.trans hqle)).1)
  · rw [hp, hq]
  · exact absurd (heven hgt.ne').symm (not_isEven_of_tie hqdvd hpdvd hgt htie.symm
      fun u hu hle => (hclosest' u hu (hle.trans hple)).1)

end

/-! ## Overflow -/

/-- The magnitude before a power of two has all its digits set, and is one step away from it. -/
theorem spacing_pred_two_pow (j : Nat) : spacing ((2 ^ 53 - 1) * 2 ^ j) = 2 ^ j := by
  have hlog : ((2 ^ 53 - 1) * 2 ^ j).log2 = 52 + j := by
    rw [Nat.log2_eq_iff (by positivity), Nat.pow_add, Nat.add_right_comm, Nat.pow_add]
    exact ⟨Nat.mul_le_mul_right _ (by decide),
      Nat.mul_lt_mul_of_pos_right (by decide) (Nat.two_pow_pos j)⟩
  show 2 ^ (((2 ^ 53 - 1) * 2 ^ j).log2 - 52) = 2 ^ j
  rw [hlog, Nat.add_sub_cancel_left]

theorem not_isEven_pred_two_pow (j : Nat) : ¬IsEven ((2 ^ 53 - 1) * 2 ^ j) := by
  rw [IsEven, spacing_pred_two_pow, Nat.mul_dvd_mul_iff_right (Nat.two_pow_pos j)]
  decide

/-- There is no magnitude between the two. -/
theorem le_pred_two_pow {units j : Nat} (hdvd : spacing units ∣ units)
    (hlt : units < 2 ^ 53 * 2 ^ j) : units ≤ (2 ^ 53 - 1) * 2 ^ j := by
  by_contra hgt
  rw [not_le] at hgt
  have hlast : spacing ((2 ^ 53 - 1) * 2 ^ j) ∣ (2 ^ 53 - 1) * 2 ^ j :=
    spacing_dvd_mul_two_pow _ (by decide)
  have hnext := add_le_of_dvd hlast ((spacing_dvd_spacing hgt.le).trans hdvd) hgt
  rw [spacing_pred_two_pow] at hnext
  omega

/-- Among the magnitudes up to a power of two, that power is the nearest from half of the last step
on: there the one before it is as close, but odd. -/
theorem eq_two_pow_iff_of_closest {r : ℚ} {units j : Nat} (hdvd : spacing units ∣ units)
    (hle : units ≤ 2 ^ 53 * 2 ^ (j + 1))
    (hclosest : ∀ q : Nat, spacing q ∣ q → q ≤ 2 ^ 53 * 2 ^ (j + 1) →
      |r - units| ≤ |r - q| ∧ (|r - units| = |r - q| → q = units ∨ IsEven units)) :
    units = 2 ^ 53 * 2 ^ (j + 1) ↔ 2 ^ 53 * 2 ^ (j + 1) - 2 ^ j ≤ r := by
  have hlast : spacing ((2 ^ 53 - 1) * 2 ^ (j + 1)) ∣ (2 ^ 53 - 1) * 2 ^ (j + 1) :=
    spacing_dvd_mul_two_pow _ (by decide)
  have htop : spacing (2 ^ 53 * 2 ^ (j + 1)) ∣ 2 ^ 53 * 2 ^ (j + 1) :=
    spacing_dvd_mul_two_pow _ (by decide)
  have hodd := not_isEven_pred_two_pow (j + 1)
  have hbelow := le_pred_two_pow (j := j + 1) hdvd
  have hlt : (2 ^ 53 - 1) * 2 ^ (j + 1) ≤ 2 ^ 53 * 2 ^ (j + 1) :=
    Nat.mul_le_mul_right _ (by decide)
  have hstep : (((2 ^ 53 - 1) * 2 ^ (j + 1) : Nat) : ℚ) = 2 ^ 53 * 2 ^ (j + 1) - 2 * 2 ^ j := by
    push_cast
    ring
  have hcast : (2 : ℚ) ^ 53 * 2 ^ (j + 1) = (2 ^ 53 * 2 ^ (j + 1) : Nat) := by
    push_cast
    rfl
  have hpos : (0 : ℚ) < 2 ^ j := by positivity
  rw [hcast] at hstep ⊢
  generalize (2 ^ 53 - 1) * 2 ^ (j + 1) = last at *
  generalize 2 ^ 53 * 2 ^ (j + 1) = top at *
  constructor
  · rintro rfl
    obtain ⟨hcloser, -⟩ := hclosest last hlast hlt
    by_contra hless
    rw [abs_of_neg (by linarith : r - units < 0)] at hcloser
    rcases abs_cases (r - last) with ⟨habs, -⟩ | ⟨habs, -⟩ <;> linarith
  · intro hge
    by_contra hne
    have hle' : units ≤ last := hbelow (lt_of_le_of_ne hle hne)
    have hle'' : (units : ℚ) ≤ last := by exact_mod_cast hle'
    obtain ⟨hcloser, htie⟩ := hclosest top htop le_rfl
    rw [abs_of_pos (by linarith : 0 < r - units)] at hcloser htie
    have hhalf : r ≤ top - 2 ^ j := by
      by_contra hgt
      rcases abs_cases (r - top) with ⟨habs, -⟩ | ⟨habs, -⟩ <;> linarith
    -- half a step below the top, both are as close, and the lower one is odd
    rw [abs_of_neg (by linarith : r - top < 0)] at hcloser htie
    obtain rfl : units = last :=
      le_antisymm hle' (by exact_mod_cast (by linarith : (last : ℚ) ≤ units))
    rcases htie (by linarith) with heq | heven
    · exact hne heq.symm
    · exact hodd heven

/-- The largest step, half of which lies between the largest double and the first number that is
rounded up to infinity. -/
theorem limit_eq_step : limit = 2 ^ 53 * 2 ^ (2044 + 1) := by
  have hlog : limitLog = 53 + (2044 + 1) := rfl
  unfold limit
  generalize limitLog = sum at hlog
  generalize 2044 + 1 = places at hlog ⊢
  rw [hlog]
  exact Nat.pow_add 2 53 places

/-- A number overflows from half of the largest step beyond the largest double on. -/
theorem IsNearest.eq_infinity_iff {value : ℚ} {x : Double} (h : IsNearest value x) :
    x = .infinity false ↔ 2 ^ 1024 - 2 ^ 970 ≤ value := by
  obtain ⟨units, hplace, hdvd, hle, hclosest⟩ := h.exists_units
  have hscale : (0 : ℚ) < scale := by exact_mod_cast scale_pos
  have hhalf : (2 ^ 970 * scale : ℚ) = 2 ^ 2044 := by
    have hscale' : (scale : ℚ) = 2 ^ 1074 := by
      unfold scale
      generalize 1074 = places
      exact Nat.cast_pow 2 places
    rw [hscale', ← pow_add]
  have htop : (2 ^ 1024 * scale : ℚ) = limit := by
    rw [limit_eq, Nat.cast_mul]
    generalize 1024 = places
    rw [Nat.cast_pow, Nat.cast_ofNat]
  have hinfinity : x = .infinity false ↔ units = limit := by
    constructor
    · rintro rfl
      exact Int.ofNat_inj.1 (Option.some.inj hplace).symm
    · intro heq
      rw [heq] at hplace
      exact h.unsigned.eq_of_place isUnsigned_infinity hplace
  rw [hinfinity, ← mul_le_mul_iff_left₀ hscale, sub_mul, hhalf, htop]
  rw [limit_eq_step] at hle hclosest ⊢
  rw [eq_two_pow_iff_of_closest hdvd hle hclosest, Nat.cast_mul]
  generalize 2044 + 1 = places
  rw [Nat.cast_pow, Nat.cast_pow, Nat.cast_ofNat]

/-! ## Rounding is correct -/

section
variable {num den : Nat}

/-- A tie goes to the even whole number. -/
theorem two_dvd_nearest_of_tie (hden : 0 < den)
    (h : |(nearest num den : ℚ) - num / den| = 1 / 2) : 2 ∣ nearest num den := by
  have hpos : (0 : ℚ) < den := by exact_mod_cast hden
  have hnonneg : (0 : ℚ) ≤ (num % den : Nat) / den := by positivity
  have hlt : ((num % den : Nat) : ℚ) / den < 1 := by
    rw [div_lt_one hpos]
    exact_mod_cast Nat.mod_lt num hden
  rw [div_eq_floor_add_rest num hden] at h
  have htwice : 2 * (num % den) = den := by
    have hhalf : ((num % den : Nat) : ℚ) / den = 1 / 2 := by
      simp only [nearest] at h
      split at h
      · rw [sub_add_cancel_left, abs_neg, abs_of_nonneg hnonneg] at h
        exact h
      · push_cast at h
        rw [add_sub_add_left_eq_sub, abs_of_pos (sub_pos.2 hlt)] at h
        linarith
    rw [div_eq_iff hpos.ne'] at hhalf
    have : (2 * (num % den : Nat) : ℚ) = den := by linarith
    exact_mod_cast this
  simp only [nearest, htwice, lt_irrefl, true_and, false_or]
  generalize num / den = floor
  split <;> omega

/-- An even multiple of a power of two is an even magnitude, as long as it has no more digits than
doubles do. -/
theorem isEven_mul_two_pow {n : Nat} (k : Nat) (hn : n ≤ 2 ^ 53) (heven : 2 ∣ n) :
    IsEven (n * 2 ^ k) := by
  obtain ⟨m, rfl⟩ := heven
  rcases Nat.eq_zero_or_pos m with rfl | hm
  · simp [IsEven]
  show 2 * 2 ^ ((2 * m * 2 ^ k).log2 - 52) ∣ 2 * m * 2 ^ k
  rw [Nat.mul_assoc]
  refine Nat.mul_dvd_mul_left 2 ?_
  rcases Nat.lt_or_eq_of_le (by omega : m ≤ 2 ^ 52) with hlt | rfl
  · have hlog : (2 * (m * 2 ^ k)).log2 < 53 + k := by
      refine (Nat.log2_lt (by positivity)).2 ?_
      calc 2 * (m * 2 ^ k) = 2 * m * 2 ^ k := (Nat.mul_assoc ..).symm
        _ < 2 ^ 53 * 2 ^ k := Nat.mul_lt_mul_of_pos_right (by omega) (Nat.two_pow_pos k)
        _ = 2 ^ (53 + k) := (Nat.pow_add ..).symm
    exact (Nat.pow_dvd_pow 2 (by omega)).trans (Nat.dvd_mul_left _ _)
  · have hpow : 2 * (2 ^ 52 * 2 ^ k) = 2 ^ (53 + k) := by
      rw [← Nat.mul_assoc, ← Nat.pow_succ', ← Nat.pow_add]
    rw [hpow, Nat.log2_two_pow, ← Nat.pow_add]
    exact Nat.pow_dvd_pow 2 (by omega)

/-- There is no magnitude between the two multiples of the step around a quotient. -/
theorem le_or_add_le_of_dvd (floor : Nat) {q : Nat} (hq : spacing q ∣ q) :
    q ≤ floor / spacing floor * spacing floor ∨
      floor / spacing floor * spacing floor + spacing floor ≤ q := by
  rcases Nat.lt_or_ge (floor / spacing floor * spacing floor) q with hlt | hle
  · right
    refine add_le_of_dvd (Nat.dvd_mul_left _ _) (Nat.dvd_trans ?_ hq) hlt
    rcases Nat.eq_zero_or_pos floor with rfl | hfloor
    · exact spacing_dvd_spacing (Nat.zero_le q)
    -- the lower multiple is in the binade of the floor
    · obtain ⟨hle, -, hstep, -⟩ := binade_of_ne_zero hfloor.ne'
      have hlow : 2 ^ floor.log2 ≤ floor / spacing floor * spacing floor := by
        rw [← Nat.div_mul_cancel hstep]
        exact Nat.mul_le_mul_right _ (Nat.div_le_div_right hle)
      have hspacing : spacing (2 ^ floor.log2) = spacing floor := by
        unfold spacing
        rw [Nat.log2_two_pow]
      rw [← hspacing]
      exact spacing_dvd_spacing (hlow.trans hlt.le)
  · exact .inl hle

theorem roundUnits_eq_or (num den : Nat) :
    roundUnits num den = num / den / spacing (num / den) * spacing (num / den) ∨
      roundUnits num den =
        num / den / spacing (num / den) * spacing (num / den) + spacing (num / den) := by
  have hge := le_nearest num (den * spacing (num / den))
  have hle := nearest_le num (den * spacing (num / den))
  rw [← Nat.div_div_eq_div_mul] at hge hle
  rw [← Nat.succ_mul, roundUnits]
  obtain heq | heq : nearest num (den * spacing (num / den)) = num / den / spacing (num / den) ∨
      nearest num (den * spacing (num / den)) = num / den / spacing (num / den) + 1 := by omega
  · exact .inl (by rw [heq])
  · exact .inr (by rw [heq])

/-- Rounding moves a quotient by half a step at most, and if by so much, to an even magnitude. -/
theorem abs_sub_roundUnits (num : Nat) (hden : 0 < den) :
    2 * |(num : ℚ) / den - roundUnits num den| ≤ spacing (num / den) ∧
      (2 * |(num : ℚ) / den - roundUnits num den| = spacing (num / den) →
        IsEven (roundUnits num den)) := by
  have hround : roundUnits num den =
      nearest num (den * spacing (num / den)) * 2 ^ ((num / den).log2 - 52) := rfl
  have hstep : spacing (num / den) = 2 ^ ((num / den).log2 - 52) := rfl
  have hdigits : nearest num (den * spacing (num / den)) ≤ 2 ^ 53 := by
    have hle := nearest_le num (den * spacing (num / den))
    rw [← Nat.div_div_eq_div_mul] at hle
    exact hle.trans (div_spacing_lt _)
  rw [hround]
  rw [hstep] at hdigits ⊢
  generalize (num / den).log2 - 52 = k at hdigits ⊢
  have hpos : 0 < den * 2 ^ k := Nat.mul_pos hden (Nat.two_pow_pos k)
  have hden' : (0 : ℚ) < den := by exact_mod_cast hden
  have hdistance : |(num : ℚ) / den - (nearest num (den * 2 ^ k) * 2 ^ k : Nat)| =
      |(nearest num (den * 2 ^ k) : ℚ) - num / (den * 2 ^ k : Nat)| * 2 ^ k := by
    rw [abs_sub_comm, ← abs_of_pos (by positivity : (0 : ℚ) < 2 ^ k), ← abs_mul]
    push_cast
    field_simp
  have hhalf := abs_sub_nearest_le num hpos
  have hstep : (0 : ℚ) < 2 ^ k := by positivity
  rw [hdistance]
  push_cast at hhalf ⊢
  refine ⟨?_, fun htie => isEven_mul_two_pow k hdigits (two_dvd_nearest_of_tie hpos ?_)⟩
  · have := mul_le_mul_of_nonneg_right hhalf hstep.le
    linarith
  · push_cast
    exact mul_right_cancel₀ hstep.ne' (by linarith)

/-- The result of rounding is as close to the quotient as the multiples of the step on both sides,
and if it is as close as the other one, it is even. -/
theorem roundUnits_between (num : Nat) (hden : 0 < den) :
    let low := num / den / spacing (num / den) * spacing (num / den)
    let high := low + spacing (num / den)
    (low : ℚ) ≤ num / den ∧ (num : ℚ) / den < high ∧
      (roundUnits num den = low ∨ roundUnits num den = high) ∧
      |(num : ℚ) / den - roundUnits num den| ≤ num / den - low ∧
      |(num : ℚ) / den - roundUnits num den| ≤ high - num / den ∧
      ((num : ℚ) / den - low = high - num / den → IsEven (roundUnits num den)) := by
  intro low high
  have hstep : 0 < spacing (num / den) := spacing_pos _
  have hfloor : ((num / den : Nat) : ℚ) ≤ num / den := Nat.cast_div_le
  have hfloor' := div_lt_floor_add_one num den
  have hlow : (low : ℚ) ≤ (num / den : Nat) := by
    exact_mod_cast Nat.div_mul_le_self (num / den) (spacing (num / den))
  have hhigh : ((num / den : Nat) : ℚ) + 1 ≤ high := by
    exact_mod_cast Nat.lt_div_mul_add hstep
  have hwidth : (high : ℚ) = low + spacing (num / den) := Nat.cast_add _ _
  have hround : roundUnits num den = low ∨ roundUnits num den = high := roundUnits_eq_or num den
  obtain ⟨hhalf, htie⟩ := abs_sub_roundUnits num hden
  have hdistance : |(num : ℚ) / den - roundUnits num den| = num / den - low ∨
      |(num : ℚ) / den - roundUnits num den| = high - num / den := by
    rcases hround with heq | heq
    · left
      rw [heq, abs_of_nonneg (by linarith)]
    · right
      rw [heq, abs_of_nonpos (by linarith), neg_sub]
  refine ⟨by linarith, by linarith, hround, ?_, ?_, fun hmiddle => htie ?_⟩
  all_goals rcases hdistance with h | h <;> rw [h] at hhalf ⊢ <;> linarith

/-- No magnitude is closer to a quotient than the one it is rounded to, however large. -/
theorem roundUnits_closest (num : Nat) {q : Nat} (hden : 0 < den) (hq : spacing q ∣ q) :
    |(num : ℚ) / den - roundUnits num den| ≤ |(num : ℚ) / den - q| ∧
      (|(num : ℚ) / den - roundUnits num den| = |(num : ℚ) / den - q| →
        q = roundUnits num den ∨ IsEven (roundUnits num den)) := by
  obtain ⟨hlow, hhigh, hround, hbelow, habove, heven⟩ := roundUnits_between num hden
  have hsides := le_or_add_le_of_dvd (num / den) hq
  generalize num / den / spacing (num / den) * spacing (num / den) = low at *
  generalize low + spacing (num / den) = high at *
  generalize (num : ℚ) / den = r at *
  rcases hsides with hle | hle
  · have hle' : (q : ℚ) ≤ low := by exact_mod_cast hle
    rw [abs_of_nonneg (by linarith : (0 : ℚ) ≤ r - q)]
    refine ⟨by linarith, fun htie => ?_⟩
    have heq : q = low := le_antisymm hle (by exact_mod_cast (by linarith : (low : ℚ) ≤ q))
    rcases hround with hround | hround
    · exact .inl (heq.trans hround.symm)
    · rw [hround, abs_of_neg (by linarith), heq] at htie
      exact .inr (heven (by linarith))
  · have hle' : (high : ℚ) ≤ q := by exact_mod_cast hle
    rw [abs_of_neg (by linarith : r - q < 0)]
    refine ⟨by linarith, fun htie => ?_⟩
    have heq : q = high := le_antisymm (by exact_mod_cast (by linarith : (q : ℚ) ≤ high)) hle
    rcases hround with hround | hround
    · rw [hround, abs_of_nonneg (by linarith), heq] at htie
      exact .inr (heven (by linarith))
    · exact .inl (heq.trans hround.symm)

/-- Beyond the largest double the place of infinity takes over. -/
theorem min_roundUnits_closest (num : Nat) {q : Nat} (hden : 0 < den) (hq : spacing q ∣ q)
    (hle : q ≤ limit) :
    |(num : ℚ) / den - (min (roundUnits num den) limit : Nat)| ≤ |(num : ℚ) / den - q| ∧
      (|(num : ℚ) / den - (min (roundUnits num den) limit : Nat)| = |(num : ℚ) / den - q| →
        q = min (roundUnits num den) limit ∨ IsEven (min (roundUnits num den) limit)) := by
  rcases Nat.lt_or_ge limit (roundUnits num den) with hlt | hge
  · rw [Nat.min_eq_right hlt.le]
    obtain ⟨hlimit, -⟩ := roundUnits_closest num hden spacing_dvd_limit
    have hlt' : (limit : ℚ) < roundUnits num den := by exact_mod_cast hlt
    have hle' : (q : ℚ) ≤ limit := by exact_mod_cast hle
    have hbeyond : (limit : ℚ) < num / den := by
      by_contra hnot
      rw [abs_of_nonpos (by linarith), abs_of_nonpos (by linarith)] at hlimit
      linarith
    rw [abs_of_pos (by linarith), abs_of_pos (by linarith)]
    refine ⟨by linarith, fun htie => .inl ?_⟩
    exact_mod_cast (by linarith : (q : ℚ) = limit)
  · rw [Nat.min_eq_left hge]
    exact roundUnits_closest num hden hq

theorem place_ofRatio (num den : Nat) :
    (ofRatio false num den).place = some ((min (roundUnits num den) limit : Nat) : Int) := by
  rcases Nat.lt_or_ge (roundUnits num den) limit with hlt | hge
  · rw [ofRatio_of_lt false hlt, Nat.min_eq_left hlt.le]
    rfl
  · rw [Nat.min_eq_right hge, ofRatio, dif_neg (Nat.not_lt.2 hge)]
    rfl

/-- A quotient is rounded to the double nearest to it. -/
theorem isNearest_ofRatio {value : ℚ} (hden : 0 < den) (h : (num : ℚ) / den = value * scale) :
    IsNearest value (ofRatio false num den) where
  unsigned := isUnsigned_ofRatio num den
  closest := by
    refine ⟨_, place_ofRatio num den, fun y place hplace => ?_⟩
    obtain ⟨hdvd, hle⟩ := place_natAbs hplace
    have hclosest := min_roundUnits_closest num hden hdvd hle
    have hzero := min_roundUnits_closest num hden isMagnitude_zero.1 isMagnitude_zero.2.le
    have hnonneg : (0 : ℚ) ≤ num / den := div_nonneg (Nat.cast_nonneg _) (Nat.cast_nonneg _)
    rw [← h]
    generalize min (roundUnits num den) limit = units at *
    generalize (num : ℚ) / den = r at *
    obtain ⟨n, rfl | rfl⟩ := place.eq_nat_or_neg
    · simpa using hclosest
    · -- a negative place is no closer than zero
      rw [Nat.cast_zero, sub_zero, abs_of_nonneg hnonneg] at hzero
      have hn : (0 : ℚ) ≤ n := Nat.cast_nonneg n
      push_cast
      rw [sub_neg_eq_add, abs_of_nonneg (by linarith : (0 : ℚ) ≤ r + n)]
      refine ⟨by linarith, fun htie => ?_⟩
      obtain rfl : n = 0 := by exact_mod_cast (by linarith : (n : ℚ) = 0)
      rcases hzero.2 (by linarith) with heq | heven
      · left
        rw [← heq]
        rfl
      · exact .inr heven

end

end LoxExpr.Double

namespace LoxExpr

/-- A decimal is read as the double nearest to its value. -/
theorem Decimal.isNearest_toDouble (d : Decimal) : Double.IsNearest d.value (d.toDouble false) := by
  obtain ⟨num, den, hden, hratio, hd⟩ := d.toDouble_eq_ofRatio false
  rw [hd]
  exact Double.isNearest_ofRatio hden hratio

end LoxExpr
