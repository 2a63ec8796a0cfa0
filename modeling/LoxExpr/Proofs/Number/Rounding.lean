import Mathlib
import LoxExpr.Number.Double

/-!
# How far rounding goes

Rounding to a double moves a magnitude by one step of the spacing around it at most, and so it
does not even double it. Main statement `Double.ofInt?_isSome`: the whole numbers of a wide range,
those of 64 bits among them, have a double.
-/

namespace LoxExpr.Double

/-! ## Bounds -/

theorem spacing_le (units : Nat) : spacing units ≤ units + 1 := by
  show 2 ^ (units.log2 - 52) ≤ units + 1
  by_cases hz : units = 0
  · subst hz
    decide
  · have hlog : 2 ^ units.log2 ≤ units := Nat.log2_self_le hz
    have hpow : 2 ^ (units.log2 - 52) ≤ 2 ^ units.log2 :=
      Nat.pow_le_pow_right (by decide) (Nat.sub_le _ _)
    omega

/-- Rounding up ends within one step of the spacing. -/
theorem roundUnits_le (num den : Nat) :
    roundUnits num den ≤ num / den + spacing (num / den) := by
  have hnearest := nearest_le num (den * spacing (num / den))
  rw [← Nat.div_div_eq_div_mul] at hnearest
  calc roundUnits num den
      ≤ (num / den / spacing (num / den) + 1) * spacing (num / den) :=
        Nat.mul_le_mul_right _ hnearest
    _ = num / den / spacing (num / den) * spacing (num / den) + spacing (num / den) :=
        Nat.succ_mul _ _
    _ ≤ num / den + spacing (num / den) :=
        Nat.add_le_add_right (Nat.div_mul_le_self _ _) _

theorem ofRatio_of_lt (negative : Bool) {num den : Nat} (h : roundUnits num den < limit) :
    ofRatio negative num den = .finite negative (roundUnits num den) (isMagnitude_roundUnits h) :=
  dif_pos h

/-! ## Whole numbers -/

theorem two_pow_le_limit {k : Nat} (h : k ≤ limitLog) : 2 ^ k ≤ limit := by
  unfold limit
  generalize limitLog = places at h ⊢
  exact Nat.pow_le_pow_right (by decide) h

theorem mul_scale_le {n k : Nat} (h : n ≤ 2 ^ k) : n * scale ≤ 2 ^ (k + 1074) := by
  unfold scale
  generalize 1074 = places
  rw [Nat.pow_eq, Nat.pow_add]
  exact Nat.mul_le_mul_right _ h

theorem roundUnits_lt_limit {n k : Nat} (h : n ≤ 2 ^ k) (hk : k ≤ 1022) :
    roundUnits (n * scale) 1 < limit := by
  have hround := roundUnits_le (n * scale) 1
  have hspacing := spacing_le (n * scale)
  have hunits := mul_scale_le h
  have hlimit : 2 ^ (k + 1074 + 2) ≤ limit := by
    refine two_pow_le_limit ?_
    rw [limitLog]
    omega
  have hpos : 0 < 2 ^ (k + 1074) := Nat.two_pow_pos _
  rw [Nat.pow_succ, Nat.pow_succ] at hlimit
  rw [Nat.div_one] at hround
  omega

/-- A whole number that is not too large has a double. -/
theorem ofInt?_isSome {n : Int} {k : Nat} (h : n.natAbs ≤ 2 ^ k) (hk : k ≤ 1022) :
    (ofInt? n).isSome := by
  rw [ofInt?, ofRatio_of_lt _ (roundUnits_lt_limit h hk)]
  rfl

end LoxExpr.Double
