/-!
# Double-precision numbers, exactly

Every finite double is a whole multiple of `2⁻¹⁰⁷⁴`, so a double is kept as a sign and that number
of units. Each operation computes its exact result as a quotient of two natural numbers and
rounds it once, to the nearest double, a tie going to the neighbour with the even multiple.

Main statement `isMagnitude_roundUnits`: rounding always lands on a magnitude that a double can
hold, unless it is too large for any.

The operations are those of the evaluator: `_ARITHMETIC` (161-165), `_COMPARISON` (167-172),
`_divide` (152-158), and the sum in `_add` (194).
-/

namespace LoxExpr

namespace Double

/-! ## Magnitudes -/

/-- The number one, in units of `2⁻¹⁰⁷⁴`. -/
def scale : Nat := Nat.pow 2 1074

/-- The binary logarithm of `limit`. -/
def limitLog : Nat := 2098

/-- The first magnitude too large for a double, `2¹⁰²⁴` in units. -/
def limit : Nat := Nat.pow 2 limitLog

/-- The distance between neighbouring doubles around a magnitude: a double has 53 significant
bits, and below `2⁵³` units the distance is one unit. -/
def spacing (units : Nat) : Nat := Nat.pow 2 (units.log2 - 52)

/-- The magnitudes that a finite double can hold. -/
def IsMagnitude (units : Nat) : Prop := spacing units ∣ units ∧ units < limit

instance (units : Nat) : Decidable (IsMagnitude units) :=
  inferInstanceAs (Decidable (_ ∧ _))

theorem two_pow_pos (k : Nat) : 0 < Nat.pow 2 k := Nat.two_pow_pos k

theorem isMagnitude_zero : IsMagnitude 0 := by
  refine ⟨Nat.dvd_zero _, ?_⟩
  unfold limit
  apply two_pow_pos

end Double

/-- A double-precision number; there is one not-a-number. -/
inductive Double
  | nan
  | infinity (negative : Bool)
  | finite (negative : Bool) (units : Nat) (isMagnitude : Double.IsMagnitude units)
  deriving DecidableEq

namespace Double

instance : Inhabited Double := ⟨.finite false 0 isMagnitude_zero⟩

/-- Zero of either sign. -/
def zero (negative : Bool) : Double := .finite negative 0 isMagnitude_zero

/-! ## Rounding -/

/-- The whole number nearest to `num / den`; a tie goes to the even one. -/
def nearest (num den : Nat) : Nat :=
  let floor := num / den
  let twice := 2 * (num % den)
  if twice < den ∨ (twice = den ∧ floor % 2 = 0) then floor else floor + 1

/-- The multiple of the spacing nearest to the quotient `num / den`, in units. -/
def roundUnits (num den : Nat) : Nat :=
  let step := spacing (num / den)
  nearest num (den * step) * step

theorem nearest_le (num den : Nat) : nearest num den ≤ num / den + 1 := by
  simp only [nearest]
  split <;> omega

theorem le_nearest (num den : Nat) : num / den ≤ nearest num den := by
  simp only [nearest]
  split <;> omega

theorem div_spacing_lt (q : Nat) : q / spacing q < Nat.pow 2 53 := by
  show q / 2 ^ (q.log2 - 52) < 2 ^ 53
  rw [Nat.div_lt_iff_lt_mul (Nat.two_pow_pos _), ← Nat.pow_add]
  exact Nat.lt_of_lt_of_le Nat.lt_log2_self (Nat.pow_le_pow_right (by decide) (by omega))

theorem spacing_dvd_mul_two_pow {m : Nat} (k : Nat) (h : m ≤ Nat.pow 2 53) :
    spacing (m * Nat.pow 2 k) ∣ m * Nat.pow 2 k := by
  show 2 ^ ((m * 2 ^ k).log2 - 52) ∣ m * 2 ^ k
  rcases Nat.lt_or_eq_of_le h with h | rfl
  · refine Nat.dvd_trans (Nat.pow_dvd_pow 2 ?_) (Nat.dvd_mul_left _ _)
    by_cases hz : m * 2 ^ k = 0
    · simp [hz]
    · have : m * 2 ^ k < 2 ^ (53 + k) := by
        rw [Nat.pow_add]
        exact Nat.mul_lt_mul_of_pos_right h (Nat.two_pow_pos k)
      have := (Nat.log2_lt hz).2 this
      omega
  · show 2 ^ ((2 ^ 53 * 2 ^ k).log2 - 52) ∣ 2 ^ 53 * 2 ^ k
    rw [← Nat.pow_add, Nat.log2_two_pow]
    exact Nat.pow_dvd_pow 2 (by omega)

/-- Rounding gives a multiple of the spacing around the result itself. -/
theorem spacing_dvd_roundUnits (num den : Nat) :
    spacing (roundUnits num den) ∣ roundUnits num den := by
  refine spacing_dvd_mul_two_pow _ (Nat.le_trans (nearest_le _ _) ?_)
  rw [← Nat.div_div_eq_div_mul]
  exact div_spacing_lt _

theorem isMagnitude_roundUnits {num den : Nat} (h : roundUnits num den < limit) :
    IsMagnitude (roundUnits num den) :=
  ⟨spacing_dvd_roundUnits num den, h⟩

/-- The double nearest to `num / den` units; a magnitude from `limit` on becomes an infinity. -/
def ofRatio (negative : Bool) (num den : Nat) : Double :=
  if h : roundUnits num den < limit then
    .finite negative (roundUnits num den) (isMagnitude_roundUnits h)
  else .infinity negative

/-- A double itself, if it is finite. -/
def finite? : Double → Option Double
  | .finite negative units h => some (.finite negative units h)
  | _ => none

/-- The double nearest to a whole number, if that is finite (`float` of an `int`). -/
def ofInt? (n : Int) : Option Double := (ofRatio (n < 0) (n.natAbs * scale) 1).finite?

/-! ## Sign and order -/

/-- Whether the sign bit is set; not-a-number counts as unsigned. -/
def isNegative : Double → Bool
  | .nan => false
  | .infinity negative => negative
  | .finite negative _ _ => negative

def neg : Double → Double
  | .nan => .nan
  | .infinity negative => .infinity !negative
  | .finite negative units h => .finite (!negative) units h

def abs : Double → Double
  | .nan => .nan
  | .infinity _ => .infinity false
  | .finite _ units h => .finite false units h

/-- A whole number with a sign. -/
def signed (negative : Bool) (n : Nat) : Int := if negative then -n else n

/-- The place of a number on the extended line, in units: an infinity lies just beyond every
finite number, both zeros share one place, and not-a-number has none. -/
def place : Double → Option Int
  | .nan => none
  | .infinity negative => some (signed negative limit)
  | .finite negative units _ => some (signed negative units)

/-- Whether two numbers have places in the given relation. -/
def compare (relation : Int → Int → Bool) (x y : Double) : Bool :=
  match x.place, y.place with
  | some a, some b => relation a b
  | _, _ => false

/-- Numeric equality: the zeros are equal, and not-a-number differs from itself. -/
def equal (x y : Double) : Bool := compare (fun a b => a == b) x y

def less (x y : Double) : Bool := compare (fun a b => a < b) x y

def lessEqual (x y : Double) : Bool := compare (fun a b => a ≤ b) x y

/-! ## Arithmetic -/

/-- An exact sum of two zeros is negative only if both are; any other exact zero is positive. -/
def add : Double → Double → Double
  | .nan, _ => .nan
  | _, .nan => .nan
  | .infinity m, .infinity n => if m = n then .infinity m else .nan
  | .infinity m, .finite .. => .infinity m
  | .finite .., .infinity n => .infinity n
  | .finite m a _, .finite n b _ =>
    let sum := signed m a + signed n b
    if sum = 0 then zero (m && n) else ofRatio (sum < 0) sum.natAbs 1

def sub (x y : Double) : Double := add x y.neg

def mul : Double → Double → Double
  | .nan, _ => .nan
  | _, .nan => .nan
  | .infinity m, .infinity n => .infinity (m != n)
  | .infinity m, .finite n b _ => if b = 0 then .nan else .infinity (m != n)
  | .finite m a _, .infinity n => if a = 0 then .nan else .infinity (m != n)
  | .finite m a _, .finite n b _ => ofRatio (m != n) (a * b) scale

/-- Division by zero gives a signed infinity, and not-a-number for zero over zero (`_divide`). -/
def div : Double → Double → Double
  | .nan, _ => .nan
  | _, .nan => .nan
  | .infinity _, .infinity _ => .nan
  | .infinity m, .finite n _ _ => .infinity (m != n)
  | .finite m _ _, .infinity n => zero (m != n)
  | .finite m a _, .finite n b _ =>
    if b = 0 then (if a = 0 then .nan else .infinity (m != n))
    else ofRatio (m != n) (a * scale) b

instance : Neg Double := ⟨neg⟩
instance : Add Double := ⟨add⟩
instance : Sub Double := ⟨sub⟩
instance : Mul Double := ⟨mul⟩
instance : Div Double := ⟨div⟩

end Double

end LoxExpr
