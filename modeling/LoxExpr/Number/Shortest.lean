import LoxExpr.Number.Decimal

/-!
# The shortest decimal of a double

Of all decimals that read back as a given double, `shortest` takes one with the fewest digits,
and of those the nearest. On each decimal grid only the two neighbours of the value can be that
decimal, so for 1, 2, … 17 digits both are tried by reading them. These are the digits that `repr`
writes.
-/

namespace LoxExpr.Double

/-- How far `10 ^ k` has to be scaled up for every positive double to exceed one. -/
def lift : Nat := 330

/-- The place of the decimal point before the first significant digit: the `k` with
`10 ^ (k - 1) ≤ value < 10 ^ k`. -/
def decimalPoint (units : Nat) : Int :=
  (Nat.toDigits 10 (units * Nat.pow 10 lift / scale)).length - (lift : Int)

/-- A magnitude divided by `10 ^ exponent`, as numerator and denominator. -/
def overPower (units : Nat) : Int → Nat × Nat
  | .ofNat k => (units, scale * Nat.pow 10 k)
  | .negSucc k => (units * Nat.pow 10 (k + 1), scale)

/-- Whether a decimal is read as the double of this magnitude. -/
def readsBack (units : Nat) (d : Decimal) : Bool :=
  match d.toDouble false with
  | .finite _ u _ => u = units
  | _ => false

/-- The decimal on the grid of multiples of `10 ^ exponent` that reads back, the nearer neighbour
first. -/
def onGrid? (units : Nat) (exponent : Int) : Option Decimal :=
  let (num, den) := overPower units exponent
  let near := nearest num den
  let far := if near = num / den then near + 1 else near - 1
  [near, far].map (⟨·, exponent⟩) |>.find? (readsBack units)

/-- A decimal with the fewest digits that reads back, for a value with its decimal point at
`point`. Seventeen always suffice. -/
def shortestAt (units : Nat) (point : Int) : Decimal :=
  let (num, den) := overPower units (point - 17)
  ((List.range 16).findSome? fun n : Nat => onGrid? units (point - (n + 1))).getD
    ⟨nearest num den, point - 17⟩

/-- A decimal with the fewest digits that reads back. -/
def shortest (units : Nat) : Decimal := shortestAt units (decimalPoint units)

end LoxExpr.Double
