import LoxExpr.Number.Double

/-!
# Decimal numerals

A decimal `coefficient · 10^exponent` is read as the nearest double. A numeral of the language is
digits, optionally followed by a point and more digits; `float` reads it where the tokenizer has
found it (181).
-/

namespace LoxExpr

/-- The number `coefficient · 10 ^ exponent`. -/
structure Decimal where
  coefficient : Nat
  exponent : Int
  deriving DecidableEq, Repr

namespace Decimal

/-- The value of a decimal digit. -/
def digitValue (c : Char) : Nat := c.toNat - '0'.toNat

/-- The number that a run of decimal digits writes. -/
def ofDigits (digits : List Char) : Nat :=
  digits.foldl (fun n c => 10 * n + digitValue c) 0

/-- The double nearest to a decimal. As `8 ^ k ≤ 10 ^ k`, comparing binary logarithms settles
what is beyond the largest double or below half of the smallest without computing the power. -/
def toDouble (negative : Bool) (d : Decimal) : Double :=
  if d.coefficient = 0 then .zero negative
  else match d.exponent with
    | .ofNat k =>
      if 1024 ≤ d.coefficient.log2 + 3 * k then .infinity negative
      else .ofRatio negative (d.coefficient * Nat.pow 10 k * Double.scale) 1
    | .negSucc k =>
      if d.coefficient.log2 + 1076 ≤ 3 * (k + 1) then .zero negative
      else .ofRatio negative (d.coefficient * Double.scale) (Nat.pow 10 (k + 1))

/-- The decimal that digits, or digits with a point among them, write. -/
def ofNumeral (text : List Char) : Decimal :=
  let fraction := (text.dropWhile (· ≠ '.')).drop 1
  ⟨ofDigits (text.takeWhile (· ≠ '.') ++ fraction), -fraction.length⟩

end Decimal

end LoxExpr
