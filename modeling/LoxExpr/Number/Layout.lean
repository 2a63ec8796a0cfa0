import LoxExpr.Number.Shortest

/-!
# Number texts

Three texts of a double: `shortText` switches to an exponent for very large and very small
numbers, `literalText` is always positional so that it can be scanned again, and `displayText`
writes whole numbers without a fraction and in full.
-/

namespace LoxExpr.Double

/-! ## Digits and the point -/

/-- The significant digits of a magnitude, and the place of the point before the first of them. -/
def significant (units : Nat) : List Char × Int :=
  let d := shortest units
  let digits := Nat.toDigits 10 d.coefficient
  ((digits.reverse.dropWhile (· = '0')).reverse, digits.length + d.exponent)

/-- Digits with the point at a place, padded with zeros on either side of it. -/
def positional (digits : List Char) (point : Int) : List Char :=
  match point with
  | .ofNat (k + 1) =>
    let whole := digits.take (k + 1)
    let fraction := digits.drop (k + 1)
    whole ++ List.replicate (k + 1 - whole.length) '0' ++ '.' ::
      (if fraction.isEmpty then ['0'] else fraction)
  | p => '0' :: '.' :: List.replicate p.natAbs '0' ++ digits

/-- Digits as one digit, a fraction if there is one, and a signed exponent of two digits or more. -/
def scientific (digits : List Char) (point : Int) : List Char :=
  let exponent := point - 1
  let written := Nat.toDigits 10 exponent.natAbs
  let fraction := digits.drop 1
  digits.take 1 ++ (if fraction.isEmpty then [] else '.' :: fraction) ++
    'e' :: (if exponent < 0 then '-' else '+') ::
    (if written.length < 2 then '0' :: written else written)

/-- Texts with the exponent in this range stay positional: from `10⁻⁴` up to below `10¹⁶`. -/
def isPlain (point : Int) : Bool := -4 < point && point ≤ 16

/-! ## Texts -/

/-- A sign, or nothing. -/
def signText (negative : Bool) : List Char := if negative then ['-'] else []

/-- Text of a double, given how the digits of a magnitude other than zero are laid out. -/
def textWith (layout : List Char → Int → List Char) : Double → String
  | .nan => "nan"
  | .infinity negative => .ofList (signText negative ++ ['i', 'n', 'f'])
  | .finite negative units _ =>
    let magnitude :=
      if units = 0 then ['0', '.', '0']
      else layout (significant units).1 (significant units).2
    .ofList (signText negative ++ magnitude)

/-- The fewest digits that read back, positional from `10⁻⁴` to below `10¹⁶` and with an exponent
elsewhere; a positional text always has a fraction (`repr`). -/
def shortText : Double → String :=
  textWith fun digits point =>
    if isPlain point then positional digits point else scientific digits point

/-- The fewest digits that read back, always positional and with a fraction
(`format_float_literal` of the expression tree, 134-145). -/
def literalText : Double → String := textWith positional

/-- Whether a number is finite and whole. -/
def isWhole : Double → Bool
  | .finite _ units _ => units % scale = 0
  | _ => false

/-- A whole number in full and without a fraction; any other number as in `shortText`
(`format_number` of the values, 56-68). -/
def displayText (x : Double) : String :=
  match x with
  | .finite negative units _ =>
    if units % scale = 0 then .ofList (signText negative ++ Nat.toDigits 10 (units / scale))
    else x.shortText
  | x => x.shortText

end LoxExpr.Double
