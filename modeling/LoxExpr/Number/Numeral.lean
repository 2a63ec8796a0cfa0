import LoxExpr.Number.Decimal
import LoxExpr.Text.Blank
import LoxExpr.Text.DecimalDigit

/-!
# Free-form numerals

Numerals as a hand-made number token may spell them: blanks around, a sign, single underscores
between digits, digits of any script, and for real numbers a point, an exponent, `inf` and `nan`.
-/

namespace LoxExpr.Numeral

/-! ## Preparation -/

/-- A blank beyond ASCII becomes a space and a digit of any script the ASCII digit. -/
def plainChar (c : Char) : Char :=
  if c.toNat < 127 then c
  else if Text.isBlank c then ' '
  else match Text.decimalDigit? c with
    | some d => Char.ofNat ('0'.toNat + d)
    | none => '?'

/-- The ASCII characters that may surround a numeral. -/
def isPadding (c : Char) : Bool := c = ' ' || (0x09 ≤ c.toNat && c.toNat ≤ 0x0d)

/-- The characters of a numeral without the padding around it. -/
def body (text : String) : List Char :=
  let plain := text.toList.map plainChar
  ((plain.dropWhile isPadding).reverse.dropWhile isPadding).reverse

/-- Removes the underscores, if each stands between two digits. -/
def dropUnderscores (previous : Char) : List Char → Option (List Char)
  | [] => if previous = '_' then none else some []
  | '_' :: rest => if previous.isDigit then dropUnderscores '_' rest else none
  | c :: rest =>
    if previous = '_' ∧ ¬c.isDigit then none else (dropUnderscores c rest).map (c :: ·)

/-- Splits off a sign; the flag tells a minus. -/
def sign : List Char → Bool × List Char
  | '-' :: rest => (true, rest)
  | '+' :: rest => (false, rest)
  | rest => (false, rest)

/-! ## Whole numbers -/

/-- The most digits that a whole number may have, leading zeros counted. -/
def maxIntegerDigits : Nat := 4300

/-- Reads a whole number of any size up to `maxIntegerDigits` digits (`int` of a lexeme in
`_number_literal`, 197 of the parser). -/
def integer? (text : String) : Option Int := do
  let (negative, digits) := sign (body text)
  let digits ← dropUnderscores ' ' digits
  if digits.isEmpty || !digits.all Char.isDigit || maxIntegerDigits < digits.length then none
  else
    let n : Int := Decimal.ofDigits digits
    some (if negative then -n else n)

/-! ## Real numbers -/

/-- The exponent part of a numeral: nothing, or `e`, a sign and digits. -/
def exponent? : List Char → Option Int
  | [] => some 0
  | c :: rest =>
    if c = 'e' ∨ c = 'E' then
      let (negative, digits) := sign rest
      if digits.isEmpty || !digits.all Char.isDigit then none
      else
        let n : Int := Decimal.ofDigits digits
        some (if negative then -n else n)
    else none

/-- Digits with at most one point among them, at least one digit, and an exponent part. -/
def decimal? (text : List Char) : Option Decimal := do
  let whole := text.takeWhile Char.isDigit
  let rest := text.dropWhile Char.isDigit
  let (fraction, rest) := match rest with
    | '.' :: rest => (rest.takeWhile Char.isDigit, rest.dropWhile Char.isDigit)
    | rest => ([], rest)
  if (whole ++ fraction).isEmpty then none
  else
    let exponent ← exponent? rest
    some ⟨Decimal.ofDigits (whole ++ fraction), exponent - fraction.length⟩

/-- Reads a real number, rounded to the nearest double (`float` of a lexeme in `_number_literal`,
199 and 202 of the parser). -/
def real? (text : String) : Option Double := do
  let characters ← dropUnderscores ' ' (body text)
  let (negative, magnitude) := sign characters
  let word := String.ofList (magnitude.map Char.toLower)
  if word = "inf" ∨ word = "infinity" then some (.infinity negative)
  else if word = "nan" then some .nan
  else (decimal? magnitude).map (·.toDouble negative)

end LoxExpr.Numeral
