import LoxExpr.Text.Printable

/-!
# Quoted text

A text as messages and tables show it: in single quotes, or in double quotes if it holds a single
quote and no double quote. The backslash and the chosen quote are escaped, and characters that are
not printable are written as their code.
-/

namespace LoxExpr.Text

/-- A lower-case hexadecimal number, padded with zeros to a width. -/
def hexPadded (width n : Nat) : List Char :=
  let digits := Nat.toDigits 16 n
  List.replicate (width - digits.length) '0' ++ digits

/-- One character between the given quotes. -/
def quoteChar (quote c : Char) : List Char :=
  if c = quote ∨ c = '\\' then ['\\', c]
  else if c = '\n' then ['\\', 'n']
  else if c = '\r' then ['\\', 'r']
  else if c = '\t' then ['\\', 't']
  else if isPrintable c then [c]
  else if c.toNat ≤ 0xff then '\\' :: 'x' :: hexPadded 2 c.toNat
  else if c.toNat ≤ 0xffff then '\\' :: 'u' :: hexPadded 4 c.toNat
  else '\\' :: 'U' :: hexPadded 8 c.toNat

/-- The quote that suits a text. -/
def quoteFor (s : List Char) : Char :=
  if s.contains '\'' && !s.contains '"' then '"' else '\''

/-- A text in quotes (`repr`). -/
def quoted (s : String) : String :=
  let quote := quoteFor s.toList
  .ofList (quote :: s.toList.flatMap (quoteChar quote) ++ [quote])

end LoxExpr.Text
