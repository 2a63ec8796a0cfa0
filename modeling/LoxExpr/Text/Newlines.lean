/-!
# Line ends

As files and standard input are read: with universal newlines.
-/

namespace LoxExpr.Text

/-- A text with every line end written as one newline: a carriage return is a line end, and so is
one with a newline after it. -/
def normalNewlines : List Char → List Char
  | [] => []
  | '\r' :: '\n' :: rest => '\n' :: normalNewlines rest
  | '\r' :: rest => '\n' :: normalNewlines rest
  | c :: rest => c :: normalNewlines rest

/-- The lines of a text without their line ends; a line end at the end begins no further line. -/
def lines (text : String) : List String :=
  let parts := (String.ofList (normalNewlines text.toList)).splitOn "\n"
  if parts.getLast? = some "" then parts.dropLast else parts

end LoxExpr.Text
