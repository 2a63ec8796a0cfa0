import LoxExpr.Terminal.Width

/-!
# Printed text

Text is printed without the control characters that would move the cursor, and tabs are filled up
to the next of the stops that lie eight columns apart.
-/

namespace LoxExpr.Terminal

/-- The bell, backspace, vertical tab, form feed and carriage return. -/
def isDropped (c : Char) : Bool := [0x07, 0x08, 0x0b, 0x0c, 0x0d].contains c.toNat

/-- The columns between two tab stops. -/
def tabStop : Nat := 8

/-- The first tab stop that is not before a column. -/
def nextStop (column : Nat) : Nat := (column + tabStop - 1) / tabStop * tabStop

/-- A text with its tabs filled, given the column where it begins and the part before it since the
last tab or newline, the nearest first. A tab takes one column at least. -/
def fillTabs : (column : Nat) → (part : List Char) → List Char → List Char
  | _, part, [] => part.reverse
  | _, part, '\n' :: rest => part.reverse ++ '\n' :: fillTabs 0 [] rest
  | column, part, '\t' :: rest =>
    let part := part.reverse ++ [' ']
    let reached := column + columns part
    let stop := nextStop reached
    part ++ List.replicate (stop - reached) ' ' ++ fillTabs stop [] rest
  | column, part, c :: rest => fillTabs column (c :: part) rest

/-- A text without the control characters that are not printed. -/
def plain (text : String) : List Char := text.toList.filter (!isDropped ·)

/-- A text as it is printed. -/
def shown (text : String) : String := .ofList (fillTabs 0 [] (plain text))

end LoxExpr.Terminal
