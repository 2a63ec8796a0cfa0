import LoxExpr.Command.Console
import LoxExpr.Terminal.Tabs
import LoxExpr.Terminal.Wrap

/-!
# Printed tables

Columns under a header and a rule. A column is as wide as its widest text, unless the table would
be wider than the terminal: then the widest columns are narrowed, and what does not fit into a cell
goes on in the next line of its row.
-/

namespace LoxExpr.Terminal.Table

open Command (Column)

/-- The cells of a row. -/
abbrev Row := List (List Char)

/-- A row with texts in its cells. -/
def rowOf (texts : List String) : Row := texts.map plain

/-! ## Column widths -/

/-- The columns of the terminal. -/
def terminalWidth : Nat := 80

/-- The columns of the terminal that are left for some cells, as a blank stands between two of
them. -/
def room (cells : Nat) : Nat := terminalWidth - (cells - 1)

/-- The blanks before and after the text of a cell. -/
def margins : Nat := 2

/-- The width of a cell that shows its text on one line, if there is room. Tabs in the text do not
count. -/
def cellWidth (room : Nat) (text : List Char) : Nat := min room (widestLine text + margins)

/-- The widths of the columns that a header and some rows ask for. -/
def wantedWidths (header : Row) (rows : List Row) : List Nat :=
  let widths := (·.map (cellWidth (room header.length)))
  rows.foldl (fun wanted row => wanted.zipWith max (widths row)) (widths header)

/-- A quotient to the nearest whole number, or the nearest even one if there are two. -/
def nearest (n d : Nat) : Nat :=
  let rest := 2 * (n % d)
  if rest < d ∨ rest = d ∧ n / d % 2 = 0 then n / d else n / d + 1

/-- Takes an excess from the `count` columns that are the widest, the same from each up to
rounding, and no more than `most`. -/
def takeEvenly (widest most : Nat) : (excess count : Nat) → List Nat → List Nat
  | _, _, [] => []
  | excess, count, w :: rest =>
    if w = widest then
      let taken := min most (nearest excess count)
      (w - taken) :: takeEvenly widest most (excess - taken) (count - 1) rest
    else w :: takeEvenly widest most excess count rest

def total (widths : List Nat) : Nat := widths.foldl (· + ·) 0

/-- Narrows the widest columns, down to the next widest at most, until all columns fit. Each round
takes one from the total at least. -/
def narrow (room : Nat) : (fuel : Nat) → List Nat → List Nat
  | 0, widths => widths
  | fuel + 1, widths =>
    let excess := total widths - room
    if excess = 0 then widths
    else
      let widest := widths.foldl max 0
      let next := (widths.filter (· ≠ widest)).foldl max 0
      let most := min excess (widest - next)
      narrow room fuel (takeEvenly widest most excess (widths.count widest) widths)

/-- The widths of the columns of a table. -/
def columnWidths (header : Row) (rows : List Row) : List Nat :=
  let wanted := wantedWidths header rows
  narrow (room header.length) (total wanted) wanted

/-! ## Cells -/

/-- A line of a cell in a number of columns, on the right or on the left. -/
def fit (width : Nat) (onRight : Bool) (line : List Char) : List Char :=
  if onRight then filledRight width (shortened width (stripEnd line))
  else filledLeft width (shortened width line)

/-- The lines of a cell in a column. -/
def cellLines (onRight : Bool) (width : Nat) (text : List Char) : List (List Char) :=
  let inner := width - margins
  let lines := parts (· = '\n') (fillTabs 0 [] text)
  (lines.flatMap (wrapped inner)).map fun line => ' ' :: fit inner onRight line ++ [' ']

/-! ## The table -/

/-- The lines of a row: in every one a line of each cell, or blanks below its last. -/
def rowLines (columns : List Column) (widths : List Nat) (row : Row) : List (List Char) :=
  let cells := (columns.zip (widths.zip row)).map fun (column, width, text) =>
    (width, cellLines column.onRight width text)
  let height := (cells.map (·.2.length)).foldl max 0
  (List.range height).map fun i =>
    [' '].intercalate (cells.map fun (width, lines) => lines.getD i (List.replicate width ' '))

/-- The line under the header. -/
def rule (widths : List Nat) : List Char :=
  ['─'].intercalate (widths.map (List.replicate · '─'))

/-- A table, every line ended. -/
def render (columns : List Column) (rows : List (List String)) : String :=
  let header := rowOf (columns.map (·.title))
  let rows := rows.map rowOf
  let widths := columnWidths header rows
  let head := rowLines columns widths header ++ [rule widths]
  .ofList ((head ++ rows.flatMap (rowLines columns widths)).flatMap (· ++ ['\n']))

end LoxExpr.Terminal.Table
