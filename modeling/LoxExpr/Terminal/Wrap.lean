import LoxExpr.Text.Blank
import LoxExpr.Terminal.Width

/-!
# Lines of limited width

A text is cut into lines between its words, so that no line takes more than a number of columns.
A word that is wider than any line has a line of its own, which is shortened.
-/

namespace LoxExpr.Terminal

/-! ## Parts -/

/-- The parts of a text between the characters that end a part. There is one part at least. -/
def parts (ends : Char → Bool) : List Char → List (List Char)
  | [] => [[]]
  | c :: rest =>
    match ends c, parts ends rest with
    | true, more => [] :: more
    | false, [] => [[c]]
    | false, part :: more => (c :: part) :: more

/-- Whether a character ends a line. -/
def isLineEnd (c : Char) : Bool :=
  let n := c.toNat
  (0x0a ≤ n && n ≤ 0x0d) || (0x1c ≤ n && n ≤ 0x1e) || n = 0x85 || n = 0x2028 || n = 0x2029

/-- The columns of the widest line of a text. -/
def widestLine (text : List Char) : Nat :=
  ((parts isLineEnd text).map columns).foldl max 0

/-! ## Words -/

/-- A text without the blanks at its end. -/
def stripEnd (text : List Char) : List Char := (text.reverse.dropWhile Text.isBlank).reverse

/-- The words of a text, each with the blanks after it, and the first with those before it too.
A text of blanks has no words. -/
def words (text : List Char) : List (List Char) :=
  let rest := text.dropWhile Text.isBlank
  match rest.splitBy fun a b => !Text.isBlank a || Text.isBlank b with
  | [] => []
  | word :: more => (text.takeWhile Text.isBlank ++ word) :: more

/-- Puts words on lines, given the line so far and the columns it takes. The blanks after a word
may lie beyond the width. -/
def fillLines (width : Nat) : (line : List Char) → (reached : Nat) → List (List Char) →
    List (List Char)
  | line, _, [] => [line]
  | line, reached, word :: rest =>
    if reached + columns (stripEnd word) ≤ width then
      fillLines width (line ++ word) (reached + columns word) rest
    else if line.isEmpty then fillLines width word (columns word) rest
    else line :: fillLines width word (columns word) rest

/-- A line without those blanks at its end that come after the first `size` characters. -/
def stripBeyond (size : Nat) (line : List Char) : List Char :=
  line.take (max size (stripEnd line).length)

/-- The lines of a text that has no newlines, cut between words. -/
def wrapped (width : Nat) (text : List Char) : List (List Char) :=
  let cut := match words text with
    | [] => [text]
    | words => fillLines width [] 0 words
  cut.map (stripBeyond width)

/-! ## Shortening -/

/-- Whether a character after a text of some extent takes columns of its own. -/
def Extent.startsCluster (e : Extent) (c : Char) : Bool :=
  !e.joined && c ≠ joiner && c ≠ emojiSelector && characterColumns c ≠ 0

/-- The characters of a text, each together with those after it that take no columns of their
own, given the extent of what comes before. -/
def clusters : Extent → List Char → List (List Char)
  | _, [] => []
  | e, c :: rest =>
    let e := e.add c
    match rest.head?.any e.startsCluster, clusters e rest with
    | false, cluster :: more => (c :: cluster) :: more
    | _, more => [c] :: more

/-- The clusters that fit into some columns. Half of a wide cluster becomes a blank. -/
def crop : (room : Nat) → List (List Char) → List Char
  | _, [] => []
  | room, cluster :: rest =>
    if columns cluster ≤ room then cluster ++ crop (room - columns cluster) rest
    else List.replicate room ' '

/-- The end of a line that is shortened. -/
def ellipsis : Char := '…'

/-- A line that is shortened if it takes more than a number of columns. -/
def shortened (width : Nat) (line : List Char) : List Char :=
  if columns line ≤ width then line else crop (width - 1) (clusters .zero line) ++ [ellipsis]

/-! ## Filling -/

/-- The blanks that a line lacks to a number of columns. -/
def missing (width : Nat) (line : List Char) : List Char :=
  List.replicate (width - columns line) ' '

/-- A line with blanks after it, in a number of columns. A joiner at its end takes the first blank
to itself, so that what is missing is counted again. -/
def filledLeft (width : Nat) (line : List Char) : List Char :=
  let filled := line ++ missing width line
  filled ++ missing width filled

/-- A line with blanks before it, in a number of columns. -/
def filledRight (width : Nat) (line : List Char) : List Char := missing width line ++ line

end LoxExpr.Terminal
