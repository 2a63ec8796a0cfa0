import LoxExpr.Toml.Value

/-!
# TOML strings and keys

Basic strings stand in double quotes and have escapes, literal strings stand in single quotes and
have none; each also has a form in three quotes that goes over several lines. A key is a bare
word or a string of one line, and keys are joined by dots.
-/

namespace LoxExpr.Toml

/-! ## Gaps -/

def isBlank (c : Char) : Bool := c = ' ' || c = '\t'

def isBlankOrNewline (c : Char) : Bool := isBlank c || c = '\n'

/-- The characters that comments and strings of one line may not hold. -/
def isControl (c : Char) : Bool := (c.toNat < 0x20 && c ≠ '\t') || c.toNat = 0x7f

/-- The characters that strings of several lines may not hold. -/
def isControlInLines (c : Char) : Bool := isControl c && c ≠ '\n'

def skipBlanks (text : List Char) : List Char := text.dropWhile isBlank

/-- The text after a comment, if there is one. -/
def skipComment : List Char → Except Fault (List Char)
  | '#' :: rest =>
    if (rest.takeWhile (· ≠ '\n')).any isControl then .error .malformed
    else .ok (rest.dropWhile (· ≠ '\n'))
  | text => .ok text

/-- The text after blanks, newlines and comments. -/
def skipGap (text : List Char) : Except Fault (List Char) := go text.length text
where
  go : Nat → List Char → Except Fault (List Char)
    | 0, text => .ok text
    | fuel + 1, text =>
      match text.dropWhile isBlankOrNewline with
      | '#' :: rest => do go fuel (← skipComment ('#' :: rest))
      | rest => .ok rest

/-! ## Strings -/

def hexValue? (c : Char) : Option Nat :=
  if c.isDigit then some (c.toNat - '0'.toNat)
  else if 'a' ≤ c ∧ c ≤ 'f' then some (c.toNat - 'a'.toNat + 10)
  else if 'A' ≤ c ∧ c ≤ 'F' then some (c.toNat - 'A'.toNat + 10)
  else none

/-- The character with a code in hexadecimal, if it is a Unicode scalar value. -/
def scalar? (digits : List Char) : Option Char := do
  let code ← digits.foldlM (fun n c => do return 16 * n + (← hexValue? c)) 0
  if code.isValidChar then some (Char.ofNat code) else none

/-- The character that a letter after a backslash stands for. -/
def escaped? : Char → Option Char
  | 'b' => some '\x08'
  | 't' => some '\t'
  | 'n' => some '\n'
  | 'f' => some '\x0c'
  | 'r' => some '\r'
  | '"' => some '"'
  | '\\' => some '\\'
  | _ => none

/-- Puts a character in front of a string that has been read. -/
def prepend (c : Char) (reading : Except Fault (List Char × List Char)) :
    Except Fault (List Char × List Char) :=
  reading.map fun (value, rest) => (c :: value, rest)

/-- A character after a backslash that both forms of basic strings allow. -/
def escape (text : List Char) : Except Fault (Char × List Char) :=
  match text with
  | 'u' :: a :: b :: c :: d :: rest =>
    match scalar? [a, b, c, d] with
    | some x => .ok (x, rest)
    | none => .error .malformed
  | 'U' :: a :: b :: c :: d :: e :: f :: g :: h :: rest =>
    match scalar? [a, b, c, d, e, f, g, h] with
    | some x => .ok (x, rest)
    | none => .error .malformed
  | c :: rest =>
    match escaped? c with
    | some x => .ok (x, rest)
    | none => .error .malformed
  | [] => .error .malformed

/-- A basic string of one line, after its opening quote. Each step spends one unit of fuel. -/
def basicLine : (fuel : Nat) → List Char → Except Fault (List Char × List Char)
  | _, '"' :: rest => .ok ([], rest)
  | fuel + 1, '\\' :: rest => do
    let (c, rest) ← escape rest
    prepend c (basicLine fuel rest)
  | fuel + 1, c :: rest =>
    if isControl c then .error .malformed else prepend c (basicLine fuel rest)
  | _, _ => .error .malformed

/-- A basic string of several lines, after its opening quotes and up to its closing quotes. A
backslash at the end of a line removes the blanks and newlines after it. -/
def basicLines : (fuel : Nat) → List Char → Except Fault (List Char × List Char)
  | _, '"' :: '"' :: '"' :: rest => .ok ([], rest)
  | fuel + 1, '\\' :: c :: rest =>
    if isBlankOrNewline c then
      match skipBlanks (c :: rest) with
      | '\n' :: rest => basicLines fuel (rest.dropWhile isBlankOrNewline)
      | _ => .error .malformed
    else do
      let (c, rest) ← escape (c :: rest)
      prepend c (basicLines fuel rest)
  | fuel + 1, c :: rest =>
    if c = '\\' || isControlInLines c then .error .malformed else prepend c (basicLines fuel rest)
  | _, _ => .error .malformed

/-- A literal string of one line, after its opening quote. -/
def literalLine : List Char → Except Fault (List Char × List Char)
  | [] => .error .malformed
  | '\x27' :: rest => .ok ([], rest)
  | c :: rest => if isControl c then .error .malformed else prepend c (literalLine rest)

/-- A literal string of several lines, after its opening quotes and up to its closing quotes. -/
def literalLines : List Char → Except Fault (List Char × List Char)
  | [] => .error .malformed
  | '\x27' :: '\x27' :: '\x27' :: rest => .ok ([], rest)
  | c :: rest => if isControlInLines c then .error .malformed else prepend c (literalLines rest)

/-- Up to two more quotes right after the closing quotes belong to the string. -/
def withExtraQuotes (quote : Char) (value rest : List Char) : List Char × List Char :=
  let extra := (rest.take 2).takeWhile (· = quote)
  (value ++ extra, rest.drop extra.length)

/-- The text after a newline that directly follows opening quotes. -/
def dropFirstNewline : List Char → List Char
  | '\n' :: rest => rest
  | text => text

/-- A string in any form. -/
def string (text : List Char) : Except Fault (String × List Char) :=
  let finish (reading : Except Fault (List Char × List Char)) : Except Fault (String × List Char) :=
    reading.map fun (value, rest) => (.ofList value, rest)
  match text with
  | '"' :: '"' :: '"' :: rest => do
    let (value, rest) ← basicLines text.length (dropFirstNewline rest)
    finish (.ok (withExtraQuotes '"' value rest))
  | '"' :: rest => finish (basicLine text.length rest)
  | '\x27' :: '\x27' :: '\x27' :: rest => do
    let (value, rest) ← literalLines (dropFirstNewline rest)
    finish (.ok (withExtraQuotes '\x27' value rest))
  | '\x27' :: rest => finish (literalLine rest)
  | _ => .error .malformed

/-! ## Keys -/

def isBare (c : Char) : Bool := c.isAlphanum || c = '-' || c = '_'

/-- Whether a statement that begins with this character begins with a key. -/
def startsKey (c : Char) : Bool := isBare c || c = '"' || c = '\x27'

/-- One part of a key. -/
def keyPart (text : List Char) : Except Fault (String × List Char) :=
  match text with
  | '"' :: rest => (basicLine text.length rest).map fun (value, rest) => (.ofList value, rest)
  | '\x27' :: rest => (literalLine rest).map fun (value, rest) => (.ofList value, rest)
  | text =>
    let bare := text.takeWhile isBare
    if bare.isEmpty then .error .malformed else .ok (.ofList bare, text.dropWhile isBare)

/-- Parts of a key joined by dots, and the blanks after them. -/
def key (text : List Char) : Except Fault (List String × List Char) := go text.length text
where
  go : Nat → List Char → Except Fault (List String × List Char)
    | 0, _ => .error .malformed
    | fuel + 1, text => do
      let (part, rest) ← keyPart text
      match skipBlanks rest with
      | '.' :: rest => do
        let (parts, rest) ← go fuel (skipBlanks rest)
        return (part :: parts, rest)
      | rest => return ([part], rest)

end LoxExpr.Toml
