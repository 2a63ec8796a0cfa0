import LoxExpr.Toml.Entries
import LoxExpr.Toml.Scalar

/-!
# TOML documents

A document is a list of statements, one a line: a key with a value, the header of a table, or the
header of a further table of an array. Inline tables and arrays are complete where they are
written.
-/

namespace LoxExpr.Toml

/-! ## Values -/

/-- The parts of a value that lead into each other. -/
inductive Part
  | value
  /-- The items of an array from one that is not the closing bracket, and those before it, the
  nearest first. -/
  | items (before : List Value)
  /-- The entries of an inline table from a key on, and those before it. -/
  | entries (before : Entries)

/-- What going into an array costs when a value is read. -/
def arrayCost : Nat := 2

/-- What going into an inline table costs when a value is read. -/
def tableCost : Nat := 3

/-- The room for nesting after going in. -/
def goInto (cost : Nat) (room : Nesting) : Except Fault Nesting :=
  match room.enter cost with
  | some room => .ok room
  | none => .error .tooDeep

/-- Reads a part of a value. Each step spends one unit of fuel. -/
def part : (fuel : Nat) → Nesting → Part → List Char → Except Fault (Value × List Char)
  | 0, _, _, _ => .error .malformed
  | fuel + 1, room, .value, text =>
    match text with
    | '"' :: _ => (string text).map fun (s, rest) => (.string s, rest)
    | '\x27' :: _ => (string text).map fun (s, rest) => (.string s, rest)
    | 't' :: 'r' :: 'u' :: 'e' :: rest => .ok (.boolean true, rest)
    | 'f' :: 'a' :: 'l' :: 's' :: 'e' :: rest => .ok (.boolean false, rest)
    | '[' :: rest => do
      let room ← goInto arrayCost room
      match ← skipGap rest with
      | ']' :: rest => return (.array [], rest)
      | rest => part fuel room (.items []) rest
    | '\x7b' :: rest => do
      let room ← goInto tableCost room
      match skipBlanks rest with
      | '\x7d' :: rest => return (.table [], rest)
      | rest => part fuel room (.entries []) rest
    | text => scalar text
  | fuel + 1, room, .items before, text => do
    let (item, rest) ← part fuel room .value text
    match ← skipGap rest with
    | ']' :: rest => return (.array (item :: before).reverse, rest)
    | ',' :: rest =>
      match ← skipGap rest with
      | ']' :: rest => return (.array (item :: before).reverse, rest)
      | rest => part fuel room (.items (item :: before)) rest
    | _ => .error .malformed
  | fuel + 1, room, .entries before, text => do
    match ← key text with
    | (path, '=' :: rest) =>
      let (value, rest) ← part fuel room .value (skipBlanks rest)
      let entries ← before.define 0 value path
      match skipBlanks rest with
      | '\x7d' :: rest => return (.table entries.finish, rest)
      | ',' :: rest => part fuel room (.entries entries) (skipBlanks rest)
      | _ => .error .malformed
    | _ => .error .malformed

/-- Reads a value. -/
def value (text : List Char) : Except Fault (Value × List Char) :=
  part (2 * text.length + 2) .standard .value text

/-! ## Statements -/

/-- A document under construction: its entries, how many headers there were, and the last. -/
structure Draft where
  entries : Entries
  sections : Nat
  header : List String

def Draft.empty : Draft := ⟨[], 0, []⟩

/-- A key with a value, under the last header. -/
def Draft.assign (d : Draft) (text : List Char) : Except Fault (Draft × List Char) := do
  match ← key text with
  | (path, '=' :: rest) =>
    let (value, rest) ← value (skipBlanks rest)
    let entries ← d.entries.within (Entries.define d.sections value path) d.header
    return ({ d with entries }, rest)
  | _ => .error .malformed

/-- Begins a section at a path by changing the table that holds the last key of the path. -/
def Draft.begin (d : Draft) (path : List String)
    (change : Nat → String → Entries → Except Fault Entries) : Except Fault Draft := do
  let group := d.sections + 1
  match path.getLast? with
  | some last =>
    return ⟨← d.entries.within (change group last) path.dropLast, group, path⟩
  | none => .error .malformed

/-- A header, after its first opening bracket. -/
def Draft.open (d : Draft) : List Char → Except Fault (Draft × List Char)
  | '[' :: text => do
    let (path, rest) ← key (skipBlanks text)
    let d ← d.begin path fun _ => Entries.append
    match rest with
    | ']' :: ']' :: rest => return (d, rest)
    | _ => .error .malformed
  | text => do
    let (path, rest) ← key (skipBlanks text)
    let d ← d.begin path Entries.claim
    match rest with
    | ']' :: rest => return (d, rest)
    | _ => .error .malformed

/-- One statement, which may be empty. -/
def Draft.statement (d : Draft) (text : List Char) : Except Fault (Draft × List Char) :=
  match text with
  | '[' :: rest => d.open rest
  | c :: _ => if startsKey c then d.assign text else .ok (d, text)
  | [] => .ok (d, [])

/-- Reads statements up to the end of the text. Each line spends one unit of fuel. -/
def Draft.lines : (fuel : Nat) → Draft → List Char → Except Fault Draft
  | 0, d, _ => .ok d
  | fuel + 1, d, text => do
    let (d, rest) ← d.statement (skipBlanks text)
    match ← skipComment (skipBlanks rest) with
    | [] => return d
    | '\n' :: rest => Draft.lines fuel d rest
    | _ => .error .malformed

/-- Reads a document (`tomllib.loads`). Its lines have to end with single newlines. -/
def document (text : List Char) : Except Fault Table := do
  let d ← Draft.lines (text.length + 1) .empty text
  return d.entries.finish

end LoxExpr.Toml
