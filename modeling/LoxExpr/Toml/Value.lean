import LoxExpr.Nesting
import LoxExpr.Number.Layout
import LoxExpr.Text.Quoted
import LoxExpr.Toml.Moment

/-!
# TOML values

A document is a table; tables keep their keys in the order in which they were written. A value is
written as text within a limit for nesting, and only if none of its whole numbers is too long.
-/

namespace LoxExpr.Toml

inductive Value
  | string (value : String)
  | integer (value : Int)
  | float (value : Double)
  | boolean (value : Bool)
  | moment (value : Moment)
  | array (items : List Value)
  | table (entries : List (String × Value))

/-- The keys and values of a table. -/
abbrev Table := List (String × Value)

instance : Inhabited Value := ⟨.table []⟩

/-- Why a text is not a document. -/
inductive Fault
  | malformed
  /-- A whole number with too many decimal digits to be read. -/
  | longInteger (digits : Nat)
  /-- Arrays or inline tables in each other beyond the limit for nesting. -/
  | tooDeep
  deriving DecidableEq, Repr

/-- Why a value cannot be written. -/
inductive WriteFault
  /-- A whole number with too many decimal digits to be written. -/
  | longInteger
  /-- Arrays or tables in each other beyond the limit for nesting. -/
  | tooDeep
  deriving DecidableEq, Repr

/-- The most decimal digits that a whole number may have. -/
def maxIntegerDigits : Nat := 4300

namespace Value

/-- A whole number in decimal. -/
def integerText (n : Int) : Except WriteFault String :=
  if n.natAbs < Nat.pow 10 maxIntegerDigits then .ok (toString n) else .error .longInteger

/-- What going into an array or a table costs when a value is written. -/
def writeCost : Nat := 1

mutual

/-- A value as it shows inside an array or a table (`repr`): strings are quoted, and a moment is the
call that makes it. -/
def shownWithin (room : Nesting) : Value → Except WriteFault String
  | .string value => .ok (Text.quoted value)
  | .integer value => integerText value
  | .float value => .ok value.shortText
  | .boolean value => .ok (if value then "True" else "False")
  | .moment value => .ok value.call
  | .array items =>
    match room.enter writeCost with
    | some room =>
      (shownItems room items).map fun texts => "[" ++ ", ".intercalate texts ++ "]"
    | none => .error .tooDeep
  | .table entries =>
    match room.enter writeCost with
    | some room =>
      (shownEntries room entries).map fun texts => "\x7b" ++ ", ".intercalate texts ++ "\x7d"
    | none => .error .tooDeep

def shownItems (room : Nesting) : List Value → Except WriteFault (List String)
  | [] => .ok []
  | item :: items => do
    let text ← shownWithin room item
    return text :: (← shownItems room items)

def shownEntries (room : Nesting) : List (String × Value) → Except WriteFault (List String)
  | [] => .ok []
  | (key, value) :: entries => do
    let text ← shownWithin room value
    return (Text.quoted key ++ ": " ++ text) :: (← shownEntries room entries)

end

/-- A value as text (`str`): a string is its own text, and so is the normal text of a moment. -/
def text : Value → Except WriteFault String
  | .string value => .ok value
  | .moment value => .ok value.text
  | value => value.shownWithin .standard

end Value

end LoxExpr.Toml
