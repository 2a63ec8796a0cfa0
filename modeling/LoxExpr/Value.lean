import LoxExpr.Number.Layout
import LoxExpr.Text.Quoted

/-!
# Values

The names and lines in brackets are those of the values (`pylox.core.ir.values`), those of the
evaluator where it says so.
-/

namespace LoxExpr

/-- What an expression evaluates to (`Value`, 17-45). -/
inductive Value
  | string (value : String)
  | number (value : Double)
  | boolean (value : Bool)
  | nil
  deriving DecidableEq

/-- The types of values (`type_name`). -/
inductive ValueType
  | string | number | boolean | nil
  deriving DecidableEq, Repr

def ValueType.name : ValueType → String
  | .string => "string"
  | .number => "number"
  | .boolean => "boolean"
  | .nil => "nil"

namespace Value

def type : Value → ValueType
  | .string _ => .string
  | .number _ => .number
  | .boolean _ => .boolean
  | .nil => .nil

/-- The text of a value as program output (`stringify`, 71-83). -/
def text : Value → String
  | .string value => value
  | .number value => value.displayText
  | .boolean value => if value then "true" else "false"
  | .nil => "nil"

/-- A one-line description of a value, which a log record shows (`repr` of the model). -/
def summary : Value → String
  | .string value => "StringValue(value=" ++ Text.quoted value ++ ")"
  | .number value => "NumberValue(value=" ++ value.shortText ++ ")"
  | .boolean value => "BooleanValue(value=" ++ (if value then "True" else "False") ++ ")"
  | .nil => "NilValue()"

/-- Nil and false are false, all else is true (`is_truthy` of the evaluator, 65-71). -/
def isTruthy : Value → Bool
  | .nil => false
  | .boolean value => value
  | _ => true

/-- Equality within a type; values of different types are never equal, and numbers compare
numerically (`are_equal` of the evaluator, 206-212). -/
def equal : Value → Value → Bool
  | .string a, .string b => a = b
  | .number a, .number b => a.equal b
  | .boolean a, .boolean b => a = b
  | .nil, .nil => true
  | _, _ => false

end Value

end LoxExpr
