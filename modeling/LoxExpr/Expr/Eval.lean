import LoxExpr.Diagnostic
import LoxExpr.Expr
import LoxExpr.Nesting
import LoxExpr.Value

/-!
# Evaluation

Operands are evaluated before their operator, the left one first, and only the chosen branch of a
conditional. The first operator whose operands do not fit stops the evaluation; its failure names
the operands of binary operators that it lies in.

The names and lines in brackets are those of the evaluator (`pylox.core.expression_lang.evaluator`).
Its branch for what is no expression (95) is left out: `Expr` has no other cases.
-/

namespace LoxExpr

/-! ## Failures -/

/-- An operand of a binary operator (131-132). -/
inductive Side
  | left | right
  deriving DecidableEq, Repr

def Side.name : Side → String
  | .left => "left"
  | .right => "right"

/-- Why an operator cannot be applied (110, 180, 203, 113, 149). -/
inductive Mismatch
  | notNumber (got : ValueType)
  | notNumbers (left right : ValueType)
  | noText (got : ValueType)
  | unknownUnary
  | unknownBinary
  deriving DecidableEq, Repr

/-- The message for an operator with the given lexeme. -/
def Mismatch.message (lexeme : String) : Mismatch → String
  | .notNumber got => "Operand of '-' must be a number, got " ++ got.name ++ "."
  | .notNumbers left right =>
    "Operands of '" ++ lexeme ++ "' must be numbers, got " ++ left.name ++ " and " ++ right.name ++
      "."
  | .noText got => "Cannot convert " ++ got.name ++ " to a string for '" ++ lexeme ++ "'."
  | .unknownUnary => "Unknown unary operator '" ++ lexeme ++ "'."
  | .unknownBinary => "Unknown binary operator '" ++ lexeme ++ "'."

/-- A step from a binary operator into one of its operands (`_operand`, 121-126). -/
structure Descent where
  side : Side
  operator : Operator
  deriving DecidableEq, Repr

/-- What `_operand` puts in front of a message (122). -/
def Descent.message (d : Descent) : String :=
  "Could not evaluate " ++ d.side.name ++ " operand of '" ++ d.operator.lexeme ++ "': "

/-- An operator that cannot be applied, and the way to it through operands of binary operators,
the outermost first. -/
structure Misapplication where
  path : List Descent
  operator : Operator
  mismatch : Mismatch
  deriving DecidableEq, Repr

/-- Why evaluation stops with a diagnostic (`EvalError`). -/
inductive EvalError
  | nestedTooDeeply
  | misapplied (failure : Misapplication)
  deriving DecidableEq, Repr

namespace EvalError

def text : EvalError → String
  | .nestedTooDeeply => "Expression nests too deeply."
  | .misapplied m =>
    .join (m.path.map Descent.message) ++ m.mismatch.message m.operator.lexeme

/-- The line is that of the operator that cannot be applied (99), which `_operand` hands on (123).
What nests too deeply has no place (60). -/
def diagnostic (e : EvalError) : Diagnostic :=
  ⟨e.text, match e with
    | .nestedTooDeeply => none
    | .misapplied m => some (.ofLine m.operator.line)⟩

/-- The outermost operator that fails (`EvalError.operator`, 99 and 124). -/
def operator : EvalError → Option String
  | .nestedTooDeeply => none
  | .misapplied m => some ((m.path.head?.map (·.operator)).getD m.operator).lexeme

/-- The operand through which the outermost operator fails, if it is not to blame itself
(`EvalError.side`, 125). -/
def side : EvalError → Option Side
  | .nestedTooDeeply => none
  | .misapplied m => m.path.head?.map (·.side)

end EvalError

/-- Why evaluation stops. -/
inductive EvalFailure
  | error (error : EvalError)
  /-- A whole number beyond the largest double (79). -/
  | integerTooLarge
  deriving DecidableEq, Repr

/-! ## Operators -/

namespace Operator

/-- Fails at this operator itself (`_type_error`, 98-99). -/
def fail (op : Operator) (mismatch : Mismatch) : Except EvalFailure Value :=
  .error (.error (.misapplied ⟨[], op, mismatch⟩))

/-- Marks a failure inside an operand; running out of room passes through unmarked (`_operand`,
116-126). -/
def inOperand (op : Operator) (side : Side) : Except EvalFailure Value → Except EvalFailure Value
  | .error (.error (.misapplied m)) =>
    .error (.error (.misapplied { m with path := ⟨side, op⟩ :: m.path }))
  | outcome => outcome

/-- `_interpret_unary` (102-113), behind its operand. -/
def applyUnary (op : Operator) (operand : Value) : Except EvalFailure Value :=
  match op.kind, operand with
  | .bang, operand => .ok (.boolean !operand.isTruthy)
  | .minus, .number x => .ok (.number (-x))
  | .minus, operand => op.fail (.notNumber operand.type)
  | _, _ => op.fail .unknownUnary

/-- Applies an operation to two numbers (`_numbers`, 175-181, with 139-143). -/
def onNumbers (op : Operator) (operation : Double → Double → Value) (left right : Value) :
    Except EvalFailure Value :=
  match left, right with
  | .number a, .number b => .ok (operation a b)
  | _, _ => op.fail (.notNumbers left.type right.type)

/-- Joins texts if one side is a string, and adds numbers otherwise (`_add`, 184-194, with
`_concat_text`, 197-203). -/
def add (op : Operator) (left right : Value) : Except EvalFailure Value :=
  match left, right with
  | .string _, .nil => op.fail (.noText .nil)
  | .nil, .string _ => op.fail (.noText .nil)
  | .string a, b => .ok (.string (a ++ b.text))
  | a, .string b => .ok (.string (a.text ++ b))
  | a, b => op.onNumbers (fun x y => .number (x + y)) a b

/-- `_interpret_binary` (129-149), behind its operands, with `_ARITHMETIC` (161-165) and
`_COMPARISON` (167-172). -/
def applyBinary (op : Operator) (left right : Value) : Except EvalFailure Value :=
  match op.kind with
  | .comma => .ok right
  | .plus => op.add left right
  | .minus => op.onNumbers (fun x y => .number (x - y)) left right
  | .star => op.onNumbers (fun x y => .number (x * y)) left right
  | .slash => op.onNumbers (fun x y => .number (x / y)) left right
  | .greater => op.onNumbers (fun x y => .boolean (y.less x)) left right
  | .greaterEqual => op.onNumbers (fun x y => .boolean (y.lessEqual x)) left right
  | .less => op.onNumbers (fun x y => .boolean (x.less y)) left right
  | .lessEqual => op.onNumbers (fun x y => .boolean (x.lessEqual y)) left right
  | .equalEqual => .ok (.boolean (left.equal right))
  | .bangEqual => .ok (.boolean !left.equal right)
  | _ => op.fail .unknownBinary

end Operator

/-! ## Trees -/

namespace Expr

/-- The prices of evaluating inside a group, a prefix operator, a binary operator and a
conditional, in calls: `_interpret` itself (87), with `_interpret_unary`, with `_interpret_binary`
and `_operand`, and with `_interpret_ternary`. -/
def groupEvalCost : Nat := 1
def unaryEvalCost : Nat := 2
def binaryEvalCost : Nat := 3
def conditionalEvalCost : Nat := 2

/-- Goes in at a price, or stops evaluation. -/
def enterEval (cost : Nat) (room : Nesting) : Except EvalFailure Nesting :=
  match room.enter cost with
  | some room => .ok room
  | none => .error (.error .nestedTooDeeply)

/-- Evaluates a tree, with a limit on nesting (`_interpret`, 74-93, and `_interpret_ternary`,
215-219). -/
def evalWithin : Nesting → Expr → Except EvalFailure Value
  | _, .string value => .ok (.string value)
  | _, .integer value =>
    (Double.ofInt? value).elim (.error .integerTooLarge) fun x => .ok (.number x)
  | _, .float value => .ok (.number value)
  | _, .boolean value => .ok (.boolean value)
  | _, .nil => .ok .nil
  | room, .group inner => do
    let room ← enterEval groupEvalCost room
    inner.evalWithin room
  | room, .unary operator operand => do
    let room ← enterEval unaryEvalCost room
    operator.applyUnary (← operand.evalWithin room)
  | room, .binary left operator right => do
    let room ← enterEval binaryEvalCost room
    let left ← operator.inOperand .left (left.evalWithin room)
    let right ← operator.inOperand .right (right.evalWithin room)
    operator.applyBinary left right
  | room, .conditional condition thenBranch elseBranch => do
    let room ← enterEval conditionalEvalCost room
    if (← condition.evalWithin room).isTruthy then thenBranch.evalWithin room
    else elseBranch.evalWithin room

/-- Evaluates a tree (`evaluate`, 44-62). Nothing is logged: the tree and the value that the debug
call (61) writes are among the notes of a run (`Command.notes`). -/
def eval (e : Expr) : Except EvalFailure Value := e.evalWithin .standard

end Expr

end LoxExpr
