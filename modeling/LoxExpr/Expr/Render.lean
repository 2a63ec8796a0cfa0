import LoxExpr.Expr
import LoxExpr.Nesting
import LoxExpr.Number.Layout

/-!
# Writing trees

A tree is written with brackets around every compound node and the operator first, all parts
separated by single spaces. The names and lines in brackets are those of the expression tree
(`pylox.core.ir.expressions`).
-/

namespace LoxExpr.Expr

/-- The price of writing one compound node, whose `__str__` calls those of its parts. -/
def renderCost : Nat := 3

/-- The text of a tree, if there is room for its nesting (`__str__`, 38-78 and 93-131). -/
def renderWithin : Nesting → Expr → Option String
  | _, .string value => some value
  | _, .integer value => some (toString value)
  | _, .float value => some value.literalText
  | _, .boolean value => some (if value then "true" else "false")
  | _, .nil => some "nil"
  | room, .group inner => do
    let room ← room.enter renderCost
    let inner ← inner.renderWithin room
    some ("( " ++ inner ++ " )")
  | room, .unary operator operand => do
    let room ← room.enter renderCost
    let operand ← operand.renderWithin room
    some ("( " ++ operator.lexeme ++ " " ++ operand ++ " )")
  | room, .binary left operator right => do
    let room ← room.enter renderCost
    let left ← left.renderWithin room
    let right ← right.renderWithin room
    some ("( " ++ operator.lexeme ++ " " ++ left ++ " " ++ right ++ " )")
  | room, .conditional condition thenBranch elseBranch => do
    let room ← room.enter renderCost
    let condition ← condition.renderWithin room
    let thenBranch ← thenBranch.renderWithin room
    let elseBranch ← elseBranch.renderWithin room
    some ("( " ++ condition ++ " ? " ++ thenBranch ++ " : " ++ elseBranch ++ " )")

/-- The text of a tree that does not nest too deeply (`render`, 148-157). No text stands for the end
of the stack, which `render` does not guard against. -/
def render? (e : Expr) : Option String := e.renderWithin .standard

end LoxExpr.Expr
