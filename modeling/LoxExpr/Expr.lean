import LoxExpr.Token

/-!
# Expression trees

The names and lines in brackets are those of the expression tree (`pylox.core.ir.expressions`).
-/

namespace LoxExpr

/-- An operator token of a tree (88, 101), without its literal, which nothing reads. -/
structure Operator where
  kind : Kind
  lexeme : String
  line : Int
  deriving DecidableEq, Repr

def Token.operator (t : Token) : Operator := ⟨t.kind, t.lexeme, t.line⟩

/-- An expression (`Expr`, 164-174). The comma operator is a binary operator like any other. -/
inductive Expr
  | string (value : String)
  | integer (value : Int)
  | float (value : Double)
  | boolean (value : Bool)
  | nil
  | group (inner : Expr)
  | unary (operator : Operator) (operand : Expr)
  | binary (left : Expr) (operator : Operator) (right : Expr)
  | conditional (condition thenBranch elseBranch : Expr)
  deriving DecidableEq

instance : Inhabited Expr := ⟨.nil⟩

end LoxExpr
