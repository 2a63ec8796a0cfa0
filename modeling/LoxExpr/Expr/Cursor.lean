import LoxExpr.Expr.Parse

/-!
# Reading step by step

A cursor stands in an input and applies single rules or looks at single tokens. It never passes
the token that ends the input, and goes on from where a failure left it. `LoxExpr.Parser` does the
same by an index into the whole token list; `perform_read_cursor` says that this comes to the same.
-/

namespace LoxExpr

structure Cursor where
  input : Input
  /-- How many tokens have been read. -/
  position : Nat

namespace Cursor

def ofInput (input : Input) : Cursor := ⟨input, 0⟩

/-- The tokens that are left before the end. -/
def rest (c : Cursor) : List Token := c.input.tokens.drop c.position

/-- The next token; at the end, the token that ends the input. -/
def current (c : Cursor) : Token := c.rest.headD c.input.stop

def atEnd (c : Cursor) : Bool := c.rest.isEmpty

/-- Reads one token; the token that ends the input can be read again and again. -/
def advance (c : Cursor) : Token × Cursor :=
  (c.current, if c.atEnd then c else { c with position := c.position + 1 })

/-- Whether the next token is of one of some kinds. -/
def check (c : Cursor) (kinds : List Kind) : Bool := kinds.contains c.current.kind

/-- Reads the next token if it is of one of some kinds. -/
def accept (c : Cursor) (kinds : List Kind) : Option Token × Cursor :=
  if c.check kinds then (some c.advance.1, c.advance.2) else (none, c)

/-- Reads a token of a kind, or fails with a message at the token that stands there instead. -/
def expect (c : Cursor) (kind : Kind) (message : String) : Except ParseError Token × Cursor :=
  if c.check [kind] then (.ok c.advance.1, c.advance.2)
  else (.error ⟨.missing message, c.current⟩, c)

/-- Reads by a rule. -/
def read (c : Cursor) (rule : Rule) : Except RuleFailure Expr × Cursor :=
  let outcome := rule.read .standard c.input.stop c.rest
  (outcome.result, { c with position := c.input.tokens.length - outcome.rest.length })

end Cursor

end LoxExpr
