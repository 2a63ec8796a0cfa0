import LoxExpr.Diagnostic
import LoxExpr.Expr
import LoxExpr.Nesting
import LoxExpr.Number.Layout
import LoxExpr.Number.Numeral

/-!
# Reading trees

The grammar, from the loosest rule to the tightest:

* expression: a comma chain, or `condition ? expression : expression`
* comma, equality, comparison, term, factor: operands of the next rule, joined from the left
* unary: `!` or `-` before a unary, or a primary
* primary: a literal, or an expression in brackets

A rule reads from the tokens that are left and says which it leaves, also when it fails. Nesting
takes room; a chain of operators does not.

The names and lines in brackets are those of the parser (`pylox.core.expression_lang.parser`). It
goes over its tokens by an index, as `LoxExpr.Parser` does; `parseWithin_eq_whole` says that this
comes to the same.
-/

namespace LoxExpr

/-! ## Failures -/

/-- What is wrong with a token (165, 184, 181, 109, 225, 221). -/
inductive ParseFault
  | expressionExpected
  | tokenUnexpected
  | groupUnclosed
  | colonMissing
  | endExpected
  | nestedTooDeeply
  /-- A token that a caller of `expect` asked for, in the caller's words. -/
  | missing (message : String)
  deriving DecidableEq, Repr

def ParseFault.message : ParseFault → String
  | .expressionExpected => "Expect expression."
  | .tokenUnexpected => "Unexpected token; expect expression."
  | .groupUnclosed => "Expect ')' after expression."
  | .colonMissing => "Expect ':' after then branch of conditional expression."
  | .endExpected => "Expect end of expression."
  | .nestedTooDeeply => "Expression nests too deeply."
  | .missing message => message

/-- A fault and the token at fault. -/
structure ParseError where
  fault : ParseFault
  token : Token
  deriving DecidableEq

/-- `Parser.error` (93-94) with `make_parse_error`. -/
def ParseError.diagnostic (e : ParseError) : Diagnostic :=
  ⟨e.fault.message, some (.ofLexeme e.token.line e.token.lexeme e.token.isEof)⟩

/-- Why a rule fails: at a token, at a lexeme that is no number (199), or by too deep recursion. -/
inductive RuleFailure
  | refused (error : ParseError)
  | unreadableNumber (lexeme : String)
  | outOfRoom
  deriving DecidableEq

/-- Why tokens are not read as an expression. Too deep recursion is a fault of a token (220-221). -/
inductive ParseFailure
  | refused (error : ParseError)
  | unreadableNumber (lexeme : String)
  /-- The last token does not end the input (61-62). -/
  | unended
  deriving DecidableEq

/-! ## Literals -/

/-- The whole numbers that stay whole numbers: those of 64 bits with a sign (`_INT64_MIN`,
`_INT64_MAX`, 187-188). -/
def Expr.fitsInteger (n : Int) : Bool := -Int.pow 2 63 ≤ n && n < Int.pow 2 63

/-- A number literal: a whole number if the lexeme is one and fits, else a float
(`_number_literal`, 191-202). -/
def Expr.ofNumeral? (lexeme : String) : Option Expr :=
  match (Numeral.integer? lexeme).filter fitsInteger with
  | some n => some (.integer n)
  | none => (Numeral.real? lexeme).map .float

/-- The text of a string literal; a literal of another kind is written out (`str`, 178). -/
def Literal.spelling : Literal → String
  | .absent => "None"
  | .text value => value
  | .number value => value.shortText

/-- The tree that a token is by itself (`_primary`, 169-178). -/
def Token.leaf? (t : Token) : Option Expr :=
  match t.kind with
  | .falseWord => some (.boolean false)
  | .trueWord => some (.boolean true)
  | .nilWord => some .nil
  | .string => some (.string t.literal.spelling)
  | .number => Expr.ofNumeral? t.lexeme
  | _ => none

/-! ## Rules -/

/-- The levels of binary operators, the loosest first (`_comma` to `_factor`, 137-150). -/
inductive Level
  | comma | equality | comparison | term | factor
  deriving DecidableEq, Repr

/-- A rule of the grammar. A chain has its first operands already: it is the loop of
`_binary_expr` (130-134). -/
inductive Rule
  | expression
  | level (level : Level)
  | chain (level : Level) (left : Expr)
  | unary
  | primary

/-- `_EQUALITY_OPS` to `_FACTOR_OPS` (44-49), and the comma (138). -/
def Level.operators : Level → List Kind
  | .comma => [.comma]
  | .equality => [.bangEqual, .equalEqual]
  | .comparison => [.greater, .greaterEqual, .less, .lessEqual]
  | .term => [.minus, .plus]
  | .factor => [.slash, .star]

/-- The rule for the operands of a level. -/
def Level.operand : Level → Rule
  | .comma => .level .equality
  | .equality => .level .comparison
  | .comparison => .level .term
  | .term => .level .factor
  | .factor => .unary

/-- The operators that stand before their operand (`_UNARY_OPS`, 50). -/
def unaryOperators : List Kind := [.bang, .minus]

/-- The result of a rule and the tokens that it leaves. -/
structure Outcome where
  result : Except RuleFailure Expr
  rest : List Token

namespace Outcome

def ok (e : Expr) (rest : List Token) : Outcome := ⟨.ok e, rest⟩

def refuse (fault : ParseFault) (token : Token) (rest : List Token) : Outcome :=
  ⟨.error (.refused ⟨fault, token⟩), rest⟩

/-- Goes on with a tree and the tokens left; a failure stays. -/
def andThen (o : Outcome) (next : Expr → List Token → Outcome) : Outcome :=
  match o.result with
  | .ok e => next e o.rest
  | .error failure => ⟨.error failure, o.rest⟩

/-- Goes in at a price and on with the room left, or fails with the tokens that are left. -/
def inside (cost : Nat) (room : Nesting) (rest : List Token) (next : Nesting → Outcome) : Outcome :=
  match room.enter cost with
  | some room => next room
  | none => ⟨.error .outOfRoom, rest⟩

/-- Goes on behind a token of a kind, or fails at the token that stands there instead (`expect`,
88-91). -/
def expect (kind : Kind) (fault : ParseFault) (stop : Token) (rest : List Token)
    (next : List Token → Outcome) : Outcome :=
  match rest with
  | [] => .refuse fault stop []
  | token :: after => if token.kind = kind then next after else .refuse fault token rest

end Outcome

/-- The prices of nesting, in calls: a prefix operator (`_unary` in itself), a branch of a
conditional (`_binary_expr`, `parse_expression`), brackets (all from `parse_expression` to
`_primary`). -/
def unaryCost : Nat := 1
def branchCost : Nat := 2
def groupCost : Nat := 13

namespace Rule

/-- Reads by a rule as far as the rule itself goes; `self` reads its parts. `stop` is the token
that ends the input, `tokens` those that are left before it. The cases are `parse_expression`
(98-116), `_binary_expr` with its first operand and in its loop (118-135), `_unary` (152-158) and
`_primary` (160-184). -/
def step (stop : Token) (self : Nesting → Rule → List Token → Outcome) (room : Nesting) :
    Rule → (tokens : List Token) → Outcome
  | .expression, tokens =>
    (self room (.level .comma) tokens).andThen fun condition rest =>
      match rest with
      | [] => .ok condition []
      | token :: after =>
        if token.kind = .question then
          .inside branchCost room after fun room =>
            (self room .expression after).andThen fun thenBranch rest =>
              .expect .colon .colonMissing stop rest fun rest =>
                (self room .expression rest).andThen fun elseBranch rest =>
                  .ok (.conditional condition thenBranch elseBranch) rest
        else .ok condition rest
  | .level l, tokens =>
    (self room l.operand tokens).andThen fun left rest => self room (.chain l left) rest
  | .chain _ left, [] => .ok left []
  | .chain l left, token :: rest =>
    if token.kind ∈ l.operators then
      (self room l.operand rest).andThen fun right rest =>
        self room (.chain l (.binary left token.operator right)) rest
    else .ok left (token :: rest)
  | .unary, [] => self room .primary []
  | .unary, token :: rest =>
    if token.kind ∈ unaryOperators then
      .inside unaryCost room rest fun room =>
        (self room .unary rest).andThen fun operand rest =>
          .ok (.unary token.operator operand) rest
    else self room .primary (token :: rest)
  | .primary, [] => .refuse .expressionExpected stop []
  | .primary, token :: rest =>
    match token.leaf? with
    | some e => .ok e rest
    | none =>
      if token.kind = .number then ⟨.error (.unreadableNumber token.lexeme), rest⟩
      else if token.kind = .leftParen then
        .inside groupCost room rest fun room =>
          (self room .expression rest).andThen fun inner rest =>
            .expect .rightParen .groupUnclosed stop rest fun rest => .ok (.group inner) rest
      else .refuse .tokenUnexpected token rest

/-- Reads by a rule. Every step spends one unit of `fuel`; `fuelFor` is always enough. -/
def run (stop : Token) : (fuel : Nat) → Nesting → Rule → (tokens : List Token) → Outcome
  | 0, _, _, tokens => ⟨.error .outOfRoom, tokens⟩
  | fuel + 1, room, rule, tokens => step stop (run stop fuel) room rule tokens

/-- Enough fuel: no rule takes more than eight steps before it reads a token. -/
def fuelFor (tokens : List Token) : Nat := 8 * (tokens.length + 1)

/-- Reads by a rule, from tokens that `stop` ends. -/
def read (rule : Rule) (room : Nesting) (stop : Token) (tokens : List Token) : Outcome :=
  rule.run stop (fuelFor tokens) room tokens

end Rule

/-! ## Whole inputs -/

/-- The tokens of an input before its end, and the token that ends it. -/
structure Input where
  tokens : List Token
  stop : Token

/-- A token list as an input; it has to end with a token for the end, and the first of those ends
the input. -/
def Input.ofTokens? (tokens : List Token) : Option Input :=
  if (tokens.getLast?.map Token.isEof).getD false then
    (tokens.find? Token.isEof).map (⟨tokens.takeWhile (!·.isEof), ·⟩)
  else none

/-- Reads a whole input as one expression (217-225). Room that runs out is a fault of the next
token. -/
def Input.parseWithin (room : Nesting) (input : Input) : Except ParseFailure Expr :=
  let outcome := Rule.expression.read room input.stop input.tokens
  match outcome.result, outcome.rest with
  | .ok e, [] => .ok e
  | .ok _, token :: _ => .error (.refused ⟨.endExpected, token⟩)
  | .error .outOfRoom, rest =>
    .error (.refused ⟨.nestedTooDeeply, rest.headD input.stop⟩)
  | .error (.refused error), _ => .error (.refused error)
  | .error (.unreadableNumber lexeme), _ => .error (.unreadableNumber lexeme)

/-- Reads tokens as one expression, with a limit on nesting. -/
def parseWithin (room : Nesting) (tokens : List Token) : Except ParseFailure Expr :=
  match Input.ofTokens? tokens with
  | some input => input.parseWithin room
  | none => .error .unended

/-- Reads tokens as one expression (`parse`, 205-228). Nothing is logged: the tree that the debug
call (227) writes is among the notes of a run (`Command.notes`). -/
def parse (tokens : List Token) : Except ParseFailure Expr := parseWithin .standard tokens

end LoxExpr
