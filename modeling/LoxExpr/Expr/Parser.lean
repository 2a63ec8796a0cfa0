import LoxExpr.Expr.Parse

/-!
# Reading from a token list

A parser keeps a token list as it was given, with what may follow the first token that ends the
input, and the index of the next token. It reads by the rules of the grammar, always through that
index, and goes on from where a failure left it. The names and lines in brackets are those of the
parser (`pylox.core.expression_lang.parser`).
-/

namespace LoxExpr

/-- `Parser` (53-64). -/
structure Parser where
  tokens : List Token
  /-- The index of the next token. -/
  position : Nat

namespace Parser

/-- A token list has to end with a token for the end of the input (`__init__`, 60-64). -/
def ofTokens? (tokens : List Token) : Option Parser :=
  if (tokens.getLast?.map Token.isEof).getD false then some ⟨tokens, 0⟩ else none

/-- Why an operation fails: an index out of range (68, 75), or a rule of the grammar. Only these
rules ever make one fail (`Request.isAnswered`). -/
inductive Failure
  | outOfTokens
  | outOfFuel
  | rule (failure : RuleFailure)
  deriving DecidableEq

/-- Something that a parser does. It moves the parser also if it fails. -/
abbrev Operation (α : Type) := ExceptT Failure (StateM Parser) α

/-- What comes of an operation, and the parser that it leaves. -/
def perform {α : Type} (operation : Operation α) (p : Parser) : Except Failure α × Parser :=
  StateT.run (ExceptT.run operation) p

/-! ## Single tokens -/

/-- The next token (`current`, 66-68). -/
def current : Operation Token := do
  let p ← get
  match p.tokens[p.position]? with
  | some token => return token
  | none => throw .outOfTokens

/-- `at_end` (70-72). -/
def atEnd : Operation Bool := return (← current).isEof

/-- Reads one token; one that ends the input can be read again and again (`advance`, 74-78). -/
def advance : Operation Token := do
  let token ← current
  if ← atEnd then return token
  modify fun p => { p with position := p.position + 1 }
  return token

/-- Whether the next token is of one of some kinds (`check`, 80-81). -/
def check (kinds : List Kind) : Operation Bool := return kinds.contains (← current).kind

/-- Reads the next token if it is of one of some kinds (`match`, 83-86). -/
def accept (kinds : List Kind) : Operation (Option Token) := do
  if ← check kinds then return some (← advance) else return none

/-- Fails at a token (`error`, 93-94). -/
def refuse {α : Type} (fault : ParseFault) (token : Token) : Operation α :=
  throw (.rule (.refused ⟨fault, token⟩))

/-- Reads a token of a kind, or fails at the token that stands there instead (`expect`, 88-91). -/
def expect (kind : Kind) (fault : ParseFault) : Operation Token := do
  if (← current).kind = kind then advance else refuse fault (← current)

/-! ## Rules -/

/-- Goes in at a price and on with the room left. -/
def inside {α : Type} (cost : Nat) (room : Nesting) (next : Nesting → Operation α) : Operation α :=
  match room.enter cost with
  | some room => next room
  | none => throw (.rule .outOfRoom)

/-- Joins operands to a first one from the left, with as many operators as there are up to a
limit (129-135). It looks for one more operator than the limit allows. -/
def join (operand : Operation Expr) (operators : List Kind) : (limit : Nat) → Expr → Operation Expr
  | 0, left => do
    let _ ← check operators
    return left
  | limit + 1, left => do
    if ← check operators then
      let operator ← advance
      let right ← operand
      join operand operators limit (.binary left operator.operator right)
    else return left

/-- Operands joined from the left (`_binary_expr`, 118-135). There are no more operators than
tokens, so their number is no limit. -/
def binary (operand : Operation Expr) (operators : List Kind) (limit : Option Nat) :
    Operation Expr := do
  let left ← operand
  let p ← get
  join operand operators (limit.getD p.tokens.length) left

/-- The operands of a tree that joins two with an operator of a kind (107, 113-114). -/
def sides? (kind : Kind) : Expr → Option (Expr × Expr)
  | .binary left operator right => if operator.kind = kind then some (left, right) else none
  | _ => none

/-- The branches of a conditional, which are read as the two operands of one colon (106-115). -/
def branches (branch : Operation Expr) (condition : Expr) : Operation Expr := do
  let joined ← binary branch [.colon] (some 1)
  match sides? .colon joined with
  | some (thenBranch, elseBranch) => return .conditional condition thenBranch elseBranch
  | none => refuse .colonMissing (← current)

/-- The tree that a token other than a bracket is by itself (169-178, 184). -/
def leaf (token : Token) : Operation Expr :=
  match token.kind with
  | .falseWord => return .boolean false
  | .trueWord => return .boolean true
  | .nilWord => return .nil
  | .number =>
    match Expr.ofNumeral? token.lexeme with
    | some e => return e
    | none => throw (.rule (.unreadableNumber token.lexeme))
  | .string => return .string token.literal.spelling
  | _ => refuse .tokenUnexpected token

/-- Reads by a rule as far as the rule itself goes; `self` reads its parts. The cases are
`parse_expression` (98-116), `_binary_expr` (118-135), `_unary` (152-158) and `_primary`
(160-184). -/
def step (self : Nesting → Rule → Operation Expr) (room : Nesting) : Rule → Operation Expr
  | .expression => do
    let condition ← self room (.level .comma)
    if (← accept [.question]).isSome then
      inside branchCost room fun room => branches (self room .expression) condition
    else return condition
  | .level l => binary (self room l.operand) l.operators none
  | .chain l left => do
    let p ← get
    join (self room l.operand) l.operators p.tokens.length left
  | .unary => do
    if ← check unaryOperators then
      let operator ← advance
      inside unaryCost room fun room => do
        let operand ← self room .unary
        return .unary operator.operator operand
    else self room .primary
  | .primary => do
    let token ← current
    if token.isEof then refuse .expressionExpected token
    let _ ← advance
    if token.kind = .leftParen then
      inside groupCost room fun room => do
        let inner ← self room .expression
        let _ ← expect .rightParen .groupUnclosed
        return .group inner
    else leaf token

/-- Reads by a rule. Every step spends one unit of `fuel`. -/
def run : (fuel : Nat) → Nesting → Rule → Operation Expr
  | 0, _, _ => throw .outOfFuel
  | fuel + 1, room, rule => step (run fuel) room rule

/-- Reads by a rule, with the fuel that the whole token list needs. -/
def read (rule : Rule) (room : Nesting) : Operation Expr := do
  let p ← get
  run (Rule.fuelFor p.tokens) room rule

/-- Reads a whole input as one expression (`parse`, 217-228, without its debug call). Room that runs
out is a fault of the next token. -/
def whole (room : Nesting) : Operation Expr := do
  let e ← tryCatch (read .expression room) fun
    | .rule .outOfRoom => do refuse .nestedTooDeeply (← current)
    | failure => throw failure
  if ← atEnd then return e else refuse .endExpected (← current)

/-- What a failure to read a whole input means to those who asked for it. -/
def Failure.parse? : Failure → Option ParseFailure
  | .rule (.refused error) => some (.refused error)
  | .rule (.unreadableNumber lexeme) => some (.unreadableNumber lexeme)
  | _ => none

/-! ## Requests -/

/-- What can be asked of a parser. -/
inductive Request
  | read (rule : Rule) (room : Nesting)
  | current
  | atEnd
  | advance
  | check (kinds : List Kind)
  | accept (kinds : List Kind)
  | expect (kind : Kind) (message : String)

inductive Reply
  | tree (e : Expr)
  | token (token : Token)
  | accepted (token : Option Token)
  | answer (yes : Bool)

def Request.operation : Request → Operation Reply
  | .read rule room => return .tree (← Parser.read rule room)
  | .current => return .token (← Parser.current)
  | .atEnd => return .answer (← Parser.atEnd)
  | .advance => return .token (← Parser.advance)
  | .check kinds => return .answer (← Parser.check kinds)
  | .accept kinds => return .accepted (← Parser.accept kinds)
  | .expect kind message => return .token (← Parser.expect kind (.missing message))

/-- The replies to requests that are made one after another, each with the position after it. -/
def replies : Parser → List Request → List (Except Failure Reply × Nat)
  | _, [] => []
  | p, request :: requests =>
    let (reply, q) := perform request.operation p
    (reply, q.position) :: q.replies requests

end Parser

end LoxExpr
