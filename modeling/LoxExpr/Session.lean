import LoxExpr.Expr.Eval
import LoxExpr.Expr.Parse
import LoxExpr.Expr.Render
import LoxExpr.Token.Scan

/-!
# Sessions

A source text is scanned, read and evaluated; the report of a run holds what the stages gave as
far as they got. A session keeps two flags over its runs: whether some text was not an
expression, and whether some evaluation failed.

The names and lines in brackets are those of the runner (`pylox.core.runner`).
-/

namespace LoxExpr

/-! ## One source text -/

/-- Why a source text has no value. -/
inductive SourceFailure
  | scan (error : ScanError)
  | parse (failure : ParseFailure)
  | eval (failure : EvalFailure)
  deriving DecidableEq

/-- The value of a source text. -/
def evalSource (source : String) : Except SourceFailure Value := do
  let tokens ← (scan source).mapError .scan
  let tree ← (parse tokens).mapError .parse
  tree.eval.mapError .eval

/-- The output of a source text (`run_source`, 87-93). -/
def runSource (source : String) : Except SourceFailure String := do
  let value ← evalSource source
  return value.text

/-! ## Reports -/

/-- A failure that no diagnostic reports: a number token or a whole number that cannot be a
double, or tokens without an end. No source text leads to one. -/
inductive SourceBreakdown
  | parse (failure : ParseFailure)
  | eval (failure : EvalFailure)
  deriving DecidableEq

/-- How far a run got (`RunResult`, 26-37). -/
inductive Report
  | unscanned (error : ScanError)
  | unread (tokens : List Token) (error : ParseError)
  | failed (tokens : List Token) (tree : Expr) (error : EvalError)
  | finished (tokens : List Token) (tree : Expr) (value : Value)

namespace Report

def tokens : Report → List Token
  | .unscanned _ => []
  | .unread tokens _ => tokens
  | .failed tokens _ _ => tokens
  | .finished tokens _ _ => tokens

def tree : Report → Option Expr
  | .failed _ tree _ => some tree
  | .finished _ tree _ => some tree
  | _ => none

def value : Report → Option Value
  | .finished _ _ value => some value
  | _ => none

/-- The value as program output (`output`, 43-46). -/
def output (r : Report) : Option String := r.value.map Value.text

/-- `diagnostic` (48-50). -/
def diagnostic : Report → Option Diagnostic
  | .unscanned error => some error.diagnostic
  | .unread _ error => some error.diagnostic
  | .failed _ _ error => some error.diagnostic
  | .finished .. => none

/-- Whether the text was not an expression (76-78). -/
def isStaticError : Report → Bool
  | .unscanned _ => true
  | .unread .. => true
  | _ => false

/-- Whether the evaluation failed (80-82). -/
def isRuntimeError : Report → Bool
  | .failed .. => true
  | _ => false

/-- Runs a source text (71-84). -/
def ofSource (source : String) : Except SourceBreakdown Report :=
  match scan source with
  | .error error => .ok (.unscanned error)
  | .ok tokens =>
    match parse tokens with
    | .error (.refused error) => .ok (.unread tokens error)
    | .error failure => .error (.parse failure)
    | .ok tree =>
      match tree.eval with
      | .error (.error error) => .ok (.failed tokens tree error)
      | .error failure => .error (.eval failure)
      | .ok value => .ok (.finished tokens tree value)

end Report

/-! ## Flags -/

/-- Whether a run since the last reset failed before evaluation, and whether one failed in it
(`Lox`, 53-63). -/
structure Session where
  hadError : Bool
  hadRuntimeError : Bool
  deriving DecidableEq, Repr

namespace Session

/-- A session without failures (`__init__`, 61-63). -/
def fresh : Session := ⟨false, false⟩

/-- The session after a run with a report (77, 81). -/
def after (s : Session) (r : Report) : Session :=
  ⟨s.hadError || r.isStaticError, s.hadRuntimeError || r.isRuntimeError⟩

/-- Runs a source text in a session (`Lox.run`, 69-84). Nothing is logged, here or in the stages:
what a log is given, and the trees that cannot be written to it, come in `Command.execute`. -/
def run (s : Session) (source : String) : Except SourceBreakdown (Report × Session) := do
  let report ← Report.ofSource source
  return (report, s.after report)

/-- `reset` (65-67). -/
def reset (_ : Session) : Session := fresh

end Session

end LoxExpr
