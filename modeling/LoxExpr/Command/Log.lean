import LoxExpr.Session
import LoxExpr.Settings

/-!
# The log

A run of a source text leaves notes: that the text was scanned, read and evaluated, and what as, or
how it failed. The log takes the notes of the levels that the settings ask for and writes them on
standard error, each as a record behind the time, which is left out here. Lines are those of the
module that the note names as its logger, and of the command (`pylox.cli`).

| here | there |
| --- | --- |
| `Note.scanned` | the debug call of `Scanner.scan_tokens` (77) |
| `Note.parsed` | the debug call of `parse` (227), behind its guard against deep nesting |
| `Note.evaluated` | the debug call of `evaluate` (61), behind its guard too |
| `Note.failed` | the info calls of `Lox.run` (79, 83) |
| `Note.running` | the info call of `run_command` (123) |
| `Record.text` | `LOG_FORMAT` (31), without its first part |
| `logs` | `logging.basicConfig` with `log_level_number` (103) |

The two calls in `load_settings` come before the log is set up: the warning about an unknown level
is printed as a text (`start`), and the debug call has no effect.
-/

namespace LoxExpr.Command

/-- The levels of the notes that a run leaves. -/
inductive Level
  | debug
  | info
  deriving DecidableEq, Repr

def Level.name : Level → String
  | .debug => "DEBUG"
  | .info => "INFO"

def Level.number : Level → Nat
  | .debug => 10
  | .info => 20

/-- Something for the log, by the part of the program that it comes from. A tree that nests too
deeply to be written leaves it without a message. -/
structure Note where
  logger : String
  level : Level
  message : Option String

namespace Note

/-- The tokens of a source text, with the line that the last one is on. -/
def scanned (tokens : List Token) : Note :=
  let lines := (tokens.getLast?.map (·.line)).getD 1
  ⟨"pylox.core.expression_lang.tokenizer", .debug,
    "Scanned " ++ toString tokens.length ++ " tokens over " ++ toString lines ++ " line(s)"⟩

def parsed (tree : Expr) : Note :=
  ⟨"pylox.core.expression_lang.parser", .debug, tree.render?.map ("Parsed expression: " ++ ·)⟩

def evaluated (tree : Expr) (value : Value) : Note :=
  ⟨"pylox.core.expression_lang.evaluator", .debug,
    tree.render?.map fun text => "Evaluated " ++ text ++ " -> " ++ value.summary⟩

/-- A failure, before evaluation or in it. -/
def failed (stage : String) (d : Diagnostic) : Note :=
  ⟨"pylox.core.runner", .info, stage ++ " error: " ++ d.message⟩

/-- A script that is going to be run. -/
def running (script : Path) : Note := ⟨"pylox.cli", .info, "Running " ++ script.toString⟩

end Note

/-- The notes that a run with a report leaves, in order. -/
def notes : Report → List Note
  | .unscanned error => [.failed "Static" error.diagnostic]
  | .unread tokens error => [.scanned tokens, .failed "Static" error.diagnostic]
  | .failed tokens tree error =>
    [.scanned tokens, .parsed tree, .failed "Runtime" error.diagnostic]
  | .finished tokens tree value => [.scanned tokens, .parsed tree, .evaluated tree value]

/-- A note with a message, as it is written. -/
structure Record where
  logger : String
  level : Level
  message : String
  deriving DecidableEq, Repr

def Record.text (r : Record) : String :=
  r.logger ++ " - " ++ r.level.name ++ " - " ++ r.message

/-- Whether the log takes notes of a level. -/
def logs (settings : Settings) (level : Level) : Bool :=
  Settings.levelNumber settings.logLevel ≤ level.number

/-- Whether trees are written to the log, which has them at the lowest level. -/
def logsTrees (settings : Settings) : Bool := logs settings .debug

end LoxExpr.Command
