import LoxExpr.Command.Console
import LoxExpr.Release
import LoxExpr.Text.Newlines

/-!
# The command

Runs a script or an expression and ends with an exit code, or answers lines of input one by one.
What is printed on the two output streams is collected. Lines are those of the command
(`pylox.cli`).

| here | there |
| --- | --- |
| `exitUsage`, `exitData`, `exitSoftware` | `EXIT_USAGE` and the two after it (27-29) |
| `exitCode` | `_exit_code` (130-135) |
| `printTokens`, `printTree`, `printOutcome` | the calls of `_execute` (142-150) |
| `execute` | `_execute` (138-151), with the log calls of `Lox.run` |
| `answer`, `interact` | `_repl` (154-165) |
| `runScript`, `once` | `run_command` on a script (115-125) and on an expression (111-113) |
| `task`, `start`, `run` | `run_command` (96-127) |
| `versionText` | `version_callback` (41-47) |

Arguments and variables are text; a part of them that is not UTF-8 would make a text that cannot be
printed. The help option is left out, and so is an interrupt while a line is answered.
-/

namespace LoxExpr.Command

/-! ## Results -/

/-- A failure that the command does not handle. -/
inductive Breakdown
  | settings (failure : SettingsFailure)
  /-- A script that is not UTF-8. -/
  | notUtf8
  /-- Input that is not UTF-8. -/
  | inputNotUtf8
  /-- A tree that nests too deeply to be written. -/
  | treeTooDeep
  | source (breakdown : SourceBreakdown)
  deriving DecidableEq

/-- How the command ends. -/
inductive Ending
  | exit (code : Nat)
  | breakdown (cause : Breakdown)
  deriving DecidableEq

structure Result where
  printed : Printed
  ending : Ending
  deriving DecidableEq

/-- The exit codes: wrong usage, text that is not an expression, and an evaluation that failed. -/
def exitUsage : Nat := 64
def exitData : Nat := 65
def exitSoftware : Nat := 70

/-- The exit code after a session. -/
def exitCode (s : Session) : Nat :=
  if s.hadError then exitData else if s.hadRuntimeError then exitSoftware else 0

/-! ## The log -/

/-- Writes notes to the log, up to one without a message. -/
def writeNotes : List Note → Printed × Except Breakdown Unit
  | [] => (.nothing, .ok ())
  | note :: notes =>
    match note.message with
    | none => (.nothing, .error .treeTooDeep)
    | some message =>
      let (printed, outcome) := writeNotes notes
      (.onLog ⟨note.logger, note.level, message⟩ ++ printed, outcome)

/-- Writes those notes to the log that the settings ask for. -/
def writeLog (settings : Settings) (notes : List Note) : Printed × Except Breakdown Unit :=
  writeNotes (notes.filter (logs settings ·.level))

/-! ## One source text -/

section
variable (console : Console)

/-- The token table of a report, if it is asked for and there are tokens. -/
def printTokens (settings : Settings) (r : Report) : Printed :=
  if settings.showTokens ∧ r.tokens ≠ [] then
    .onOut (console.table tokenColumns (r.tokens.map tokenCells))
  else .nothing

/-- The tree of a report, if it is asked for and there is one. -/
def printTree (settings : Settings) (r : Report) : Except Breakdown Printed :=
  match settings.showTree, r.tree with
  | true, some tree =>
    match tree.render? with
    | some text => .ok (.onOut (console.line text))
    | none => .error .treeTooDeep
  | _, _ => .ok .nothing

/-- The output or the diagnostic of a report. -/
def printOutcome (r : Report) : Printed :=
  match r.diagnostic, r.output with
  | some d, _ => .onErr (console.line d.message)
  | none, some output => .onOut (console.line output)
  | none, none => .nothing

/-- Runs a source text in a session and prints what the settings ask for. `Session.run` logs
nothing, so the notes of the run are written here: all of them, as they come from the stages of the
run and printing begins after it. A tree that cannot be written ends the run there already. -/
def execute (settings : Settings) (s : Session) (source : String) :
    Printed × Except Breakdown Session :=
  match s.run source with
  | .error breakdown => (.nothing, .error (.source breakdown))
  | .ok (report, s) =>
    match writeLog settings (notes report) with
    | (log, .error breakdown) => (log, .error breakdown)
    | (log, .ok ()) =>
      let tokens := printTokens console settings report
      match printTree console settings report with
      | .error breakdown => (log ++ tokens, .error breakdown)
      | .ok tree => (log ++ tokens ++ tree ++ printOutcome console report, .ok s)

/-- Runs a source text on its own. -/
def once (settings : Settings) (source : String) : Result :=
  match execute console settings .fresh source with
  | (printed, .ok s) => ⟨printed, .exit (exitCode s)⟩
  | (printed, .error breakdown) => ⟨printed, .breakdown breakdown⟩

/-! ## Lines of input -/

/-- What comes after the lines of an input: its end, which an interrupt at the prompt stands for
too, or bytes that are not UTF-8. -/
inductive InputEnd
  | ended
  | notUtf8
  deriving DecidableEq, Repr

/-- What comes from standard input (`console.input`). -/
structure UserInput where
  lines : List String
  last : InputEnd
  deriving DecidableEq, Repr

/-- An input that is text. -/
def UserInput.ofText (text : String) : UserInput := ⟨Text.lines text, .ended⟩

def prompt (settings : Settings) : Printed := .onOut (console.prompt settings.prompt)

/-- What the prompt after the last line leads to: a line end, or a failure that is not handled. -/
def afterLines : InputEnd → Result
  | .ended => ⟨.onOut "\n", .exit 0⟩
  | .notUtf8 => ⟨.nothing, .breakdown .inputNotUtf8⟩

/-- Answers one line of input, and forgets its failures. A blank line has no answer. -/
def answer (settings : Settings) (s : Session) (line : String) :
    Printed × Except Breakdown Session :=
  if line.toList.all Text.isBlank then (.nothing, .ok s)
  else
    let (printed, after) := execute console settings s line
    (printed, after.map Session.reset)

/-- Prompts for lines and answers them until there are no more. -/
def interact (settings : Settings) (last : InputEnd) (s : Session) : List String → Result
  | [] => ⟨prompt console settings ++ (afterLines last).printed, (afterLines last).ending⟩
  | line :: lines =>
    match answer console settings s line with
    | (printed, .ok s) =>
      let rest := interact settings last s lines
      ⟨prompt console settings ++ printed ++ rest.printed, rest.ending⟩
    | (printed, .error breakdown) => ⟨prompt console settings ++ printed, .breakdown breakdown⟩

/-! ## The command -/

/-- What the command is called with. The version option is not among it: it is answered before
anything else, with `versionText`. -/
structure Arguments where
  script : Option String
  expression : Option String
  showTokens : Bool
  showTree : Bool
  settings : Option String
  deriving DecidableEq, Repr

/-- Arguments that ask for the value of an expression only. -/
def Arguments.ofExpression (source : String) : Arguments := ⟨none, some source, false, false, none⟩

/-- The paths that arguments name. -/
def Arguments.paths (a : Arguments) : List Path :=
  (a.settings.toList ++ a.script.toList).map Path.ofString

/-- What is to be done once the settings are known. -/
inductive Task
  | finished (result : Result)
  | interactive (settings : Settings)

/-- Ends with a message about wrong usage. -/
def usage (message : String) : Result := ⟨.onErr (console.line message), .exit exitUsage⟩

/-- Runs a script file. -/
def runScript (settings : Settings) (files : Files) (script : Path) : Result :=
  match files script with
  | .error fault =>
    usage console ("Cannot open script " ++ script.toString ++ ": " ++ fault.reason)
  | .ok bytes =>
    match decodeText? bytes with
    | none => ⟨.nothing, .breakdown .notUtf8⟩
    | some source =>
      let result := once console settings source
      ⟨(writeLog settings [.running script]).1 ++ result.printed, result.ending⟩

/-- What arguments ask for under given settings. -/
def task (settings : Settings) (files : Files) (a : Arguments) : Task :=
  let settings :=
    { settings with
      showTokens := settings.showTokens || a.showTokens
      showTree := settings.showTree || a.showTree }
  match a.expression, a.script with
  | some _, some _ => .finished (usage console "Pass either a script or --eval, not both.")
  | some expression, none => .finished (once console settings expression)
  | none, some script => .finished (runScript console settings files (.ofString script))
  | none, none => .interactive settings

/-- Loads the settings and finds the task, with the warnings printed before it. They do not go
through the console. -/
def start (s : Surroundings) (a : Arguments) : Printed × Task :=
  match Settings.load s (a.settings.map Path.ofString) with
  | .ok (settings, warnings) =>
    (⟨"", warnings.map fun warning => .text (warning ++ "\n")⟩, task console settings s.files a)
  | .error failure =>
    match failure.message with
    | some message => (.nothing, .finished (usage console message))
    | none => (.nothing, .finished ⟨.nothing, .breakdown (.settings failure)⟩)

/-- The command with its arguments and input. -/
def run (s : Surroundings) (a : Arguments) (input : UserInput) : Result :=
  let (warnings, task) := start console s a
  let result := match task with
    | .finished result => result
    | .interactive settings => interact console settings input.last .fresh input.lines
  ⟨warnings ++ result.printed, result.ending⟩

end

/-- What the version option prints: the version, and labelled details of where it runs. -/
def versionText (details : List (String × String)) : String :=
  .join (("pylox version " ++ Release.current ++ "\n") ::
    details.map fun (label, value) => "  " ++ label ++ ": " ++ value ++ "\n")

end LoxExpr.Command
