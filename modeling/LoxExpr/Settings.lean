import LoxExpr.Files
import LoxExpr.Text.Blank
import LoxExpr.Text.Uppercase
import LoxExpr.Toml.Document

/-!
# Settings

The prompt, the log level and two switches. Each has a default, which the settings file replaces,
and an environment variable replaces both.

The names and lines in brackets are those of the settings (`pylox.core.settings`). The debug call
(138) is left out: it comes before the log is set up.
-/

namespace LoxExpr

/-- Where a program runs: the files it can read, the faults that it meets where it only looks for
something, the name of its working directory, and its environment variables. -/
structure Surroundings where
  files : Files
  look : Path → Option FileFault
  workingDirectory : String
  environment : List (String × String)

/-- `LoxSettings` (60-67). -/
structure Settings where
  prompt : String
  logLevel : String
  showTokens : Bool
  showTree : Bool
  deriving DecidableEq, Repr

/-- Why settings cannot be loaded. The first three have a message for the user (`SettingsError`,
128, 148); the others are failures of what `load_settings` calls, which it does not handle. -/
inductive SettingsFailure
  | unreadable (path : String) (fault : FileFault)
  | malformed (path : String)
  /-- A switch that is neither a boolean nor a string. -/
  | notSwitch (key path : String)
  | notUtf8
  /-- A fault of looking for the file with the usual name that leaves open whether there is one. -/
  | unseen (fault : FileFault)
  /-- A section that is not a table. -/
  | notTable
  /-- A whole number with too many digits to be read. -/
  | longInteger (digits : Nat)
  /-- A value that nests too deeply to be read. -/
  | tooDeep
  /-- A prompt or a level that cannot be written as text. -/
  | unwritable (fault : Toml.WriteFault)
  /-- A path that holds the character with code zero, which no name can have. -/
  | nulInPath
  deriving DecidableEq, Repr

/-- The message for the user, if there is one. What the TOML reader says about a malformed document
is not modelled; `<toml>` stands for it. -/
def SettingsFailure.message : SettingsFailure → Option String
  | .unreadable path fault =>
    some ("Could not read settings file " ++ path ++ ": [Errno " ++ toString fault.code ++ "] " ++
      fault.reason ++ ": " ++ Text.quoted path)
  | .malformed path => some ("Could not read settings file " ++ path ++ ": <toml>")
  | .notSwitch key path =>
    some ("Invalid value for debug." ++ key ++ " in " ++ path ++ ": expected true or false")
  | _ => none

namespace Settings

/-! ## Names and defaults (43-50, 64-67) -/

def fileName : String := "pylox.toml"
def promptVariable : String := "PYLOX_PROMPT"
def logLevelVariable : String := "PYLOX_LOG_LEVEL"
def showTokensVariable : String := "PYLOX_SHOW_TOKENS"
def showTreeVariable : String := "PYLOX_SHOW_AST"

/-- The log level that stands for one that is not known. -/
def defaultLevel : String := "WARNING"

def defaults : Settings := ⟨"> ", defaultLevel, false, false⟩

/-! ## Log levels -/

/-- The known log levels, as the logging library has them (`logging.getLevelName`). -/
def levels : List (String × Nat) :=
  [("CRITICAL", 50), ("FATAL", 50), ("ERROR", 40), ("WARNING", 30), ("WARN", 30), ("INFO", 20),
   ("DEBUG", 10), ("NOTSET", 0)]

/-- The number of a log level in any case; an unknown one counts as a warning (`log_level_number`,
69-75). -/
def levelNumber (level : String) : Nat := (levels.lookup (Text.upper level)).getD 30

/-- The message about a log level that is not known (118). -/
def unknownLevelMessage (level : String) : String :=
  "Unknown log level " ++ Text.quoted level ++ ", using " ++ defaultLevel

/-! ## Switches -/

/-- Whether a text turns a switch on (`_flag`, 78-79, with `_TRUTHY`, 51). Upper case and blanks
around it do not matter. No character beyond ASCII has its lower case among the letters of these
words. -/
def isOn (text : String) : Bool :=
  ["1", "true", "yes", "on"].contains (.ofList ((Text.strip text.toList).map Char.toLower))

/-- A switch of the settings file (`_file_flag`, 141-148). -/
def switch (entries : Toml.Table) (key path : String) (default : Bool) :
    Except SettingsFailure Bool :=
  match entries.lookup key with
  | none => .ok default
  | some (.boolean value) => .ok value
  | some (.string value) => .ok (isOn value)
  | some _ => .error (.notSwitch key path)

/-! ## The settings file -/

/-- A section of a document, which is empty if it is missing (130-132). What is no table has no
`get` (134-137). -/
def tableAt (document : Toml.Table) (key : String) : Except SettingsFailure Toml.Table :=
  match document.lookup key with
  | none => .ok []
  | some (.table entries) => .ok entries
  | some _ => .error .notTable

/-- The document in a file (125-128). -/
def readDocument (files : Files) (path : Path) (shown : String) :
    Except SettingsFailure Toml.Table :=
  if path.hasNul then .error .nulInPath
  else match files path with
  | .error fault => .error (.unreadable shown fault)
  | .ok bytes =>
    match decodeText? bytes with
    | none => .error .notUtf8
    | some text =>
      match Toml.document text.toList with
      | .ok document => .ok document
      | .error .malformed => .error (.malformed shown)
      | .error (.longInteger digits) => .error (.longInteger digits)
      | .error .tooDeep => .error .tooDeep

/-- The text of an entry, whatever its type is (`str`, 134-135). -/
def textAt (entries : Toml.Table) (key : String) (default : String) :
    Except SettingsFailure String :=
  match entries.lookup key with
  | none => .ok default
  | some value => value.text.mapError .unwritable

/-- The settings in a document (130-137), in the order in which they are read. -/
def ofDocument (document : Toml.Table) (path : String) : Except SettingsFailure Settings := do
  let repl ← tableAt document "repl"
  let prompt ← textAt repl "prompt" defaults.prompt
  let logging ← tableAt document "logging"
  let logLevel ← textAt logging "level" defaults.logLevel
  let debug ← tableAt document "debug"
  let showTokens ← switch debug "tokens" path defaults.showTokens
  let showTree ← switch debug "ast" path defaults.showTree
  return ⟨prompt, Text.upper logLevel, showTokens, showTree⟩

/-- The settings in the given file, or in the file with the usual name if there is one (99-106,
`_apply_file`, 124-138). -/
def ofFile (s : Surroundings) (path : Option Path) : Except SettingsFailure Settings :=
  match path with
  | some path => do ofDocument (← readDocument s.files path path.toString) path.toString
  | none =>
    let usual := Path.ofName fileName
    let shown := s.workingDirectory ++ "/" ++ fileName
    match s.look usual with
    | some fault => if fault.isAbsence then .ok defaults else .error (.unseen fault)
    | none => do ofDocument (← readDocument s.files usual shown) shown

/-! ## Loading -/

/-- The settings with those replaced that have an environment variable (108-115). -/
def override (settings : Settings) (environment : List (String × String)) : Settings :=
  { prompt := (environment.lookup promptVariable).getD settings.prompt
    logLevel := ((environment.lookup logLevelVariable).map Text.upper).getD settings.logLevel
    showTokens := ((environment.lookup showTokensVariable).map isOn).getD settings.showTokens
    showTree := ((environment.lookup showTreeVariable).map isOn).getD settings.showTree }

/-- The settings with a known log level, and a warning if there had to be another (117-119). -/
def withKnownLevel (settings : Settings) : Settings × List String :=
  if (levels.lookup settings.logLevel).isSome then (settings, [])
  else ({ settings with logLevel := defaultLevel }, [unknownLevelMessage settings.logLevel])

/-- Loads settings, with the warnings that this gives (`load_settings`, 82-121). -/
def load (s : Surroundings) (path : Option Path) :
    Except SettingsFailure (Settings × List String) := do
  let settings ← ofFile s path
  return (settings.override s.environment).withKnownLevel

end Settings

end LoxExpr
