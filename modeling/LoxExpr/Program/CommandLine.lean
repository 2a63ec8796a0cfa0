import LoxExpr.Command.Run

/-!
# The command line

Options and a script may come in any order. An option that takes a value takes the rest of its
argument or else the next one, whatever that looks like; two dashes end the options. The command
line itself declares the options only (`run_command`, 60-95); reading them is a library's (`typer`).
-/

namespace LoxExpr.Program

open Command (Arguments)

/-- The exit code after a command line that cannot be read. -/
def exitUnread : Nat := 2

/-- What the options of a command line ask for so far. -/
structure Options where
  expression : Option String
  showTokens : Bool
  showTree : Bool
  settings : Option String
  version : Bool
  deriving DecidableEq, Repr

/-- No options. -/
def Options.none : Options := ⟨.none, false, false, .none, false⟩

/-- What an option does. -/
inductive Choice
  | flag (set : Options → Options)
  | valued (set : String → Options → Options)

namespace Options

def setExpression (value : String) (o : Options) : Options := { o with expression := value }
def setSettings (value : String) (o : Options) : Options := { o with settings := value }
def setShowTokens (o : Options) : Options := { o with showTokens := true }
def setShowTree (o : Options) : Options := { o with showTree := true }
def setVersion (o : Options) : Options := { o with version := true }

/-- The options with long names. -/
def long? : String → Option Choice
  | "--eval" => some (.valued setExpression)
  | "--settings" => some (.valued setSettings)
  | "--tokens" => some (.flag setShowTokens)
  | "--ast" => some (.flag setShowTree)
  | "--version" => some (.flag setVersion)
  | _ => .none

/-- The options with short names, which can be joined in one argument. -/
def short? : Char → Option Choice
  | 'e' => some (.valued setExpression)
  | 'V' => some (.flag setVersion)
  | _ => .none

/-- One argument of a long option, and the arguments after it. -/
def takeLong (argument : List Char) (rest : List String) (o : Options) :
    Option (Options × List String) :=
  let name := argument.takeWhile (· ≠ '=')
  let attached := argument.drop name.length
  match long? (.ofList name), attached, rest with
  | some (.flag set), [], rest => some (set o, rest)
  | some (.valued set), _ :: value, rest => some (set (.ofList value) o, rest)
  | some (.valued set), [], value :: rest => some (set value o, rest)
  | _, _, _ => .none

/-- The short options of one argument, and the arguments after it. -/
def takeShort : List Char → List String → Options → Option (Options × List String)
  | [], rest, o => some (o, rest)
  | c :: cs, rest, o =>
    match short? c, cs, rest with
    | some (.flag set), cs, rest => takeShort cs rest (set o)
    | some (.valued set), c :: cs, rest => some (set (.ofList (c :: cs)) o, rest)
    | some (.valued set), [], value :: rest => some (set value o, rest)
    | _, _, _ => .none

/-- The options among arguments, and the other arguments. Each step spends one unit of fuel. -/
def split : (fuel : Nat) → List String → Options → Option (Options × List String)
  | 0, _, _ => .none
  | _ + 1, [], o => some (o, [])
  | fuel + 1, argument :: rest, o =>
    match argument.toList with
    | ['-', '-'] => some (o, rest)
    | '-' :: '-' :: name => do
      let (o, rest) ← takeLong ('-' :: '-' :: name) rest o
      split fuel rest o
    | '-' :: c :: cs => do
      let (o, rest) ← takeShort (c :: cs) rest o
      split fuel rest o
    | _ => do
      let (o, others) ← split fuel rest o
      some (o, argument :: others)

end Options

/-- What a command line asks for. -/
inductive Request
  | version
  | command (a : Arguments)
  deriving DecidableEq, Repr

/-- Reads a command line: one script at most, and paths that a file can have. Where the version is
asked for, neither matters. -/
def request? (arguments : List String) : Option Request := do
  let (o, scripts) ← Options.split (arguments.length + 1) arguments .none
  let a : Arguments := ⟨scripts.head?, o.expression, o.showTokens, o.showTree, o.settings⟩
  if o.version then some .version
  else if scripts.length ≤ 1 ∧ ¬a.paths.any Path.hasNul then some (.command a)
  else none

end LoxExpr.Program
