import LoxExpr.Program.CommandLine
import LoxExpr.Terminal

/-!
# The program

Reads the files and environment variables that the command may ask for, and prints what it gives.
-/

namespace LoxExpr.Program

open Command

/-- The number of an error of the system, which some calls give with the opposite sign. -/
def errorNumber (code : UInt32) : Nat := min code.toNat (0 - code).toNat

/-- The fault with a number of the system. -/
def numberedFault (code : UInt32) (reason : String) : FileFault :=
  let number := errorNumber code
  ([.missing, .notDirectory, .isDirectory, .nameTooLong].find? (·.code = number)).getD
    (.other number reason)

/-- The fault of reading behind an error of the system. -/
def fileFault : IO.Error → FileFault
  | .noFileOrDirectory .. => .missing
  | .inappropriateType _ code reason => numberedFault code reason
  | .invalidArgument _ code reason => numberedFault code reason
  | .permissionDenied _ code _ => numberedFault code "Permission denied"
  | .otherError code reason => numberedFault code reason
  | e => .other 5 (toString e)

/-- The contents of a path. -/
def readPath (path : Path) : IO (Except FileFault ByteArray) := do
  match ← (IO.FS.readBinFile path.toString).toBaseIO with
  | .ok bytes => return .ok bytes
  | .error e => return .error (fileFault e)

/-- What a look for a file gives, judged by an attempt to read it. What is there without being
readable has been found. -/
def lookFault (contents : Except FileFault ByteArray) : Option FileFault :=
  match contents with
  | .error fault => if fault.isAbsence || fault = .nameTooLong then some fault else none
  | .ok _ => none

/-- The surroundings as far as the arguments can ask for them. -/
def surroundings (a : Arguments) : IO Surroundings := do
  let paths := Path.ofName Settings.fileName :: a.paths
  let contents ← paths.mapM fun path => do return (path, ← readPath path)
  let names := [Settings.promptVariable, Settings.logLevelVariable, Settings.showTokensVariable,
    Settings.showTreeVariable]
  let environment ← names.filterMapM fun name => do return (← IO.getEnv name).map (name, ·)
  let files : Files := fun path => (contents.lookup path).getD (.error .missing)
  return { files
           look := fun path => lookFault (files path)
           workingDirectory := (← IO.currentDir).toString
           environment }

/-- The bytes that are left of a stream. -/
def readAll (stream : IO.FS.Stream) : IO ByteArray := do
  let mut bytes := ByteArray.empty
  repeat
    let more ← stream.read 8192
    if more.isEmpty then break
    bytes := bytes ++ more
  return bytes

/-- All of standard input, if the arguments leave a use for it. -/
def userInput (a : Arguments) : IO UserInput := do
  if a.expression.isSome || a.script.isSome then return ⟨[], .ended⟩
  let bytes ← readAll (← IO.getStdin)
  match String.fromUTF8? bytes with
  | some text => return .ofText text
  | none => return ⟨[], .notUtf8⟩

def printEntry : Entry → IO Unit
  | .text text => IO.eprint text
  | .record record => IO.eprintln record.text

/-- Prints on both output streams. -/
def print (p : Printed) : IO Unit := do
  IO.print p.out
  (← IO.getStdout).flush
  p.err.forM printEntry

/-- The exit code of a program that ends without handling a failure. -/
def finish : Ending → IO UInt32
  | .exit code => return code.toUInt32
  | .breakdown _ => do
    IO.eprintln "The command broke down."
    return 1

/-- Runs the command with arguments. Its input is read before it answers the first line. -/
def run (arguments : List String) : IO UInt32 := do
  match request? arguments with
  | none =>
    IO.eprintln "Usage: pylox [-e EXPR] [--tokens] [--ast] [--settings FILE] [-V] [SCRIPT]"
    return exitUnread.toUInt32
  | some .version =>
    IO.print (versionText [("Runtime", "Lean 4")])
    return 0
  | some (.command a) =>
    let result := Command.run Terminal.console (← surroundings a) a (← userInput a)
    print result.printed
    finish result.ending

end LoxExpr.Program

def main (arguments : List String) : IO UInt32 := LoxExpr.Program.run arguments
