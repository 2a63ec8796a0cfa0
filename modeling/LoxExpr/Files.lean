import LoxExpr.Text.Newlines

/-!
# Files

Paths, and what a program finds where it follows one. Paths are those of the standard library
(`pathlib`), and so are looking (`exists`) and reading (`read_text`).
-/

namespace LoxExpr

/-! ## Paths -/

/-- A path as its root, which is empty for a path from the working directory, and its names. -/
structure Path where
  root : String
  names : List String
  deriving DecidableEq, Repr

namespace Path

/-- A path in normal form, as `Path` makes it of a text: empty names and single dots are left out.
Exactly two slashes in front are a root of their own. -/
def ofString (s : String) : Path :=
  let slashes := s.toList.takeWhile (· = '/')
  { root := if slashes.length = 2 then "//" else if slashes.isEmpty then "" else "/"
    names := (s.splitOn "/").filter fun name => name ≠ "" ∧ name ≠ "." }

def toString (p : Path) : String :=
  if p.root = "" ∧ p.names = [] then "." else p.root ++ "/".intercalate p.names

instance : ToString Path := ⟨toString⟩

/-- A path from the working directory. -/
def ofName (name : String) : Path := ⟨"", [name]⟩

/-- Whether a path holds the character with code zero. -/
def hasNul (p : Path) : Bool := p.names.any (·.toList.any (·.toNat = 0))

end Path

/-! ## Looking and reading -/

/-- Why a file cannot be read or looked for, as the system says it. -/
inductive FileFault
  | missing
  | notDirectory
  | isDirectory
  | nameTooLong
  | other (code : Nat) (reason : String)
  deriving DecidableEq, Repr

namespace FileFault

def code : FileFault → Nat
  | .missing => 2
  | .notDirectory => 20
  | .isDirectory => 21
  | .nameTooLong => 36
  | .other code _ => code

def reason : FileFault → String
  | .missing => "No such file or directory"
  | .notDirectory => "Not a directory"
  | .isDirectory => "Is a directory"
  | .nameTooLong => "File name too long"
  | .other _ reason => reason

/-- Whether a look for a file that ends in this fault finds that there is none: there is no such
name, a name on the way is not a directory, or links lead round in a circle. A bad descriptor counts
too. -/
def isAbsence (fault : FileFault) : Bool := [2, 9, 20, 40].contains fault.code

end FileFault

/-- What reading the file at a path gives (`read_bytes`). -/
abbrev Files := Path → Except FileFault ByteArray

/-- The text in bytes that are UTF-8, with every line end written as one newline (`read_text`). -/
def decodeText? (bytes : ByteArray) : Option String :=
  (String.fromUTF8? bytes).map fun s => .ofList (Text.normalNewlines s.toList)

end LoxExpr
