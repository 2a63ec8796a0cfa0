import LoxExpr.Command.Log
import LoxExpr.Number.Layout

/-!
# What the command prints

Texts, tables and prompts go through a console, which a library gives (`rich`). What it makes of
them is not fixed here: `Console` is a parameter of the command, and where a theorem relies on more
than that something is printed, it says what as a hypothesis. Lines are those of the output
(`pylox.cli_ui`), for the prompt those of the command (`pylox.cli`).

| here | there |
| --- | --- |
| `Console.line` | `console.print(Text(text))` (31, 36, 40), where standard output is no terminal |
| `Console.table` | `console.print(table)` (53) of a `Table` |
| `Console.prompt` | the prompt of `console.input(prompt, markup=False)` (158) |
| `tokenColumns`, `tokenCells` | `print_tokens` (43-53) |

The consoles of standard output and standard error are made alike (18-19), so one stands for both.
Both streams take every text.
-/

namespace LoxExpr.Command

/-! ## Printed texts -/

/-- What is written on standard error at one time: a text, or a record of the log. -/
inductive Entry
  | text (text : String)
  | record (record : Record)
  deriving DecidableEq, Repr

/-- What is printed on standard output and on standard error. -/
structure Printed where
  out : String
  err : List Entry
  deriving DecidableEq, Repr

namespace Printed

def nothing : Printed := ⟨"", []⟩

def onOut (text : String) : Printed := ⟨text, []⟩

def onErr (text : String) : Printed := ⟨"", [.text text]⟩

def onLog (record : Record) : Printed := ⟨"", [.record record]⟩

instance : Append Printed := ⟨fun p q => ⟨p.out ++ q.out, p.err ++ q.err⟩⟩

end Printed

/-! ## The console -/

/-- A column of a table: its title, and the side on which its texts stand. -/
structure Column where
  title : String
  onRight : Bool
  deriving DecidableEq, Repr

/-- What a console prints for a text as a line, for a table with the texts of its rows, and for a
prompt. -/
structure Console where
  line : String → String
  table : List Column → List (List String) → String
  prompt : String → String

/-! ## The table of tokens -/

def tokenColumns : List Column :=
  [⟨"Line", true⟩, ⟨"Kind", false⟩, ⟨"Lexeme", false⟩, ⟨"Literal", false⟩]

/-- The text of a literal; a text is quoted, and nothing is written for nothing. -/
def literalText : Literal → String
  | .absent => ""
  | .text value => Text.quoted value
  | .number value => value.shortText

def tokenCells (t : Token) : List String :=
  [toString t.line, t.kind.name, t.lexeme, literalText t.literal]

end LoxExpr.Command
