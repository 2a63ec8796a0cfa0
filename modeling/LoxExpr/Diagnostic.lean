/-!
# Diagnostics

What a failure says to the user: a text, and where it applies if that is known. The names and lines
in brackets are those of the errors (`pylox.core.errors`).
-/

namespace LoxExpr

/-- A place in the source: a line, and there the offending token or the end of the input
(`ErrorContext`, 9-22). -/
structure Location where
  line : Int
  lexeme : Option String
  atEnd : Bool
  deriving DecidableEq, Repr

namespace Location

/-- A place of which only the line is known (`make_lex_error`, 108-110). -/
def ofLine (line : Int) : Location := ⟨line, none, false⟩

/-- The place of a token; at the end of the input it has no lexeme (`make_parse_error`, 113-126). -/
def ofLexeme (line : Int) (lexeme : String) (atEnd : Bool) : Location :=
  ⟨line, if atEnd then none else some lexeme, atEnd⟩

/-- The words that introduce a diagnostic at a place (`ErrorContext.format`, 24-35). -/
def heading (l : Location) : String :=
  let line := "[line " ++ toString l.line ++ "] Error"
  if l.atEnd then line ++ " at end"
  else match l.lexeme with
    | some lexeme => line ++ " at '" ++ lexeme ++ "'"
    | none => line

end Location

/-- A text for the user, with the place it applies to (`LoxError`, 38-44). -/
structure Diagnostic where
  text : String
  location : Option Location
  deriving DecidableEq, Repr

/-- The text under the heading of its place (`LoxError._format_message`, 46-50). -/
def Diagnostic.message (d : Diagnostic) : String :=
  match d.location with
  | some l => l.heading ++ ": " ++ d.text
  | none => d.text

end LoxExpr
