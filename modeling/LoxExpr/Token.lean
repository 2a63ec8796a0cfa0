import LoxExpr.Number.Double
import LoxExpr.Text.Quoted

/-!
# Tokens

The kinds of token, the words that are kept for the language, and the token itself. The names and
lines in brackets are those of the token types (`pylox.core.ir.tokens`).
-/

namespace LoxExpr

/-- What a token is (`TokenKind`, 14-66). -/
inductive Kind
  | leftParen | rightParen | leftBrace | rightBrace | comma | dot | minus | plus | semicolon
  | slash | star | question | colon
  | bang | bangEqual | equal | equalEqual | greater | greaterEqual | less | lessEqual
  | identifier | string | number
  | andWord | classWord | elseWord | falseWord | funcWord | forWord | ifWord | nilWord | orWord
  | printWord | returnWord | superWord | thisWord | trueWord | varWord | whileWord
  | eof
  deriving DecidableEq, Repr

namespace Kind

/-- The kinds of the words that no name may have, with their spelling (`KEYWORDS`, 86-103). -/
def words : List (String × Kind) :=
  [("and", .andWord), ("class", .classWord), ("else", .elseWord), ("false", .falseWord),
   ("func", .funcWord), ("for", .forWord), ("if", .ifWord), ("nil", .nilWord), ("or", .orWord),
   ("print", .printWord), ("return", .returnWord), ("super", .superWord), ("this", .thisWord),
   ("true", .trueWord), ("var", .varWord), ("while", .whileWord)]

/-- All kinds but those of words, with the names that token tables show: those of the members in
small letters (18-66). -/
def symbols : List (String × Kind) :=
  [("left_paren", .leftParen), ("right_paren", .rightParen), ("left_brace", .leftBrace),
   ("right_brace", .rightBrace), ("comma", .comma), ("dot", .dot), ("minus", .minus),
   ("plus", .plus), ("semicolon", .semicolon), ("slash", .slash), ("star", .star),
   ("question", .question), ("colon", .colon), ("bang", .bang), ("bang_equal", .bangEqual),
   ("equal", .equal), ("equal_equal", .equalEqual), ("greater", .greater),
   ("greater_equal", .greaterEqual), ("less", .less), ("less_equal", .lessEqual),
   ("identifier", .identifier), ("string", .string), ("number", .number), ("eof", .eof)]

/-- The name of a kind; a kept word is its own name. -/
def name (kind : Kind) : String :=
  (((symbols ++ words).find? (·.2 = kind)).map (·.1)).getD ""

/-- The kind with a name. -/
def ofName? (name : String) : Option Kind := (symbols ++ words).lookup name

/-- The kind of a word: that of a kept word, or a name (`KEYWORDS.get` in `Scanner._identifier`). -/
def ofWord (word : String) : Kind := (words.lookup word).getD .identifier

theorem ofName?_name (kind : Kind) : ofName? kind.name = some kind := by
  cases kind <;> decide

end Kind

/-- What a token carries beside its text: the contents of a string, the spelling of a name, or
the value of a number (`Token.literal`, 73-74). -/
inductive Literal
  | absent
  | text (value : String)
  | number (value : Double)
  deriving DecidableEq

/-- A piece of source text that means something, and the line it ends on (`Token`, 69-80). -/
structure Token where
  kind : Kind
  lexeme : String
  literal : Literal
  line : Int
  deriving DecidableEq

namespace Token

/-- A one-line description of a token (`Token.__repr__`, 82-83). -/
def summary (t : Token) : String :=
  "Token(" ++ t.kind.name ++ ", " ++ Text.quoted t.lexeme ++ ", line=" ++ toString t.line ++ ")"

def isEof (t : Token) : Bool := t.kind = .eof

end Token

end LoxExpr
