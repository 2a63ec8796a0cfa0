import LoxExpr.Diagnostic
import LoxExpr.Number.Decimal
import LoxExpr.Token

/-!
# Scanning

A source text is cut into pieces from its front: gaps (blanks, newlines, comments), tokens, and
at most one faulty piece, which is the last. The tokens of a text are those pieces with the lines
they end on, followed by one token for the end of the input.

The names and lines in brackets are those of the tokenizer (`pylox.core.expression_lang.tokenizer`).
It moves over the source by an index, as `LoxExpr.Scanner` does; `scan_eq_scanAll` says that this
comes to the same. The branch for a number that cannot be read (182-183) is left out: digits, with
a point among them or without, always can. So is the debug call (77), which is among the notes of a
run (`Command.notes`).

Main statement `pieces_flatten`: as long as no piece is faulty, the pieces put together are the
text, so nothing is lost and nothing is read twice.
-/

namespace LoxExpr

/-! ## Faults -/

/-- Why a text cannot be cut any further (136, 164, 152). -/
inductive ScanFault
  | unexpectedCharacter (c : Char)
  | unterminatedString
  | unterminatedComment
  deriving DecidableEq, Repr

/-- A code point in upper-case hexadecimal, with four digits or more (136). -/
def ScanFault.codePoint (c : Char) : String :=
  "U+" ++ .ofList ((Text.hexPadded 4 c.toNat).map Char.toUpper)

def ScanFault.message : ScanFault → String
  | .unexpectedCharacter c =>
    "Unexpected character " ++ Text.quoted (.singleton c) ++ " (" ++ codePoint c ++ ")."
  | .unterminatedString => "Unterminated string."
  | .unterminatedComment => "Unterminated block comment."

/-- A fault, and the line where the faulty piece begins (`self.line` at 136, else `opened_on`). -/
structure ScanError where
  fault : ScanFault
  line : Int
  deriving DecidableEq, Repr

/-- `make_lex_error`: a line, and no lexeme. -/
def ScanError.diagnostic (e : ScanError) : Diagnostic := ⟨e.fault.message, some (.ofLine e.line)⟩

/-! ## Pieces -/

/-- What a piece of source text is. -/
inductive Content
  | gap
  | token (kind : Kind) (literal : Literal)
  | fault (fault : ScanFault)
  deriving DecidableEq

/-- A run of characters at the front of a text, and what it is. -/
structure Piece where
  text : List Char
  content : Content
  deriving DecidableEq

namespace Piece

def isFault (p : Piece) : Bool :=
  match p.content with
  | .fault _ => true
  | _ => false

/-- How many lines a piece ends (128, 150, 161). -/
def newlines (p : Piece) : Nat := p.text.count '\n'

/-! ### Character classes

`Char.isDigit` is `_is_digit` (43-44). -/

/-- The characters that are a token by themselves, whatever follows (`_SINGLE_CHAR`, 17-30). -/
def single? : Char → Option Kind
  | '(' => some .leftParen
  | ')' => some .rightParen
  | '\x7b' => some .leftBrace
  | '\x7d' => some .rightBrace
  | ',' => some .comma
  | '.' => some .dot
  | '-' => some .minus
  | '+' => some .plus
  | ';' => some .semicolon
  | '*' => some .star
  | '?' => some .question
  | ':' => some .colon
  | _ => none

/-- The characters that an equals sign may follow: the kind alone, and the kind with the sign
(`_WITH_EQUAL`, 32-38). -/
def withEqual? : Char → Option (Kind × Kind)
  | '!' => some (.bang, .bangEqual)
  | '=' => some (.equal, .equalEqual)
  | '<' => some (.less, .lessEqual)
  | '>' => some (.greater, .greaterEqual)
  | _ => none

/-- The characters that are passed over (125, 127). -/
def isGap (c : Char) : Bool := c = ' ' || c = '\t' || c = '\r' || c = '\n'

/-- `_is_alpha` (47-48). -/
def isWordStart (c : Char) : Bool := c.isAlpha || c = '_'

/-- `_is_alnum` (51-52). -/
def isWordPart (c : Char) : Bool := isWordStart c || c.isDigit

/-! ### The shapes of pieces -/

/-- The place of the first quote that no backslash escapes; a backslash escapes the character
after it, and itself (the loop of `_string`, 156-161). -/
def closingQuote? (place : Nat) : List Char → Option Nat
  | [] => none
  | '"' :: _ => some place
  | '\\' :: _ :: rest => closingQuote? (place + 2) rest
  | _ :: rest => closingQuote? (place + 1) rest

/-- The place of the first `*/` (the loop of `_skip_block_comment`, 144-151). -/
def closingMark? (place : Nat) : List Char → Option Nat
  | [] => none
  | '*' :: '/' :: _ => some place
  | _ :: rest => closingMark? (place + 1) rest

/-- A string, given the text after its opening quote (`_string`, 154-167). -/
def string (rest : List Char) : Piece :=
  match closingQuote? 0 rest with
  | some place =>
    ⟨'"' :: rest.take (place + 1), .token .string (.text (.ofList (rest.take place)))⟩
  | none => ⟨'"' :: rest, .fault .unterminatedString⟩

/-- A comment or a slash, given the text after the slash (118-124, with `_skip_line_comment`,
138-140, and `_skip_block_comment`, 142-152). -/
def slash : List Char → Piece
  | '/' :: rest => ⟨'/' :: '/' :: rest.takeWhile (· ≠ '\n'), .gap⟩
  | '*' :: rest =>
    match closingMark? 0 rest with
    | some place => ⟨'/' :: '*' :: rest.take (place + 2), .gap⟩
    | none => ⟨'/' :: '*' :: rest, .fault .unterminatedComment⟩
  | _ => ⟨['/'], .token .slash .absent⟩

/-- The rest of a number after its leading digits: a point that digits follow, and those
(173-177). -/
def fraction : List Char → List Char
  | '.' :: c :: rest => if c.isDigit then '.' :: c :: rest.takeWhile Char.isDigit else []
  | _ => []

/-- A number, given the text from its first digit on (`_number`, 169-184). -/
def number (text : List Char) : Piece :=
  let lexeme := text.takeWhile Char.isDigit ++ fraction (text.dropWhile Char.isDigit)
  ⟨lexeme, .token .number (.number ((Decimal.ofNumeral lexeme).toDouble false))⟩

/-- A name or a kept word, given the text from its first letter on (`_identifier`, 186-195). -/
def word (text : List Char) : Piece :=
  let lexeme := .ofList (text.takeWhile isWordPart)
  let kind := Kind.ofWord lexeme
  ⟨text.takeWhile isWordPart,
    .token kind (if kind = .identifier then .text lexeme else .absent)⟩

/-- An operator that an equals sign may follow, given its kinds and the text after it (115-117). -/
def operator (c : Char) (kinds : Kind × Kind) : List Char → Piece
  | '=' :: _ => ⟨[c, '='], .token kinds.2 .absent⟩
  | _ => ⟨[c], .token kinds.1 .absent⟩

/-- The piece at the front of the text `c :: rest` (`_scan_token`, 110-136). -/
def front (c : Char) (rest : List Char) : Piece :=
  match single? c with
  | some kind => ⟨[c], .token kind .absent⟩
  | none =>
    match withEqual? c with
    | some kinds => operator c kinds rest
    | none =>
      if c = '/' then slash rest
      else if isGap c then ⟨[c], .gap⟩
      else if c = '"' then string rest
      else if c.isDigit then number (c :: rest)
      else if isWordStart c then word (c :: rest)
      else ⟨[c], .fault (.unexpectedCharacter c)⟩

end Piece

/-- The pieces of a text, up to and including the first faulty one (the loop of `scan_tokens`,
72-74). -/
def pieces : List Char → List Piece
  | [] => []
  | c :: rest =>
    let piece := Piece.front c rest
    if piece.isFault then [piece] else piece :: pieces (rest.drop (piece.text.length - 1))
termination_by text => text.length
decreasing_by simp only [List.length_drop, List.length_cons]; omega

/-! ### Nothing is lost -/

theorem Piece.operator_text_isPrefix (c : Char) (kinds : Kind × Kind) (rest : List Char) :
    (operator c kinds rest).text <+: c :: rest := by
  unfold operator
  split <;> simp

theorem Piece.slash_text_isPrefix (rest : List Char) : (slash rest).text <+: '/' :: rest := by
  unfold slash
  split
  · simpa using List.takeWhile_prefix _
  · split
    · simpa using List.take_prefix _ _
    · simp
  · simp

theorem Piece.string_text_isPrefix (rest : List Char) : (string rest).text <+: '"' :: rest := by
  unfold string
  split
  · simpa using List.take_prefix _ _
  · simp

theorem Piece.fraction_isPrefix (text : List Char) : fraction text <+: text := by
  unfold fraction
  split
  · split
    · simpa using List.takeWhile_prefix _
    · exact List.nil_prefix
  · exact List.nil_prefix

theorem Piece.number_text_isPrefix (text : List Char) : (number text).text <+: text := by
  conv => rhs; rw [← List.takeWhile_append_dropWhile (p := Char.isDigit) (l := text)]
  exact (List.prefix_append_right_inj _).2 (fraction_isPrefix _)

/-- A piece is the front of the text it is cut from. -/
theorem Piece.front_text_isPrefix (c : Char) (rest : List Char) :
    (front c rest).text <+: c :: rest := by
  unfold front
  split
  · simp
  · split
    · exact operator_text_isPrefix ..
    · split
      · subst c; exact slash_text_isPrefix _
      · split
        · simp
        · split
          · subst c; exact string_text_isPrefix _
          · split
            · exact number_text_isPrefix _
            · split
              · exact List.takeWhile_prefix _
              · simp

/-- A piece takes at least one character. -/
theorem Piece.front_text_ne_nil (c : Char) (rest : List Char) : (front c rest).text ≠ [] := by
  unfold front
  split
  · simp
  · split
    · unfold operator; split <;> simp
    · split
      · unfold slash; split
        · simp
        · split <;> simp
        · simp
      · split
        · simp
        · split
          · unfold string; split <;> simp
          · split
            · simp_all [number]
            · split
              · simp_all [word, isWordPart]
              · simp

/-- As long as no piece is faulty, the pieces put together are the text. -/
theorem pieces_flatten (text : List Char) (h : ∀ p ∈ pieces text, p.isFault = false) :
    ((pieces text).map Piece.text).flatten = text := by
  fun_induction pieces text with
  | case1 => rfl
  | case2 c rest piece hf => simp_all
  | case3 c rest piece hf ih =>
    have hp := Piece.front_text_isPrefix c rest
    have hn := Piece.front_text_ne_nil c rest
    rw [List.map_cons, List.flatten_cons, ih fun p hp => h p (List.mem_cons_of_mem _ hp)]
    obtain ⟨t, ht⟩ := hp
    cases hx : (Piece.front c rest).text with
    | nil => exact absurd hx hn
    | cons d text =>
      simp only [hx, List.cons_append, List.cons.injEq] at ht
      obtain ⟨rfl, rfl⟩ := ht
      simp

/-! ## Tokens -/

/-- The tokens among pieces of which the first begins on the given line. A token has the line after
its piece, as `add_token` (104-106) comes when the piece has been read. -/
def tokensOf (line : Int) : List Piece → Except ScanError (List Token)
  | [] => .ok [⟨.eof, "", .absent, line⟩]
  | piece :: rest =>
    let after := line + piece.newlines
    match piece.content with
    | .gap => tokensOf after rest
    | .token kind literal => do
      let tokens ← tokensOf after rest
      .ok (⟨kind, .ofList piece.text, literal, after⟩ :: tokens)
    | .fault fault => .error ⟨fault, line⟩

/-- The tokens of a source text, ending with one for the end of the input (`scan`, 198-210). -/
def scan (source : String) : Except ScanError (List Token) := tokensOf 1 (pieces source.toList)

end LoxExpr
