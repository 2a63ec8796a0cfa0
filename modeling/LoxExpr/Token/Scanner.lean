import LoxExpr.Token.Scan

/-!
# Scanning step by step

A scanner keeps a source text with a mark, a cursor and the line of the cursor, and collects
tokens. It moves over one character after the other, and goes on from where a failure left it. The
names and lines in brackets are those of the tokenizer (`pylox.core.expression_lang.tokenizer`).
-/

namespace LoxExpr

/-- `Scanner` (55-68). -/
structure Scanner where
  source : List Char
  /-- Where the lexeme being scanned begins. -/
  start : Nat
  /-- Where the next unread character is. -/
  cursor : Nat
  line : Int
  tokens : Array Token

namespace Scanner

/-- Why a step fails; reading past the source is an index out of range (86, 94). -/
inductive Failure
  | outOfText
  | scan (error : ScanError)
  deriving DecidableEq, Repr

/-- `__init__` (63-68). -/
def ofSource (source : String) : Scanner := ⟨source.toList, 0, 0, 1, #[]⟩

/-- The unread part of the source. -/
def rest (s : Scanner) : List Char := s.source.drop s.cursor

/-- `at_end` (82-83). -/
def atEnd (s : Scanner) : Bool := s.source.length ≤ s.cursor

/-! ## Single characters -/

/-- The next character, which there is unless the scanner is at the end. -/
def next? (s : Scanner) : Option Char := s.source[s.cursor]?

/-- Moves over one character. -/
def skip (s : Scanner) : Scanner := { s with cursor := s.cursor + 1 }

/-- Counts a line if a character ends one (149-150, 160-161). -/
def countLine (s : Scanner) (c : Char) : Scanner :=
  if c = '\n' then { s with line := s.line + 1 } else s

/-- Reads one character (`advance`, 85-88). -/
def advance (s : Scanner) : Except Failure (Char × Scanner) :=
  match s.next? with
  | some c => .ok (c, s.skip)
  | none => .error .outOfText

/-- The character at a distance from the cursor, as a text that is empty past the end (`peek`,
90-95). A place before the beginning counts back from the end of the source. -/
def peek (s : Scanner) (offset : Int) : Except Failure String :=
  let character (place : Int) : Option Char :=
    match place with
    | .ofNat n => s.source[n]?
    | .negSucc _ => none
  let place := (s.cursor : Int) + offset
  if s.source.length ≤ place then .ok ""
  else match character (if place < 0 then place + s.source.length else place) with
    | some c => .ok (.singleton c)
    | none => .error .outOfText

/-- The next character as a text, which is empty at the end (`peek` without an offset). -/
def current (s : Scanner) : String := (s.next?.map String.singleton).getD ""

/-- Moves the cursor on if the current text is the expected one (`match_char`, 97-102). -/
def accept (s : Scanner) (expected : String) : Bool × Scanner :=
  if s.current = expected then (true, s.skip) else (false, s)

/-! ## Lexemes -/

/-- Starts a new lexeme at the cursor (73). -/
def mark (s : Scanner) : Scanner := { s with start := s.cursor }

/-- The text between the mark and the cursor (105). -/
def lexeme (s : Scanner) : String := .ofList ((s.source.take s.cursor).drop s.start)

/-- Adds a token with the current lexeme (`add_token`, 104-106). -/
def addToken (s : Scanner) (kind : Kind) (literal : Literal) : Scanner :=
  { s with tokens := s.tokens.push ⟨kind, s.lexeme, literal, s.line⟩ }

/-- Adds the token for the end of the input (76). -/
def addEnd (s : Scanner) : Scanner :=
  { s with tokens := s.tokens.push ⟨.eof, "", .absent, s.line⟩ }

/-! ## The scanner moves on -/

/-- A scanner of the same text stands at the same place or behind it. -/
structure Precedes (s t : Scanner) : Prop where
  source : t.source = s.source
  le : s.cursor ≤ t.cursor

section
variable {s t u : Scanner} {c : Char}

theorem cursor_lt_of_next? (h : s.next? = some c) : s.cursor < s.source.length :=
  (List.getElem?_eq_some_iff.1 h).1

theorem Precedes.refl (s : Scanner) : s.Precedes s := ⟨rfl, Nat.le_refl _⟩

theorem Precedes.trans (h : s.Precedes t) (h' : t.Precedes u) : s.Precedes u :=
  ⟨h'.source.trans h.source, Nat.le_trans h.le h'.le⟩

theorem precedes_skip (s : Scanner) : s.Precedes s.skip := ⟨rfl, Nat.le_succ _⟩

theorem precedes_countLine (s : Scanner) (c : Char) : s.Precedes (s.countLine c) := by
  unfold countLine
  split <;> exact ⟨rfl, Nat.le_refl _⟩

theorem precedes_accept (s : Scanner) (expected : String) :
    s.Precedes (s.accept expected).2 := by
  unfold accept
  split
  · exact precedes_skip s
  · exact .refl s

theorem precedes_addToken (s : Scanner) (kind : Kind) (literal : Literal) :
    s.Precedes (s.addToken kind literal) := ⟨rfl, Nat.le_refl _⟩

/-- Less is left behind a character, and behind what follows it. -/
theorem Precedes.left_lt (hnext : s.next? = some c) (h : s.skip.Precedes t) :
    t.source.length - t.cursor < s.source.length - s.cursor := by
  have hlt := cursor_lt_of_next? hnext
  have hle : s.cursor + 1 ≤ t.cursor := h.le
  rw [h.source]
  simp only [skip]
  omega

end

/-! ## Runs of characters -/

/-- Moves on as long as the next character is of a class (139-140, 170-171, 176-177, 187-188). -/
def skipWhile (p : Char → Bool) (s : Scanner) : Scanner :=
  match _ : s.next? with
  | some c => if p c then s.skip.skipWhile p else s
  | none => s
termination_by s.source.length - s.cursor
decreasing_by exact (Precedes.refl _).left_lt ‹_›

/-- Moves on to the quote that closes a string, or else to the end (156-161). A backslash takes the
character behind it along. -/
def seekQuote (s : Scanner) : Scanner :=
  match _ : s.next? with
  | none => s
  | some '"' => s
  | some '\\' =>
    match s.skip.next? with
    | some c => (s.skip.skip.countLine c).seekQuote
    | none => s.skip.seekQuote
  | some c => (s.skip.countLine c).seekQuote
termination_by s.source.length - s.cursor
decreasing_by
  · exact ((precedes_skip _).trans (precedes_countLine _ _)).left_lt ‹_›
  · exact (Precedes.refl _).left_lt ‹_›
  · exact (precedes_countLine _ _).left_lt ‹_›

/-- Moves on over the mark that closes a comment, or else to the end, and tells which (144-151).
`starred` says whether the character before is a star. -/
def seekMark (starred : Bool) (s : Scanner) : Bool × Scanner :=
  match _ : s.next? with
  | none => (false, s)
  | some c =>
    if starred && c = '/' then (true, s.skip)
    else (s.skip.countLine c).seekMark (c = '*')
termination_by s.source.length - s.cursor
decreasing_by exact (precedes_countLine _ _).left_lt ‹_›

theorem precedes_skipWhile (p : Char → Bool) (s : Scanner) : s.Precedes (s.skipWhile p) := by
  fun_induction skipWhile p s with
  | case1 s c hnext hp ih => exact (precedes_skip s).trans ih
  | case2 s c hnext hp => exact .refl s
  | case3 s hnext => exact .refl s

theorem precedes_seekQuote (s : Scanner) : s.Precedes s.seekQuote := by
  fun_induction seekQuote s with
  | case1 s => exact .refl s
  | case2 s => exact .refl s
  | case3 s hnext c hescaped ih =>
    exact (precedes_skip s).trans ((precedes_skip _).trans ((precedes_countLine _ c).trans ih))
  | case4 s hnext hend ih => exact (precedes_skip s).trans ih
  | case5 s c hnext hquote hbackslash ih =>
    exact (precedes_skip s).trans ((precedes_countLine _ c).trans ih)

theorem precedes_seekMark (starred : Bool) (s : Scanner) :
    s.Precedes (s.seekMark starred).2 := by
  fun_induction seekMark starred s with
  | case1 starred s hnext => exact .refl s
  | case2 starred s c hnext hclosed => exact precedes_skip s
  | case3 starred s c hnext hclosed ih =>
    exact (precedes_skip s).trans ((precedes_countLine _ c).trans ih)

/-! ## Pieces -/

/-- Scans a string, from behind the quote that opens it (`_string`, 154-167). -/
def string (s : Scanner) : Except Failure Unit × Scanner :=
  let t := s.seekQuote
  if t.atEnd then (.error (.scan ⟨.unterminatedString, s.line⟩), t)
  else
    let contents := .ofList ((t.source.take t.cursor).drop (t.start + 1))
    (.ok (), t.skip.addToken .string (.text contents))

/-- Moves over a comment of any number of lines, from behind the mark that opens it
(`_skip_block_comment`, 142-152). -/
def blockComment (s : Scanner) : Except Failure Unit × Scanner :=
  let (closed, t) := s.seekMark false
  if closed then (.ok (), t) else (.error (.scan ⟨.unterminatedComment, s.line⟩), t)

/-- Scans a comment or a slash, from behind the slash (118-124, `_skip_line_comment`, 138-140). -/
def slash (s : Scanner) : Except Failure Unit × Scanner :=
  let (isLine, s) := s.accept "/"
  if isLine then (.ok (), s.skipWhile (· ≠ '\n'))
  else
    let (isBlock, s) := s.accept "*"
    if isBlock then s.blockComment else (.ok (), s.addToken .slash .absent)

/-- Moves over a point and digits, if a digit follows the point (173-177). -/
def fraction (s : Scanner) : Scanner :=
  if s.next? = some '.' && s.skip.next?.any Char.isDigit then s.skip.skipWhile Char.isDigit
  else s

/-- Scans a number, from behind its first digit (`_number`, 169-184). -/
def number (s : Scanner) : Scanner :=
  let s := (s.skipWhile Char.isDigit).fraction
  s.addToken .number (.number ((Decimal.ofNumeral s.lexeme.toList).toDouble false))

/-- Scans a name or a kept word, from behind its first letter (`_identifier`, 186-195). -/
def word (s : Scanner) : Scanner :=
  let s := s.skipWhile Piece.isWordPart
  let kind := Kind.ofWord s.lexeme
  s.addToken kind (if kind = .identifier then .text s.lexeme else .absent)

/-- Scans an operator that an equals sign may follow, from behind its first character (115-117). -/
def operator (s : Scanner) (kinds : Kind × Kind) : Scanner :=
  let (withEqual, s) := s.accept "="
  s.addToken (if withEqual then kinds.2 else kinds.1) .absent

/-- Scans what a character begins, from behind that character (113-136). -/
def dispatch (s : Scanner) (c : Char) : Except Failure Unit × Scanner :=
  match Piece.single? c with
  | some kind => (.ok (), s.addToken kind .absent)
  | none =>
    match Piece.withEqual? c with
    | some kinds => (.ok (), s.operator kinds)
    | none =>
      if c = '/' then s.slash
      else if c = ' ' || c = '\t' || c = '\r' then (.ok (), s)
      else if c = '\n' then (.ok (), { s with line := s.line + 1 })
      else if c = '"' then s.string
      else if c.isDigit then (.ok (), s.number)
      else if Piece.isWordStart c then (.ok (), s.word)
      else (.error (.scan ⟨.unexpectedCharacter c, s.line⟩), s)

/-- Scans one piece from the cursor (73 and `_scan_token`, 110-136). -/
def scanPiece (s : Scanner) : Except Failure Unit × Scanner :=
  match s.mark.advance with
  | .ok (c, t) => t.dispatch c
  | .error failure => (.error failure, s.mark)

theorem precedes_slash (s : Scanner) : s.Precedes s.slash.2 := by
  have hline := precedes_accept s "/"
  have hblock := precedes_accept (s.accept "/").2 "*"
  simp only [slash]
  split
  · exact hline.trans (precedes_skipWhile _ _)
  · split
    · have hmark := precedes_seekMark false ((s.accept "/").2.accept "*").2
      simp only [blockComment]
      split <;> exact hline.trans (hblock.trans hmark)
    · exact hline.trans (hblock.trans (precedes_addToken _ _ _))

theorem precedes_string (s : Scanner) : s.Precedes s.string.2 := by
  have hquote := precedes_seekQuote s
  simp only [string]
  split
  · exact hquote
  · exact hquote.trans ((precedes_skip _).trans (precedes_addToken _ _ _))

theorem precedes_number (s : Scanner) : s.Precedes s.number := by
  have hdigits := precedes_skipWhile Char.isDigit s
  refine .trans ?_ (precedes_addToken _ _ _)
  unfold fraction
  split
  · exact hdigits.trans ((precedes_skip _).trans (precedes_skipWhile _ _))
  · exact hdigits

theorem precedes_dispatch (s : Scanner) (c : Char) : s.Precedes (s.dispatch c).2 := by
  unfold dispatch
  split
  · exact precedes_addToken _ _ _
  · split
    · exact (precedes_accept _ _).trans (precedes_addToken _ _ _)
    · split
      · exact precedes_slash s
      · split
        · exact .refl s
        · split
          · exact ⟨rfl, Nat.le_refl _⟩
          · split
            · exact precedes_string s
            · split
              · exact precedes_number s
              · split
                · exact (precedes_skipWhile _ _).trans (precedes_addToken _ _ _)
                · exact .refl s

theorem scanPiece_of_next? {s : Scanner} {c : Char} (h : s.next? = some c) :
    s.scanPiece = s.mark.skip.dispatch c := by
  have hadvance : s.mark.advance = .ok (c, s.mark.skip) := by
    simp only [advance, next?, mark] at h ⊢
    rw [h]
  simp only [scanPiece, hadvance]

/-- Scanning a piece uses up at least one character. -/
theorem precedes_scanPiece {s : Scanner} {c : Char} (h : s.next? = some c) :
    s.skip.Precedes s.scanPiece.2 := by
  rw [scanPiece_of_next? h]
  have hprecedes := precedes_dispatch s.mark.skip c
  exact ⟨hprecedes.source, hprecedes.le⟩

theorem left_lt_of_scanPiece {s t : Scanner} {c : Char} {result : Except Failure Unit}
    (hnext : s.next? = some c) (h : s.scanPiece = (result, t)) :
    t.source.length - t.cursor < s.source.length - s.cursor := by
  have hprecedes := precedes_scanPiece hnext
  rw [h] at hprecedes
  exact hprecedes.left_lt hnext

/-! ## Whole texts -/

/-- Scans to the end of the source and adds the token for the end of the input (`scan_tokens`,
70-78). -/
def scanAll (s : Scanner) : Except Failure Unit × Scanner :=
  match _ : s.next? with
  | none => (.ok (), s.addEnd)
  | some _ =>
    match _ : s.scanPiece with
    | (.ok (), t) => t.scanAll
    | (.error failure, t) => (.error failure, t)
termination_by s.source.length - s.cursor
decreasing_by exact left_lt_of_scanPiece ‹_› ‹_›

end Scanner

end LoxExpr
