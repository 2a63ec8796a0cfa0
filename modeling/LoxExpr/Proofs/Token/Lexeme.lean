import LoxExpr.Proofs.Number.Plain
import LoxExpr.Token.Scan

/-!
# Lexemes

What a token can be spelled like, said without a scanner: signs, words, numbers and strings. The
first character of a lexeme tells which of them it is (`Lexical.of_digit` and the lemmas after it),
so only lexemes of one class compete for the front of a text.
-/

namespace LoxExpr

/-! ## Classes of texts -/

/-- The signs of the language and their kinds. -/
def Kind.signs : List (String × Kind) :=
  [("(", .leftParen), (")", .rightParen), ("\x7b", .leftBrace), ("\x7d", .rightBrace),
   (",", .comma), (".", .dot), ("-", .minus), ("+", .plus), (";", .semicolon), ("/", .slash),
   ("*", .star), ("?", .question), (":", .colon), ("!", .bang), ("!=", .bangEqual),
   ("=", .equal), ("==", .equalEqual), (">", .greater), (">=", .greaterEqual), ("<", .less),
   ("<=", .lessEqual)]

/-- A letter or an underscore, and then letters, underscores and digits. -/
def IsWord : List Char → Prop
  | [] => False
  | c :: rest => (c.isAlpha ∨ c = '_') ∧ ∀ d ∈ rest, d.isAlpha ∨ d = '_' ∨ d.isDigit

/-- The text between the quotes of a string: no quote in it is without a backslash, and no
backslash is without a character that it escapes. -/
inductive IsContents : List Char → Prop
  | nil : IsContents []
  | plain {c : Char} {rest : List Char} (hquote : c ≠ '"') (hbackslash : c ≠ '\\')
      (h : IsContents rest) : IsContents (c :: rest)
  | escaped {c : Char} {rest : List Char} (h : IsContents rest) : IsContents ('\\' :: c :: rest)

/-- The lexemes of a kind, with the literal that a token has with each. -/
inductive Lexeme : Kind → List Char → Literal → Prop
  | sign {text : String} {kind : Kind} (h : (text, kind) ∈ Kind.signs) :
      Lexeme kind text.toList .absent
  | keyword {text : String} {kind : Kind} (h : (text, kind) ∈ Kind.words) :
      Lexeme kind text.toList .absent
  | name {text : String} (h : IsWord text.toList) (hkeyword : ∀ kind, (text, kind) ∉ Kind.words) :
      Lexeme .identifier text.toList (.text text)
  | string {contents : String} (h : IsContents contents.toList) :
      Lexeme .string ('"' :: (contents.toList ++ ['"'])) (.text contents)
  | number {text : String} {value : Double} (h : Numeral.IsPlain text.toList)
      (hvalue : Numeral.real? text = some value) : Lexeme .number text.toList (.number value)

/-- The texts of all lexemes, and the two that open a comment. -/
inductive Lexical : List Char → Prop
  | sign {text : String} {kind : Kind} (h : (text, kind) ∈ Kind.signs) : Lexical text.toList
  | word {text : List Char} (h : IsWord text) : Lexical text
  | string {contents : List Char} (h : IsContents contents) :
      Lexical ('"' :: (contents ++ ['"']))
  | number {text : List Char} (h : Numeral.IsPlain text) : Lexical text
  | lineComment : Lexical ['/', '/']
  | blockComment : Lexical ['/', '*']

/-- No lexical text at the front of `text ++ rest` is longer than `text`. -/
def IsLongest (text rest : List Char) : Prop :=
  ∀ other, Lexical other → other <+: text ++ rest → other.length ≤ text.length

/-- A token has a lexeme of its kind, and the longest one there is before the rest. -/
def Token.StandsBefore (t : Token) (rest : List Char) : Prop :=
  Lexeme t.kind t.lexeme.toList t.literal ∧ IsLongest t.lexeme.toList rest

instance : DecidablePred IsWord
  | [] => .isFalse id
  | c :: rest =>
    have : Decidable (∀ d ∈ rest, d.isAlpha ∨ d = '_' ∨ d.isDigit) := List.decidableBAll _ rest
    inferInstanceAs (Decidable ((c.isAlpha ∨ c = '_') ∧ _))

theorem isWord_of_mem_words : ∀ entry ∈ Kind.words, IsWord entry.1.toList := by
  decide

theorem Lexeme.lexical {kind : Kind} {text : List Char} {literal : Literal}
    (h : Lexeme kind text literal) : Lexical text := by
  cases h with
  | sign h => exact .sign h
  | keyword h => exact .word (isWord_of_mem_words _ h)
  | name h _ => exact .word h
  | string h => exact .string h
  | number h _ => exact .number h

theorem Lexeme.isPlain_of_number {text : List Char} {literal : Literal}
    (h : Lexeme .number text literal) : Numeral.IsPlain text := by
  have hsigns : ∀ entry ∈ Kind.signs, entry.2 ≠ .number := by decide
  have hwords : ∀ entry ∈ Kind.words, entry.2 ≠ .number := by decide
  cases h with
  | sign h => exact absurd rfl (hsigns _ h)
  | keyword h => exact absurd rfl (hwords _ h)
  | number h _ => exact h

/-! ## Characters -/

theorem isWordStart_iff {c : Char} : Piece.isWordStart c ↔ c.isAlpha ∨ c = '_' := by
  simp [Piece.isWordStart]

theorem isWordPart_iff {c : Char} : Piece.isWordPart c ↔ c.isAlpha ∨ c = '_' ∨ c.isDigit := by
  simp [Piece.isWordPart, Piece.isWordStart, or_assoc]

/-- The characters that are part of neither a word nor a number, and open no string. -/
def IsMark (c : Char) : Prop := ¬c.isDigit ∧ ¬Piece.isWordStart c ∧ c ≠ '"'

instance : DecidablePred IsMark := fun _ => inferInstanceAs (Decidable (_ ∧ _))

/-- A letter is no digit. -/
theorem not_isDigit_of_isWordStart {c : Char} (h : Piece.isWordStart c) : ¬c.isDigit := by
  intro hdigit
  have hbound := Numeral.toNat_of_isDigit hdigit
  obtain halpha | rfl := isWordStart_iff.1 h
  · simp only [Char.isAlpha, Char.isUpper, Char.isLower, Bool.or_eq_true, Bool.and_eq_true,
      decide_eq_true_eq, UInt32.le_iff_toNat_le, ge_iff_le] at halpha
    have hvalue : c.val.toNat = c.toNat := rfl
    have hletters : 'A'.val.toNat = 65 ∧ 'a'.val.toNat = 97 := by decide
    omega
  · exact absurd hdigit (by decide)

theorem isWord_cons {c : Char} {rest : List Char} :
    IsWord (c :: rest) ↔ Piece.isWordStart c ∧ ∀ d ∈ rest, Piece.isWordPart d := by
  simp only [IsWord, isWordStart_iff, isWordPart_iff]

/-! ## Signs -/

theorem signs_ne_nil : ∀ entry ∈ Kind.signs, entry.1.toList ≠ [] := by
  decide

theorem signs_head_isMark : ∀ entry ∈ Kind.signs, entry.1.toList.head?.all (IsMark ·) := by
  decide

/-- A sign is one character, or one that an equals sign may follow with that equals sign. -/
def IsSignShape : List Char → Prop
  | [c] => Piece.single? c ≠ none ∨ Piece.withEqual? c ≠ none ∨ c = '/'
  | [c, d] => Piece.withEqual? c ≠ none ∧ d = '='
  | _ => False

instance : DecidablePred IsSignShape
  | [] => .isFalse id
  | [_] => inferInstanceAs (Decidable (_ ∨ _))
  | [_, _] => inferInstanceAs (Decidable (_ ∧ _))
  | _ :: _ :: _ :: _ => .isFalse id

theorem signs_isSignShape : ∀ entry ∈ Kind.signs, IsSignShape entry.1.toList := by
  decide

theorem mem_signs_of_single? {c : Char} {kind : Kind} (h : Piece.single? c = some kind) :
    (String.singleton c, kind) ∈ Kind.signs ∧ IsMark c ∧ Piece.withEqual? c = none ∧ c ≠ '/' := by
  unfold Piece.single? at h
  split at h <;> cases h <;> decide

theorem mem_signs_of_withEqual? {c : Char} {kinds : Kind × Kind}
    (h : Piece.withEqual? c = some kinds) :
    (String.singleton c, kinds.1) ∈ Kind.signs ∧
      (String.ofList [c, '='], kinds.2) ∈ Kind.signs ∧ IsMark c ∧ c ≠ '/' := by
  unfold Piece.withEqual? at h
  split at h <;> cases h <;> decide

/-! ## The first character -/

theorem Lexical.ne_nil {text : List Char} (h : Lexical text) : text ≠ [] := by
  cases h with
  | sign h => exact signs_ne_nil _ h
  | word h =>
    rintro rfl
    exact h
  | string => simp
  | number h =>
    obtain ⟨c, rest, rfl, -⟩ := h.head
    simp
  | lineComment => simp
  | blockComment => simp

section
variable {c : Char} {rest : List Char}

theorem isMark_of_sign {text : String} {kind : Kind} (h : (text, kind) ∈ Kind.signs)
    (htext : text.toList = c :: rest) : IsMark c := by
  have hhead := signs_head_isMark _ h
  simpa [htext] using hhead

theorem head_isDigit (h : Numeral.IsPlain (c :: rest)) : c.isDigit := by
  obtain ⟨d, digits, heq, hd⟩ := h.head
  cases heq
  exact hd

/-- A lexical text that begins with a digit is a number. -/
theorem Lexical.of_digit (h : Lexical (c :: rest)) (hc : c.isDigit) :
    Numeral.IsPlain (c :: rest) := by
  generalize htext : c :: rest = text at h
  cases h with
  | sign h => exact absurd hc (isMark_of_sign h htext.symm).1
  | word h =>
    subst htext
    exact absurd hc (not_isDigit_of_isWordStart (isWord_cons.1 h).1)
  | string h =>
    cases htext
    exact absurd hc (by decide)
  | number h => exact h
  | lineComment | blockComment =>
    cases htext
    exact absurd hc (by decide)

/-- A lexical text that begins with a letter is a word. -/
theorem Lexical.of_wordStart (h : Lexical (c :: rest)) (hc : Piece.isWordStart c) :
    IsWord (c :: rest) := by
  generalize htext : c :: rest = text at h
  cases h with
  | sign h => exact absurd hc (isMark_of_sign h htext.symm).2.1
  | word h => exact h
  | string h =>
    cases htext
    exact absurd hc (by decide)
  | number h =>
    subst htext
    exact absurd (head_isDigit h) (not_isDigit_of_isWordStart hc)
  | lineComment | blockComment =>
    cases htext
    exact absurd hc (by decide)

/-- A lexical text that begins with a quote is a string. -/
theorem Lexical.of_quote (h : Lexical ('"' :: rest)) :
    ∃ contents, IsContents contents ∧ rest = contents ++ ['"'] := by
  generalize htext : '"' :: rest = text at h
  cases h with
  | sign h => exact absurd rfl (isMark_of_sign h htext.symm).2.2
  | word h =>
    subst htext
    exact absurd (isWord_cons.1 h).1 (by decide)
  | @string contents h =>
    cases htext
    exact ⟨contents, h, rfl⟩
  | number h =>
    subst htext
    exact absurd (head_isDigit h) (by decide)
  | lineComment | blockComment => cases htext

/-- A lexical text that begins with a mark is a sign or opens a comment. -/
theorem Lexical.of_mark (h : Lexical (c :: rest)) (hc : IsMark c) :
    IsSignShape (c :: rest) ∨ c = '/' ∧ (rest = ['/'] ∨ rest = ['*']) := by
  generalize htext : c :: rest = text at h
  cases h with
  | sign h => exact .inl (signs_isSignShape _ h)
  | word h =>
    subst htext
    exact absurd (isWord_cons.1 h).1 hc.2.1
  | string h =>
    cases htext
    exact absurd rfl hc.2.2
  | number h =>
    subst htext
    exact absurd (head_isDigit h) hc.1
  | lineComment =>
    cases htext
    exact .inr ⟨rfl, .inl rfl⟩
  | blockComment =>
    cases htext
    exact .inr ⟨rfl, .inr rfl⟩

/-- No lexical text begins with a mark that is in no sign. -/
theorem not_lexical_of_isMark (hc : IsMark c) (hsingle : Piece.single? c = none)
    (hequal : Piece.withEqual? c = none) (hslash : c ≠ '/') : ¬Lexical (c :: rest) := by
  intro h
  obtain hshape | ⟨h, -⟩ := h.of_mark hc
  · match rest, hshape with
    | [], .inl h => exact h hsingle
    | [], .inr (.inl h) => exact h hequal
    | [], .inr (.inr h) => exact hslash h
    | [_], h => exact h.1 hequal
  · exact hslash h

end

end LoxExpr
