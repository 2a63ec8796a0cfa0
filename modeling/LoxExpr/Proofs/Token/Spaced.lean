import LoxExpr.Proofs.Token.Lines

/-!
# Lexemes with spaces between them

A text is a lexeme of one kind only (`Lexeme.unique`) and is scanned in one way only, so that to scan
it is to say how it is scanned (`scan_eq_iff`). Main statement `scans_spaced`: lexemes with single spaces
between them are scanned as the tokens they are.
-/

namespace LoxExpr

/-! ## One way to scan -/

/-- The kind of a lexeme and the literal with it. -/
def Lexeme.ofText (text : List Char) : Kind × Literal :=
  if text.head?.any Char.isDigit then
    (.number, .number ((Decimal.ofNumeral text).toDouble false))
  else if text.head?.any Piece.isWordStart then
    (Kind.ofWord (.ofList text),
      if Kind.ofWord (.ofList text) = .identifier then .text (.ofList text) else .absent)
  else if text.head? = some '"' then
    (.string, .text (.ofList text.tail.dropLast))
  else ((Kind.signs.lookup (.ofList text)).getD .eof, .absent)

section
variable {kind kind' : Kind} {literal literal' : Literal} {text rest : List Char}

theorem lookup_signs : ∀ entry ∈ Kind.signs, Kind.signs.lookup entry.1 = some entry.2 := by
  decide

theorem ofWord_of_mem_words : ∀ entry ∈ Kind.words, Kind.ofWord entry.1 = entry.2 := by
  decide

theorem ofWord_of_not_mem_words {text : String} (h : ∀ kind, (text, kind) ∉ Kind.words) :
    Kind.ofWord text = .identifier := by
  unfold Kind.ofWord
  cases hlookup : Kind.words.lookup text with
  | some kind => exact absurd (lookup_eq_some_mem hlookup) (h kind)
  | none => rfl

theorem Lexeme.ofText_of_isWord {text : String} (h : IsWord text.toList) :
    ofText text.toList = (Kind.ofWord text,
      if Kind.ofWord text = .identifier then .text text else .absent) := by
  obtain ⟨c, rest, htext⟩ : ∃ c rest, text.toList = c :: rest :=
    List.exists_cons_of_ne_nil (Lexical.word h).ne_nil
  have hstart := (isWord_cons.1 (htext ▸ h)).1
  have hdigit := not_isDigit_of_isWordStart hstart
  have hofList : String.ofList (c :: rest) = text := by rw [← htext, String.ofList_toList]
  simp only [ofText, htext, hofList]
  simp [hstart, hdigit]

theorem Lexeme.eq_ofText (h : Lexeme kind text literal) : (kind, literal) = ofText text := by
  cases h with
  | @sign text kind h =>
    obtain ⟨c, rest, htext⟩ := List.exists_cons_of_ne_nil (signs_ne_nil _ h)
    obtain ⟨hdigit, hword, hquote⟩ := isMark_of_sign h htext
    have hofList : String.ofList (c :: rest) = text := by rw [← htext, String.ofList_toList]
    simp only [ofText, htext, hofList, lookup_signs _ h]
    simp [hdigit, hword, hquote]
  | keyword h =>
    rw [ofText_of_isWord (isWord_of_mem_words _ h), ofWord_of_mem_words _ h,
      if_neg (ne_identifier_of_mem_words _ h)]
  | name h hkeyword =>
    rw [ofText_of_isWord h, ofWord_of_not_mem_words hkeyword, if_pos rfl]
  | string h =>
    have hdigit : ('"').isDigit = false := by decide
    have hword : Piece.isWordStart '"' = false := by decide
    simp [ofText, hdigit, hword]
  | @number text value h hvalue =>
    obtain ⟨c, rest, htext, hc⟩ := h.head
    rw [Numeral.real?_of_isPlain h, Option.some_inj] at hvalue
    subst hvalue
    simp only [ofText, htext]
    simp [hc]

/-- A text is a lexeme of one kind only. -/
theorem Lexeme.unique (h : Lexeme kind text literal) (h' : Lexeme kind' text literal') :
    kind = kind' ∧ literal = literal' := by
  simpa using h.eq_ofText.trans h'.eq_ofText.symm

theorem Stands.ne_nil (h : Stands text rest) : text ≠ [] := by
  rcases h with hgap | ⟨kind, literal, hlexeme, -⟩
  · cases hgap <;> simp
  · exact hlexeme.lexical.ne_nil

/-- What the scan of a text begins with. -/
theorem Scans.elim {line : Int} {result : Except ScanError (List Token)}
    (h : Scans line text result) :
    (text = [] ∧ result = .ok [⟨.eof, "", .absent, line⟩]) ∨
      (∃ front rest more, text = front ++ rest ∧ IsGap front rest ∧
        Scans (line + front.count '\n') rest more ∧ result = more) ∨
      (∃ front rest kind literal more, text = front ++ rest ∧ Lexeme kind front literal ∧
        IsLongest front rest ∧ Scans (line + front.count '\n') rest more ∧
        result = more.map (⟨kind, .ofList front, literal, line + front.count '\n'⟩ :: ·)) ∨
      ∃ fault, IsFaulty fault text ∧ result = .error ⟨fault, line⟩ := by
  cases h with
  | ended => exact .inl ⟨rfl, rfl⟩
  | gap h hrest => exact .inr (.inl ⟨_, _, _, rfl, h, hrest, rfl⟩)
  | token h hlongest hrest =>
    exact .inr (.inr (.inl ⟨_, _, _, _, _, rfl, h, hlongest, hrest, rfl⟩))
  | fault h => exact .inr (.inr (.inr ⟨_, h, rfl⟩))

/-- A text is scanned in one way only. -/
theorem Scans.unique {line : Int} {result result' : Except ScanError (List Token)}
    (h : Scans line text result) (h' : Scans line text result') : result = result' := by
  induction h generalizing result' with
  | ended =>
    rcases h'.elim with ⟨-, rfl⟩ | ⟨front, rest, more, heq, hgap, -⟩ |
      ⟨front, rest, kind, literal, more, heq, hlexeme, hlongest, -⟩ | ⟨fault, hfault, -⟩
    · rfl
    · exact absurd (List.append_eq_nil_iff.1 heq.symm).1 (Stands.ne_nil (.inl hgap))
    · exact absurd (List.append_eq_nil_iff.1 heq.symm).1 hlexeme.lexical.ne_nil
    · exact absurd rfl hfault.ne_nil
  | gap hgap _ ih =>
    rcases h'.elim with ⟨heq, -⟩ | ⟨front, rest, more, heq, hgap', hrest, rfl⟩ |
      ⟨front, rest, kind, literal, more, heq, hlexeme, hlongest, -⟩ | ⟨fault, hfault, -⟩
    · exact absurd (List.append_eq_nil_iff.1 heq).1 (Stands.ne_nil (.inl hgap))
    · obtain rfl := hgap.unique hgap' heq
      obtain rfl := List.append_cancel_left heq
      exact ih hrest
    · exact absurd hlongest (hgap.not_lexeme hlexeme heq)
    · exact absurd (.inl hgap) hfault.not_stands
  | token hlexeme hlongest _ ih =>
    have hstands : Stands _ _ := .inr ⟨_, _, hlexeme, hlongest⟩
    rcases h'.elim with ⟨heq, -⟩ | ⟨front, rest, more, heq, hgap, -⟩ |
      ⟨front, rest, kind, literal, more, heq, hlexeme', hlongest', hrest, rfl⟩ |
      ⟨fault, hfault, -⟩
    · exact absurd (List.append_eq_nil_iff.1 heq).1 hstands.ne_nil
    · exact absurd hlongest (hgap.not_lexeme hlexeme heq.symm)
    · obtain rfl := hstands.unique (.inr ⟨_, _, hlexeme', hlongest'⟩) heq
      obtain rfl := List.append_cancel_left heq
      obtain ⟨rfl, rfl⟩ := hlexeme.unique hlexeme'
      rw [ih hrest]
    · exact absurd hstands hfault.not_stands
  | fault hfault =>
    rcases h'.elim with ⟨rfl, -⟩ | ⟨front, rest, more, rfl, hgap, -⟩ |
      ⟨front, rest, kind, literal, more, rfl, hlexeme, hlongest, -⟩ | ⟨fault', hfault', rfl⟩
    · exact absurd rfl hfault.ne_nil
    · exact absurd (.inl hgap) hfault.not_stands
    · exact absurd (.inr ⟨_, _, hlexeme, hlongest⟩) hfault.not_stands
    · rw [hfault.unique hfault']

/-- Scanning computes what the rules say. -/
theorem scan_eq_iff {source : String} {result : Except ScanError (List Token)} :
    scan source = result ↔ Scans 1 source.toList result := by
  refine ⟨?_, fun h => (scan_scans source).unique h⟩
  rintro rfl
  exact scan_scans source

/-! ## Spaces between lexemes -/

theorem Lexeme.isLongest_of_character (h : Lexeme kind text literal) {c : Char}
    (hc : ∀ more, ¬Lexical (c :: more)) (rest : List Char) : IsLongest text (c :: rest) := by
  intro other hother hfront
  have hfront : other <+: text ++ [] ++ c :: rest := by simpa using hfront
  rcases h.prefix_of_character hc hother hfront with hle | hbefore
  · exact hle
  · simpa using hbefore.length_le

theorem isLongest_nil : IsLongest text [] := by
  intro other _ hfront
  simpa using hfront.length_le

/-- A token with a lexeme that lies on one line, and on which line that is. -/
structure Token.LiesOn (t : Token) (line : Int) : Prop where
  lexeme : Lexeme t.kind t.lexeme.toList t.literal
  unbroken : '\n' ∉ t.lexeme.toList
  line_eq : t.line = line

variable {t : Token} {tokens : List Token} {line : Int}

/-- Only strings can lie on more than one line. -/
theorem Lexeme.liesOn {text : String} (h : Lexeme kind text.toList literal)
    (hkind : kind ≠ .string) (line : Int) : Token.LiesOn ⟨kind, text, literal, line⟩ line :=
  ⟨h, fun hnewline => hkind (h.kind_of_newline hnewline), rfl⟩

/-- A token before a text of which the scan is known. -/
theorem Token.LiesOn.scans (h : t.LiesOn line) (hlongest : IsLongest t.lexeme.toList rest)
    (hrest : Scans line rest (.ok tokens)) :
    Scans line (t.lexeme.toList ++ rest) (.ok (t :: tokens)) := by
  obtain ⟨hlexeme, hunbroken, rfl⟩ := h
  have hcount : t.line + (t.lexeme.toList.count '\n' : Int) = t.line := by
    rw [List.count_eq_zero.2 hunbroken]
    exact Int.add_zero t.line
  have htoken := Scans.token hlexeme hlongest (hcount.symm ▸ hrest)
  rw [hcount, String.ofList_toList] at htoken
  exact htoken

theorem Scans.space {result : Except ScanError (List Token)} (h : Scans line rest result) :
    Scans line (' ' :: rest) result := by
  have hgap : IsGap [' '] rest := .blank (by simp)
  have hcount : line + ([' '].count '\n' : Int) = line := by simp
  exact .gap hgap (hcount.symm ▸ h)

/-- The lexemes of tokens with single spaces between them. -/
def spaced (tokens : List Token) : String := " ".intercalate (tokens.map (·.lexeme))

@[simp] theorem spaced_singleton (t : Token) : spaced [t] = t.lexeme := by
  simp [spaced]

theorem spaced_append {front back : List Token} (hfront : front ≠ []) (hback : back ≠ []) :
    spaced (front ++ back) = spaced front ++ " " ++ spaced back := by
  rw [spaced, List.map_append, String.intercalate_append_of_ne_nil]
  · rfl
  · simpa using hfront
  · simpa using hback

theorem spaced_cons (t : Token) (h : tokens ≠ []) :
    spaced (t :: tokens) = t.lexeme ++ " " ++ spaced tokens := by
  rw [← List.singleton_append, spaced_append (List.cons_ne_nil t []) h, spaced_singleton]

/-- Lexemes that lie on one line, with spaces between them, are scanned as the tokens they are. -/
theorem scans_spaced (h : ∀ t ∈ tokens, t.LiesOn line) :
    Scans line (spaced tokens).toList (.ok (tokens ++ [⟨.eof, "", .absent, line⟩])) := by
  induction tokens with
  | nil => exact .ended
  | cons t tokens ih =>
    obtain ⟨ht, h⟩ := List.forall_mem_cons.1 h
    have hmore := ih h
    cases tokens with
    | nil => simpa using ht.scans isLongest_nil hmore
    | cons u tokens =>
      have hspace : ∀ more, ¬Lexical (' ' :: more) := fun _ => not_lexical_of_blank (by simp)
      have htoken := ht.scans (ht.lexeme.isLongest_of_character hspace _) hmore.space
      simpa [spaced_cons t (List.cons_ne_nil u tokens)] using htoken

end

end LoxExpr
