import LoxExpr.Proofs.Token.Cut

/-!
# Where scanning fails

What stands at the front of a text is one thing only (`Stands.unique`), so a text has one place at
which it cannot be cut any further, if it has any. Main statement `scan_fault_exact`: scanning
fails exactly at that place, and if the fault there is a character, then what follows it does not
matter.
-/

namespace LoxExpr

/-! ## What stands at the front -/

/-- A gap, or the longest lexeme there is, stands at the front of `text ++ rest`. -/
def Stands (text rest : List Char) : Prop :=
  IsGap text rest ∨ ∃ kind literal, Lexeme kind text literal ∧ IsLongest text rest

section
variable {c : Char} {kind : Kind} {literal : Literal} {text text' rest rest' more : List Char}
  {fault fault' : ScanFault}

theorem not_lexical_of_blank (h : c ∈ [' ', '\t', '\r', '\n']) : ¬Lexical (c :: more) := by
  simp only [List.mem_cons, List.not_mem_nil, or_false] at h
  rcases h with rfl | rfl | rfl | rfl
  all_goals exact not_lexical_of_isMark (by decide) rfl rfl (by decide)

/-- The only lexeme that begins with a slash is the slash. -/
theorem Lexeme.eq_slash (h : Lexeme kind ('/' :: more) literal) : more = [] := by
  obtain hshape | ⟨-, hcomment⟩ := h.lexical.of_mark (by decide)
  · match more, hshape with
    | [], _ => rfl
    | [_], h => exact absurd rfl h.1
  · exfalso
    generalize htext : '/' :: more = text at h
    cases h with
    | sign h =>
      have hshape := signs_isSignShape _ h
      rw [← htext] at hshape
      rcases hcomment with rfl | rfl
      · exact absurd hshape (by decide)
      · exact absurd hshape (by decide)
    | keyword h =>
      have hword := isWord_of_mem_words _ h
      rw [← htext] at hword
      exact absurd (isWord_cons.1 hword).1 (by decide)
    | name h =>
      rw [← htext] at h
      exact absurd (isWord_cons.1 h).1 (by decide)
    | string => cases htext
    | number h =>
      rw [← htext] at h
      exact absurd (head_isDigit h) (by decide)

/-- Where a comment opens, no lexeme is the longest lexical text. -/
theorem not_isLongest_of_comment {d : Char} (hopens : Lexical ['/', d])
    (h : Lexeme kind text literal) (hfront : text ++ rest = '/' :: d :: more) :
    ¬IsLongest text rest := by
  intro hlongest
  obtain ⟨c, text, rfl⟩ := List.exists_cons_of_ne_nil h.lexical.ne_nil
  obtain ⟨rfl, -⟩ := List.cons_eq_cons.1 hfront
  obtain rfl := h.eq_slash
  have hle := hlongest ['/', d] hopens (hfront ▸ ⟨more, rfl⟩)
  simp at hle

theorem IsGap.not_lexeme (h : IsGap text rest) (hlexeme : Lexeme kind text' literal)
    (heq : text ++ rest = text' ++ rest') : ¬IsLongest text' rest' := by
  cases h with
  | blank hblank =>
    obtain ⟨c, text', rfl⟩ := List.exists_cons_of_ne_nil hlexeme.lexical.ne_nil
    obtain ⟨rfl, -⟩ := List.cons_eq_cons.1 heq
    exact absurd hlexeme.lexical (not_lexical_of_blank hblank)
  | lineComment => exact not_isLongest_of_comment .lineComment hlexeme heq.symm
  | blockComment => exact not_isLongest_of_comment .blockComment hlexeme heq.symm

/-! ### Gaps -/

/-- The contents of a line comment are all up to the end of the line. -/
theorem eq_takeWhile_of_line {body : List Char} (hbody : '\n' ∉ body)
    (hend : ∀ c ∈ rest.head?, c = '\n') : (body ++ rest).takeWhile (· ≠ '\n') = body := by
  have hall : ∀ c ∈ body, decide (c ≠ '\n') = true := by
    intro c hc
    refine decide_eq_true ?_
    rintro rfl
    exact hbody hc
  rw [List.takeWhile_append_of_pos hall]
  cases rest with
  | nil => simp
  | cons c rest =>
    obtain rfl : c = '\n' := hend c rfl
    simp

/-- A block comment ends where its closing mark is found. -/
theorem closingMark?_of_body {body : List Char} (h : ¬['*', '/'] <:+: body ++ ['*'])
    (place : Nat) (after : List Char) :
    Piece.closingMark? place (body ++ '*' :: '/' :: after) = some (place + body.length) := by
  induction body generalizing place with
  | nil => rfl
  | cons c body ih =>
    have hbody : ¬['*', '/'] <:+: body ++ ['*'] :=
      fun hinfix => h (List.infix_cons hinfix)
    rw [List.cons_append, Piece.closingMark?, ih hbody, List.length_cons]
    · congr 1
      omega
    · rintro more rfl hrest
      -- the slash would be the first of the body after this star
      cases body with
      | nil => simp at hrest
      | cons d body =>
        obtain ⟨rfl, -⟩ := List.cons_eq_cons.1 hrest
        exact h ⟨[], body ++ ['*'], rfl⟩

theorem IsGap.unique (h : IsGap text rest) (h' : IsGap text' rest')
    (heq : text ++ rest = text' ++ rest') : text = text' := by
  cases h with
  | blank hblank =>
    cases h' with
    | blank =>
      obtain ⟨rfl, -⟩ := List.cons_eq_cons.1 heq
      rfl
    | lineComment | blockComment =>
      obtain ⟨rfl, -⟩ := List.cons_eq_cons.1 heq
      exact absurd hblank (by decide)
  | lineComment hbody hend =>
    cases h' with
    | blank hblank =>
      obtain ⟨rfl, -⟩ := List.cons_eq_cons.1 heq
      exact absurd hblank (by decide)
    | lineComment hbody' hend' =>
      simp only [List.cons_append, List.cons.injEq, true_and] at heq
      rw [← eq_takeWhile_of_line hbody hend, heq, eq_takeWhile_of_line hbody' hend']
    | blockComment => simp at heq
  | blockComment hbody =>
    cases h' with
    | blank hblank =>
      obtain ⟨rfl, -⟩ := List.cons_eq_cons.1 heq
      exact absurd hblank (by decide)
    | lineComment => simp at heq
    | @blockComment body' rest' hbody' =>
      simp only [List.cons_append, List.append_assoc, List.nil_append, List.cons.injEq,
        true_and] at heq
      have hclose := closingMark?_of_body hbody 0 rest
      rw [heq, closingMark?_of_body hbody' 0 rest', Option.some_inj] at hclose
      obtain ⟨rfl, -⟩ := List.append_inj heq (by omega)
      rfl

/-- Only one thing stands at the front of a text. -/
theorem Stands.unique (h : Stands text rest) (h' : Stands text' rest')
    (heq : text ++ rest = text' ++ rest') : text = text' := by
  rcases h with hgap | ⟨kind, literal, hlexeme, hlongest⟩
  · rcases h' with hgap' | ⟨kind', literal', hlexeme', hlongest'⟩
    · exact hgap.unique hgap' heq
    · exact absurd hlongest' (hgap.not_lexeme hlexeme' heq)
  · rcases h' with hgap' | ⟨kind', literal', hlexeme', hlongest'⟩
    · exact absurd hlongest (hgap'.not_lexeme hlexeme heq.symm)
    · have hle := hlongest text' hlexeme'.lexical (heq ▸ List.prefix_append _ _)
      have hge := hlongest' text hlexeme.lexical (heq ▸ List.prefix_append _ _)
      exact (List.append_inj heq (by omega)).1

/-! ### Faults -/

theorem IsFaulty.ne_nil (h : IsFaulty fault text) : text ≠ [] := by
  cases h <;> simp

/-- What is faulty at its front begins with neither a gap nor a lexeme. -/
theorem IsFaulty.not_stands (h : IsFaulty fault (text ++ rest)) : ¬Stands text rest := by
  generalize hfront : text ++ rest = front at h
  rintro (hgap | ⟨kind, literal, hlexeme, hlongest⟩)
  · cases hgap with
    | blank hblank =>
      cases h with
      | character hnot =>
        obtain ⟨rfl, -⟩ := List.cons_eq_cons.1 hfront
        exact hnot hblank
      | string | comment =>
        obtain ⟨rfl, -⟩ := List.cons_eq_cons.1 hfront
        exact absurd hblank (by decide)
    | lineComment =>
      cases h with
      | character _ hlexical =>
        obtain ⟨rfl, -⟩ := List.cons_eq_cons.1 hfront
        exact hlexical _ .lineComment
      | string | comment => simp at hfront
    | @blockComment body =>
      cases h with
      | character _ hlexical =>
        obtain ⟨rfl, -⟩ := List.cons_eq_cons.1 hfront
        exact hlexical _ .blockComment
      | string => simp at hfront
      | comment hopen =>
        simp only [List.cons_append, List.cons.injEq, true_and] at hfront
        exact hopen ⟨body, rest, hfront⟩
  · obtain ⟨c, text, rfl⟩ := List.exists_cons_of_ne_nil hlexeme.lexical.ne_nil
    cases h with
    | character _ hlexical =>
      obtain ⟨rfl, -⟩ := List.cons_eq_cons.1 hfront
      exact hlexical _ hlexeme.lexical
    | string hopen =>
      obtain ⟨rfl, rfl⟩ := List.cons_eq_cons.1 hfront
      obtain ⟨contents, hcontents, rfl⟩ := hlexeme.lexical.of_quote
      exact hopen contents hcontents (List.prefix_append _ _)
    | comment => exact not_isLongest_of_comment .blockComment hlexeme hfront hlongest

theorem IsFaulty.unique (h : IsFaulty fault text) (h' : IsFaulty fault' text) :
    fault = fault' := by
  have hempty : Lexical ['"', '"'] := .string .nil
  cases h with
  | character _ hlexical =>
    cases h' with
    | character => rfl
    | string => exact absurd hempty (hlexical _)
    | comment => exact absurd .blockComment (hlexical _)
  | string =>
    cases h' with
    | character _ hlexical => exact absurd hempty (hlexical _)
    | string => rfl
  | comment =>
    cases h' with
    | character _ hlexical => exact absurd .blockComment (hlexical _)
    | comment => rfl

/-! ## Cutting as far as possible -/

/-- A text before `rest` is cut into gaps and longest lexemes. -/
inductive IsCut (rest : List Char) : List Char → Prop
  | nil : IsCut rest []
  | cons {front text : List Char} (h : Stands front (text ++ rest)) (hmore : IsCut rest text) :
      IsCut rest (front ++ text)

theorem Layout.isCut {layout : List Char} (h : Layout layout (text ++ rest))
    (hmore : IsCut rest text) : IsCut rest (layout ++ text) := by
  generalize hafter : text ++ rest = after at h
  induction h with
  | nil => exact hmore
  | @cons gap layout _ hgap _ ih =>
    subst hafter
    rw [List.append_assoc]
    exact .cons (.inl (by simpa using hgap)) (ih rfl)

theorem isCut_iff : IsCut rest text ↔ ∃ tokens, Cut rest text tokens := by
  constructor
  · intro h
    induction h with
    | nil => exact ⟨[], .last .nil⟩
    | @cons front text h _ ih =>
      obtain ⟨tokens, hcut⟩ := ih
      rcases h with hgap | ⟨kind, literal, hlexeme, hlongest⟩
      · exact ⟨tokens, hcut.gap hgap⟩
      · have hstands : Token.StandsBefore ⟨kind, .ofList front, literal, 0⟩ (text ++ rest) := by
          simpa [Token.StandsBefore] using And.intro hlexeme hlongest
        have hcut := hcut.token hstands
        rw [String.toList_ofList] at hcut
        exact ⟨_, hcut⟩
  · rintro ⟨tokens, h⟩
    induction h with
    | @last layout hlayout =>
      have hcut : IsCut rest (layout ++ []) := hlayout.isCut .nil
      rwa [List.append_nil] at hcut
    | @next layout text t tokens hlayout ht _ ih =>
      have hcut : IsCut rest (t.lexeme.toList ++ text) :=
        .cons (.inr ⟨t.kind, t.literal, ht⟩) ih
      rw [List.append_assoc]
      exact hlayout.isCut hcut

/-- What is cut from a text that is cut up to a fault is cut on the way to the fault. -/
theorem IsCut.of_fault (h : IsCut rest text) (hfault : IsFaulty fault rest)
    (h' : IsCut rest' text') (heq : text ++ rest = text' ++ rest') :
    ∃ more, text = text' ++ more ∧ IsCut rest more := by
  induction h' generalizing text with
  | nil => exact ⟨text, rfl, h⟩
  | @cons front' text' hstands' hmore' ih =>
    cases h with
    | nil =>
      rw [List.append_assoc] at heq
      simp only [List.nil_append] at heq
      exact absurd hstands' (heq ▸ hfault).not_stands
    | @cons front text hstands hmore =>
      rw [List.append_assoc, List.append_assoc] at heq
      obtain rfl := hstands.unique hstands' heq
      obtain ⟨more, rfl, hrest⟩ := ih hmore (List.append_cancel_left heq)
      exact ⟨more, by simp, hrest⟩

/-- There is one place only up to which a text is cut and at which it is faulty. -/
theorem IsCut.unique (h : IsCut rest text) (hfault : IsFaulty fault rest)
    (h' : IsCut rest' text') (hfault' : IsFaulty fault' rest')
    (heq : text ++ rest = text' ++ rest') : text = text' ∧ rest = rest' ∧ fault = fault' := by
  obtain ⟨more, rfl, hmore⟩ := h.of_fault hfault h' heq
  obtain ⟨more', htext, -⟩ := h'.of_fault hfault' h heq.symm
  obtain rfl : more = [] := by
    have hlength := congrArg List.length htext
    simp only [List.length_append] at hlength
    exact List.eq_nil_of_length_eq_zero (by omega)
  rw [List.append_nil] at heq
  obtain rfl := List.append_cancel_left heq
  exact ⟨List.append_nil _, rfl, hfault.unique hfault'⟩

/-! ## Unexpected characters -/

theorem lexical_of_isSignShape (h : IsSignShape [c]) : Lexical [c] := by
  rcases h with h | h | rfl
  · obtain ⟨kind, h⟩ := Option.ne_none_iff_exists'.1 h
    exact (lexeme_sign (mem_signs_of_single? h).1).lexical
  · obtain ⟨kinds, h⟩ := Option.ne_none_iff_exists'.1 h
    exact (lexeme_sign (mem_signs_of_withEqual? h).1).lexical
  · have hslash : (String.ofList ['/'], Kind.slash) ∈ Kind.signs := by decide
    exact (lexeme_sign hslash).lexical

theorem lexical_of_isDigit (h : c.isDigit) : Lexical [c] :=
  .number (.inl ⟨by simp, by simpa using h⟩)

/-- All characters of a lexical text begin lexical texts, but for those in a string. -/
theorem Lexical.begins (h : Lexical text) :
    (∃ contents, text = '"' :: contents) ∨ ∀ c ∈ text, Lexical [c] := by
  cases h with
  | @sign text _ h =>
    right
    intro c hc
    have hshape := signs_isSignShape _ h
    generalize text.toList = sign at hc hshape
    match sign, hshape with
    | [d], hshape =>
      obtain rfl : c = d := by simpa using hc
      exact lexical_of_isSignShape hshape
    | [d, _], ⟨hequal, rfl⟩ =>
      obtain rfl | rfl : c = d ∨ c = '=' := by simpa using hc
      · exact lexical_of_isSignShape (.inr (.inl hequal))
      · exact lexical_of_isSignShape (by decide)
  | @word text h =>
    right
    intro c hc
    obtain ⟨d, rest, rfl⟩ := List.exists_cons_of_ne_nil (List.ne_nil_of_mem hc)
    obtain ⟨hd, hrest⟩ := isWord_cons.1 h
    have hpart : Piece.isWordPart c := by
      obtain rfl | hc := List.mem_cons.1 hc
      · simp [Piece.isWordPart, hd]
      · exact hrest c hc
    by_cases hdigit : c.isDigit
    · exact lexical_of_isDigit hdigit
    · have hstart : Piece.isWordStart c := by simpa [Piece.isWordPart, hdigit] using hpart
      exact .word (isWord_cons.2 ⟨hstart, by simp⟩)
  | string => exact .inl ⟨_, rfl⟩
  | number h =>
    right
    intro c hc
    obtain hdigit | rfl := h.mem hc
    · exact lexical_of_isDigit hdigit
    · exact lexical_of_isSignShape (by decide)
  | lineComment | blockComment =>
    right
    intro c hc
    simp only [List.mem_cons, List.not_mem_nil, or_false] at hc
    rcases hc with rfl | rfl <;> exact lexical_of_isSignShape (by decide)

theorem prefix_of_not_mem {other : List Char} (hfront : other <+: text ++ c :: rest)
    (hc : c ∉ other) : other <+: text := by
  obtain ⟨after, heq⟩ := hfront
  obtain ⟨more, rfl, -⟩ | ⟨more, rfl, hmore⟩ := List.append_eq_append_iff.1 heq
  · exact List.prefix_append _ _
  · cases more with
    | nil => simp
    | cons d more =>
      obtain ⟨rfl, -⟩ := List.cons_eq_cons.1 hmore
      simp at hc

/-- A lexical text in front of which a lexeme stands ends with that lexeme, or before a character
that begins no lexical text. -/
theorem Lexeme.prefix_of_character (hlexeme : Lexeme kind text literal)
    (hc : ∀ more, ¬Lexical (c :: more)) {other : List Char} (hother : Lexical other)
    (hfront : other <+: text ++ text' ++ c :: more) :
    other.length ≤ text.length ∨ other <+: text ++ text' := by
  obtain ⟨d, text, rfl⟩ := List.exists_cons_of_ne_nil hlexeme.lexical.ne_nil
  by_cases hquote : d = '"'
  · left
    subst hquote
    obtain ⟨contents, hcontents, rfl⟩ := hlexeme.lexical.of_quote
    rw [List.append_assoc] at hfront
    exact isLongest_string hcontents _ other hother hfront
  · right
    rcases hother.begins with ⟨contents, rfl⟩ | hbegins
    · exact absurd (List.cons_prefix_cons.1 hfront).1.symm hquote
    · exact prefix_of_not_mem hfront fun hmem => hc [] (hbegins c hmem)

/-- What follows a character that begins no lexical text does not make a lexeme before it longer. -/
theorem IsLongest.of_character (hlexeme : Lexeme kind text literal) (hc : ∀ more, ¬Lexical (c :: more))
    (h : IsLongest text (text' ++ c :: rest)) (more : List Char) :
    IsLongest text (text' ++ c :: more) := by
  intro other hother hfront
  rw [← List.append_assoc] at hfront
  rcases hlexeme.prefix_of_character hc hother hfront with hle | hbefore
  · exact hle
  · refine h other hother ?_
    rw [← List.append_assoc]
    exact hbefore.trans (List.prefix_append _ _)

theorem Stands.of_character (hc : ∀ more, ¬Lexical (c :: more))
    (h : Stands text (text' ++ c :: rest)) (more : List Char) :
    Stands text (text' ++ c :: more) := by
  rcases h with hgap | ⟨kind, literal, hlexeme, hlongest⟩
  · left
    cases hgap with
    | blank h => exact .blank h
    | lineComment hbody hend =>
      refine .lineComment hbody ?_
      cases text' <;> exact hend
    | blockComment hbody => exact .blockComment hbody
  · exact .inr ⟨kind, literal, hlexeme, hlongest.of_character hlexeme hc more⟩

theorem IsCut.of_character (hc : ∀ more, ¬Lexical (c :: more)) (h : IsCut (c :: rest) text)
    (more : List Char) : IsCut (c :: more) text := by
  induction h with
  | nil => exact .nil
  | cons hstands _ ih => exact .cons (hstands.of_character hc more) ih

end

/-! ## The place of a fault -/

/-- The text is cut into lexemes and layout up to a place, and there it is faulty. -/
structure FailsAt (text before rest : List Char) (fault : ScanFault) : Prop where
  split : text = before ++ rest
  cut : ∃ tokens, Cut rest before tokens
  faulty : IsFaulty fault rest

theorem FailsAt.unique {text before before' rest rest' : List Char} {fault fault' : ScanFault}
    (h : FailsAt text before rest fault) (h' : FailsAt text before' rest' fault') :
    before = before' ∧ rest = rest' ∧ fault = fault' :=
  (isCut_iff.2 h.cut).unique h.faulty (isCut_iff.2 h'.cut) h'.faulty (h.split.symm.trans h'.split)

/-- Scanning fails at the place where the text is faulty, on the line of that place. -/
theorem scan_eq_error_iff {source : String} {error : ScanError} :
    scan source = .error error ↔
      ∃ before rest, FailsAt source.toList before rest error.fault ∧
        error.line = 1 + before.count '\n' := by
  obtain ⟨before, rest, tokens, hsplit, hcut, ⟨rfl, last, hresult⟩ | ⟨fault, hfault, hresult⟩⟩ :=
    (scan_scans source).cut_or_fault
  · rw [hresult]
    constructor
    · intro h
      cases h
    · rintro ⟨before', rest', ⟨hsplit', hcut', hfaulty⟩, -⟩
      -- a text that is cut up to its end is faulty nowhere
      have hwhole : IsCut [] before := isCut_iff.2 ⟨_, hcut⟩
      have heq : before' ++ rest' = before ++ [] := hsplit'.symm.trans hsplit
      obtain ⟨more, rfl, -⟩ := (isCut_iff.2 hcut').of_fault hfaulty hwhole heq
      rw [List.append_assoc] at heq
      have hnil := List.append_cancel_left heq
      exact absurd (List.append_eq_nil_iff.1 hnil).2 hfaulty.ne_nil
  · have hfails : FailsAt source.toList before rest fault := ⟨hsplit, ⟨_, hcut⟩, hfault⟩
    rw [hresult]
    constructor
    · rintro h
      cases h
      exact ⟨before, rest, hfails, rfl⟩
    · rintro ⟨before', rest', hfails', hline⟩
      obtain ⟨rfl, rfl, rfl⟩ := hfails.unique hfails'
      rw [← hline]

/-- A character that nothing begins with is the fault whatever follows it. -/
theorem FailsAt.of_character {text before rest : List Char} {c : Char}
    (h : FailsAt text before (c :: rest) (.unexpectedCharacter c)) (more : List Char) :
    FailsAt (before ++ c :: more) before (c :: more) (.unexpectedCharacter c) := by
  cases h.faulty with
  | character hblank hlexical =>
    have hcut := (isCut_iff.2 h.cut).of_character hlexical more
    exact ⟨rfl, isCut_iff.1 hcut, .character hblank hlexical⟩

/-- Scanning fails exactly if the text, cut into the longest lexemes and layout between them as far
as some place, begins there with a character that nothing begins with, with a string that is
not closed, or with a comment that is not closed. There is one such place only; the failure says
which of the three it is and on what line the place is. If it is a character, the text after it
does not matter. -/
theorem scan_fault_exact (source : String) :
    (∀ error, scan source = .error error ↔
      ∃ before rest, FailsAt source.toList before rest error.fault ∧
        error.line = 1 + before.count '\n') ∧
    (∀ before rest fault before' rest' fault', FailsAt source.toList before rest fault →
      FailsAt source.toList before' rest' fault' →
      before = before' ∧ rest = rest' ∧ fault = fault') ∧
    (∀ error : ScanError, error.diagnostic.location = some ⟨error.line, none, false⟩ ∧
      error.diagnostic.text = match error.fault with
        | .unexpectedCharacter c =>
          "Unexpected character " ++ Text.quoted (.singleton c) ++ " (" ++
            ScanFault.codePoint c ++ ")."
        | .unterminatedString => "Unterminated string."
        | .unterminatedComment => "Unterminated block comment.") ∧
    ∀ before c rest, FailsAt source.toList before (c :: rest) (.unexpectedCharacter c) →
      (∀ more, scan (.ofList (before ++ c :: more)) = scan source) ∧
        ∀ t, scan (source ++ t) = scan source := by
  refine ⟨fun error => scan_eq_error_iff, fun _ _ _ _ _ _ => FailsAt.unique, ?_, ?_⟩
  · rintro ⟨fault, line⟩
    cases fault <;> exact ⟨rfl, rfl⟩
  · intro before c rest h
    have hmore : ∀ more, scan (.ofList (before ++ c :: more)) = scan source := by
      intro more
      let error : ScanError := ⟨.unexpectedCharacter c, 1 + before.count '\n'⟩
      have hsource : scan source = .error error := scan_eq_error_iff.2 ⟨before, _, h, rfl⟩
      rw [hsource, scan_eq_error_iff, String.toList_ofList]
      exact ⟨before, _, h.of_character more, rfl⟩
    refine ⟨hmore, fun t => ?_⟩
    have hsplit : source ++ t = .ofList (before ++ c :: (rest ++ t.toList)) := by
      rw [← List.cons_append, ← List.append_assoc, ← h.split]
      simp
    rw [hsplit, hmore]

/-- The string takes up the first line break and the comment the second; the fault comes after
them. -/
theorem scan_fault_exact_after_lines :
    scan "\"\n\"/*\n*/@" = .error ⟨.unexpectedCharacter '@', 3⟩ ∧
      (∃ before rest, FailsAt "\"\n\"/*\n*/@".toList before rest (.unexpectedCharacter '@') ∧
        (3 : Int) = 1 + before.count '\n') ∧
      ∀ t, scan ("\"\n\"/*\n*/@" ++ t) = .error ⟨.unexpectedCharacter '@', 3⟩ := by
  have hscan : scan "\"\n\"/*\n*/@" = .error ⟨.unexpectedCharacter '@', 3⟩ := by
    cbv
  obtain ⟨hfails, -, -, hcharacter⟩ := scan_fault_exact "\"\n\"/*\n*/@"
  obtain ⟨before, rest, hplace, hline⟩ := (hfails _).1 hscan
  refine ⟨hscan, ⟨before, rest, hplace, hline⟩, fun t => ?_⟩
  obtain ⟨rest, rfl⟩ : ∃ more, rest = '@' :: more := by
    cases hplace.faulty with
    | character => exact ⟨_, rfl⟩
  rw [(hcharacter before '@' rest hplace).2 t, hscan]

end LoxExpr
