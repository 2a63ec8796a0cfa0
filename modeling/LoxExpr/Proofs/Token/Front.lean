import LoxExpr.Proofs.Token.Lexeme

/-!
# The front of a text

What stands at the front of a text is a gap, the longest lexeme there is, or a fault. Main
statement `Piece.front_fits`: the piece that is cut off says which, and is all of it.
-/

namespace LoxExpr

/-! ## Gaps and faults -/

/-- A gap at the front of `text ++ rest`: a blank, a comment up to the end of its line, or a
comment up to the first mark that closes it. -/
inductive IsGap : (text rest : List Char) → Prop
  | blank {c : Char} {rest : List Char} (h : c ∈ [' ', '\t', '\r', '\n']) : IsGap [c] rest
  | lineComment {body rest : List Char} (hbody : '\n' ∉ body)
      (hend : ∀ c ∈ rest.head?, c = '\n') : IsGap ('/' :: '/' :: body) rest
  | blockComment {body rest : List Char} (hbody : ¬['*', '/'] <:+: body ++ ['*']) :
      IsGap ('/' :: '*' :: (body ++ ['*', '/'])) rest

/-- What makes the front of a text neither a gap nor a lexeme. -/
inductive IsFaulty : ScanFault → List Char → Prop
  | character {c : Char} {rest : List Char} (hblank : c ∉ [' ', '\t', '\r', '\n'])
      (hlexical : ∀ more, ¬Lexical (c :: more)) : IsFaulty (.unexpectedCharacter c) (c :: rest)
  | string {rest : List Char}
      (h : ∀ contents, IsContents contents → ¬contents ++ ['"'] <+: rest) :
      IsFaulty .unterminatedString ('"' :: rest)
  | comment {rest : List Char} (h : ¬['*', '/'] <:+: rest) :
      IsFaulty .unterminatedComment ('/' :: '*' :: rest)

/-- A piece is what stands at the front of a text. -/
inductive Piece.Fits : Piece → List Char → Prop
  | gap (text rest : List Char) (h : IsGap text rest) : Fits ⟨text, .gap⟩ (text ++ rest)
  | token {kind : Kind} {literal : Literal} (text rest : List Char)
      (h : Lexeme kind text literal) (hlongest : IsLongest text rest) :
      Fits ⟨text, .token kind literal⟩ (text ++ rest)
  | fault {fault : ScanFault} (text rest : List Char) (h : IsFaulty fault (text ++ rest)) :
      Fits ⟨text, .fault fault⟩ (text ++ rest)

/-! ## Longest texts -/

theorem length_le_takeWhile {p : Char → Bool} {other text : List Char} (h : other <+: text)
    (hother : ∀ c ∈ other, p c) : other.length ≤ (text.takeWhile p).length := by
  obtain ⟨more, rfl⟩ := h
  rw [List.takeWhile_append_of_pos hother, List.length_append]
  exact Nat.le_add_right _ _

theorem forall_mem_takeWhile {p : Char → Bool} {text : List Char} :
    ∀ c ∈ text.takeWhile p, p c :=
  List.all_eq_true.1 List.all_takeWhile

/-- Only lexical texts with the first character of a text compete for its front. -/
theorem isLongest_of_head {c : Char} {rest text after : List Char}
    (htext : text ++ after = c :: rest)
    (h : ∀ more, Lexical (c :: more) → c :: more <+: c :: rest →
      (c :: more).length ≤ text.length) : IsLongest text after := by
  intro other hlexical hfront
  rw [htext] at hfront
  obtain rfl | ⟨more, rfl, -⟩ := List.prefix_cons_iff.1 hfront
  · exact absurd rfl hlexical.ne_nil
  · exact h more hlexical hfront

theorem IsLongest.of_cons {c : Char} {text rest : List Char}
    (h : ∀ more, Lexical (c :: more) → more <+: text ++ rest → more.length ≤ text.length) :
    IsLongest (c :: text) rest := by
  refine isLongest_of_head rfl fun more hlexical hfront => ?_
  exact Nat.succ_le_succ (h more hlexical (List.cons_prefix_cons.1 hfront).2)

/-! ## Signs -/

section
variable {c : Char}

/-- No lexical text that begins with a mark has more than two characters. -/
theorem Lexical.length_le_one {more : List Char} (h : Lexical (c :: more)) (hc : IsMark c) :
    more.length ≤ 1 := by
  obtain hshape | ⟨-, rfl | rfl⟩ := h.of_mark hc
  · match more, hshape with
    | [], _ => exact Nat.zero_le 1
    | [_], _ => exact Nat.le_refl 1
  · exact Nat.le_refl 1
  · exact Nat.le_refl 1

theorem isLongest_mark (rest : List Char) (hc : IsMark c)
    (h : ∀ d ∈ rest.head?, ¬Lexical [c, d]) : IsLongest [c] rest := by
  refine .of_cons fun other hlexical hfront => ?_
  match other, hlexical.length_le_one hc with
  | [], _ => exact Nat.le_refl 0
  | [d], _ =>
    obtain ⟨more, rfl⟩ := hfront
    exact absurd hlexical (h d (by simp))

theorem isLongest_mark_pair (d : Char) (rest : List Char) (hc : IsMark c) :
    IsLongest [c, d] rest :=
  .of_cons fun _ hlexical _ => hlexical.length_le_one hc

/-- A second character of a lexical text that begins with a mark. -/
theorem Lexical.second {d : Char} (h : Lexical [c, d]) (hc : IsMark c) :
    Piece.withEqual? c ≠ none ∧ d = '=' ∨ c = '/' ∧ (d = '/' ∨ d = '*') := by
  obtain hshape | ⟨hslash, h | h⟩ := h.of_mark hc
  · exact .inl hshape
  · cases h
    exact .inr ⟨hslash, .inl rfl⟩
  · cases h
    exact .inr ⟨hslash, .inr rfl⟩

theorem lexeme_sign {text : List Char} {kind : Kind}
    (h : (String.ofList text, kind) ∈ Kind.signs) : Lexeme kind text .absent := by
  simpa using Lexeme.sign h

theorem Piece.single_fits {kind : Kind} (h : single? c = some kind) (rest : List Char) :
    Fits ⟨[c], .token kind .absent⟩ (c :: rest) := by
  obtain ⟨hsign, hmark, hequal, hslash⟩ := mem_signs_of_single? h
  refine .token [c] rest (lexeme_sign hsign) (isLongest_mark rest hmark fun d _ hd => ?_)
  obtain ⟨h, -⟩ | ⟨h, -⟩ := hd.second hmark
  · exact h hequal
  · exact hslash h

theorem Piece.operator_fits {kinds : Kind × Kind} (h : withEqual? c = some kinds)
    (rest : List Char) : (operator c kinds rest).Fits (c :: rest) := by
  obtain ⟨hsign, hsign', hmark, hslash⟩ := mem_signs_of_withEqual? h
  unfold operator
  split
  · next after =>
    exact .token [c, '='] after (lexeme_sign hsign') (isLongest_mark_pair '=' after hmark)
  · next hrest =>
    refine .token [c] rest (lexeme_sign hsign) (isLongest_mark rest hmark fun d hd hpair => ?_)
    obtain ⟨-, rfl⟩ | ⟨h, -⟩ := hpair.second hmark
    · obtain ⟨after, rfl⟩ := List.head?_eq_some_iff.1 hd
      exact hrest after rfl
    · exact hslash h

end

/-! ## Strings -/

theorem closingQuote?_eq_some {place close : Nat} {text : List Char}
    (h : Piece.closingQuote? place text = some close) :
    ∃ contents after, IsContents contents ∧ text = contents ++ '"' :: after ∧
      close = place + contents.length := by
  fun_induction Piece.closingQuote? place text with
  | case1 => cases h
  | case2 place after =>
    cases h
    exact ⟨[], after, .nil, rfl, rfl⟩
  | case3 place c rest ih =>
    obtain ⟨contents, after, hcontents, rfl, rfl⟩ := ih h
    refine ⟨'\\' :: c :: contents, after, .escaped hcontents, rfl, ?_⟩
    simp only [List.length_cons]
    omega
  | case4 place c rest hquote hescape ih =>
    obtain ⟨contents, after, hcontents, rfl, rfl⟩ := ih h
    have hbackslash : c ≠ '\\' := by
      rintro rfl
      -- the escaped character would be the first of the rest
      cases contents with
      | nil => exact hescape '"' after rfl rfl
      | cons d contents => exact hescape d _ rfl rfl
    refine ⟨c :: contents, after, .plain hquote hbackslash hcontents, rfl, ?_⟩
    simp only [List.length_cons]
    omega

theorem closingQuote?_of_isContents {contents : List Char} (h : IsContents contents)
    (place : Nat) (after : List Char) :
    Piece.closingQuote? place (contents ++ '"' :: after) = some (place + contents.length) := by
  induction h generalizing place with
  | nil => rfl
  | @plain c rest hquote hbackslash _ ih =>
    rw [List.cons_append, Piece.closingQuote?, ih, List.length_cons]
    · congr 1
      omega
    · exact hquote
    · exact fun _ _ heq => absurd heq hbackslash
  | @escaped c rest _ ih =>
    rw [List.cons_append, List.cons_append, Piece.closingQuote?, ih]
    simp only [List.length_cons]
    congr 1
    omega

/-- The contents of a string end in one place only. -/
theorem IsContents.length_eq {contents other after after' : List Char} (h : IsContents contents)
    (hother : IsContents other) (heq : contents ++ '"' :: after = other ++ '"' :: after') :
    contents.length = other.length := by
  have hclose := closingQuote?_of_isContents h 0 after
  rw [heq, closingQuote?_of_isContents hother 0 after', Option.some_inj] at hclose
  omega

theorem isLongest_string {contents : List Char} (h : IsContents contents) (after : List Char) :
    IsLongest ('"' :: (contents ++ ['"'])) after := by
  refine .of_cons fun more hlexical hfront => ?_
  obtain ⟨other, hother, rfl⟩ := hlexical.of_quote
  obtain ⟨after', heq⟩ := hfront
  have hends : contents ++ '"' :: after = other ++ '"' :: after' := by
    simpa using heq.symm
  simp [h.length_eq hother hends]

theorem Piece.string_fits (rest : List Char) : (string rest).Fits ('"' :: rest) := by
  unfold string
  split
  · next close hclose =>
    obtain ⟨contents, after, hcontents, rfl, rfl⟩ := closingQuote?_eq_some hclose
    have htake : (contents ++ '"' :: after).take (0 + contents.length) = contents := by simp
    have htake' :
        (contents ++ '"' :: after).take (0 + contents.length + 1) = contents ++ ['"'] := by
      rw [Nat.zero_add, List.take_length_add_append]
      rfl
    have hcontents' : IsContents (String.ofList contents).toList := by
      simpa using hcontents
    have hlexeme : Lexeme .string ('"' :: (contents ++ ['"'])) (.text (.ofList contents)) := by
      simpa using Lexeme.string hcontents'
    rw [htake, htake']
    simpa using Fits.token _ after hlexeme (isLongest_string hcontents after)
  · next hclose =>
    have hfault : IsFaulty .unterminatedString ('"' :: rest) := by
      refine .string fun contents hcontents hfront => ?_
      obtain ⟨after, rfl⟩ := hfront
      rw [List.append_assoc, List.singleton_append,
        closingQuote?_of_isContents hcontents] at hclose
      cases hclose
    simpa using Fits.fault ('"' :: rest) [] (by simpa using hfault)

/-! ## Comments -/

theorem closingMark?_eq_some {place close : Nat} {text : List Char}
    (h : Piece.closingMark? place text = some close) :
    ∃ body after, ¬['*', '/'] <:+: body ++ ['*'] ∧ text = body ++ '*' :: '/' :: after ∧
      close = place + body.length := by
  fun_induction Piece.closingMark? place text with
  | case1 => cases h
  | case2 place after =>
    cases h
    exact ⟨[], after, by decide, rfl, rfl⟩
  | case3 place c rest hmark ih =>
    obtain ⟨body, after, hbody, rfl, rfl⟩ := ih h
    refine ⟨c :: body, after, fun hinfix => ?_, rfl, by simp only [List.length_cons]; omega⟩
    obtain hfront | hinfix := List.infix_cons_iff.1 hinfix
    · -- the mark would begin with `c` and have been found before
      obtain ⟨rfl, hnext⟩ := List.cons_prefix_cons.1 hfront
      cases body with
      | nil => exact absurd hnext (by decide)
      | cons d body =>
        obtain ⟨rfl, -⟩ := List.cons_prefix_cons.1 hnext
        exact hmark _ rfl rfl
    · exact hbody hinfix

theorem closingMark?_eq_none {place : Nat} {text : List Char}
    (h : Piece.closingMark? place text = none) : ¬['*', '/'] <:+: text := by
  fun_induction Piece.closingMark? place text with
  | case1 => decide
  | case2 => cases h
  | case3 place c rest hmark ih =>
    intro hinfix
    obtain hfront | hinfix := List.infix_cons_iff.1 hinfix
    · obtain ⟨rfl, hnext⟩ := List.cons_prefix_cons.1 hfront
      obtain ⟨after, rfl⟩ := hnext
      exact hmark after rfl rfl
    · exact ih h hinfix

theorem isGap_lineComment (rest : List Char) :
    IsGap ('/' :: '/' :: rest.takeWhile (· ≠ '\n')) (rest.dropWhile (· ≠ '\n')) := by
  refine .lineComment (fun hmem => ?_) fun c hc => ?_
  · exact absurd (forall_mem_takeWhile _ hmem) (by decide)
  · have hhead := List.head?_dropWhile_not (· ≠ '\n') rest
    rw [Option.mem_def.1 hc] at hhead
    simpa using hhead

theorem Piece.slash_fits (rest : List Char) : (slash rest).Fits ('/' :: rest) := by
  unfold slash
  split
  · next rest => simpa using Fits.gap _ _ (isGap_lineComment rest)
  · next rest =>
    split
    · next close hclose =>
      obtain ⟨body, after, hbody, rfl, rfl⟩ := closingMark?_eq_some hclose
      have htake : (body ++ '*' :: '/' :: after).take (0 + body.length + 2) =
          body ++ ['*', '/'] := by
        rw [Nat.zero_add, List.take_length_add_append]
        rfl
      rw [htake]
      simpa using Fits.gap _ after (IsGap.blockComment hbody)
    · next hclose =>
      have hfault := IsFaulty.comment (closingMark?_eq_none hclose)
      simpa using Fits.fault ('/' :: '*' :: rest) [] (by simpa using hfault)
  · next hline hblock =>
    have hmark : IsMark '/' := by decide
    refine .token ['/'] rest (lexeme_sign (by decide)) (isLongest_mark rest hmark ?_)
    intro d hd hpair
    obtain ⟨after, rfl⟩ := List.head?_eq_some_iff.1 hd
    obtain ⟨h, -⟩ | ⟨-, rfl | rfl⟩ := hpair.second hmark
    · exact h rfl
    · exact hline after rfl
    · exact hblock after rfl

/-! ## Numbers -/

theorem fraction_eq (text : List Char) :
    Piece.fraction text = [] ∨
      ∃ digits, Numeral.IsDigits digits ∧ Piece.fraction text = '.' :: digits := by
  unfold Piece.fraction
  split
  · next c rest =>
    split
    · next hc =>
      refine .inr ⟨_, ⟨List.cons_ne_nil c _, fun d hd => ?_⟩, rfl⟩
      obtain rfl | hd := List.mem_cons.1 hd
      · exact hc
      · exact forall_mem_takeWhile d hd
    · exact .inl rfl
  · exact .inl rfl

theorem fraction_of_isDigits {digits : List Char} (h : Numeral.IsDigits digits)
    (more : List Char) :
    Piece.fraction ('.' :: (digits ++ more)) = '.' :: (digits ++ more).takeWhile Char.isDigit := by
  obtain ⟨hne, hdigits⟩ := h
  obtain ⟨c, digits, rfl⟩ := List.exists_cons_of_ne_nil hne
  have hc : c.isDigit := hdigits c List.mem_cons_self
  simp only [List.cons_append, Piece.fraction, List.takeWhile_cons, hc, if_true]

section
variable {c : Char}

theorem isPlain_number (hc : c.isDigit) (rest : List Char) :
    Numeral.IsPlain (Piece.number (c :: rest)).text := by
  have hwhole : Numeral.IsDigits ((c :: rest).takeWhile Char.isDigit) := by
    refine ⟨?_, forall_mem_takeWhile⟩
    rw [List.takeWhile_cons, if_pos hc]
    exact List.cons_ne_nil _ _
  simp only [Piece.number]
  obtain hnil | ⟨digits, hdigits, heq⟩ := fraction_eq ((c :: rest).dropWhile Char.isDigit)
  · rw [hnil, List.append_nil]
    exact .inl hwhole
  · rw [heq]
    exact .inr ⟨_, digits, hwhole, hdigits, rfl⟩

/-- No plain numeral at the front of a text is longer than the one that is cut off. -/
theorem length_le_number {other text : List Char} (h : Numeral.IsPlain other)
    (hfront : other <+: text) : other.length ≤ (Piece.number text).text.length := by
  simp only [Piece.number, List.length_append]
  obtain ⟨-, hdigits⟩ | ⟨whole, digits, ⟨-, hwhole⟩, hdigits, rfl⟩ := h
  · have := length_le_takeWhile hfront hdigits
    omega
  · obtain ⟨more, rfl⟩ := hfront
    have htext : whole ++ '.' :: digits ++ more = whole ++ '.' :: (digits ++ more) := by simp
    have hlength := length_le_takeWhile (List.prefix_append digits more) hdigits.2
    rw [htext, List.takeWhile_append_of_pos hwhole, List.dropWhile_append_of_pos hwhole]
    have hpoint : ('.' :: (digits ++ more)).dropWhile Char.isDigit = '.' :: (digits ++ more) := rfl
    rw [hpoint, fraction_of_isDigits hdigits]
    simp only [List.length_append, List.length_cons] at hlength ⊢
    omega

theorem Piece.number_fits (hc : c.isDigit) (rest : List Char) :
    (number (c :: rest)).Fits (c :: rest) := by
  have hplain := isPlain_number hc rest
  obtain ⟨after, hafter⟩ := number_text_isPrefix (c :: rest)
  have hlexeme : Lexeme .number (number (c :: rest)).text
      (.number ((Decimal.ofNumeral (number (c :: rest)).text).toDouble false)) := by
    have hplain' : Numeral.IsPlain (String.ofList (number (c :: rest)).text).toList := by
      simpa using hplain
    simpa using Lexeme.number hplain' (Numeral.real?_of_isPlain hplain')
  have hlongest : IsLongest (number (c :: rest)).text after :=
    isLongest_of_head hafter fun _ hlexical hfront =>
      length_le_number (hlexical.of_digit hc) hfront
  have hfits := Fits.token _ after hlexeme hlongest
  rwa [hafter] at hfits

/-! ## Words -/

theorem lookup_eq_some_mem {entries : List (String × Kind)} {text : String} {kind : Kind}
    (h : entries.lookup text = some kind) : (text, kind) ∈ entries := by
  obtain ⟨before, after, rfl, -⟩ := List.lookup_eq_some_iff.1 h
  exact List.mem_append_right _ List.mem_cons_self

theorem ne_identifier_of_mem_words : ∀ entry ∈ Kind.words, entry.2 ≠ .identifier := by
  decide

/-- A word is a keyword if it is kept for the language, and a name otherwise. -/
theorem lexeme_word {text : String} (h : IsWord text.toList) :
    Lexeme (Kind.ofWord text) text.toList
      (if Kind.ofWord text = .identifier then .text text else .absent) := by
  unfold Kind.ofWord
  cases hlookup : Kind.words.lookup text with
  | some kind =>
    have hmem := lookup_eq_some_mem hlookup
    rw [Option.getD_some, if_neg (ne_identifier_of_mem_words _ hmem)]
    exact .keyword hmem
  | none =>
    rw [Option.getD_none, if_pos rfl]
    refine .name h fun kind hmem => ?_
    have hne := List.lookup_eq_none_iff.1 hlookup (text, kind) hmem
    simp at hne

theorem Piece.word_fits (hc : isWordStart c) (rest : List Char) :
    (word (c :: rest)).Fits (c :: rest) := by
  have hpart : isWordPart c := by simp [isWordPart, hc]
  have hword : IsWord ((c :: rest).takeWhile isWordPart) := by
    rw [List.takeWhile_cons, if_pos hpart]
    exact isWord_cons.2 ⟨hc, forall_mem_takeWhile⟩
  obtain ⟨after, hafter⟩ := List.takeWhile_prefix (l := c :: rest) isWordPart
  have hlongest : IsLongest ((c :: rest).takeWhile isWordPart) after := by
    refine isLongest_of_head hafter fun more hlexical hfront => ?_
    refine length_le_takeWhile hfront fun d hd => ?_
    obtain ⟨-, hmore⟩ := isWord_cons.1 (hlexical.of_wordStart hc)
    obtain rfl | hd := List.mem_cons.1 hd
    · exact hpart
    · exact hmore d hd
  have hword' : IsWord (String.ofList ((c :: rest).takeWhile isWordPart)).toList := by
    simpa using hword
  have hlexeme := lexeme_word hword'
  rw [String.toList_ofList] at hlexeme
  have hfits := Fits.token _ after hlexeme hlongest
  rwa [hafter] at hfits

/-! ## All pieces -/

theorem Piece.blank_fits (h : isGap c) (rest : List Char) : Fits ⟨[c], .gap⟩ (c :: rest) :=
  .gap [c] rest (.blank (by simpa [isGap, or_assoc] using h))

/-- A character that is none of those that something begins with is a fault. -/
theorem Piece.character_fits (hsingle : single? c = none) (hequal : withEqual? c = none)
    (hslash : c ≠ '/') (hgap : ¬isGap c) (hmark : IsMark c) (rest : List Char) :
    Fits ⟨[c], .fault (.unexpectedCharacter c)⟩ (c :: rest) := by
  have hblank : c ∉ [' ', '\t', '\r', '\n'] := by
    simpa [isGap, and_assoc] using hgap
  exact .fault [c] rest (.character hblank fun _ => not_lexical_of_isMark hmark hsingle hequal hslash)

/-- The piece that is cut off a text is what stands at its front. -/
theorem Piece.front_fits (c : Char) (rest : List Char) : (front c rest).Fits (c :: rest) := by
  unfold front
  split
  · next kind hsingle => exact single_fits hsingle rest
  · next hsingle =>
    split
    · next kinds hequal => exact operator_fits hequal rest
    · next hequal =>
      by_cases hslash : c = '/'
      · subst hslash
        exact slash_fits rest
      by_cases hgap : isGap c
      · rw [if_neg hslash, if_pos hgap]
        exact blank_fits hgap rest
      by_cases hquote : c = '"'
      · subst hquote
        exact string_fits rest
      rw [if_neg hslash, if_neg hgap, if_neg hquote]
      by_cases hdigit : c.isDigit
      · rw [if_pos hdigit]
        exact number_fits hdigit rest
      by_cases hword : isWordStart c
      · rw [if_neg hdigit, if_pos hword]
        exact word_fits hword rest
      rw [if_neg hdigit, if_neg hword]
      exact character_fits hsingle hequal hslash hgap ⟨hdigit, hword, hquote⟩ rest

end

end LoxExpr
