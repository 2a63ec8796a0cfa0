import LoxExpr.Proofs.Token.Stepwise

/-!
# Where strings and comments end

A string is closed by the first quote behind an even number of backslashes, a block comment by
the first `*/` behind its opening. Both scans are searches for the first place with a property
(`IsFirst`). Main statements `string_exact` and `blockComment_exact`: the scanner stops right
behind that place with all line breaks counted, and if there is none, it fails with the line that it
started on.
-/

namespace LoxExpr

/-! ## First places -/

/-- The first number with a property, or none if no number has it. -/
def IsFirst (P : Nat → Prop) : Option Nat → Prop
  | some n => P n ∧ ∀ m < n, ¬P m
  | none => ∀ n, ¬P n

section
variable {P Q : Nat → Prop} {o : Option Nat}

theorem IsFirst.eq_none (h : IsFirst P o) (hP : ∀ n, ¬P n) : o = none := by
  cases o with
  | none => rfl
  | some n => exact absurd h.1 (hP n)

theorem IsFirst.eq_some (h : IsFirst P o) {n : Nat} (hn : P n) (hfirst : ∀ m < n, ¬P m) :
    o = some n := by
  cases o with
  | none => exact absurd hn (h n)
  | some m =>
    obtain hlt | rfl | hlt := Nat.lt_trichotomy m n
    · exact absurd h.1 (hfirst m hlt)
    · rfl
    · exact absurd hn (h.2 n hlt)

/-- A property that no number below `k` has is searched for from `k` on. -/
theorem IsFirst.shift (h : IsFirst P o) (k : Nat) (hsmall : ∀ m < k, ¬Q m)
    (hlarge : ∀ n, Q (k + n) ↔ P n) : IsFirst Q (o.map (k + ·)) := by
  have hbelow : ∀ n, (∀ m < n, ¬P m) → ∀ m < k + n, ¬Q m := by
    intro n hno m hm hQ
    obtain hlt | hle := Nat.lt_or_ge m k
    · exact hsmall m hlt hQ
    · obtain ⟨m, rfl⟩ := Nat.exists_eq_add_of_le hle
      exact hno m (by omega) ((hlarge m).1 hQ)
  cases o with
  | none => exact fun n hQ => hbelow (n + 1) (fun m _ => h m) n (by omega) hQ
  | some n => exact ⟨(hlarge n).2 h.1, hbelow n h.2⟩

end

/-! ## Quotes -/

/-- A quote stands at a place of a text, right behind a run of backslashes of even length. -/
structure ClosesAt (text : List Char) (n : Nat) : Prop where
  quote : text[n]? = some '"'
  even : Even ((text.take n).rtakeWhile (· = '\\')).length

instance (text : List Char) (n : Nat) : Decidable (ClosesAt text n) :=
  decidable_of_iff (text[n]? = some '"' ∧ Even ((text.take n).rtakeWhile (· = '\\')).length)
    ⟨fun h => ⟨h.1, h.2⟩, fun h => ⟨h.quote, h.even⟩⟩

section
variable {c : Char} {rest text : List Char}

/-- A run at the end of a text does not go on over another character before it. -/
theorem rtakeWhile_cons_of_neg {p : Char → Bool} (hc : ¬p c) (text : List Char) :
    (c :: text).rtakeWhile p = text.rtakeWhile p := by
  induction text using List.reverseRecOn with
  | nil => exact List.rtakeWhile_concat_neg p [] c hc
  | append_singleton text d ih =>
    rw [← List.cons_append, List.rtakeWhile_concat, List.rtakeWhile_concat, ih]

/-- A backslash and the character that it escapes keep the parity of the run behind them. -/
theorem even_rtakeWhile_escaped (c : Char) (text : List Char) :
    Even (('\\' :: c :: text).rtakeWhile (· = '\\')).length ↔
      Even (text.rtakeWhile (· = '\\')).length := by
  induction text using List.reverseRecOn with
  | nil => by_cases hc : c = '\\' <;> simp [List.rtakeWhile, hc]
  | append_singleton text d ih =>
    rw [← List.cons_append, ← List.cons_append, List.rtakeWhile_concat, List.rtakeWhile_concat]
    split
    · rw [List.length_append, List.length_append, List.length_singleton, Nat.even_add_one,
        Nat.even_add_one, ih]
    · rfl

theorem closesAt_zero_iff : ClosesAt (c :: rest) 0 ↔ c = '"' :=
  ⟨fun h => Option.some.inj h.quote, fun h => ⟨congrArg some h, Even.zero⟩⟩

theorem closesAt_plain (hc : c ≠ '\\') (n : Nat) :
    ClosesAt (c :: rest) (1 + n) ↔ ClosesAt rest n := by
  have hrun := rtakeWhile_cons_of_neg (p := (· = '\\')) (by simpa using hc) (rest.take n)
  rw [Nat.add_comm]
  constructor
  · rintro ⟨hquote, heven⟩
    rw [List.take_succ_cons, hrun] at heven
    exact ⟨hquote, heven⟩
  · rintro ⟨hquote, heven⟩
    refine ⟨hquote, ?_⟩
    rwa [List.take_succ_cons, hrun]

theorem not_closesAt_escaped_one : ¬ClosesAt ('\\' :: rest) 1 := by
  rintro ⟨-, heven⟩
  rw [List.take_succ_cons, List.take_zero] at heven
  exact absurd heven (by decide)

theorem closesAt_escaped (c : Char) (n : Nat) :
    ClosesAt ('\\' :: c :: rest) (2 + n) ↔ ClosesAt rest n := by
  have hrun := even_rtakeWhile_escaped c (rest.take n)
  rw [Nat.add_comm]
  constructor
  · rintro ⟨hquote, heven⟩
    rw [List.take_succ_cons, List.take_succ_cons, hrun] at heven
    exact ⟨hquote, heven⟩
  · rintro ⟨hquote, heven⟩
    refine ⟨hquote, ?_⟩
    rwa [List.take_succ_cons, List.take_succ_cons, hrun]

/-- The quote that closes a string is the first one behind an even run. -/
theorem isFirst_closingQuote? (text : List Char) :
    IsFirst (ClosesAt text) (Piece.closingQuote? 0 text) := by
  -- the recursion counts places on the way, the property counts them from the front
  suffices h : ∀ place : Nat, IsFirst (ClosesAt text) (Piece.closingQuote? 0 text) from h 0
  intro place
  induction place, text using Piece.closingQuote?.induct with
  | case1 => exact fun n h => by simpa using h.quote
  | case2 place rest => exact ⟨closesAt_zero_iff.2 rfl, fun m hm => absurd hm (Nat.not_lt_zero m)⟩
  | case3 place c rest ih =>
    rw [Piece.closingQuote?, closingQuote?_add 2 0]
    refine ih.shift 2 (fun m hm => ?_) (closesAt_escaped c)
    obtain rfl | rfl : m = 0 ∨ m = 1 := by omega
    · exact fun h => absurd (closesAt_zero_iff.1 h) (by decide)
    · exact not_closesAt_escaped_one
  | case4 place c rest hquote hescape ih =>
    rw [Piece.closingQuote?.eq_4 0 c rest hquote hescape, closingQuote?_add 1 0]
    have hzero : ∀ m < 1, ¬ClosesAt (c :: rest) m := by
      intro m hm h
      obtain rfl : m = 0 := Nat.lt_one_iff.1 hm
      exact hquote (closesAt_zero_iff.1 h)
    by_cases hbackslash : c = '\\'
    · -- nothing is left that the backslash could escape
      cases rest with
      | cons d more => exact absurd rfl (hescape d more hbackslash)
      | nil =>
        refine ih.shift 1 hzero fun n => ?_
        exact ⟨fun h => by simpa using h.quote, fun h => by simpa using h.quote⟩
    · exact ih.shift 1 hzero (closesAt_plain hbackslash)

/-! ## Marks -/

/-- The mark that closes a comment stands at a place of a text. -/
def MarkAt (text : List Char) (n : Nat) : Prop := ['*', '/'] <+: text.drop n

instance (text : List Char) (n : Nat) : Decidable (MarkAt text n) :=
  inferInstanceAs (Decidable (_ <+: _))

/-- The mark that closes a comment is the first one. -/
theorem isFirst_closingMark? (text : List Char) :
    IsFirst (MarkAt text) (Piece.closingMark? 0 text) := by
  suffices h : ∀ place : Nat, IsFirst (MarkAt text) (Piece.closingMark? 0 text) from h 0
  intro place
  induction place, text using Piece.closingMark?.induct with
  | case1 => exact fun n h => by simp [MarkAt] at h
  | case2 place rest =>
    exact ⟨List.prefix_append ['*', '/'] rest, fun m hm => absurd hm (Nat.not_lt_zero m)⟩
  | case3 place c rest hmark ih =>
    rw [Piece.closingMark?.eq_3 0 c rest hmark, closingMark?_add 1 0]
    refine ih.shift 1 (fun m hm h => ?_) fun n => ?_
    · obtain rfl : m = 0 := Nat.lt_one_iff.1 hm
      obtain ⟨rfl, more, hmore⟩ := List.cons_prefix_cons.1 h
      exact hmark more rfl hmore.symm
    · rw [MarkAt, Nat.add_comm, List.drop_succ_cons, MarkAt]

/-! ## The scanner behind them -/

namespace Scanner

variable {s : Scanner} {n : Nat}

/-- Behind the quote that closes a string. -/
theorem string_of_closesAt (h : s.rest = '"' :: text) (hn : ClosesAt text n)
    (hfirst : ∀ m < n, ¬ClosesAt text m) :
    s.mark.skip.string = (.ok (),
      { s with
        start := s.cursor
        cursor := s.cursor + n + 2
        line := s.line + (text.take n).count '\n'
        tokens := s.tokens.push ⟨.string, .ofList ('"' :: (text.take n ++ ['"'])),
          .text (.ofList (text.take n)), s.line + (text.take n).count '\n'⟩ }) := by
  have hclose := (isFirst_closingQuote? text).eq_some hn hfirst
  have htake : text.take (n + 1) = text.take n ++ ['"'] := by
    rw [List.take_add_one, hn.quote]
    rfl
  have hlength : (text.take n).length = n := by
    rw [List.length_take]
    have hlt := (List.getElem?_eq_some_iff.1 hn.quote).1
    omega
  have hpiece : Piece.string text = ⟨'"' :: (text.take n ++ ['"']),
      .token .string (.text (.ofList (text.take n)))⟩ := by
    simp only [Piece.string, hclose, htake]
  have hprefix : '"' :: (text.take n ++ ['"']) <+: s.rest := by
    rw [h, ← htake]
    exact List.cons_prefix_cons.2 ⟨rfl, List.take_prefix _ _⟩
  rw [string_eq h, hpiece, absorb_of_token rfl, addToken_behind hprefix]
  simp [Piece.newlines, hlength, Nat.add_assoc]

theorem string_of_not_closesAt (h : s.rest = '"' :: text) (hopen : ∀ n, ¬ClosesAt text n) :
    s.mark.skip.string =
      (.error (.scan ⟨.unterminatedString, s.line⟩), s.mark.past (text.length + 1)) := by
  have hclose := (isFirst_closingQuote? text).eq_none hopen
  have hpiece : Piece.string text = ⟨'"' :: text, .fault .unterminatedString⟩ := by
    simp only [Piece.string, hclose]
  rw [string_eq h, hpiece]
  rfl

/-- Behind the mark that closes a comment. -/
theorem blockComment_of_markAt (h : s.rest = '/' :: '*' :: text) (hn : MarkAt text n)
    (hfirst : ∀ m < n, ¬MarkAt text m) :
    s.mark.skip.skip.blockComment = (.ok (),
      { s with
        start := s.cursor
        cursor := s.cursor + n + 4
        line := s.line + (text.take (n + 2)).count '\n' }) := by
  have hclose := (isFirst_closingMark? text).eq_some hn hfirst
  have hlength : (text.take (n + 2)).length = n + 2 := by
    have hle := hn.length_le
    simp only [List.length_drop, List.length_cons, List.length_nil] at hle
    rw [List.length_take]
    omega
  have hpiece : Piece.slash ('*' :: text) = ⟨'/' :: '*' :: text.take (n + 2), .gap⟩ := by
    simp only [Piece.slash, hclose]
  have hprefix : '/' :: '*' :: text.take (n + 2) <+: s.rest := by
    rw [h]
    exact List.cons_prefix_cons.2 ⟨rfl, List.cons_prefix_cons.2 ⟨rfl, List.take_prefix _ _⟩⟩
  have hgap : s.absorb ⟨'/' :: '*' :: text.take (n + 2), .gap⟩ =
      (.ok (), s.behind ⟨'/' :: '*' :: text.take (n + 2), .gap⟩) := rfl
  rw [blockComment_eq h, hpiece, hgap, behind_eq hprefix]
  simp [Piece.newlines, hlength, Nat.add_assoc]

theorem blockComment_of_not_markAt (h : s.rest = '/' :: '*' :: text) (hopen : ∀ n, ¬MarkAt text n) :
    s.mark.skip.skip.blockComment =
      (.error (.scan ⟨.unterminatedComment, s.line⟩), s.mark.past (text.length + 2)) := by
  have hclose := (isFirst_closingMark? text).eq_none hopen
  have hpiece : Piece.slash ('*' :: text) = ⟨'/' :: '*' :: text, .fault .unterminatedComment⟩ := by
    simp only [Piece.slash, hclose]
  rw [blockComment_eq h, hpiece]
  rfl

/-- A search that succeeds if there is a place, and fails in one way if there is none, does either
in no other case. -/
theorem search_iff {P : Nat → Prop} {outcome : Except Failure Unit × Scanner} {error : ScanError}
    {t : Scanner} (hfound : (∃ n, P n) → outcome.1 = .ok ())
    (hnone : (∀ n, ¬P n) → outcome = (.error (.scan error), t)) :
    (outcome.1 = .ok () ↔ ∃ n, P n) ∧
      ((∃ error' t', outcome = (.error (.scan error'), t') ∧
        error'.diagnostic = error.diagnostic) ↔ ∀ n, ¬P n) := by
  refine ⟨⟨fun hok => ?_, hfound⟩, ?_, fun hno => ⟨error, t, hnone hno, rfl⟩⟩
  · by_contra hno
    rw [hnone (not_exists.1 hno)] at hok
    cases hok
  · rintro ⟨error', t', heq, -⟩ n hn
    have hok := hfound ⟨n, hn⟩
    rw [heq] at hok
    cases hok

end Scanner

end

/-! ## Strings and comments -/

/-- Behind the quote that opens a string, the scanner looks for a quote that stands behind an even
number of backslashes. If there is one, then it stops behind the first such quote: the token has
the text between the quotes as it is, and the lines are counted by all the line breaks in it.
Otherwise it fails, with the line of the quote that opens the string. -/
theorem string_exact (s : Scanner) (text : List Char) (h : s.rest = '"' :: text) :
    s.scanPiece = s.mark.skip.string ∧
      (s.mark.skip.string.1 = .ok () ↔ ∃ n, ClosesAt text n) ∧
      (∀ n, ClosesAt text n → (∀ m < n, ¬ClosesAt text m) →
        s.mark.skip.string = (.ok (),
          { s with
            start := s.cursor
            cursor := s.cursor + n + 2
            line := s.line + (text.take n).count '\n'
            tokens := s.tokens.push ⟨.string, .ofList ('"' :: (text.take n ++ ['"'])),
              .text (.ofList (text.take n)), s.line + (text.take n).count '\n'⟩ })) ∧
      ((∃ error t, s.mark.skip.string = (.error (.scan error), t) ∧
          error.diagnostic = ⟨"Unterminated string.", some (.ofLine s.line)⟩) ↔
        ∀ n, ¬ClosesAt text n) := by
  have hpiece : s.scanPiece = s.mark.skip.string := by
    rw [Scanner.scanPiece_eq, h, Scanner.string_eq h]
    rfl
  have hclosed : (∃ n, ClosesAt text n) → s.mark.skip.string.1 = .ok () := by
    intro hex
    rw [Scanner.string_of_closesAt h (Nat.find_spec hex) fun _ => Nat.find_min hex]
  obtain ⟨hok, herror⟩ := Scanner.search_iff hclosed (Scanner.string_of_not_closesAt h)
  exact ⟨hpiece, hok, fun _ => Scanner.string_of_closesAt h, herror⟩

/-- The first quote of `\"⏎\\"` is escaped, and the second one is not. -/
theorem string_exact_of_backslashes :
    let s := Scanner.ofSource "\"\\\"\n\\\\\""
    let text := "\\\"\n\\\\\"".toList
    s.rest = '"' :: text ∧ ClosesAt text 5 ∧ (∀ m < 5, ¬ClosesAt text m) ∧
      s.scanPiece = (.ok (), ⟨s.source, 0, 7, 2,
        #[⟨.string, "\"\\\"\n\\\\\"", .text "\\\"\n\\\\", 2⟩]⟩) := by
  intro s text
  have hrest : s.rest = '"' :: text := by decide
  have hcloses : ClosesAt text 5 := by decide
  have hfirst : ∀ m < 5, ¬ClosesAt text m := by decide
  obtain ⟨hpiece, -, hstring, -⟩ := string_exact s text hrest
  refine ⟨hrest, hcloses, hfirst, ?_⟩
  rw [hpiece, hstring 5 hcloses hfirst]
  rfl

/-- Behind the mark that opens a block comment, the scanner looks for the mark that closes it. If
there is one, then it stops behind the first one, with all the line breaks before it counted and no
token added. Otherwise it fails, with the line of the mark that opens the comment. -/
theorem blockComment_exact (s : Scanner) (text : List Char) (h : s.rest = '/' :: '*' :: text) :
    s.scanPiece = s.mark.skip.skip.blockComment ∧
      (s.mark.skip.skip.blockComment.1 = .ok () ↔ ∃ n, MarkAt text n) ∧
      (∀ n, MarkAt text n → (∀ m < n, ¬MarkAt text m) →
        s.mark.skip.skip.blockComment = (.ok (),
          { s with
            start := s.cursor
            cursor := s.cursor + n + 4
            line := s.line + (text.take (n + 2)).count '\n' })) ∧
      ((∃ error t, s.mark.skip.skip.blockComment = (.error (.scan error), t) ∧
          error.diagnostic = ⟨"Unterminated block comment.", some (.ofLine s.line)⟩) ↔
        ∀ n, ¬MarkAt text n) := by
  have hpiece : s.scanPiece = s.mark.skip.skip.blockComment := by
    rw [Scanner.scanPiece_eq, h, Scanner.blockComment_eq h]
    rfl
  have hclosed : (∃ n, MarkAt text n) → s.mark.skip.skip.blockComment.1 = .ok () := by
    intro hex
    rw [Scanner.blockComment_of_markAt h (Nat.find_spec hex) fun _ => Nat.find_min hex]
  obtain ⟨hok, herror⟩ := Scanner.search_iff hclosed (Scanner.blockComment_of_not_markAt h)
  exact ⟨hpiece, hok, fun _ => Scanner.blockComment_of_markAt h, herror⟩

/-- The star of `/*` is no part of the mark that closes `/*/⏎***/`. -/
theorem blockComment_exact_of_stars :
    let s := Scanner.ofSource "/*/\n***/"
    let text := "/\n***/".toList
    s.rest = '/' :: '*' :: text ∧ MarkAt text 4 ∧ (∀ m < 4, ¬MarkAt text m) ∧
      s.scanPiece = (.ok (), ⟨s.source, 0, 8, 2, #[]⟩) := by
  intro s text
  have hrest : s.rest = '/' :: '*' :: text := by decide
  have hmark : MarkAt text 4 := by decide
  have hfirst : ∀ m < 4, ¬MarkAt text m := by decide
  obtain ⟨hpiece, -, hcomment, -⟩ := blockComment_exact s text hrest
  refine ⟨hrest, hmark, hfirst, ?_⟩
  rw [hpiece, hcomment 4 hmark hfirst]
  rfl

end LoxExpr
