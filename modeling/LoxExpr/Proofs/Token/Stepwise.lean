import LoxExpr.Proofs.Token.Front
import LoxExpr.Token.Scanner

/-!
# Scanning step by step is scanning by pieces

Character by character, a scanner moves over the piece at the front of what is left of its text,
also when that piece is faulty (`Scanner.scanPiece_eq`). Main statement `scan_eq_scanAll`: going on
like this to the end gives the tokens, or the failure, of the whole text.
-/

namespace LoxExpr

theorem closingQuote?_add (k place : Nat) (text : List Char) :
    Piece.closingQuote? (k + place) text = (Piece.closingQuote? place text).map (k + ·) := by
  fun_induction Piece.closingQuote? place text with
  | case1 => rfl
  | case2 => rfl
  | case3 place c rest ih => rw [Piece.closingQuote?, Nat.add_assoc, ih]
  | case4 place c rest hquote hescape ih =>
    rw [Piece.closingQuote?.eq_4 _ _ _ hquote hescape, Nat.add_assoc, ih]

theorem closingMark?_add (k place : Nat) (text : List Char) :
    Piece.closingMark? (k + place) text = (Piece.closingMark? place text).map (k + ·) := by
  fun_induction Piece.closingMark? place text with
  | case1 => rfl
  | case2 => rfl
  | case3 place c rest hmark ih => rw [Piece.closingMark?.eq_3 _ _ _ hmark, Nat.add_assoc, ih]

namespace Scanner

/-- The scanner behind the next characters, with the line breaks among them counted. -/
def past (s : Scanner) (n : Nat) : Scanner :=
  { s with cursor := s.cursor + n, line := s.line + (s.rest.take n).count '\n' }

/-- The scanner behind a piece that stands at the cursor. -/
def behind (s : Scanner) (piece : Piece) : Scanner := s.mark.past piece.text.length

/-- What comes of a piece that stands at the cursor. -/
def absorb (s : Scanner) (piece : Piece) : Except Failure Unit × Scanner :=
  match piece.content with
  | .gap => (.ok (), s.behind piece)
  | .token kind literal => (.ok (), (s.behind piece).addToken kind literal)
  | .fault fault => (.error (.scan ⟨fault, s.line⟩), s.behind piece)

section
variable {s : Scanner} {c : Char} {rest text : List Char}

/-! ## Places -/

@[simp] theorem rest_past (s : Scanner) (n : Nat) : (s.past n).rest = s.rest.drop n := by
  simp only [past, Scanner.rest, List.drop_drop]

@[simp] theorem rest_mark (s : Scanner) : s.mark.rest = s.rest := rfl

@[simp] theorem past_zero (s : Scanner) : s.past 0 = s := by
  simp [past]

theorem past_past (s : Scanner) (m n : Nat) : (s.past m).past n = s.past (m + n) := by
  have hcount : (s.rest.take (m + n)).count '\n' =
      (s.rest.take m).count '\n' + ((s.past m).rest.take n).count '\n' := by
    rw [List.take_add, List.count_append, rest_past]
  simp only [past] at hcount ⊢
  rw [hcount, Int.natCast_add, Nat.add_assoc, Int.add_assoc]

theorem next?_eq_head? (s : Scanner) : s.next? = s.rest.head? := by
  simp [next?, Scanner.rest]

theorem next?_eq_some_iff : s.next? = some c ↔ ∃ rest, s.rest = c :: rest := by
  rw [next?_eq_head?, List.head?_eq_some_iff]

theorem next?_eq_none_iff : s.next? = none ↔ s.rest = [] := by
  rw [next?_eq_head?, List.head?_eq_none_iff]

theorem rest_skip (h : s.rest = c :: rest) : s.skip.rest = rest := by
  have hdrop : s.skip.rest = s.rest.drop 1 := by
    simp only [skip, Scanner.rest, List.drop_drop]
  rw [hdrop, h, List.drop_one, List.tail_cons]

theorem atEnd_iff : s.atEnd ↔ s.rest = [] := by
  simp [atEnd, Scanner.rest]

theorem skip_countLine (h : s.rest = c :: rest) : s.skip.countLine c = s.past 1 := by
  unfold countLine past
  rw [h]
  split
  · next hbreak =>
    subst hbreak
    rfl
  · next hbreak => simp [skip, hbreak]

theorem skip_eq_past (h : s.rest = c :: rest) (hc : c ≠ '\n') : s.skip = s.past 1 := by
  rw [← skip_countLine h, countLine, if_neg hc]

theorem source_between (s : Scanner) (n : Nat) :
    (s.source.take (s.cursor + n)).drop s.cursor = s.rest.take n := by
  rw [List.drop_take, Nat.add_sub_cancel_left, Scanner.rest]

/-- Behind a text that stands at the mark, that text is the lexeme. -/
theorem lexeme_past (h : text <+: s.rest) :
    (s.mark.past text.length).lexeme = .ofList text := by
  have htake : s.rest.take text.length = text := (List.prefix_iff_eq_take.1 h).symm
  exact congrArg String.ofList ((source_between s text.length).trans htake)

theorem behind_eq {piece : Piece} (h : piece.text <+: s.rest) :
    s.behind piece =
      { s with
        start := s.cursor
        cursor := s.cursor + piece.text.length
        line := s.line + piece.newlines } := by
  have htake : s.rest.take piece.text.length = piece.text := (List.prefix_iff_eq_take.1 h).symm
  rw [behind, past, rest_mark, htake]
  rfl

theorem addToken_behind {piece : Piece} (h : piece.text <+: s.rest) (kind : Kind)
    (literal : Literal) :
    (s.behind piece).addToken kind literal =
      { s with
        start := s.cursor
        cursor := s.cursor + piece.text.length
        line := s.line + piece.newlines
        tokens := s.tokens.push
          ⟨kind, .ofList piece.text, literal, s.line + piece.newlines⟩ } := by
  have hlexeme : (s.behind piece).lexeme = .ofList piece.text := lexeme_past h
  rw [addToken, hlexeme, behind_eq h]

/-! ## Runs of characters -/

theorem skipWhile_eq {p : Char → Bool} (hp : p '\n' = false) (s : Scanner) :
    s.skipWhile p = s.past (s.rest.takeWhile p).length := by
  fun_induction skipWhile p s with
  | case1 s c hnext hc ih =>
    obtain ⟨rest, hrest⟩ := next?_eq_some_iff.1 hnext
    have hne : c ≠ '\n' := by
      rintro rfl
      rw [hp] at hc
      cases hc
    rw [ih, rest_skip hrest, skip_eq_past hrest hne, past_past, hrest, List.takeWhile_cons,
      if_pos hc, List.length_cons, Nat.add_comm]
  | case2 s c hnext hc =>
    obtain ⟨rest, hrest⟩ := next?_eq_some_iff.1 hnext
    rw [hrest, List.takeWhile_cons, if_neg hc, List.length_nil, past_zero]
  | case3 s hnext =>
    rw [next?_eq_none_iff.1 hnext, List.takeWhile_nil, List.length_nil, past_zero]

/-! ## Closing quotes and marks -/

/-- How many characters there are before the quote that closes a string, or else in all. -/
def quoteDistance (text : List Char) : Nat := (Piece.closingQuote? 0 text).getD text.length

theorem quoteDistance_escaped (c : Char) (rest : List Char) :
    quoteDistance ('\\' :: c :: rest) = 2 + quoteDistance rest := by
  have hshift := closingQuote?_add 2 0 rest
  simp only [quoteDistance, Piece.closingQuote?, hshift, List.length_cons]
  cases Piece.closingQuote? 0 rest with
  | none =>
    simp only [Option.map_none, Option.getD_none]
    omega
  | some n => rfl

theorem quoteDistance_plain (hquote : c ≠ '"') (hescape : ∀ d more, c = '\\' → rest ≠ d :: more) :
    quoteDistance (c :: rest) = 1 + quoteDistance rest := by
  have hshift := closingQuote?_add 1 0 rest
  have hnext := Piece.closingQuote?.eq_4 0 c rest hquote fun d more h h' => hescape d more h h'
  simp only [quoteDistance, hnext, hshift, List.length_cons]
  cases Piece.closingQuote? 0 rest <;> simp [Nat.add_comm]

theorem seekQuote_eq (s : Scanner) : s.seekQuote = s.past (quoteDistance s.rest) := by
  fun_induction seekQuote s with
  | case1 s hnext =>
    rw [next?_eq_none_iff.1 hnext]
    exact (past_zero s).symm
  | case2 s hnext =>
    obtain ⟨rest, hrest⟩ := next?_eq_some_iff.1 hnext
    rw [hrest]
    exact (past_zero s).symm
  | case3 s hnext c hescaped ih =>
    obtain ⟨rest, hrest⟩ := next?_eq_some_iff.1 hnext
    obtain ⟨more, hmore⟩ := next?_eq_some_iff.1 hescaped
    obtain rfl : rest = c :: more := (rest_skip hrest).symm.trans hmore
    have hpast : s.skip.skip.countLine c = s.past 2 := by
      rw [skip_countLine hmore, skip_eq_past hrest (by decide), past_past]
    rw [ih, hpast, past_past, rest_past, hrest, quoteDistance_escaped]
    rfl
  | case4 s hnext hend ih =>
    obtain ⟨rest, hrest⟩ := next?_eq_some_iff.1 hnext
    have hnil : rest = [] := (rest_skip hrest).symm.trans (next?_eq_none_iff.1 hend)
    subst hnil
    rw [ih, rest_skip hrest, skip_eq_past hrest (by decide), past_past, hrest]
    rfl
  | case5 s c hquote hbackslash hnext ih =>
    obtain ⟨rest, hrest⟩ := next?_eq_some_iff.1 hnext
    rw [ih, skip_countLine hrest, past_past, rest_past, hrest,
      quoteDistance_plain hquote fun d more h => absurd h hbackslash]
    rfl

/-- How many characters there are up to the end of the mark that closes a comment, or else in
all, and whether there is one. -/
def markEnd (text : List Char) : Bool × Nat :=
  match Piece.closingMark? 0 text with
  | some n => (true, n + 2)
  | none => (false, text.length)

theorem markEnd_cons (hmark : ∀ more, c = '*' → rest ≠ '/' :: more) :
    markEnd (c :: rest) = ((markEnd rest).1, 1 + (markEnd rest).2) := by
  have hshift := closingMark?_add 1 0 rest
  have hnext := Piece.closingMark?.eq_3 0 c rest hmark
  simp only [markEnd, hnext, hshift, List.length_cons]
  cases Piece.closingMark? 0 rest <;> simp [Nat.add_comm, Nat.add_left_comm]

theorem markEnd_pos (c : Char) (rest : List Char) : 0 < (markEnd (c :: rest)).2 := by
  unfold markEnd
  split <;> simp

/-- The star that the mark may begin with, if it is before a text. -/
def starBefore (starred : Bool) : List Char := if starred then ['*'] else []

/-- A character that does not end the mark is passed, and may be a star before the rest. -/
theorem markEnd_starBefore {starred : Bool} (rest : List Char) (h : ¬(starred && c = '/')) :
    (markEnd (starBefore starred ++ c :: rest)).1 = (markEnd (starBefore (c = '*') ++ rest)).1 ∧
      (markEnd (starBefore starred ++ c :: rest)).2 - (starBefore starred).length =
        1 + ((markEnd (starBefore (c = '*') ++ rest)).2 - (starBefore (c = '*')).length) := by
  have hbefore : starred = true → markEnd ('*' :: c :: rest) =
      ((markEnd (c :: rest)).1, 1 + (markEnd (c :: rest)).2) := by
    rintro rfl
    refine markEnd_cons fun more _ hslash => h ?_
    simpa using (List.cons.inj hslash).1
  have hpos := markEnd_pos c rest
  have hrest : c ≠ '*' → markEnd (c :: rest) = ((markEnd rest).1, 1 + (markEnd rest).2) :=
    fun hstar => markEnd_cons fun _ h => absurd h hstar
  by_cases hstar : c = '*'
  · subst hstar
    cases starred with
    | false => exact ⟨rfl, by simp [starBefore]; omega⟩
    | true => simp [starBefore, hbefore]; omega
  · cases starred with
    | false => simp [starBefore, hrest hstar, hstar]
    | true => simp [starBefore, hbefore, hrest hstar, hstar]

theorem seekMark_eq (starred : Bool) (s : Scanner) :
    s.seekMark starred = ((markEnd (starBefore starred ++ s.rest)).1,
      s.past ((markEnd (starBefore starred ++ s.rest)).2 - (starBefore starred).length)) := by
  fun_induction seekMark starred s with
  | case1 starred s hnext =>
    rw [next?_eq_none_iff.1 hnext]
    cases starred <;> exact congrArg (Prod.mk false) (past_zero s).symm
  | case2 starred s c hnext hclosed =>
    obtain ⟨rest, hrest⟩ := next?_eq_some_iff.1 hnext
    obtain ⟨rfl, rfl⟩ : starred = true ∧ c = '/' := by simpa using hclosed
    rw [hrest, skip_eq_past hrest (by decide)]
    rfl
  | case3 starred s c hnext hopen ih =>
    obtain ⟨rest, hrest⟩ := next?_eq_some_iff.1 hnext
    obtain ⟨hclosed, hlength⟩ := markEnd_starBefore rest hopen
    rw [ih, skip_countLine hrest, rest_past, hrest, List.drop_one, List.tail_cons, past_past,
      hclosed, hlength]

/-! ## The front of the text -/

theorem absorb_of_token {piece : Piece} {kind : Kind} {literal : Literal}
    (h : piece.content = .token kind literal) :
    s.absorb piece = (.ok (), (s.behind piece).addToken kind literal) := by
  simp only [absorb, h]

theorem accept_singleton (s : Scanner) (d : Char) :
    s.accept (.singleton d) = if s.next? = some d then (true, s.skip) else (false, s) := by
  have hcurrent : s.current = .singleton d ↔ s.next? = some d := by
    cases hnext : s.next? with
    | none => simp [current, hnext]
    | some e => simp [current, hnext]
  simp only [accept, hcurrent]

theorem operator_eq (h : s.rest = c :: rest) (hc : c ≠ '\n') (kinds : Kind × Kind) :
    (.ok (), s.mark.skip.operator kinds) = s.absorb (Piece.operator c kinds rest) := by
  have hmark : s.mark.rest = c :: rest := h
  have haccept := accept_singleton s.mark.skip '='
  have hnext : s.mark.skip.next? = rest.head? := by rw [next?_eq_head?, rest_skip hmark]
  change s.mark.skip.accept "=" = _ at haccept
  simp only [operator, haccept, hnext]
  by_cases hequal : rest.head? = some '='
  · obtain ⟨more, rfl⟩ := List.head?_eq_some_iff.1 hequal
    rw [absorb_of_token rfl, if_pos hequal, skip_eq_past (rest_skip hmark) (by decide),
      skip_eq_past hmark hc, past_past]
    rfl
  · have hshort : Piece.operator c kinds rest = ⟨[c], .token kinds.1 .absent⟩ := by
      unfold Piece.operator
      split
      · exact absurd rfl hequal
      · rfl
    rw [hshort, absorb_of_token rfl, if_neg hequal, skip_eq_past hmark hc]
    rfl

/-- A run of characters of a class to which the first one belongs. -/
theorem skip_skipWhile {p : Char → Bool} (h : s.rest = c :: rest) (hc : p c) (hp : p '\n' = false) :
    s.skip.skipWhile p = s.past ((c :: rest).takeWhile p).length := by
  have hne : c ≠ '\n' := by
    rintro rfl
    rw [hp] at hc
    cases hc
  rw [skipWhile_eq hp, rest_skip h, skip_eq_past h hne, past_past, List.takeWhile_cons, if_pos hc,
    List.length_cons, Nat.add_comm]

theorem fraction_eq_past (s : Scanner) : s.fraction = s.past (Piece.fraction s.rest).length := by
  by_cases hpoint : ∃ d more, s.rest = '.' :: d :: more ∧ d.isDigit
  · obtain ⟨d, more, hrest, hd⟩ := hpoint
    have hnext : s.next? = some '.' := next?_eq_some_iff.2 ⟨_, hrest⟩
    have hsecond : s.skip.next? = some d := next?_eq_some_iff.2 ⟨_, rest_skip hrest⟩
    have hfraction : Piece.fraction s.rest = '.' :: (d :: more).takeWhile Char.isDigit := by
      simp [Piece.fraction, hrest, hd]
    simp only [fraction, hnext, hsecond, Option.any_some, hd, decide_true, Bool.and_true, if_true]
    rw [skipWhile_eq (by decide), rest_skip hrest, skip_eq_past hrest (by decide), past_past,
      hfraction, List.length_cons, Nat.add_comm]
  · have hfraction : Piece.fraction s.rest = [] := by
      unfold Piece.fraction
      split
      · next d more hrest => exact if_neg fun hd => hpoint ⟨d, more, hrest, hd⟩
      · rfl
    have hno : (s.next? = some '.' && s.skip.next?.any Char.isDigit) = false := by
      refine Bool.eq_false_iff.2 fun hyes => hpoint ?_
      obtain ⟨hfirst, hsecond⟩ := (Bool.and_eq_true _ _).mp hyes
      obtain ⟨rest, hrest⟩ := next?_eq_some_iff.1 (of_decide_eq_true hfirst)
      obtain ⟨d, hnext, hd⟩ := (Option.any_eq_true _ _).1 hsecond
      obtain ⟨more, hmore⟩ := next?_eq_some_iff.1 hnext
      obtain rfl : rest = d :: more := (rest_skip hrest).symm.trans hmore
      exact ⟨d, more, hrest, hd⟩
    rw [fraction, hno, hfraction]
    exact (past_zero s).symm

theorem number_eq (h : s.rest = c :: rest) (hc : c.isDigit) :
    (.ok (), s.mark.skip.number) = s.absorb (Piece.number (c :: rest)) := by
  have hmark : s.mark.rest = c :: rest := h
  have hdigits := skip_skipWhile hmark hc (by decide)
  have hleft : (c :: rest).drop ((c :: rest).takeWhile Char.isDigit).length =
      (c :: rest).dropWhile Char.isDigit := by
    conv_lhs => arg 2; rw [← List.takeWhile_append_dropWhile (p := Char.isDigit) (l := c :: rest)]
    exact List.drop_left
  have hprefix : (Piece.number (c :: rest)).text <+: s.rest :=
    h ▸ Piece.number_text_isPrefix (c :: rest)
  have hlexeme := lexeme_past hprefix
  have hfraction : (s.mark.skip.skipWhile Char.isDigit).fraction =
      s.mark.past (Piece.number (c :: rest)).text.length := by
    rw [hdigits, fraction_eq_past, rest_past, hmark, hleft, past_past]
    simp only [Piece.number, List.length_append]
  rw [absorb_of_token rfl]
  simp only [number, hfraction, hlexeme, String.toList_ofList]
  rfl

theorem word_eq (h : s.rest = c :: rest) (hc : Piece.isWordStart c) :
    (.ok (), s.mark.skip.word) = s.absorb (Piece.word (c :: rest)) := by
  have hmark : s.mark.rest = c :: rest := h
  have hpart : Piece.isWordPart c := by simp [Piece.isWordPart, hc]
  have hrun := skip_skipWhile hmark hpart (by decide)
  have hprefix : (c :: rest).takeWhile Piece.isWordPart <+: s.rest :=
    h ▸ List.takeWhile_prefix Piece.isWordPart
  have hlexeme := lexeme_past hprefix
  rw [absorb_of_token rfl]
  simp only [word, hrun, hlexeme]
  rfl

theorem string_eq (h : s.rest = '"' :: rest) :
    s.mark.skip.string = s.absorb (Piece.string rest) := by
  have hmark : s.mark.rest = '"' :: rest := h
  have hseek : s.mark.skip.seekQuote = s.mark.past (1 + quoteDistance rest) := by
    rw [seekQuote_eq, rest_skip hmark, skip_eq_past hmark (by decide), past_past]
  have hleft : (s.mark.past (1 + quoteDistance rest)).rest = rest.drop (quoteDistance rest) := by
    rw [rest_past, hmark, Nat.add_comm, List.drop_succ_cons]
  unfold Piece.string string
  rw [hseek]
  cases hclose : Piece.closingQuote? 0 rest with
  | none =>
    have hdistance : quoteDistance rest = rest.length := by simp [quoteDistance, hclose]
    rw [hdistance] at hleft ⊢
    have hend : (s.mark.past (1 + rest.length)).atEnd := by
      rw [atEnd_iff, hleft, List.drop_length]
    rw [if_pos hend, Nat.add_comm]
    rfl
  | some n =>
    have hdistance : quoteDistance rest = n := by simp [quoteDistance, hclose]
    obtain ⟨contents, after, -, rfl, hn⟩ := closingQuote?_eq_some hclose
    rw [Nat.zero_add] at hn
    subst hn
    rw [hdistance, List.drop_left] at hleft
    rw [hdistance]
    have hend : ¬(s.mark.past (1 + contents.length)).atEnd := by
      rw [atEnd_iff, hleft]
      exact List.cons_ne_nil _ _
    have hcontents : (s.source.take (s.cursor + (1 + contents.length))).drop (s.cursor + 1) =
        contents := by
      rw [← List.drop_drop, source_between, h, Nat.add_comm, List.take_succ_cons, List.drop_one,
        List.tail_cons, List.take_left]
    have htake : (contents ++ '"' :: after).take contents.length = contents := List.take_left
    have htake' : (contents ++ '"' :: after).take (contents.length + 1) = contents ++ ['"'] :=
      List.take_length_add_append 1
    rw [if_neg hend, skip_eq_past hleft (by decide), past_past]
    have hlength : ('"' :: (contents ++ ['"'])).length = 1 + contents.length + 1 := by
      simp [Nat.add_comm]
    simp only [absorb, behind, htake, htake', hlength]
    exact congrArg (fun text => (Except.ok (), (s.mark.past (1 + contents.length + 1)).addToken
      .string (.text (.ofList text)))) hcontents

theorem blockComment_eq (h : s.rest = '/' :: '*' :: rest) :
    s.mark.skip.skip.blockComment = s.absorb (Piece.slash ('*' :: rest)) := by
  have hmark : s.mark.rest = '/' :: '*' :: rest := h
  have hskip : s.mark.skip.skip = s.mark.past 2 := by
    rw [skip_eq_past (rest_skip hmark) (by decide), skip_eq_past hmark (by decide), past_past]
  have hseek : s.mark.skip.skip.seekMark false =
      ((markEnd rest).1, s.mark.past (2 + (markEnd rest).2)) := by
    rw [seekMark_eq, rest_skip (rest_skip hmark), hskip, past_past]
    rfl
  rw [blockComment, hseek]
  cases hclose : Piece.closingMark? 0 rest with
  | none =>
    have hend : markEnd rest = (false, rest.length) := by simp only [markEnd, hclose]
    have hpiece : Piece.slash ('*' :: rest) =
        ⟨'/' :: '*' :: rest, .fault .unterminatedComment⟩ := by
      simp only [Piece.slash, hclose]
    rw [hend, hpiece, Nat.add_comm]
    rfl
  | some n =>
    have hend : markEnd rest = (true, n + 2) := by simp only [markEnd, hclose]
    have hpiece : Piece.slash ('*' :: rest) = ⟨'/' :: '*' :: rest.take (n + 2), .gap⟩ := by
      simp only [Piece.slash, hclose]
    obtain ⟨body, after, -, rfl, rfl⟩ := closingMark?_eq_some hclose
    have hlength : ((body ++ '*' :: '/' :: after).take (0 + body.length + 2)).length =
        0 + body.length + 2 := by
      simp
    simp only [hend, hpiece, absorb, behind, List.length_cons, hlength, Nat.add_comm 2, if_true]

theorem slash_eq (h : s.rest = '/' :: rest) :
    s.mark.skip.slash = s.absorb (Piece.slash rest) := by
  have hmark : s.mark.rest = '/' :: rest := h
  have hnext : s.mark.skip.next? = rest.head? := by rw [next?_eq_head?, rest_skip hmark]
  have hline := accept_singleton s.mark.skip '/'
  have hblock := accept_singleton s.mark.skip '*'
  rw [hnext] at hline hblock
  change s.mark.skip.accept "/" = _ at hline
  change s.mark.skip.accept "*" = _ at hblock
  by_cases hslash : rest.head? = some '/'
  · obtain ⟨more, rfl⟩ := List.head?_eq_some_iff.1 hslash
    rw [if_pos hslash] at hline
    simp only [slash, hline, if_true]
    rw [skipWhile_eq (by decide), rest_skip (rest_skip hmark),
      skip_eq_past (rest_skip hmark) (by decide), skip_eq_past hmark (by decide), past_past,
      past_past, Nat.add_comm 1, Nat.add_comm 1]
    rfl
  rw [if_neg hslash] at hline
  by_cases hstar : rest.head? = some '*'
  · obtain ⟨more, rfl⟩ := List.head?_eq_some_iff.1 hstar
    rw [if_pos hstar] at hblock
    simp only [slash, hline, hblock, if_true, if_false, Bool.false_eq_true]
    exact blockComment_eq h
  · rw [if_neg hstar] at hblock
    have hpiece : Piece.slash rest = ⟨['/'], .token .slash .absent⟩ := by
      unfold Piece.slash
      split
      · exact absurd rfl hslash
      · exact absurd rfl hstar
      · rfl
    simp only [slash, hline, hblock, if_false, Bool.false_eq_true]
    rw [hpiece, absorb_of_token rfl, skip_eq_past hmark (by decide)]
    rfl

/-- What a character begins is the piece at the front. -/
theorem dispatch_eq (h : s.rest = c :: rest) :
    s.mark.skip.dispatch c = s.absorb (Piece.front c rest) := by
  have hmark : s.mark.rest = c :: rest := h
  have hpast : c ≠ '\n' → s.mark.skip = s.mark.past 1 := skip_eq_past hmark
  simp only [dispatch, Piece.front]
  cases hsingle : Piece.single? c with
  | some kind =>
    have hc : c ≠ '\n' := by
      rintro rfl
      cases hsingle
    rw [absorb_of_token rfl, hpast hc]
    rfl
  | none =>
    cases hequal : Piece.withEqual? c with
    | some kinds =>
      refine operator_eq h ?_ kinds
      rintro rfl
      cases hequal
    | none =>
      by_cases hslash : c = '/'
      · subst hslash
        exact slash_eq h
      by_cases hbreak : c = '\n'
      · subst hbreak
        have hcount : s.mark.skip.countLine '\n' = s.mark.past 1 := skip_countLine hmark
        exact congrArg (Prod.mk (Except.ok ())) hcount
      by_cases hgap : Piece.isGap c
      · have hblank : (c = ' ' || c = '\t' || c = '\r') = true := by
          simpa [Piece.isGap, hbreak] using hgap
        simp only [hslash, hblank, hgap, if_true, if_false, hpast hbreak]
        rfl
      have hblank : (c = ' ' || c = '\t' || c = '\r') = false := by
        simpa [Piece.isGap, hbreak] using hgap
      simp only [hslash, hblank, hbreak, hgap, if_false]
      by_cases hquote : c = '"'
      · subst hquote
        exact string_eq h
      by_cases hdigit : c.isDigit
      · simp only [hquote, hdigit, if_true, if_false]
        exact number_eq h hdigit
      by_cases hword : Piece.isWordStart c
      · simp only [hquote, hdigit, hword, if_true, if_false]
        exact word_eq h hword
      simp only [hquote, hdigit, hword, if_false, absorb]
      exact congrArg (Prod.mk _) (hpast hbreak)

theorem scanPiece_eq (s : Scanner) :
    s.scanPiece = match s.rest with
      | [] => (.error .outOfText, s.mark)
      | c :: rest => s.absorb (Piece.front c rest) := by
  cases hnext : s.next? with
  | none =>
    have hadvance : s.mark.advance = .error .outOfText := by
      simp only [advance, next?, mark] at hnext ⊢
      rw [hnext]
    simp only [scanPiece, hadvance, next?_eq_none_iff.1 hnext]
  | some c =>
    obtain ⟨rest, hrest⟩ := next?_eq_some_iff.1 hnext
    rw [scanPiece_of_next? hnext, dispatch_eq hrest, hrest]

/-! ## Whole texts -/

/-- The tokens that a scan to the end has collected, if it did not fail. -/
def collected (outcome : Except Failure Unit × Scanner) : Except Failure (List Token) :=
  outcome.1.map fun _ => outcome.2.tokens.toList

/-- A piece that is not faulty is the first of the pieces. -/
theorem pieces_of_not_fault (h : s.rest = c :: rest)
    (hfault : (Piece.front c rest).isFault = false) :
    pieces s.rest = Piece.front c rest :: pieces (s.behind (Piece.front c rest)).rest := by
  obtain ⟨n, hn⟩ := Nat.exists_eq_succ_of_ne_zero
    (mt List.eq_nil_of_length_eq_zero (Piece.front_text_ne_nil c rest))
  rw [behind, rest_past, rest_mark, h, hn, List.drop_succ_cons, pieces]
  simp only [hfault, Bool.false_eq_true, if_false, hn, Nat.succ_sub_one]

theorem collected_scanAll (s : Scanner) :
    collected s.scanAll =
      ((tokensOf s.line (pieces s.rest)).mapError Failure.scan).map (s.tokens.toList ++ ·) := by
  fun_induction scanAll s with
  | case1 s hnext =>
    rw [next?_eq_none_iff.1 hnext, pieces]
    simp [collected, addEnd, tokensOf, Except.map, Except.mapError]
  | case2 s c hnext t hpiece ih =>
    obtain ⟨rest, hrest⟩ := next?_eq_some_iff.1 hnext
    have hprefix : (Piece.front c rest).text <+: s.rest := hrest ▸ Piece.front_text_isPrefix c rest
    have hbehind := behind_eq hprefix
    simp only [scanPiece_eq, hrest, absorb] at hpiece
    cases hcontent : (Piece.front c rest).content with
    | gap =>
      simp only [hcontent, Prod.mk.injEq, true_and] at hpiece
      subst hpiece
      have hline : (s.behind (Piece.front c rest)).line =
          s.line + (Piece.front c rest).newlines := by
        rw [hbehind]
      rw [ih, pieces_of_not_fault hrest (by simp only [Piece.isFault, hcontent]), tokensOf, hline]
      simp only [hcontent]
      rfl
    | token kind literal =>
      simp only [hcontent, Prod.mk.injEq, true_and] at hpiece
      subst hpiece
      have hleft : ((s.behind (Piece.front c rest)).addToken kind literal).rest =
          (s.behind (Piece.front c rest)).rest := rfl
      rw [ih, pieces_of_not_fault hrest (by simp only [Piece.isFault, hcontent]), tokensOf, hleft]
      simp only [hcontent, addToken_behind hprefix, Array.toList_push]
      cases tokensOf (s.line + (Piece.front c rest).newlines)
          (pieces (s.behind (Piece.front c rest)).rest) with
      | error e => rfl
      | ok tokens => simp [bind, Except.bind, Except.map, Except.mapError]
    | fault fault => simp [hcontent] at hpiece
  | case3 s c hnext failure t hpiece =>
    obtain ⟨rest, hrest⟩ := next?_eq_some_iff.1 hnext
    simp only [scanPiece_eq, hrest, absorb] at hpiece
    cases hcontent : (Piece.front c rest).content with
    | gap => simp [hcontent] at hpiece
    | token kind literal => simp [hcontent] at hpiece
    | fault fault =>
      simp only [hcontent, Prod.mk.injEq, Except.error.injEq] at hpiece
      obtain ⟨rfl, rfl⟩ := hpiece
      rw [hrest, pieces]
      simp [Piece.isFault, hcontent, tokensOf, collected, Except.map, Except.mapError]

end

end Scanner

/-- A text is scanned as a scanner scans it that stands at its beginning. -/
theorem scan_eq_scanAll (source : String) :
    (scan source).mapError Scanner.Failure.scan =
      Scanner.collected (Scanner.ofSource source).scanAll := by
  have hall := Scanner.collected_scanAll (Scanner.ofSource source)
  rw [hall]
  change _ = ((scan source).mapError Scanner.Failure.scan).map ([] ++ ·)
  cases scan source <;> rfl

end LoxExpr
