import LoxExpr.Proofs.Token.Stepwise

/-!
# Where a scanner can stand

A scanned piece moves a scanner over part of the rest of its text and adds one token at most
(`Scanner.scanPiece_spec`). Main statement `scanner_law`: whatever steps are taken, also after
failures, the mark, the cursor and the line keep agreeing with the source text, tokens are only
added, and scanning on comes to an end.
-/

namespace LoxExpr

namespace Scanner

/-! ## Steps -/

/-- What can be asked of a scanner. -/
inductive Step
  | scanPiece
  | scanAll
  | peek (offset : Int)
  | atEnd
  | mark
  | addToken (kind : Kind) (literal : Literal)
  /-- Matching a single character, which is no line break. -/
  | accept (c : Char) (hbreak : c ≠ '\n')

/-- Takes a step. Of its answer only the failure is kept. -/
def perform (s : Scanner) : Step → Except Failure Unit × Scanner
  | .scanPiece => s.scanPiece
  | .scanAll => s.scanAll
  | .peek offset => ((s.peek offset).map fun _ => (), s)
  | .atEnd => (.ok (), s)
  | .mark => (.ok (), s.mark)
  | .addToken kind literal => (.ok (), s.addToken kind literal)
  | .accept c _ => (.ok (), (s.accept (.singleton c)).2)

/-- Takes steps one after the other, whether they fail or not. -/
def play (s : Scanner) (steps : List Step) : Scanner :=
  steps.foldl (fun s step => (s.perform step).2) s

/-- The mark, the cursor and the line agree with the source text. -/
structure Sound (s : Scanner) (source : String) : Prop where
  source : s.source = source.toList
  start_le : s.start ≤ s.cursor
  cursor_le : s.cursor ≤ s.source.length
  line : s.line = 1 + (s.source.take s.cursor).count '\n'

/-- Piece by piece, a scanner comes to the end of its text or to a failure. -/
inductive ScansTo : Scanner → Nat → Except Failure Unit × Scanner → Prop
  | ended {s : Scanner} (h : s.atEnd) : ScansTo s 0 (.ok (), s.addEnd)
  | failed {s t : Scanner} {failure : Failure} (h : ¬s.atEnd)
      (hpiece : s.scanPiece = (.error failure, t)) : ScansTo s 1 (.error failure, t)
  | next {s t : Scanner} {n : Nat} {outcome : Except Failure Unit × Scanner} (h : ¬s.atEnd)
      (hpiece : s.scanPiece = (.ok (), t)) (hmore : ScansTo t n outcome) :
      ScansTo s (n + 1) outcome

section
variable {s t : Scanner} {source : String} {c : Char} {rest : List Char}

/-! ## One piece -/

/-- A piece takes at least one of the characters that are left, and adds a token or none; a
faulty one adds none. -/
theorem scanPiece_spec (h : s.rest = c :: rest) :
    ∃ n, 0 < n ∧ n ≤ s.rest.length ∧
      (s.scanPiece.2 = s.mark.past n ∨
        s.scanPiece.1 = .ok () ∧
          ∃ kind literal, s.scanPiece.2 = (s.mark.past n).addToken kind literal) := by
  have hlength := (Piece.front_text_isPrefix c rest).length_le
  have hpos := List.length_pos_iff.2 (Piece.front_text_ne_nil c rest)
  refine ⟨_, hpos, h ▸ hlength, ?_⟩
  simp only [scanPiece_eq, h, absorb]
  cases (Piece.front c rest).content with
  | gap => exact .inl rfl
  | token kind literal => exact .inr ⟨rfl, kind, literal, rfl⟩
  | fault fault => exact .inl rfl

theorem scanPiece_of_end (h : s.rest = []) : s.scanPiece = (.error .outOfText, s.mark) := by
  rw [scanPiece_eq, h]

/-! ## Places -/

theorem sound_ofSource (source : String) : (ofSource source).Sound source :=
  ⟨rfl, Nat.le_refl 0, Nat.zero_le _, rfl⟩

theorem Sound.mark (h : s.Sound source) : s.mark.Sound source :=
  ⟨h.source, Nat.le_refl _, h.cursor_le, h.line⟩

theorem Sound.addToken (h : s.Sound source) (kind : Kind) (literal : Literal) :
    (s.addToken kind literal).Sound source :=
  ⟨h.source, h.start_le, h.cursor_le, h.line⟩

theorem Sound.past (h : s.Sound source) {n : Nat} (hn : n ≤ s.rest.length) :
    (s.past n).Sound source where
  source := h.source
  start_le := Nat.le_add_right_of_le h.start_le
  cursor_le := by
    have hle := h.cursor_le
    simp only [Scanner.rest, List.length_drop] at hn
    simp only [Scanner.past]
    omega
  line := by
    have hcount : (s.source.take (s.cursor + n)).count '\n' =
        (s.source.take s.cursor).count '\n' + (s.rest.take n).count '\n' := by
      rw [List.take_add, List.count_append, Scanner.rest]
    simp only [Scanner.past]
    rw [hcount, h.line, Int.natCast_add, Int.add_assoc]

theorem Sound.scanPiece (h : s.Sound source) : s.scanPiece.2.Sound source := by
  cases hrest : s.rest with
  | nil =>
    rw [scanPiece_of_end hrest]
    exact h.mark
  | cons c rest =>
    obtain ⟨n, -, hn, heq | ⟨-, kind, literal, heq⟩⟩ := scanPiece_spec hrest
    · rw [heq]
      exact h.mark.past hn
    · rw [heq]
      exact (h.mark.past hn).addToken kind literal

theorem Sound.scanAll (h : s.Sound source) : s.scanAll.2.Sound source := by
  fun_induction Scanner.scanAll s with
  | case1 s hnext => exact ⟨h.source, h.start_le, h.cursor_le, h.line⟩
  | case2 s c hnext t hpiece ih =>
    have ht := h.scanPiece
    rw [hpiece] at ht
    exact ih ht
  | case3 s c hnext failure t hpiece =>
    have ht := h.scanPiece
    rwa [hpiece] at ht

theorem Sound.accept (h : s.Sound source) (hc : c ≠ '\n') :
    (s.accept (.singleton c)).2.Sound source := by
  rw [accept_singleton]
  split
  · next hnext =>
    obtain ⟨rest, hrest⟩ := next?_eq_some_iff.1 hnext
    rw [skip_eq_past hrest hc]
    exact h.past (by simp [hrest])
  · exact h

theorem Sound.perform (h : s.Sound source) (step : Step) : (s.perform step).2.Sound source := by
  cases step with
  | scanPiece => exact h.scanPiece
  | scanAll => exact h.scanAll
  | peek offset => exact h
  | atEnd => exact h
  | mark => exact h.mark
  | addToken kind literal => exact h.addToken kind literal
  | accept c hbreak => exact h.accept hbreak

theorem Sound.play (h : s.Sound source) (steps : List Step) : (s.play steps).Sound source := by
  induction steps generalizing s with
  | nil => exact h
  | cons step steps ih => exact ih (h.perform step)

/-! ## Tokens -/

theorem tokens_scanPiece (s : Scanner) :
    s.scanPiece.2.tokens = s.tokens ∨
      s.scanPiece.1 = .ok () ∧ ∃ t, s.scanPiece.2.tokens = s.tokens.push t := by
  cases hrest : s.rest with
  | nil => exact .inl (by rw [scanPiece_of_end hrest]; rfl)
  | cons c rest =>
    obtain ⟨n, -, -, heq | ⟨hok, kind, literal, heq⟩⟩ := scanPiece_spec hrest
    · exact .inl (by rw [heq]; rfl)
    · exact .inr ⟨hok, _, by rw [heq]; rfl⟩

theorem tokens_isPrefix_scanPiece (s : Scanner) :
    s.tokens.toList <+: s.scanPiece.2.tokens.toList := by
  obtain heq | ⟨-, t, heq⟩ := tokens_scanPiece s
  · rw [heq]
  · rw [heq, Array.toList_push]
    exact List.prefix_append _ _

theorem tokens_eq_of_scanPiece_error {failure : Failure} (h : s.scanPiece.1 = .error failure) :
    s.scanPiece.2.tokens = s.tokens := by
  obtain heq | ⟨hok, -⟩ := tokens_scanPiece s
  · exact heq
  · rw [hok] at h
    cases h

theorem size_le_of_scanPiece {result : Except Failure Unit} (h : s.scanPiece = (result, t)) :
    t.tokens.size ≤ s.tokens.size + 1 := by
  obtain heq | ⟨-, token, heq⟩ := tokens_scanPiece s
  · rw [h] at heq
    exact Nat.le_succ_of_le (Nat.le_of_eq (congrArg Array.size heq))
  · rw [h] at heq
    exact Nat.le_of_eq ((congrArg Array.size heq).trans (Array.size_push token))

theorem tokens_isPrefix_scanAll (s : Scanner) : s.tokens.toList <+: s.scanAll.2.tokens.toList := by
  fun_induction Scanner.scanAll s with
  | case1 s hnext =>
    simp only [addEnd, Array.toList_push]
    exact List.prefix_append _ _
  | case2 s c hnext t hpiece ih =>
    have ht := tokens_isPrefix_scanPiece s
    rw [hpiece] at ht
    exact ht.trans ih
  | case3 s c hnext failure t hpiece =>
    have ht := tokens_isPrefix_scanPiece s
    rwa [hpiece] at ht

theorem tokens_isPrefix_perform (s : Scanner) (step : Step) :
    s.tokens.toList <+: (s.perform step).2.tokens.toList := by
  cases step with
  | scanPiece => exact tokens_isPrefix_scanPiece s
  | scanAll => exact tokens_isPrefix_scanAll s
  | peek offset => exact List.prefix_rfl
  | atEnd => exact List.prefix_rfl
  | mark => exact List.prefix_rfl
  | addToken kind literal =>
    simp only [perform, addToken, Array.toList_push]
    exact List.prefix_append _ _
  | accept c hbreak =>
    simp only [perform, accept]
    split <;> exact List.prefix_rfl

theorem tokens_isPrefix_play (s : Scanner) (steps : List Step) :
    s.tokens.toList <+: (s.play steps).tokens.toList := by
  induction steps generalizing s with
  | nil => exact List.prefix_rfl
  | cons step steps ih => exact (tokens_isPrefix_perform s step).trans (ih _)

/-! ## Progress -/

theorem cursor_lt_scanPiece (h : s.cursor < s.source.length) : s.cursor < s.scanPiece.2.cursor := by
  have hnext : s.next? = some s.source[s.cursor] := List.getElem?_eq_getElem h
  exact (precedes_scanPiece hnext).le

theorem not_atEnd_of_next? (h : s.next? = some c) : ¬s.atEnd := by
  have hlt := cursor_lt_of_next? h
  simp only [atEnd, decide_eq_true_eq]
  omega

/-- Scanning to the end takes one character at least for each piece. -/
theorem scansTo_scanAll (s : Scanner) :
    ∃ n, n ≤ s.source.length - s.cursor ∧ s.ScansTo n s.scanAll ∧
      s.scanAll.2.tokens.size ≤ s.tokens.size + n + 1 := by
  fun_induction Scanner.scanAll s with
  | case1 s hnext =>
    have hend : s.atEnd := atEnd_iff.2 (next?_eq_none_iff.1 hnext)
    exact ⟨0, Nat.zero_le _, .ended hend, by simp [addEnd]⟩
  | case2 s c hnext t hpiece ih =>
    obtain ⟨n, hn, hscans, hsize⟩ := ih
    have hlt := left_lt_of_scanPiece hnext hpiece
    have hone := size_le_of_scanPiece hpiece
    exact ⟨n + 1, by omega, .next (not_atEnd_of_next? hnext) hpiece hscans, by omega⟩
  | case3 s c hnext failure t hpiece =>
    have hlt := cursor_lt_of_next? hnext
    have hone := size_le_of_scanPiece hpiece
    exact ⟨1, by omega, .failed (not_atEnd_of_next? hnext) hpiece, by dsimp only; omega⟩

end

end Scanner

/-- Scanning to the end gives the tokens or the error of `scan`. After any steps of a scanner,
failed ones among them: the mark is not behind the cursor, the cursor is not behind the end, and the
line is that of the cursor. Tokens are never taken away by further steps. A piece that is not
scanned adds no token, and any piece moves the cursor on unless it is at the end, so that scanning
to the end takes at most as many pieces as characters are left, and adds at most one token for each
and the one for the end. -/
theorem scanner_law (source : String) :
    (scan source).mapError Scanner.Failure.scan =
        Scanner.collected (Scanner.ofSource source).scanAll ∧
      ∀ before : List Scanner.Step,
        let s := (Scanner.ofSource source).play before
        s.Sound source ∧
          (∀ more, s.tokens.toList <+: (s.play more).tokens.toList) ∧
          (∀ failure, s.scanPiece.1 = .error failure → s.scanPiece.2.tokens = s.tokens) ∧
          (s.cursor < s.source.length → s.cursor < s.scanPiece.2.cursor) ∧
          ∃ n, n ≤ s.source.length - s.cursor ∧ s.ScansTo n s.scanAll ∧
            s.scanAll.2.tokens.size ≤ s.tokens.size + n + 1 := by
  refine ⟨scan_eq_scanAll source, fun before => ?_⟩
  intro s
  exact ⟨(Scanner.sound_ofSource source).play before, s.tokens_isPrefix_play,
    fun _ => Scanner.tokens_eq_of_scanPiece_error, Scanner.cursor_lt_scanPiece,
    s.scansTo_scanAll⟩

end LoxExpr
