import LoxExpr.Proofs.Token.Spaced

/-!
# Texts joined by a line break

A line break begins no lexeme, so nothing that is complete before it goes on behind it. Main
statement `scan_newline`: a text that is scanned, a line break and another text are scanned like the
one and then the other, further down by the lines of the first.
-/

namespace LoxExpr

/-! ## Further down -/

/-- A token some lines further down. -/
def Token.down (lines : Int) (t : Token) : Token := { t with line := t.line + lines }

/-- A fault some lines further down. -/
def ScanError.down (lines : Int) (e : ScanError) : ScanError := { e with line := e.line + lines }

section
variable {line : Int} {text rest more : List Char} {kind : Kind} {literal : Literal}
  {result : Except ScanError (List Token)}

/-- A text that begins some lines further down is scanned in the same way there. -/
theorem Scans.down (h : Scans line text result) (lines : Int) :
    Scans (line + lines) text ((result.map (List.map (Token.down lines))).mapError
      (ScanError.down lines)) := by
  induction h with
  | ended => exact .ended
  | gap hgap _ ih =>
    rw [Int.add_right_comm] at ih
    exact .gap hgap ih
  | @token line text rest kind literal result hlexeme hlongest _ ih =>
    rw [Int.add_right_comm] at ih
    have htoken := Scans.token hlexeme hlongest ih
    rw [Int.add_right_comm] at htoken
    cases result <;> exact htoken
  | fault hfault => exact .fault hfault

/-! ## Before a line break -/

theorem not_lexical_newline (more : List Char) : ¬Lexical ('\n' :: more) :=
  not_lexical_of_blank (by simp)

/-- A comment that reaches the end of the text reaches the line break behind it. -/
theorem IsGap.before_newline (h : IsGap text rest) (more : List Char) :
    IsGap text (rest ++ '\n' :: more) := by
  cases h with
  | blank h => exact .blank h
  | lineComment hbody hend =>
    refine .lineComment hbody ?_
    cases rest with
    | nil => simp
    | cons c rest => exact hend
  | blockComment hbody => exact .blockComment hbody

theorem IsLongest.before_newline (h : IsLongest text rest) (hlexeme : Lexeme kind text literal)
    (more : List Char) : IsLongest text (rest ++ '\n' :: more) := by
  intro other hother hfront
  rw [← List.append_assoc] at hfront
  rcases hlexeme.prefix_of_character not_lexical_newline hother hfront with hle | hbefore
  · exact hle
  · exact h other hother hbefore

theorem Scans.newline (h : Scans (line + 1) more result) : Scans line ('\n' :: more) result := by
  have hgap : IsGap ['\n'] more := .blank (by simp)
  exact .gap hgap (by simpa using h)

/-- The tokens of a text stay as they are before a line break and another text. Only the end of the
input is not where it was. -/
theorem Scans.append_newline (h : Scans line text result) {tokens : List Token}
    (hresult : result = .ok tokens) :
    ∃ before, tokens = before ++ [⟨.eof, "", .absent, line + text.count '\n'⟩] ∧
      ∀ more result', Scans (line + text.count '\n' + 1) more result' →
        Scans line (text ++ '\n' :: more) (result'.map (before ++ ·)) := by
  induction h generalizing tokens with
  | ended =>
    cases hresult
    refine ⟨[], by simp, fun more result' hmore => ?_⟩
    have hbreak := Scans.newline (by simpa using hmore)
    cases result' <;> exact hbreak
  | @gap line text rest result hgap _ ih =>
    obtain ⟨before, rfl, hbefore⟩ := ih hresult
    rw [List.count_append, Int.natCast_add, ← Int.add_assoc]
    refine ⟨before, rfl, fun more result' hmore => ?_⟩
    rw [List.append_assoc]
    exact .gap (hgap.before_newline more) (hbefore more result' hmore)
  | @token line text rest kind literal result hlexeme hlongest _ ih =>
    cases result with
    | error error => cases hresult
    | ok tokens' =>
      obtain rfl := Except.ok.inj hresult
      obtain ⟨before, rfl, hbefore⟩ := ih rfl
      rw [List.count_append, Int.natCast_add, ← Int.add_assoc]
      refine ⟨⟨kind, .ofList text, literal, line + text.count '\n'⟩ :: before, rfl, ?_⟩
      intro more result' hmore
      have htoken := Scans.token hlexeme (hlongest.before_newline hlexeme more)
        (hbefore more result' hmore)
      rw [List.append_assoc]
      cases result' <;> exact htoken
  | fault => cases hresult

end

/-! ## Joined texts -/

/-- Behind a text that is scanned and a line break, scanning begins anew. The tokens are those of
the first text without its end, and then those of the second; a fault of the second is a fault
of the whole, with the same message. What comes from the second is further down by the lines of the
first. -/
theorem scan_newline {a : String} {tokens : List Token} (h : scan a = .ok tokens) (b : String) :
    let lines : Int := 1 + a.toList.count '\n'
    ∃ before last, tokens = before ++ [⟨.eof, "", .absent, last⟩] ∧
      (∀ t ∈ before, t.kind ≠ .eof) ∧
      (∀ more, scan b = .ok more →
        scan (a ++ "\n" ++ b) = .ok (before ++ more.map (Token.down lines))) ∧
      ∀ error, scan b = .error error →
        scan (a ++ "\n" ++ b) = .error (error.down lines) ∧
          (error.down lines).diagnostic.text = error.diagnostic.text := by
  intro lines
  obtain ⟨before, last, rfl, hkinds, -⟩ := (scan_scans a).cut h
  obtain ⟨before', heq, hbefore⟩ := (scan_scans a).append_newline h
  obtain ⟨rfl, -⟩ := List.append_singleton_inj.1 heq
  have hjoined : scan (a ++ "\n" ++ b) = (((scan b).map (List.map (Token.down lines))).mapError
      (ScanError.down lines)).map (before ++ ·) := by
    have hbelow := (scan_scans b).down lines
    rw [show 1 + lines = 1 + (a.toList.count '\n' : Int) + 1 by omega] at hbelow
    simpa [scan_eq_iff] using hbefore _ _ hbelow
  refine ⟨before, last, rfl, hkinds, fun more hmore => ?_, fun error herror => ?_⟩
  · rw [hjoined, hmore]
    rfl
  · rw [hjoined, herror]
    exact ⟨rfl, rfl⟩

/-- The first text ends in a comment behind half of an operator, and the second begins with the
other half. -/
theorem scan_newline_half_operator :
    scan "\"\n\"<//" = .ok ([⟨.string, "\"\n\"", .text "\n", 2⟩, ⟨.less, "<", .absent, 2⟩] ++
        [⟨.eof, "", .absent, 2⟩]) ∧
      scan ("\"\n\"<//" ++ "\n" ++ "=\n0") = .ok
        [⟨.string, "\"\n\"", .text "\n", 2⟩, ⟨.less, "<", .absent, 2⟩, ⟨.equal, "=", .absent, 3⟩,
          ⟨.number, "0", .number (.zero false), 4⟩, ⟨.eof, "", .absent, 4⟩] ∧
      scan ("\"\n\"<//" ++ "\n" ++ "=\n@") = .error ⟨.unexpectedCharacter '@', 4⟩ := by
  have hscan : scan "\"\n\"<//" = .ok
      ([⟨.string, "\"\n\"", .text "\n", 2⟩, ⟨.less, "<", .absent, 2⟩] ++
        [⟨.eof, "", .absent, 2⟩]) := by
    cbv
  have hnumber : scan "=\n0" = .ok [⟨.equal, "=", .absent, 1⟩,
      ⟨.number, "0", .number (.zero false), 2⟩, ⟨.eof, "", .absent, 2⟩] := by
    cbv
  have hfault : scan "=\n@" = .error ⟨.unexpectedCharacter '@', 2⟩ := by
    cbv
  obtain ⟨before, last, htokens, -, hjoined, -⟩ := scan_newline hscan "=\n0"
  obtain ⟨-, -, -, -, -, hjoined'⟩ := scan_newline hscan "=\n@"
  obtain ⟨rfl, -⟩ := List.append_singleton_inj.1 htokens
  exact ⟨hscan, hjoined _ hnumber, (hjoined' _ hfault).1⟩

end LoxExpr
