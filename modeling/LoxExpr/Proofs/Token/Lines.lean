import LoxExpr.Proofs.Token.Faults

/-!
# The lines of tokens

Each token of a scan has one place in the source text (`Token.Place`, `Token.Place.unique`). The
line that it carries counts the line breaks up to the end of its lexeme. Main statement
`token_line`: this is the line of the place itself except for a string with a line break in it.
-/

namespace LoxExpr

/-- What a token is without the line it is on. -/
def Token.shape (t : Token) : Kind × String × Literal := (t.kind, t.lexeme, t.literal)

/-- The place of a token in a text: its lexeme follows `front`, which is cut into the tokens before
it, and `rest` follows its lexeme. The token for the end of the input is at the end. -/
structure Token.Place (text : List Char) (before : List Token) (t : Token)
    (front rest : List Char) : Prop where
  split : text = front ++ (t.lexeme.toList ++ rest)
  cut : Cut (t.lexeme.toList ++ rest) front before
  anchored : t.StandsBefore rest ∨ t.kind = .eof ∧ t.lexeme = "" ∧ rest = []

/-! ## One place -/

/-- A lexeme is at the front of a text, the longest there is, or the text is at its end. -/
def Anchored (text : List Char) : Prop :=
  text = [] ∨ ∃ kind lexeme literal rest, text = lexeme ++ rest ∧ Lexeme kind lexeme literal ∧
    IsLongest lexeme rest

section
variable {t u : Token} {text front front' rest rest' layout layout' after after' : List Char}
  {before before' : List Token}

theorem Token.StandsBefore.anchored (h : t.StandsBefore rest) :
    Anchored (t.lexeme.toList ++ rest) :=
  .inr ⟨_, _, _, _, rfl, h.1, h.2⟩

theorem Token.Place.anchored_rest (h : t.Place text before front rest) :
    Anchored (t.lexeme.toList ++ rest) := by
  rcases h.anchored with hstands | ⟨-, hlexeme, rfl⟩
  · exact hstands.anchored
  · left
    simp [hlexeme]

theorem IsGap.not_anchored (h : IsGap text rest) : ¬Anchored (text ++ rest) := by
  rintro (hnil | ⟨kind, lexeme, literal, more, heq, hlexeme, hlongest⟩)
  · cases h <;> simp at hnil
  · exact absurd hlongest (h.not_lexeme hlexeme heq)

/-- All the layout at the front of a text comes before what is no layout. -/
theorem Layout.unique (h : Layout layout after) (h' : Layout layout' after')
    (hafter : Anchored after) (hafter' : Anchored after')
    (heq : layout ++ after = layout' ++ after') : layout = layout' := by
  induction h generalizing layout' with
  | nil =>
    cases h' with
    | nil => rfl
    | @cons gap layout _ hgap _ =>
      rw [List.nil_append, List.append_assoc] at heq
      exact absurd (heq ▸ hafter) hgap.not_anchored
  | @cons gap layout after hgap _ ih =>
    rw [List.append_assoc] at heq
    cases h' with
    | nil =>
      rw [List.nil_append] at heq
      exact absurd (heq ▸ hafter') hgap.not_anchored
    | @cons gap' layout' _ hgap' hmore' =>
      rw [List.append_assoc] at heq
      obtain rfl := hgap.unique hgap' heq
      rw [ih hmore' hafter (List.append_cancel_left heq)]

theorem Token.StandsBefore.unique (h : t.StandsBefore rest) (h' : u.StandsBefore rest')
    (heq : t.lexeme.toList ++ rest = u.lexeme.toList ++ rest') :
    t.lexeme.toList = u.lexeme.toList := by
  have hstands : Stands t.lexeme.toList rest := .inr ⟨_, _, h⟩
  have hstands' : Stands u.lexeme.toList rest' := .inr ⟨_, _, h'⟩
  exact hstands.unique hstands' heq

/-- A text is cut into a number of tokens, and layout after them, up to one place only. -/
theorem Cut.unique (h : Cut after front before) (h' : Cut after' front' before')
    (hlength : before.length = before'.length) (hafter : Anchored after)
    (hafter' : Anchored after') (heq : front ++ after = front' ++ after') : front = front' := by
  induction h generalizing front' before' with
  | last hlayout =>
    cases h' with
    | last hlayout' => exact hlayout.unique hlayout' hafter hafter' heq
    | next => simp at hlength
  | @next layout text t tokens hlayout ht _ ih =>
    cases h' with
    | last => simp at hlength
    | @next layout' text' u tokens' hlayout' hu hmore' =>
      have hanchored : Anchored (t.lexeme.toList ++ text ++ after) := by
        rw [List.append_assoc]
        exact ht.anchored
      have hanchored' : Anchored (u.lexeme.toList ++ text' ++ after') := by
        rw [List.append_assoc]
        exact hu.anchored
      simp only [List.append_assoc] at heq hlayout hlayout' hanchored hanchored' ⊢
      obtain rfl := hlayout.unique hlayout' hanchored hanchored' heq
      have heq := List.append_cancel_left heq
      have hlexeme := ht.unique hu heq
      rw [hlexeme] at heq ⊢
      rw [ih hmore' (by simpa using hlength) (List.append_cancel_left heq)]

/-- A token has one place only, given how many tokens come before it. -/
theorem Token.Place.unique (h : t.Place text before front rest)
    (h' : t.Place text before' front' rest') (hlength : before.length = before'.length) :
    front = front' ∧ rest = rest' := by
  have heq := h.split.symm.trans h'.split
  obtain rfl := h.cut.unique h'.cut hlength h.anchored_rest h'.anchored_rest heq
  exact ⟨rfl, List.append_cancel_left (List.append_cancel_left heq)⟩

end

/-! ## The line of the place -/

/-- The only lexemes with line breaks are those of strings. -/
theorem Lexeme.kind_of_newline {kind : Kind} {text : List Char} {literal : Literal}
    (h : Lexeme kind text literal) (hnewline : '\n' ∈ text) : kind = .string := by
  obtain ⟨contents, htext⟩ : ∃ contents, text = '"' :: contents := by
    rcases h.lexical.begins with hquote | hbegins
    · exact hquote
    · exact absurd (hbegins _ hnewline) (not_lexical_of_blank (by simp))
  cases h with
  | sign h => exact absurd rfl (isMark_of_sign h htext).2.2
  | keyword h =>
    have hword := isWord_of_mem_words _ h
    rw [htext] at hword
    exact absurd (isWord_cons.1 hword).1 (by decide)
  | name h =>
    rw [htext] at h
    exact absurd (isWord_cons.1 h).1 (by decide)
  | string => rfl
  | number h =>
    rw [htext] at h
    exact absurd (head_isDigit h) (by decide)

section
variable {tokens before after : List Token} {t : Token}

/-- A token of a text that is scanned from a line on: its place, and the line it carries. -/
theorem Scans.place {line : Int} {text : List Char} {result : Except ScanError (List Token)}
    (h : Scans line text result) (hresult : result = .ok tokens)
    (htokens : tokens = before ++ t :: after) :
    ∃ front rest, t.Place text before front rest ∧
      t.line = line + front.count '\n' + t.lexeme.toList.count '\n' := by
  induction h generalizing tokens before with
  | @ended line =>
    cases hresult
    obtain ⟨rfl, rfl, rfl⟩ : before = [] ∧ t = ⟨.eof, "", .absent, line⟩ ∧ after = [] := by
      cases before <;> simp_all
    exact ⟨[], [], ⟨rfl, .last .nil, .inr ⟨rfl, rfl, rfl⟩⟩, by simp⟩
  | @gap line text rest result hgap _ ih =>
    obtain ⟨front, more, hplace, hline⟩ := ih hresult htokens
    refine ⟨text ++ front, more, ⟨?_, ?_, hplace.anchored⟩, ?_⟩
    · rw [hplace.split, List.append_assoc]
    · exact hplace.cut.gap (hplace.split ▸ hgap)
    · rw [hline, List.count_append]
      omega
  | @token line text rest kind literal result hlexeme hlongest _ ih =>
    cases result with
    | error error => cases hresult
    | ok more =>
      obtain rfl := Except.ok.inj hresult
      have hstands : Token.StandsBefore ⟨kind, .ofList text, literal, line + text.count '\n'⟩
          rest := by
        simpa [Token.StandsBefore] using And.intro hlexeme hlongest
      cases before with
      | nil =>
        obtain ⟨rfl, rfl⟩ := List.cons_eq_cons.1 htokens
        refine ⟨[], rest, ⟨by simp, .last .nil, .inl hstands⟩, by simp⟩
      | cons first before =>
        obtain ⟨rfl, hmore⟩ := List.cons_eq_cons.1 htokens
        obtain ⟨front, last, hplace, hline⟩ := ih rfl hmore
        have hcut := hplace.cut.token (hplace.split ▸ hstands)
        rw [String.toList_ofList] at hcut
        refine ⟨text ++ front, last, ⟨?_, hcut, hplace.anchored⟩, ?_⟩
        · rw [hplace.split, List.append_assoc]
        · rw [hline, List.count_append]
          omega
  | fault => cases hresult

variable {source : String}

/-- The line of a token is a line of the source text. -/
theorem line_bounds_of_scan (h : scan source = .ok tokens) (ht : t ∈ tokens) :
    1 ≤ t.line ∧ t.line ≤ 1 + source.toList.count '\n' := by
  obtain ⟨before, after, rfl⟩ := List.append_of_mem ht
  obtain ⟨front, rest, hplace, hline⟩ := (scan_scans source).place h rfl
  rw [hplace.split, hline]
  simp only [List.count_append]
  omega

theorem kind_of_newline_of_scan (h : scan source = .ok tokens) (ht : t ∈ tokens)
    (hnewline : '\n' ∈ t.lexeme.toList) : t.kind = .string := by
  obtain ⟨before, after, rfl⟩ := List.append_of_mem ht
  obtain ⟨front, rest, hplace, -⟩ := (scan_scans source).place h rfl
  rcases hplace.anchored with hstands | ⟨-, hlexeme, -⟩
  · exact hstands.1.kind_of_newline hnewline
  · simp [hlexeme] at hnewline

/-- A token carries the line on which its lexeme ends: one more than the line breaks of the source
text before its one place and in its lexeme. That is the line of the place unless the lexeme has
a line break in it, and then the token is a string. -/
theorem token_line (hscan : scan source = .ok tokens) (htokens : tokens = before ++ t :: after) :
    ∃ front rest, t.Place source.toList before front rest ∧
      (∀ front' rest', t.Place source.toList before front' rest' →
        front' = front ∧ rest' = rest) ∧
      t.line = 1 + front.count '\n' + t.lexeme.toList.count '\n' ∧
      (t.line = 1 + front.count '\n' ↔ '\n' ∉ t.lexeme.toList) ∧
      ('\n' ∈ t.lexeme.toList → t.kind = .string) := by
  obtain ⟨front, rest, hplace, hline⟩ := (scan_scans source).place hscan htokens
  refine ⟨front, rest, hplace, fun _ _ h => h.unique hplace rfl, hline, ?_, ?_⟩
  · rw [hline, ← List.count_eq_zero]
    omega
  · exact kind_of_newline_of_scan hscan (by simp [htokens])

/-- The string of `nil "a⏎b" true` begins on line 1 and carries line 2, as does the word after
it. -/
theorem token_line_multiline :
    scan "nil \"a\nb\" true" = .ok
        ([⟨.nilWord, "nil", .absent, 1⟩] ++ ⟨.string, "\"a\nb\"", .text "a\nb", 2⟩ ::
          [⟨.trueWord, "true", .absent, 2⟩, ⟨.eof, "", .absent, 2⟩]) ∧
      ∃ front rest,
        Token.Place "nil \"a\nb\" true".toList [⟨.nilWord, "nil", .absent, 1⟩]
          ⟨.string, "\"a\nb\"", .text "a\nb", 2⟩ front rest ∧
        (2 : Int) = 1 + front.count '\n' + "\"a\nb\"".toList.count '\n' := by
  have hscan : scan "nil \"a\nb\" true" = .ok
      ([⟨.nilWord, "nil", .absent, 1⟩] ++ ⟨.string, "\"a\nb\"", .text "a\nb", 2⟩ ::
        [⟨.trueWord, "true", .absent, 2⟩, ⟨.eof, "", .absent, 2⟩]) := by
    cbv
  obtain ⟨front, rest, hplace, -, hline, -⟩ := token_line hscan rfl
  exact ⟨hscan, front, rest, hplace, hline⟩

end

/-- A string that begins on the first line and ends on the second carries the second. -/
theorem token_line_not_of_start :
    ¬∀ (source : String) (tokens before : List Token) (t : Token) (after : List Token),
      scan source = .ok tokens → tokens = before ++ t :: after →
      ∃ front rest, t.Place source.toList before front rest ∧
        t.line = 1 + (front.count '\n' : Int) := by
  intro h
  have hscan : scan "\"a\nb\"" =
      .ok [⟨.string, "\"a\nb\"", .text "a\nb", 2⟩, ⟨.eof, "", .absent, 2⟩] := by
    cbv
  obtain ⟨front, rest, hplace, hline⟩ := h _ _ [] _ _ hscan rfl
  -- nothing but the lexeme is in the text
  have hlength : 5 = front.length + (rest.length + 5) := by
    simpa using congrArg List.length hplace.split
  obtain rfl : front = [] := List.eq_nil_of_length_eq_zero (by omega)
  simp at hline

end LoxExpr
