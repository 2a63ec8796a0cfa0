import LoxExpr.Proofs.Expr.Parsing

/-!
# Where reading fails

Main statement `parse_error_local`: the token that is refused is the first one that no expression
can have at its place. What stands before it can be completed (`RefusesAll.viable`), and with it
there is no completion, because a rule looks at no token beyond (`Rule.read_of_refuses`).
-/

namespace LoxExpr

/-! ## Completions -/

/-- Tokens that complete what has been read. -/
def nilToken : Token := ⟨.nilWord, "nil", .absent, 1⟩
def colonToken : Token := ⟨.colon, ":", .absent, 1⟩
def closingToken : Token := ⟨.rightParen, ")", .absent, 1⟩

theorem derives_nilToken : Derives .expression [nilToken] .nil :=
  derives_of_leaf? rfl

theorem derives_else_nil {question : Token} {cs ts : List Token} {c t : Expr}
    (hc : Derives (.level .comma) cs c) (hquestion : question.kind = .question)
    (ht : Derives .expression ts t) :
    Derives .expression (cs ++ question :: (ts ++ [colonToken, nilToken]))
      (.conditional c t .nil) :=
  .conditional hc hquestion ht rfl derives_nilToken

theorem derives_closed {opening : Token} {ts : List Token} {e : Expr}
    (hopening : opening.kind = .leftParen) (h : Derives .expression ts e) :
    Derives .primary (opening :: (ts ++ [closingToken])) (.group e) :=
  .group hopening h rfl

/-- What a rule has read before it gives up can be completed. -/
theorem Refuses.viable {rule : Rule} {used : List Token} {next : Option Token} {fault : ParseFault}
    (h : Refuses rule used next fault) : ∃ more e, Derives rule (used ++ more) e := by
  induction h with
  | condition _ ih =>
    obtain ⟨more, e, h⟩ := ih
    exact ⟨more, e, .plain h⟩
  | thenBranch hc hquestion _ ih =>
    obtain ⟨more, t, ht⟩ := ih
    exact ⟨more ++ [colonToken, nilToken], _, by simpa using derives_else_nil hc hquestion ht⟩
  | colon hc hquestion ht _ _ =>
    exact ⟨[colonToken, nilToken], _, by simpa using derives_else_nil hc hquestion ht⟩
  | elseBranch hc hquestion ht hcolon _ ih =>
    obtain ⟨more, e, he⟩ := ih
    exact ⟨more, _, by simpa using Derives.conditional hc hquestion ht hcolon he⟩
  | first _ ih =>
    obtain ⟨more, e, h⟩ := ih
    exact ⟨more, e, h.operand⟩
  | later hleft _ ih =>
    obtain ⟨more, e, h⟩ := ih
    exact ⟨more, e, by simpa using Derives.level hleft h⟩
  | operand hop _ ih =>
    obtain ⟨more, right, hright⟩ := ih
    exact ⟨more, _, by simpa using Derives.join hop hright .done⟩
  | join hop hright _ ih =>
    obtain ⟨more, e, h⟩ := ih
    exact ⟨more, e, by simpa using Derives.join hop hright h⟩
  | unary hop _ ih =>
    obtain ⟨more, e, h⟩ := ih
    exact ⟨more, _, .unary hop h⟩
  | bare _ _ ih =>
    obtain ⟨more, e, h⟩ := ih
    exact ⟨more, e, .bare h⟩
  | ended => exact ⟨[nilToken], .nil, .leaf rfl⟩
  | unexpected => exact ⟨[nilToken], .nil, .leaf rfl⟩
  | inner hopening _ ih =>
    obtain ⟨more, e, h⟩ := ih
    exact ⟨more ++ [closingToken], _, by simpa using derives_closed hopening h⟩
  | unclosed hopening h _ _ => exact ⟨[closingToken], _, derives_closed hopening h⟩

theorem RefusesAll.viable {used : List Token} {next : Option Token} {fault : ParseFault}
    (h : RefusesAll used next fault) : ∃ more e, Derives .expression (used ++ more) e := by
  cases h with
  | expression h => exact h.viable
  | trailing h _ => exact ⟨[], _, by simpa using h⟩

/-! ## No completion -/

/-- Whatever follows the token at which an input is refused, no expression is derived. -/
theorem RefusesAll.dead {used : List Token} {next : Option Token} {fault : ParseFault} {e : Expr}
    (h : RefusesAll used next fault) (rest : List Token) (hnext : rest.head? = next) :
    ¬ Derives .expression (used ++ rest) e := by
  intro hd
  have hread := Rule.read_of_derives nilToken [] hd (Rule.stops_nil _)
  rw [List.append_nil] at hread
  cases h with
  | expression h =>
    have hrefuses := Rule.read_of_refuses nilToken h hnext
    rw [hread] at hrefuses
    cases hrefuses
  | trailing h hstops =>
    have hrest := Rule.read_of_derives nilToken rest h (hnext ▸ hstops)
    rw [hread] at hrest
    injection hrest with _ hrest
    rw [← hrest] at hnext
    cases hnext

/-- No derived token ends an input. -/
theorem Derives.isEof_eq_false {rule : Rule} {tokens : List Token} {e : Expr}
    (h : Derives rule tokens e) {t : Token} (ht : t ∈ tokens) : t.isEof = false := by
  have hkeeps : t.terminal? ∈ e.frontier.map some := by
    rw [← h.frontier]
    exact List.mem_append_right _ (List.mem_map_of_mem ht)
  cases heof : t.isEof with
  | false => rfl
  | true =>
    have hkind : t.kind = .eof := by simpa [Token.isEof] using heof
    have hnone : t.terminal? = none := by
      simp [Token.terminal?, Token.leaf?, hkind, Kind.isMark, Kind.isOperator, unaryOperators,
        Kind.joint?]
    simp [hnone] at hkeeps

/-- Tokens of an expression, with the one that ends them. -/
def Grammatical (tokens : List Token) : Prop :=
  ∃ body stop e, tokens = body ++ [stop] ∧ stop.isEof = true ∧ Derives .expression body e

theorem grammatical_of_derives {tokens : List Token} {e : Expr}
    (h : Derives .expression tokens e) :
    Grammatical (tokens ++ [⟨.eof, "", .absent, 1⟩]) :=
  ⟨tokens, _, e, rfl, rfl, h⟩

/-- A token of a grammatical list belongs to the expression, or ends it. -/
theorem Grammatical.cases {used after : List Token} {t : Token}
    (h : Grammatical (used ++ t :: after)) :
    (t.isEof = false ∧ ∃ more e, Derives .expression (used ++ t :: more) e) ∨
      (t.isEof = true ∧ ∃ e, Derives .expression used e) := by
  obtain ⟨body, stop, e, htokens, heof, hd⟩ := h
  obtain rfl | ⟨more, last, rfl⟩ := List.eq_nil_or_concat after
  · obtain ⟨rfl, hstop⟩ := List.append_inj' htokens rfl
    cases hstop
    exact .inr ⟨heof, e, hd⟩
  · have htokens : (used ++ t :: more) ++ [last] = body ++ [stop] := by simpa using htokens
    obtain ⟨rfl, -⟩ := List.append_inj' htokens rfl
    exact .inl ⟨hd.isEof_eq_false (by simp), more, e, hd⟩

/-! ## The refused token -/

/-- A refused input can be completed up to the refused token, and not with it. -/
theorem RefusesAll.first {used rest : List Token} {stop : Token} {fault : ParseFault}
    (h : RefusesAll used rest.head? fault) (after : List Token) (hrest : ∀ t ∈ rest, t.isEof = false)
    (heof : stop.isEof = true) :
    (∃ after', rest ++ stop :: after = rest.head?.getD stop :: after') ∧
      (∃ more, Grammatical (used ++ more)) ∧
      ¬ ∃ more, Grammatical (used ++ rest.head?.getD stop :: more) := by
  refine ⟨?_, ?_, ?_⟩
  · cases rest with
    | nil => exact ⟨after, rfl⟩
    | cons t rest => exact ⟨rest ++ stop :: after, rfl⟩
  · obtain ⟨more, e, hd⟩ := h.viable
    exact ⟨more ++ [_], by simpa using grammatical_of_derives hd⟩
  · rintro ⟨more, hg⟩
    cases rest with
    | nil =>
      obtain ⟨hno, -⟩ | ⟨-, e, hd⟩ := hg.cases
      · exact absurd (heof.symm.trans hno) (by decide)
      · exact h.dead [] rfl (by simpa using hd)
    | cons t rest =>
      obtain ⟨-, more, e, hd⟩ | ⟨hyes, -⟩ := hg.cases
      · exact h.dead (t :: more) rfl hd
      · exact absurd (hyes.symm.trans (hrest t (by simp))) (by decide)

/-- If a list that ends is refused for another reason than its nesting, the refused token is the
first that no grammatical list can have at its place: the tokens before it begin a grammatical
list, and with it they do not. The diagnostic names the line of that token and, unless it ends the
input, its text. -/
theorem parse_error_local {tokens : List Token} {room : Nesting} {error : ParseError}
    (hend : Ended tokens) (hplain : ∀ t ∈ tokens, t.HasPlainNumeral)
    (hrefused : parseWithin room tokens = .error (.refused error))
    (hfault : error.fault ≠ .nestedTooDeeply) :
    (∃ before after, tokens = before ++ error.token :: after ∧ (∀ t ∈ before, t.isEof = false) ∧
      (∃ more, Grammatical (before ++ more)) ∧
      ¬ ∃ more, Grammatical (before ++ error.token :: more)) ∧
    ∃ location, error.diagnostic.location = some location ∧ location.line = error.token.line ∧
      (location.atEnd = true ↔ error.token.kind = .eof) ∧
      location.lexeme = if error.token.kind = .eof then none else some error.token.lexeme := by
  refine ⟨?_, _, rfl, rfl, by simp [Location.ofLexeme, Token.isEof],
    by simp [Location.ofLexeme, Token.isEof]⟩
  obtain ⟨stop, after, heof, htokens, hparse⟩ := hend.parseWithin_eq
  rw [hparse] at hrefused
  have hunlimited : Input.parseWithin .unlimited ⟨sentence tokens, stop⟩ =
      .error (.refused error) := by
    rcases Input.parseWithin_limited room ⟨sentence tokens, stop⟩ with h | ⟨t, ht⟩
    · rw [← h, hrefused]
    · cases hrefused.symm.trans ht
      exact absurd rfl hfault
  obtain ⟨e, -, h⟩ | ⟨used, rest, fault, hsplit, hrefuses, h⟩ :=
    Input.parseWithin_answers ⟨sentence tokens, stop⟩
      fun t ht => hplain t (sentence_subset tokens ht)
  · cases hunlimited.symm.trans h
  · have hsplit : sentence tokens = used ++ rest := hsplit
    have hno : ∀ t ∈ used ++ rest, t.isEof = false :=
      fun t ht => isEof_of_mem_sentence (hsplit ▸ ht)
    obtain ⟨⟨after', hafter⟩, hviable, hdead⟩ :=
      hrefuses.first after (fun t ht => hno t (List.mem_append_right _ ht)) heof
    cases hunlimited.symm.trans h
    refine ⟨used, after', ?_, fun t ht => hno t (List.mem_append_left _ ht), hviable, hdead⟩
    rw [← hafter, ← List.append_assoc, ← hsplit]
    exact htokens

/-- The list for `(1 ? nil)` is refused at the bracket, where the conditional needs its colon. -/
theorem parse_error_local_in_group :
    let tokens : List Token :=
      [⟨.leftParen, "(", .absent, 1⟩, ⟨.number, "1", .absent, 1⟩, ⟨.question, "?", .absent, 1⟩,
       ⟨.nilWord, "nil", .absent, 2⟩, ⟨.rightParen, ")", .absent, 2⟩, ⟨.eof, "", .absent, 2⟩]
    let bracket : Token := ⟨.rightParen, ")", .absent, 2⟩
    Ended tokens ∧ (∀ t ∈ tokens, t.HasPlainNumeral) ∧
      parseWithin .standard tokens = .error (.refused ⟨.colonMissing, bracket⟩) ∧
      ParseFault.colonMissing ≠ .nestedTooDeeply ∧
      ∃ before after, tokens = before ++ bracket :: after ∧
        ¬ ∃ more, Grammatical (before ++ bracket :: more) := by
  intro tokens bracket
  have hend : Ended tokens := by decide
  have hplain : ∀ t ∈ tokens, t.HasPlainNumeral := by
    simp [tokens, Token.HasPlainNumeral, Numeral.IsPlain, Numeral.IsDigits]
  have hrefused : parseWithin .standard tokens = .error (.refused ⟨.colonMissing, bracket⟩) := rfl
  obtain ⟨⟨before, after, htokens, -, -, hdead⟩, -⟩ :=
    parse_error_local hend hplain hrefused (by decide)
  exact ⟨hend, hplain, hrefused, by decide, before, after, htokens, hdead⟩

end LoxExpr
