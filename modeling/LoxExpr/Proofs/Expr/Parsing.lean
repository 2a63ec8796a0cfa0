import LoxExpr.Proofs.Expr.Answer
import LoxExpr.Proofs.Number.Plain

/-!
# Reading whole inputs

Main statement `parse_exact`: apart from expressions that nest too deeply, tokens are read as a
tree exactly if the grammar derives the tree from them, and as one tree at most.
-/

namespace LoxExpr

/-! ## Inputs -/

/-- The last token is one for the end of the input. -/
def Ended (tokens : List Token) : Prop := tokens.getLast?.any Token.isEof = true

instance (tokens : List Token) : Decidable (Ended tokens) := inferInstanceAs (Decidable (_ = _))

/-- The tokens before the first one for the end of the input. -/
def sentence (tokens : List Token) : List Token := tokens.takeWhile (!·.isEof)

/-- A number is spelled as the language spells numbers. -/
def Token.HasPlainNumeral (t : Token) : Prop :=
  t.kind = .number → Numeral.IsPlain t.lexeme.toList

theorem sentence_subset (tokens : List Token) : sentence tokens ⊆ tokens :=
  (List.takeWhile_prefix _).subset

theorem isEof_of_mem_sentence {tokens : List Token} {t : Token} (h : t ∈ sentence tokens) :
    t.isEof = false := by
  induction tokens with
  | nil => cases h
  | cons t' tokens ih =>
    rw [sentence, List.takeWhile_cons] at h
    split at h
    · next ht' =>
      obtain rfl | h := List.mem_cons.1 h
      · simpa using ht'
      · exact ih h
    · cases h

/-- A list that ends consists of its sentence, the token that ends it, and unread tokens. -/
theorem Ended.split {tokens : List Token} (h : Ended tokens) :
    ∃ stop after, stop.isEof = true ∧ tokens = sentence tokens ++ stop :: after ∧
      Input.ofTokens? tokens = some ⟨sentence tokens, stop⟩ := by
  have hlast : (tokens.getLast?.map Token.isEof).getD false = true := by
    unfold Ended at h
    cases hl : tokens.getLast? with
    | none => simp [hl] at h
    | some t => simpa [hl] using h
  have hsome : (tokens.find? Token.isEof).isSome := by
    unfold Ended at h
    obtain ⟨t, ht, heof⟩ := (Option.any_eq_true _ _).1 h
    exact List.find?_isSome.2 ⟨t, List.mem_of_getLast? ht, heof⟩
  obtain ⟨stop, hfind⟩ := Option.isSome_iff_exists.1 hsome
  obtain ⟨heof, before, after, rfl, hbefore⟩ := List.find?_eq_some_iff_append.1 hfind
  have hsentence : sentence (before ++ stop :: after) = before := by
    rw [sentence, List.takeWhile_append_of_pos (by simpa using hbefore)]
    simp [heof]
  refine ⟨stop, after, heof, by rw [hsentence], ?_⟩
  rw [Input.ofTokens?, if_pos hlast, hfind, Option.map_some]
  rfl

theorem Ended.parseWithin_eq {tokens : List Token} (h : Ended tokens) :
    ∃ stop after, stop.isEof = true ∧ tokens = sentence tokens ++ stop :: after ∧
      ∀ room, parseWithin room tokens = Input.parseWithin room ⟨sentence tokens, stop⟩ := by
  obtain ⟨stop, after, heof, htokens, hinput⟩ := h.split
  refine ⟨stop, after, heof, htokens, fun room => ?_⟩
  rw [parseWithin, hinput]

/-! ## Limited and unlimited room -/

/-- The refusal of an expression that takes more room than there is. -/
def IsTooDeep (r : Except ParseFailure Expr) : Prop :=
  ∃ t, r = .error (.refused ⟨.nestedTooDeeply, t⟩)

/-- More room does not change what is read, unless there was too little. -/
theorem Input.parseWithin_mono {small large : Nesting} (hroom : small ≤ large) (input : Input) :
    input.parseWithin small = input.parseWithin large ∨ IsTooDeep (input.parseWithin small) := by
  rcases Rule.read_mono input.stop hroom .expression input.tokens with h | h
  · left
    rw [parseWithin, parseWithin, h]
  · right
    simp only [parseWithin, h]
    exact ⟨_, rfl⟩

/-- A limit on room does not change what is read, unless it is exceeded. -/
theorem Input.parseWithin_limited (room : Nesting) (input : Input) :
    input.parseWithin room = input.parseWithin .unlimited ∨ IsTooDeep (input.parseWithin room) :=
  parseWithin_mono room.le_unlimited input

/-! ## Refusals of whole inputs -/

/-- Where a whole input is refused: its expression is, or it goes on after a complete one. -/
inductive RefusesAll : (used : List Token) → (next : Option Token) → ParseFault → Prop
  | expression {used : List Token} {next : Option Token} {fault : ParseFault}
      (h : Refuses .expression used next fault) : RefusesAll used next fault
  | trailing {used : List Token} {t : Token} {e : Expr} (h : Derives .expression used e)
      (hstops : Rule.expression.Stops (some t)) : RefusesAll used (some t) .endExpected

theorem Refuses.fault_ne {rule : Rule} {used : List Token} {next : Option Token}
    {fault : ParseFault} (h : Refuses rule used next fault) : fault ≠ .nestedTooDeeply := by
  induction h with
  | colon | ended | unexpected | unclosed => decide
  | _ => assumption

theorem RefusesAll.fault_ne {used : List Token} {next : Option Token} {fault : ParseFault}
    (h : RefusesAll used next fault) : fault ≠ .nestedTooDeeply := by
  cases h with
  | expression h => exact h.fault_ne
  | trailing => decide

theorem leaf?_of_hasPlainNumeral {t : Token} (h : t.HasPlainNumeral) (hkind : t.kind = .number) :
    t.leaf? ≠ none := by
  have hreal := Numeral.real?_of_isPlain (h hkind)
  simp only [Token.leaf?, hkind, Expr.ofNumeral?, hreal]
  split <;> simp

/-- Without a limit on room, an input is derived and read, or refused. -/
theorem Input.parseWithin_answers (input : Input) (hplain : ∀ t ∈ input.tokens, t.HasPlainNumeral) :
    (∃ e, Derives .expression input.tokens e ∧ input.parseWithin .unlimited = .ok e) ∨
      ∃ used rest fault, input.tokens = used ++ rest ∧ RefusesAll used rest.head? fault ∧
        input.parseWithin .unlimited =
          .error (.refused ⟨fault, rest.head?.getD input.stop⟩) := by
  have h := Rule.read_answers input.stop .expression input.tokens (by rintro _ _ ⟨⟩)
  unfold parseWithin
  generalize Rule.expression.read .unlimited input.stop input.tokens = o at h
  cases h with
  | read used rest htokens h hstops =>
    cases rest with
    | nil =>
      rw [List.append_nil] at htokens
      exact .inl ⟨_, htokens ▸ h, rfl⟩
    | cons t rest => exact .inr ⟨used, t :: rest, _, htokens, .trailing h hstops, rfl⟩
  | refused used rest htokens h =>
    exact .inr ⟨used, rest, _, htokens, .expression h, rfl⟩
  | unreadable ht hkind hleaf =>
    exact absurd hleaf (leaf?_of_hasPlainNumeral (hplain _ ht) hkind)

/-- A failure to read is about some of the tokens. -/
def ParseFailure.IsOf (tokens : List Token) : ParseFailure → Prop
  | .refused error => error.token ∈ tokens
  | .unreadableNumber lexeme =>
    ∃ t ∈ tokens, t.kind = .number ∧ t.leaf? = none ∧ t.lexeme = lexeme
  | .unended => False

/-- Whatever the room and the numbers are like, an input fails at a token of its own. -/
theorem Input.isOf_of_parseWithin {room : Nesting} {input : Input} {failure : ParseFailure}
    (h : input.parseWithin room = .error failure) :
    failure.IsOf (input.tokens ++ [input.stop]) := by
  have hhead : ∀ {rest : List Token}, rest <:+ input.tokens →
      rest.headD input.stop ∈ input.tokens ++ [input.stop] := by
    intro rest hrest
    cases rest with
    | nil => simp
    | cons t rest => exact List.mem_append_left _ (hrest.subset List.mem_cons_self)
  rcases Rule.read_mono input.stop room.le_unlimited .expression input.tokens with heq | hout
  · have hanswer := Rule.read_answers input.stop .expression input.tokens (by rintro _ _ ⟨⟩)
    simp only [parseWithin, heq] at h
    generalize Rule.expression.read .unlimited input.stop input.tokens = o at hanswer h
    cases hanswer with
    | read used rest htokens =>
      cases rest with
      | nil => cases h
      | cons t rest =>
        cases h
        exact hhead ⟨used, htokens.symm⟩
    | refused used rest htokens =>
      cases h
      rw [← List.headD_eq_head?_getD]
      exact hhead ⟨used, htokens.symm⟩
    | unreadable ht hkind hleaf =>
      cases h
      exact ⟨_, List.mem_append_left _ ht, hkind, hleaf, rfl⟩
  · -- the token at fault is the first of those that are left
    have hsuffix : (Rule.expression.read room input.stop input.tokens).rest <:+ input.tokens :=
      Rule.read_rest_isSuffix room .expression input.tokens
    simp only [parseWithin, hout] at h
    cases h
    exact hhead hsuffix

theorem Ended.isOf_of_parseWithin {tokens : List Token} (hend : Ended tokens) {room : Nesting}
    {failure : ParseFailure} (h : parseWithin room tokens = .error failure) :
    failure.IsOf tokens := by
  obtain ⟨stop, after, -, htokens, hparse⟩ := hend.parseWithin_eq
  rw [hparse] at h
  have hof := Input.isOf_of_parseWithin h
  have hsubset : sentence tokens ++ [stop] ⊆ tokens := by
    conv => rhs; rw [htokens]
    simp
  cases failure with
  | refused error => exact hsubset hof
  | unreadableNumber lexeme =>
    obtain ⟨t, ht, hnumber⟩ := hof
    exact ⟨t, hsubset ht, hnumber⟩
  | unended => exact hof

theorem Input.parseWithin_of_derives {input : Input} {e : Expr}
    (h : Derives .expression input.tokens e) : input.parseWithin .unlimited = .ok e := by
  have hread := Rule.read_of_derives input.stop [] h (Rule.stops_nil _)
  rw [List.append_nil] at hread
  simp only [parseWithin, hread, Outcome.ok]

theorem Derives.unique {tokens : List Token} {e e' : Expr} (h : Derives .expression tokens e)
    (h' : Derives .expression tokens e') : e = e' := by
  have stop : Token := ⟨.eof, "", .absent, 1⟩
  have hread := Rule.read_of_derives stop [] h (Rule.stops_nil _)
  rw [Rule.read_of_derives stop [] h' (Rule.stops_nil _)] at hread
  injection hread with hresult
  exact (Except.ok.inj hresult).symm

theorem Input.not_isTooDeep (input : Input) (hplain : ∀ t ∈ input.tokens, t.HasPlainNumeral) :
    ¬ IsTooDeep (input.parseWithin .unlimited) := by
  rintro ⟨t, ht⟩
  obtain ⟨e, -, h⟩ | ⟨used, rest, fault, -, hrefuses, h⟩ := input.parseWithin_answers hplain
  · cases h.symm.trans ht
  · cases h.symm.trans ht
    exact hrefuses.fault_ne rfl

theorem Input.parseWithin_unlimited_iff {input : Input} {e : Expr}
    (hplain : ∀ t ∈ input.tokens, t.HasPlainNumeral) :
    input.parseWithin .unlimited = .ok e ↔ Derives .expression input.tokens e := by
  refine ⟨fun h => ?_, Input.parseWithin_of_derives⟩
  obtain ⟨e', hd, h'⟩ | ⟨_, _, _, -, -, h'⟩ := input.parseWithin_answers hplain
  · cases h.symm.trans h'
    exact hd
  · cases h.symm.trans h'

/-- A list that ends is read as a tree that the grammar derives, or a token is refused. -/
theorem parseWithin_answers {tokens : List Token} (hend : Ended tokens)
    (hplain : ∀ t ∈ tokens, t.HasPlainNumeral) (room : Nesting) :
    (∃ e, Derives .expression (sentence tokens) e ∧ parseWithin room tokens = .ok e) ∨
      ∃ error, parseWithin room tokens = .error (.refused error) := by
  obtain ⟨stop, after, -, -, hparse⟩ := hend.parseWithin_eq
  have hplain' : ∀ t ∈ sentence tokens, t.HasPlainNumeral :=
    fun t ht => hplain t (sentence_subset tokens ht)
  rw [hparse room]
  rcases Input.parseWithin_limited room ⟨sentence tokens, stop⟩ with h | ⟨t, ht⟩
  · rw [h]
    obtain ⟨e, hd, he⟩ | ⟨_, _, _, -, -, he⟩ := Input.parseWithin_answers ⟨_, stop⟩ hplain'
    · exact .inl ⟨e, hd, he⟩
    · exact .inr ⟨_, he⟩
  · exact .inr ⟨_, ht⟩

/-! ## The language that is read -/

/-- Apart from expressions that nest too deeply, a list that ends is read as a tree exactly if the
grammar derives the tree from its sentence; if there is no such tree, a token is refused. There is
one tree at most: it keeps precedence and its frontier is the sentence, and no other trees do. -/
theorem parse_exact {tokens : List Token} (hend : Ended tokens)
    (hplain : ∀ t ∈ tokens, t.HasPlainNumeral) :
    (∀ room, IsTooDeep (parseWithin room tokens) ∨
      (∀ e, parseWithin room tokens = .ok e ↔ Derives .expression (sentence tokens) e) ∧
      ((¬ ∃ e, Derives .expression (sentence tokens) e) →
        ∃ error, parseWithin room tokens = .error (.refused error))) ∧
    ¬ IsTooDeep (parseWithin .unlimited tokens) ∧
    (∀ e e', Derives .expression (sentence tokens) e → Derives .expression (sentence tokens) e' →
      e = e') ∧
    ∀ e, Derives .expression (sentence tokens) e ↔
      e.KeepsPrecedence ∧ e.IsSpelledBy (sentence tokens) := by
  obtain ⟨stop, after, -, -, hparse⟩ := hend.parseWithin_eq
  have hplain' : ∀ t ∈ sentence tokens, t.HasPlainNumeral :=
    fun t ht => hplain t (sentence_subset tokens ht)
  refine ⟨fun room => ?_, ?_, fun e e' h h' => h.unique h', fun e => derives_expression_iff⟩
  · rw [hparse room]
    rcases Input.parseWithin_limited room ⟨sentence tokens, stop⟩ with h | h
    · right
      rw [h]
      refine ⟨fun e => Input.parseWithin_unlimited_iff hplain', fun hnone => ?_⟩
      obtain ⟨e, hd, -⟩ | ⟨_, _, _, -, -, h'⟩ := Input.parseWithin_answers ⟨_, stop⟩ hplain'
      · exact absurd ⟨e, hd⟩ hnone
      · exact ⟨_, h'⟩
    · exact .inl h
  · rw [hparse]
    exact Input.not_isTooDeep _ hplain'

/-- The list for `1 ? (02, "a") : -3 * nil`, followed by tokens that are not read. -/
theorem parse_exact_conditional :
    let tokens : List Token :=
      [⟨.number, "1", .absent, 1⟩, ⟨.question, "?", .absent, 1⟩, ⟨.leftParen, "(", .absent, 2⟩,
       ⟨.number, "02", .absent, 2⟩, ⟨.comma, ",", .absent, 2⟩, ⟨.string, "\"a\"", .text "a", 2⟩,
       ⟨.rightParen, ")", .absent, 2⟩, ⟨.colon, ":", .absent, 2⟩, ⟨.minus, "-", .absent, 3⟩,
       ⟨.number, "3", .absent, 3⟩, ⟨.star, "*", .absent, 3⟩, ⟨.nilWord, "nil", .absent, 3⟩,
       ⟨.eof, "", .absent, 3⟩, ⟨.slash, "/", .absent, 3⟩, ⟨.eof, "", .absent, 3⟩]
    Ended tokens ∧ (∀ t ∈ tokens, t.HasPlainNumeral) ∧
      parseWithin .unlimited tokens = .ok (.conditional (.integer 1)
        (.group (.binary (.integer 2) ⟨.comma, ",", 2⟩ (.string "a")))
        (.binary (.unary ⟨.minus, "-", 3⟩ (.integer 3)) ⟨.star, "*", 3⟩ .nil)) := by
  intro tokens
  have hend : Ended tokens := by decide
  have hplain : ∀ t ∈ tokens, t.HasPlainNumeral := by
    simp [tokens, Token.HasPlainNumeral, Numeral.IsPlain, Numeral.IsDigits]
  obtain ⟨hroom, hdeep, -, htree⟩ := parse_exact hend hplain
  refine ⟨hend, hplain, (((hroom .unlimited).resolve_left hdeep).1 _).2 ((htree _).2 ⟨?_, rfl⟩)⟩
  have hcomma : ∃ l : Level, Kind.comma ∈ l.operators ∧ l.tightness ≤ 7 ∧ l.tightness < 7 :=
    ⟨.comma, by decide, by decide, by decide⟩
  have hstar : ∃ l : Level, Kind.star ∈ l.operators ∧ l.tightness ≤ 6 ∧ l.tightness < 7 :=
    ⟨.factor, by decide, by decide, by decide⟩
  have hminus : Kind.minus ∈ unaryOperators ∧ True ∧ 6 ≤ 7 := by decide
  exact ⟨by decide, trivial, ⟨hcomma, trivial, trivial⟩, hstar, hminus, trivial⟩

end LoxExpr
