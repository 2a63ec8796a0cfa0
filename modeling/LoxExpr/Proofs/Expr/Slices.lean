import LoxExpr.Expr.Cursor
import LoxExpr.Proofs.Expr.ViablePrefix

/-!
# One expression after another

A cursor reads an expression and stands behind it, in the middle of tokens that may go on in any
way. What stops it can be carried on by no derivation (`Derives.eq_nil_of_stops`).

Main statement `read_longest`: the tokens that are read are the longest expression that begins where
the cursor stands, and readings one after another cut the tokens into such slices, with nothing
between them.
-/

namespace LoxExpr

/-! ## Longest expressions -/

theorem Expr.frontier_ne_nil (e : Expr) : e.frontier ≠ [] := by
  cases e <;> simp [frontier]

theorem Derives.ne_nil {tokens : List Token} {e : Expr} (h : Derives .expression tokens e) :
    tokens ≠ [] := by
  rintro rfl
  have hfrontier := h.frontier
  simp only [Rule.before, List.map_nil, List.append_nil] at hfrontier
  exact e.frontier_ne_nil (List.map_eq_nil_iff.1 hfrontier.symm)

/-- If the token after an expression does not carry it on, nothing does. -/
theorem Derives.eq_nil_of_stops {used more : List Token} {e e' : Expr}
    (h : Derives .expression used e) (hstops : Rule.expression.Stops more.head?)
    (h' : Derives .expression (used ++ more) e') : more = [] := by
  have hshort := Rule.read_of_derives nilToken more h hstops
  have hlong := Rule.read_of_derives nilToken [] h' (Rule.stops_nil _)
  rw [List.append_nil, hshort] at hlong
  exact congrArg Outcome.rest hlong

/-- The tokens from one place up to another are an expression with a tree, and no expression that
begins there is longer. -/
structure IsLongestSlice (tokens : List Token) (start stop : Nat) (e : Expr) : Prop where
  lt : start < stop
  le : stop ≤ (sentence tokens).length
  derives : Derives .expression (tokens.extract start stop) e
  longest : ∀ stop' e', stop < stop' → ¬Derives .expression (tokens.extract start stop') e'

/-- From one place up to another the tokens are cut into longest expressions with the given trees.
Each slice begins where the one before it ends. -/
inductive IsCutInto (tokens : List Token) : Nat → List Expr → Nat → Prop
  | done {place : Nat} : IsCutInto tokens place [] place
  | next {start middle stop : Nat} {e : Expr} {es : List Expr}
      (h : IsLongestSlice tokens start middle e) (hrest : IsCutInto tokens middle es stop) :
      IsCutInto tokens start (e :: es) stop

section
variable {tokens : List Token} {start middle stop : Nat} {es : List Expr}

theorem extract_append_extract (hfirst : start ≤ middle) (hsecond : middle ≤ stop) :
    tokens.extract start middle ++ tokens.extract middle stop = tokens.extract start stop := by
  have hlength : stop - start = (middle - start) + (stop - middle) := by omega
  have hplace : start + (middle - start) = middle := by omega
  simp only [List.extract_eq_take_drop]
  rw [hlength, List.take_add, List.drop_drop, hplace]

theorem IsCutInto.le (h : IsCutInto tokens start es stop) : start ≤ stop := by
  induction h with
  | done => exact Nat.le_refl _
  | next h _ ih => exact Nat.le_trans (Nat.le_of_lt h.lt) ih

/-- The slices make up all the tokens between the two places. -/
theorem IsCutInto.exists_slices (h : IsCutInto tokens start es stop) :
    ∃ slices : List (List Token), slices.flatten = tokens.extract start stop ∧
      List.Forall₂ (Derives .expression) slices es := by
  induction h with
  | done => exact ⟨[], by simp, .nil⟩
  | @next start middle stop e es h hrest ih =>
    obtain ⟨slices, hflatten, hderives⟩ := ih
    refine ⟨tokens.extract start middle :: slices, ?_, .cons h.derives hderives⟩
    rw [List.flatten_cons, hflatten, extract_append_extract (Nat.le_of_lt h.lt) hrest.le]

end

/-! ## Readings -/

namespace Cursor

/-- Readings of an expression, one after another, succeed with the given trees. -/
inductive Reads : Cursor → List Expr → Cursor → Prop
  | done {c : Cursor} : Reads c [] c
  | next {c c' c'' : Cursor} {e : Expr} {es : List Expr} (h : c.read .expression = (.ok e, c'))
      (hrest : Reads c' es c'') : Reads c (e :: es) c''

/-- A reading that succeeds reads an expression that the next token does not carry on. -/
theorem exists_used_of_read {c c' : Cursor} {e : Expr} (h : c.read .expression = (.ok e, c')) :
    ∃ used, c.rest = used ++ c'.rest ∧ c'.position = c.position + used.length ∧
      c'.input = c.input ∧ Derives .expression used e ∧
      Rule.expression.Stops c'.rest.head? := by
  obtain ⟨hresult, rfl⟩ := Prod.mk.inj h
  have hanswer := Rule.read_answers c.input.stop .expression c.rest (by rintro _ _ ⟨⟩)
  rcases Rule.read_mono c.input.stop (Nesting.le_unlimited .standard) .expression c.rest with
    heq | hout
  · rw [← heq] at hanswer
    generalize Rule.expression.read .standard c.input.stop c.rest = o at hanswer hresult
    cases hanswer with
    | read used rest htokens hderives hstops =>
      cases hresult
      have hlength : c.input.tokens.length - c.position = used.length + rest.length := by
        simpa [Cursor.rest] using congrArg List.length htokens
      have hused : 0 < used.length := List.length_pos_iff.2 hderives.ne_nil
      have hposition : c.input.tokens.length - rest.length = c.position + used.length := by omega
      have hrest : c.input.tokens.drop (c.position + used.length) = rest := by
        rw [← List.drop_drop]
        exact (congrArg (List.drop used.length) htokens).trans List.drop_left
      refine ⟨used, ?_, hposition, rfl, hderives, ?_⟩
      · simp only [Cursor.rest, Outcome.ok, hposition, hrest]
        exact htokens
      · simp only [Cursor.rest, Outcome.ok, hposition, hrest]
        exact hstops
    | refused => cases hresult
    | unreadable => cases hresult
  · cases hresult.symm.trans hout

/-- A reading that succeeds reads the longest expression that begins where the cursor stands. -/
theorem isLongestSlice_of_read {tokens after : List Token} {stop : Token} {place : Nat} {e : Expr}
    {c : Cursor} (htokens : tokens = sentence tokens ++ stop :: after) (heof : stop.isEof = true)
    (h : (Cursor.mk ⟨sentence tokens, stop⟩ place).read .expression = (.ok e, c)) :
    IsLongestSlice tokens place c.position e := by
  obtain ⟨used, hrest, hposition, -, hderives, hstops⟩ := exists_used_of_read h
  replace hrest : (sentence tokens).drop place = used ++ c.rest := hrest
  replace hposition : c.position = place + used.length := hposition
  have hused : 0 < used.length := List.length_pos_iff.2 hderives.ne_nil
  have hlength : (sentence tokens).length - place = used.length + c.rest.length := by
    simpa using congrArg List.length hrest
  have hdrop : tokens.drop place = used ++ (c.rest ++ stop :: after) := by
    rw [htokens, List.drop_append_of_le_length (by omega), hrest, List.append_assoc]
  have hextract : ∀ more, tokens.extract place (place + used.length + more) =
      used ++ (c.rest ++ stop :: after).take more := by
    intro more
    rw [List.extract_eq_take_drop, hdrop, Nat.add_assoc, Nat.add_sub_cancel_left,
      List.take_length_add_append]
  refine ⟨by omega, by omega, ?_, ?_⟩
  · have hslice := hextract 0
    rw [Nat.add_zero, List.take_zero, List.append_nil] at hslice
    rwa [hposition, hslice]
  · intro stop' e' hlt hlong
    obtain ⟨more, rfl⟩ : ∃ more, stop' = place + used.length + (more + 1) :=
      ⟨stop' - (place + used.length) - 1, by omega⟩
    rw [hextract] at hlong
    cases hleft : c.rest with
    | nil =>
      -- the slice goes on with the token that ends the input
      rw [hleft, List.nil_append, List.take_succ_cons] at hlong
      have hno := hlong.isEof_eq_false (t := stop) (by simp)
      exact absurd (heof.symm.trans hno) (by decide)
    | cons t rest =>
      rw [hleft, List.cons_append, List.take_succ_cons] at hlong
      have hnext : Rule.expression.Stops (t :: (rest ++ stop :: after).take more).head? := by
        rwa [hleft] at hstops
      exact absurd (hderives.eq_nil_of_stops hnext hlong) (List.cons_ne_nil _ _)

/-- Readings one after another cut the tokens. -/
theorem isCutInto_of_reads {tokens after : List Token} {stop : Token} {c c' : Cursor}
    {es : List Expr} (htokens : tokens = sentence tokens ++ stop :: after)
    (heof : stop.isEof = true) (hinput : c.input = ⟨sentence tokens, stop⟩) (h : c.Reads es c') :
    IsCutInto tokens c.position es c'.position := by
  induction h with
  | done => exact .done
  | @next c middle _ e es h _ ih =>
    obtain ⟨-, -, -, hsame, -, -⟩ := exists_used_of_read h
    have hslice : IsLongestSlice tokens c.position middle.position e := by
      obtain ⟨input, place⟩ := c
      subst hinput
      exact isLongestSlice_of_read htokens heof h
    exact .next hslice (ih (hsame.trans hinput))

end Cursor

/-- A cursor over tokens that end reads one longest expression at a time. Wherever it stands, a
reading that succeeds leaves it behind the longest slice that is an expression, and gives the tree
of that slice. Readings one after another cut the tokens into such slices, which make up all the
tokens between the places where the cursor stood first and stands last. -/
theorem read_longest {tokens : List Token} (hend : Ended tokens) :
    ∃ input, Input.ofTokens? tokens = some input ∧ ∀ place,
      (∀ e c, (Cursor.mk input place).read .expression = (.ok e, c) →
        IsLongestSlice tokens place c.position e) ∧
      ∀ es c, (Cursor.mk input place).Reads es c →
        IsCutInto tokens place es c.position ∧
        ∃ slices : List (List Token), slices.flatten = tokens.extract place c.position ∧
          List.Forall₂ (Derives .expression) slices es := by
  obtain ⟨stop, after, heof, htokens, hinput⟩ := hend.split
  refine ⟨_, hinput, fun place => ⟨fun e c h => ?_, fun es c h => ?_⟩⟩
  · exact Cursor.isLongestSlice_of_read htokens heof h
  · have hcut := Cursor.isCutInto_of_reads htokens heof rfl h
    exact ⟨hcut, hcut.exists_slices⟩

/-- In `true ? nil : nil, nil nil == nil )` the first expression goes as far as the token before the
fourth `nil`, and the second one as far as the bracket. -/
theorem read_longest_twice :
    let word : Token := ⟨.nilWord, "nil", .absent, 1⟩
    let comma : Token := ⟨.comma, ",", .absent, 1⟩
    let equality : Token := ⟨.equalEqual, "==", .absent, 1⟩
    let body : List Token :=
      [⟨.trueWord, "true", .absent, 1⟩, ⟨.question, "?", .absent, 1⟩, word,
       ⟨.colon, ":", .absent, 1⟩, word, comma, word, word, equality, word,
       ⟨.rightParen, ")", .absent, 1⟩]
    let tokens : List Token := body ++ [⟨.eof, "", .absent, 1⟩]
    let chosen : Expr := .conditional (.boolean true) .nil (.binary .nil comma.operator .nil)
    let equal : Expr := .binary .nil equality.operator .nil
    Ended tokens ∧ IsCutInto tokens 0 [chosen, equal] 10 ∧
      IsLongestSlice tokens 0 7 chosen ∧ IsLongestSlice tokens 7 10 equal := by
  intro word comma equality body tokens chosen equal
  have hend : Ended tokens := by decide
  obtain ⟨input, hinput, hread⟩ := read_longest hend
  have hbody : Input.ofTokens? tokens = some ⟨body, ⟨.eof, "", .absent, 1⟩⟩ := rfl
  obtain rfl := Option.some.inj (hinput.symm.trans hbody)
  have hfirst : (Cursor.mk ⟨body, ⟨.eof, "", .absent, 1⟩⟩ 0).read .expression =
      (.ok chosen, ⟨⟨body, ⟨.eof, "", .absent, 1⟩⟩, 7⟩) := by cbv
  have hsecond : (Cursor.mk ⟨body, ⟨.eof, "", .absent, 1⟩⟩ 7).read .expression =
      (.ok equal, ⟨⟨body, ⟨.eof, "", .absent, 1⟩⟩, 10⟩) := by cbv
  exact ⟨hend, ((hread 0).2 _ _ (.next hfirst (.next hsecond .done))).1,
    (hread 0).1 _ _ hfirst, (hread 7).1 _ _ hsecond⟩

end LoxExpr
