import LoxExpr.Proofs.Expr.Evaluation
import LoxExpr.Proofs.Expr.ViablePrefix

/-!
# Limits on nesting

A limit on nesting shows in nothing but the refusal of what nests too deeply (`Transparent`), both
for reading and for evaluating. Reading has an exact measure: tokens are read within a limit if and
only if their tree fits into it (`parseWithin_eq_ok_iff`). Main statement `nesting_limit`: both
limits are transparent, and a chain of operators fits wherever its operands do.
-/

namespace LoxExpr

/-! ## Trees that are read fit -/

/-- The first operands that a chain starts with fit. -/
def Rule.StartFits (room : Nesting) : Rule → Prop
  | .chain _ left => left.FitsIn room
  | _ => True

theorem Rule.startFits_operand (room : Nesting) (l : Level) : l.operand.StartFits room := by
  cases l <;> trivial

theorem Expr.IsLeaf.fitsIn {e : Expr} (h : e.IsLeaf) (room : Nesting) : e.FitsIn room := by
  cases e <;> trivial

namespace Rule

open Outcome

/-- What a rule derives fits into the room, or the room runs out in reading it. -/
theorem fitsIn_or_outOfRoom (stop : Token) (rest : List Token) {room : Nesting} {rule : Rule}
    {used : List Token} {e : Expr} (h : Derives rule used e) (hstops : rule.Stops rest.head?)
    (hstart : rule.StartFits room) :
    e.FitsIn room ∨ (rule.read room stop (used ++ rest)).result = .error .outOfRoom := by
  induction h generalizing rest room with
  | plain _ ih =>
    rcases ih rest (hstops.mono (Nat.zero_le _)) trivial with h | h
    · exact .inl h
    · right
      rw [read_eq_step]
      simp only [step, andThen_of_error h]
  | @conditional question colon _ ts es _ _ _ hc hquestion ht hcolon _ ihc iht ihe =>
    have hcs : (level .comma).Stops (question :: (ts ++ colon :: (es ++ rest))).head? :=
      stops_question hquestion
    have hts : expression.Stops (colon :: (es ++ rest)).head? :=
      stops_of_kind hcolon (by simp [Kind.joint?])
    rw [read_eq_step]
    simp only [step, List.append_assoc, List.cons_append]
    rcases ihc _ hcs trivial with hfits | hout
    · rw [read_of_fitsIn stop _ hc hcs hfits]
      simp only [ok_andThen, hquestion, if_true]
      cases henter : room.enter branchCost with
      | none =>
        right
        simp only [Outcome.inside, henter]
      | some inner =>
        rw [inside_of_enter henter]
        rcases iht _ hts trivial with hfits' | hout
        · rw [read_of_fitsIn stop _ ht hts hfits']
          simp only [ok_andThen, expect, hcolon, if_true]
          rcases ihe rest hstops trivial with hfits'' | hout
          · exact .inl ⟨hfits, inner, henter, hfits', hfits''⟩
          · exact .inr (by rw [andThen_of_error hout])
        · exact .inr (by rw [andThen_of_error hout])
    · exact .inr (by rw [andThen_of_error hout])
  | @level l ts us left _ hleft h ihleft ih =>
    have hnext := stops_operand_chain h hstops
    rw [read_eq_step]
    simp only [step, List.append_assoc]
    rcases ihleft _ hnext (startFits_operand room l) with hfits | hout
    · rw [read_of_fitsIn stop _ hleft hnext hfits, ok_andThen]
      exact ih rest hstops hfits
    · exact .inr (by rw [andThen_of_error hout])
  | done => exact .inl hstart
  | @join l op ts us left right e hop hright h ihright ih =>
    have hnext := stops_operand_chain h hstops
    rw [read_eq_step]
    simp only [step, List.cons_append, hop, if_true, List.append_assoc]
    rcases ihright _ hnext (startFits_operand room l) with hfits | hout
    · rw [read_of_fitsIn stop _ hright hnext hfits, ok_andThen]
      exact ih rest hstops ⟨hstart, hfits⟩
    · exact .inr (by rw [andThen_of_error hout])
  | unary hop _ ih =>
    rw [read_eq_step]
    simp only [step, List.cons_append, hop, if_true]
    cases henter : room.enter unaryCost with
    | none =>
      right
      simp only [Outcome.inside, henter]
    | some inner =>
      rw [inside_of_enter henter]
      rcases ih rest hstops trivial with hfits | hout
      · exact .inl ⟨inner, henter, hfits⟩
      · exact .inr (by rw [andThen_of_error hout])
  | bare h ih =>
    rcases ih rest (hstops.mono (by decide)) trivial with hfits | hout
    · exact .inl hfits
    · right
      obtain ⟨t, ts, rfl, hop⟩ := head_of_derives_primary h
      rw [read_eq_step]
      simp only [step, List.cons_append, hop, if_false]
      exact hout
  | leaf h => exact .inl ((Token.isLeaf_of_leaf? h).fitsIn room)
  | @group opening closing ts _ hopening h hclosing ih =>
    have hnext : expression.Stops (closing :: rest).head? :=
      stops_of_kind hclosing (by simp [Kind.joint?])
    have hleaf := leaf?_of_leftParen hopening
    rw [read_eq_step]
    simp only [step, List.cons_append, hleaf, hopening, reduceCtorEq, if_false, if_true,
      List.append_assoc, List.nil_append]
    cases henter : room.enter groupCost with
    | none =>
      right
      simp only [Outcome.inside, henter]
    | some inner =>
      rw [inside_of_enter henter]
      rcases ih _ hnext trivial with hfits | hout
      · exact .inl ⟨inner, henter, hfits⟩
      · exact .inr (by rw [andThen_of_error hout])

end Rule

/-! ## Whole inputs -/

section
variable {tokens : List Token} {stop : Token} {e : Expr}

theorem parseWithin_of_derives (h : Derives .expression tokens e) (hstop : stop.isEof = true)
    (room : Nesting) :
    parseWithin room (tokens ++ [stop]) = Input.parseWithin room ⟨tokens, stop⟩ := by
  have hno : ∀ t ∈ tokens, t.isEof = false := fun t ht => h.isEof_eq_false ht
  have hfind : tokens.find? Token.isEof = none := by simpa using hno
  have htake : (tokens ++ [stop]).takeWhile (!·.isEof) = tokens := by
    rw [List.takeWhile_append_of_pos (by simpa using hno)]
    simp [hstop]
  have hinput : Input.ofTokens? (tokens ++ [stop]) = some ⟨tokens, stop⟩ := by
    simp [Input.ofTokens?, hstop, hfind, htake]
  rw [parseWithin, hinput]

/-- Tokens that derive a tree are read within a limit exactly if the tree fits into it. -/
theorem parseWithin_eq_ok_iff (h : Derives .expression tokens e) (hstop : stop.isEof = true)
    (room : Nesting) : parseWithin room (tokens ++ [stop]) = .ok e ↔ e.FitsIn room := by
  rw [parseWithin_of_derives h hstop]
  constructor
  · intro hparse
    rcases Rule.fitsIn_or_outOfRoom stop [] h (Rule.stops_nil _) trivial with hfits | hout
    · exact hfits
    · rw [List.append_nil] at hout
      simp [Input.parseWithin, hout] at hparse
  · intro hfits
    have hread := Rule.read_of_fitsIn stop [] h (Rule.stops_nil _) hfits
    rw [List.append_nil] at hread
    simp [Input.parseWithin, hread, Outcome.ok]

/-- A token that is a tree by itself takes no room. -/
theorem parseWithin_leaf {t : Token} (h : t.leaf? = some e) (hstop : stop.isEof = true)
    (room : Nesting) : parseWithin room [t, stop] = .ok e :=
  (parseWithin_eq_ok_iff (derives_of_leaf? h) hstop room).2 ((Token.isLeaf_of_leaf? h).fitsIn room)

end

/-- Without a limit no input is refused for its nesting. -/
theorem Input.not_isTooDeep_unlimited (input : Input) :
    ¬IsTooDeep (input.parseWithin .unlimited) := by
  have hanswer := Rule.read_answers input.stop .expression input.tokens (by rintro _ _ ⟨⟩)
  unfold parseWithin
  generalize Rule.expression.read .unlimited input.stop input.tokens = o at hanswer
  rintro ⟨t, ht⟩
  cases hanswer with
  | read used rest => cases rest <;> cases ht
  | refused used rest _ h =>
    cases ht
    exact h.fault_ne rfl
  | unreadable => cases ht

/-! ## Chains of operators -/

/-- An operator of a chain and the operand after it, as tokens and as a tree. -/
structure Link where
  operator : Token
  tokens : List Token
  tree : Expr

/-- The tokens of a chain. -/
def chainTokens (first : List Token) (links : List Link) : List Token :=
  first ++ links.flatMap fun k => k.operator :: k.tokens

/-- The tree of a chain; it grows to the left. -/
def chainTree (first : Expr) (links : List Link) : Expr :=
  links.foldl (fun left k => .binary left k.operator.operator k.tree) first

section
variable {first : List Token} {e : Expr} {links : List Link}

theorem derives_chainTokens {l : Level} (h : Derives (.level l) first e)
    (hlinks : ∀ k ∈ links, k.operator.kind ∈ l.operators ∧ Derives l.operand k.tokens k.tree) :
    Derives (.level l) (chainTokens first links) (chainTree e links) := by
  induction links generalizing first e with
  | nil => simpa [chainTokens, chainTree] using h
  | cons k links ih =>
    obtain ⟨hop, hright⟩ := hlinks k (by simp)
    have hmore := ih (h.snoc hop hright) fun k' hk' => hlinks k' (by simp [hk'])
    simpa [chainTokens, chainTree] using hmore

/-- However long a chain is, it needs no more room than its operands. -/
theorem fitsIn_chainTree {room : Nesting} (h : e.FitsIn room)
    (hlinks : ∀ k ∈ links, k.tree.FitsIn room) : (chainTree e links).FitsIn room := by
  induction links generalizing e with
  | nil => exact h
  | cons k links ih =>
    exact ih ⟨h, hlinks k (by simp)⟩ fun k' hk' => hlinks k' (by simp [hk'])

end

theorem derives_of_operand {l : Level} {tokens : List Token} {e : Expr}
    (h : Derives l.operand tokens e) : Derives .expression tokens e := by
  rw [← Rule.ofTightness_operand] at h
  exact h.loosen (m := 0) (Nat.zero_le _) (by have := l.tightness_lt; omega)

/-- A chain over operands that are read within a limit is read within it. -/
theorem parseWithin_chain {room : Nesting} {l : Level} {stop : Token} {first : List Token}
    {e : Expr} {links : List Link} (hstop : stop.isEof = true) (hfirst : Derives l.operand first e)
    (hread : parseWithin room (first ++ [stop]) = .ok e)
    (hlinks : ∀ k ∈ links, k.operator.kind ∈ l.operators ∧ Derives l.operand k.tokens k.tree ∧
      parseWithin room (k.tokens ++ [stop]) = .ok k.tree) :
    parseWithin room (chainTokens first links ++ [stop]) = .ok (chainTree e links) := by
  have hlevel : Derives (.ofTightness l.tightness) (chainTokens first links)
      (chainTree e links) := by
    rw [Rule.ofTightness_level]
    exact derives_chainTokens hfirst.operand fun k hk => ⟨(hlinks k hk).1, (hlinks k hk).2.1⟩
  have hderives := hlevel.loosen (m := 0) (Nat.zero_le _) (by have := l.tightness_lt; omega)
  refine (parseWithin_eq_ok_iff hderives hstop room).2 (fitsIn_chainTree ?_ fun k hk => ?_)
  · exact (parseWithin_eq_ok_iff (derives_of_operand hfirst) hstop room).1 hread
  · obtain ⟨-, hright, hparse⟩ := hlinks k hk
    exact (parseWithin_eq_ok_iff (derives_of_operand hright) hstop room).1 hparse

/-! ## Transparent limits -/

/-- A limit shows in nothing but one kind of outcome: there is none of it without a limit, every
other outcome is the one without a limit, and a higher limit changes no other outcome. -/
structure Nesting.Transparent {α : Type} (run : Nesting → α) (tooDeep : α → Prop) : Prop where
  unlimited : ¬tooDeep (run .unlimited)
  limited : ∀ room, run room = run .unlimited ∨ tooDeep (run room)
  raised : ∀ small large, small ≤ large → ¬tooDeep (run small) → run large = run small

theorem Nesting.Transparent.of_mono {α : Type} {run : Nesting → α} {tooDeep : α → Prop}
    (h : ∀ {small large : Nesting}, small ≤ large → run small = run large ∨ tooDeep (run small))
    (hunlimited : ¬tooDeep (run .unlimited)) : Transparent run tooDeep where
  unlimited := hunlimited
  limited room := h room.le_unlimited
  raised small large hle hnot := by
    rcases h hle with heq | hdeep
    · exact heq.symm
    · exact absurd hdeep hnot

theorem parseWithin_transparent (tokens : List Token) :
    Nesting.Transparent (parseWithin · tokens) IsTooDeep := by
  unfold parseWithin
  cases Input.ofTokens? tokens with
  | some input =>
    exact .of_mono (fun hle => input.parseWithin_mono hle) input.not_isTooDeep_unlimited
  | none =>
    refine .of_mono (fun _ => .inl rfl) ?_
    rintro ⟨t, ht⟩
    cases ht

theorem evalWithin_transparent (e : Expr) :
    Nesting.Transparent (e.evalWithin ·) (· = .error (.error .nestedTooDeeply)) :=
  .of_mono (fun hle => e.evalWithin_mono hle) e.evalWithin_unlimited_ne_nestedTooDeeply

/-- Limits on nesting never change an answer. Reading and evaluating within a limit give what they
give without one, or say that the expression nests too deeply and, in evaluation, nothing about
where. What a limit does not refuse, a higher one leaves as it is. A chain of operators of one
level is read within every limit within which its operands are. -/
theorem nesting_limit :
    (∀ tokens, Nesting.Transparent (parseWithin · tokens) IsTooDeep) ∧
    (∀ t, (ParseError.mk .nestedTooDeeply t).diagnostic.text = "Expression nests too deeply.") ∧
    (∀ e : Expr,
      Nesting.Transparent (e.evalWithin ·) (· = .error (.error .nestedTooDeeply))) ∧
    EvalError.nestedTooDeeply.diagnostic = ⟨"Expression nests too deeply.", none⟩ ∧
    EvalError.nestedTooDeeply.operator = none ∧ EvalError.nestedTooDeeply.side = none ∧
    ∀ (room : Nesting) (l : Level) (stop : Token) (first : List Token) (e : Expr)
      (links : List Link), stop.isEof = true → Derives l.operand first e →
      parseWithin room (first ++ [stop]) = .ok e →
      (∀ k ∈ links, k.operator.kind ∈ l.operators ∧ Derives l.operand k.tokens k.tree ∧
        parseWithin room (k.tokens ++ [stop]) = .ok k.tree) →
      parseWithin room (chainTokens first links ++ [stop]) = .ok (chainTree e links) := by
  refine ⟨parseWithin_transparent, fun t => rfl, evalWithin_transparent, rfl, rfl, rfl, ?_⟩
  intro room l stop first e links hstop hfirst hread hlinks
  exact parseWithin_chain hstop hfirst hread hlinks

/-- Room for one prefix operator is enough for `-nil + -nil + -nil`, and more changes nothing. -/
theorem nesting_limit_of_negations :
    let negation : List Token := [⟨.minus, "-", .absent, 1⟩, ⟨.nilWord, "nil", .absent, 1⟩]
    let tree : Expr := .unary ⟨.minus, "-", 1⟩ .nil
    let stop : Token := ⟨.eof, "", .absent, 1⟩
    let link : Link := ⟨⟨.plus, "+", .absent, 1⟩, negation, tree⟩
    let tokens : List Token := chainTokens negation [link, link] ++ [stop]
    stop.isEof = true ∧ Derives Level.term.operand negation tree ∧
      parseWithin (.atMost 1) (negation ++ [stop]) = .ok tree ∧
      (∀ k ∈ [link, link], k.operator.kind ∈ Level.term.operators ∧
        Derives Level.term.operand k.tokens k.tree ∧
        parseWithin (.atMost 1) (k.tokens ++ [stop]) = .ok k.tree) ∧
      parseWithin (.atMost 1) tokens = .ok (chainTree tree [link, link]) ∧
      Nesting.atMost 1 ≤ .standard ∧ ¬IsTooDeep (parseWithin (.atMost 1) tokens) ∧
      parseWithin .standard tokens = parseWithin (.atMost 1) tokens := by
  intro negation tree stop link tokens
  have hderives : Derives Level.term.operand negation tree :=
    Derives.operand (l := .factor) (.unary (by decide) (.bare (.leaf rfl)))
  have hread : parseWithin (.atMost 1) (negation ++ [stop]) = .ok tree := rfl
  have hlinks : ∀ k ∈ [link, link], k.operator.kind ∈ Level.term.operators ∧
      Derives Level.term.operand k.tokens k.tree ∧
      parseWithin (.atMost 1) (k.tokens ++ [stop]) = .ok k.tree := by
    intro k hk
    obtain rfl : k = link := by simpa using hk
    exact ⟨by decide, hderives, hread⟩
  obtain ⟨hparse, -, -, -, -, -, hchain⟩ := nesting_limit
  have htokens := hchain (.atMost 1) .term stop negation tree [link, link] rfl hderives hread hlinks
  have hle : Nesting.atMost 1 ≤ .standard := show 1 ≤ 990 by decide
  have hnot : ¬IsTooDeep (parseWithin (.atMost 1) tokens) := by
    rintro ⟨t, ht⟩
    cases htokens.symm.trans ht
  exact ⟨rfl, hderives, hread, hlinks, htokens, hle, hnot, (hparse tokens).raised _ _ hle hnot⟩

end LoxExpr
