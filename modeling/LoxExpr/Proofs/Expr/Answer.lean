import LoxExpr.Proofs.Expr.Grammar
import LoxExpr.Proofs.Expr.Reading

/-!
# What rules answer

Without a limit on room, a rule derives the longest run of tokens that it can and leaves the rest,
or it is refused at the first token that no derivation can go on with. `Refuses` says of a run of
tokens and the token after it that this is where a rule gives up. Both kinds of answer are
determined by the tokens (`read_of_derives`, `read_of_refuses`), and there is no third kind
(`read_answers`).
-/

namespace LoxExpr

/-- The token after a run, if there is one, does not carry on what the rule has read. -/
def Rule.Stops (rule : Rule) (next : Option Token) : Prop :=
  ∀ t ∈ next, ∀ n ∈ t.kind.joint?, n < rule.tightness

/-- The rule reads `used` and then gives up at the next token, or at the end of the input. -/
inductive Refuses : Rule → (used : List Token) → (next : Option Token) → ParseFault → Prop
  | condition {used : List Token} {next : Option Token} {fault : ParseFault}
      (h : Refuses (.level .comma) used next fault) : Refuses .expression used next fault
  | thenBranch {question : Token} {cs used : List Token} {c : Expr} {next : Option Token}
      {fault : ParseFault} (hc : Derives (.level .comma) cs c)
      (hquestion : question.kind = .question) (h : Refuses .expression used next fault) :
      Refuses .expression (cs ++ question :: used) next fault
  | colon {question : Token} {cs ts : List Token} {c t : Expr} {next : Option Token}
      (hc : Derives (.level .comma) cs c) (hquestion : question.kind = .question)
      (ht : Derives .expression ts t) (hstops : Rule.expression.Stops next)
      (hnext : ∀ t ∈ next, t.kind ≠ .colon) :
      Refuses .expression (cs ++ question :: ts) next .colonMissing
  | elseBranch {question colon : Token} {cs ts used : List Token} {c t : Expr}
      {next : Option Token} {fault : ParseFault} (hc : Derives (.level .comma) cs c)
      (hquestion : question.kind = .question) (ht : Derives .expression ts t)
      (hcolon : colon.kind = .colon) (h : Refuses .expression used next fault) :
      Refuses .expression (cs ++ question :: (ts ++ colon :: used)) next fault
  | first {l : Level} {used : List Token} {next : Option Token} {fault : ParseFault}
      (h : Refuses l.operand used next fault) : Refuses (.level l) used next fault
  | later {l : Level} {ts used : List Token} {left : Expr} {next : Option Token}
      {fault : ParseFault} (hleft : Derives l.operand ts left)
      (h : Refuses (.chain l left) used next fault) : Refuses (.level l) (ts ++ used) next fault
  | operand {l : Level} {op : Token} {left : Expr} {used : List Token} {next : Option Token}
      {fault : ParseFault} (hop : op.kind ∈ l.operators) (h : Refuses l.operand used next fault) :
      Refuses (.chain l left) (op :: used) next fault
  | join {l : Level} {op : Token} {left right : Expr} {ts used : List Token}
      {next : Option Token} {fault : ParseFault} (hop : op.kind ∈ l.operators)
      (hright : Derives l.operand ts right)
      (h : Refuses (.chain l (.binary left op.operator right)) used next fault) :
      Refuses (.chain l left) (op :: (ts ++ used)) next fault
  | unary {op : Token} {used : List Token} {next : Option Token} {fault : ParseFault}
      (hop : op.kind ∈ unaryOperators) (h : Refuses .unary used next fault) :
      Refuses .unary (op :: used) next fault
  | bare {used : List Token} {next : Option Token} {fault : ParseFault}
      (hop : ∀ t ∈ (used ++ next.toList).head?, t.kind ∉ unaryOperators)
      (h : Refuses .primary used next fault) : Refuses .unary used next fault
  | ended : Refuses .primary [] none .expressionExpected
  | unexpected {t : Token} (hleaf : t.leaf? = none) (hnumber : t.kind ≠ .number)
      (hopening : t.kind ≠ .leftParen) : Refuses .primary [] (some t) .tokenUnexpected
  | inner {opening : Token} {used : List Token} {next : Option Token} {fault : ParseFault}
      (hopening : opening.kind = .leftParen) (h : Refuses .expression used next fault) :
      Refuses .primary (opening :: used) next fault
  | unclosed {opening : Token} {ts : List Token} {e : Expr} {next : Option Token}
      (hopening : opening.kind = .leftParen) (h : Derives .expression ts e)
      (hstops : Rule.expression.Stops next) (hnext : ∀ t ∈ next, t.kind ≠ .rightParen) :
      Refuses .primary (opening :: ts) next .groupUnclosed

/-! ## Room for a tree -/

namespace Expr

/-- There is room to read a tree. A chain of binary operators takes none beyond its operands. -/
def FitsIn : Expr → Nesting → Prop
  | .group inner, room => ∃ inside, room.enter groupCost = some inside ∧ inner.FitsIn inside
  | .unary _ operand, room =>
    ∃ inside, room.enter unaryCost = some inside ∧ operand.FitsIn inside
  | .binary left _ right, room => left.FitsIn room ∧ right.FitsIn room
  | .conditional c t e, room =>
    c.FitsIn room ∧
      ∃ inside, room.enter branchCost = some inside ∧ t.FitsIn inside ∧ e.FitsIn inside
  | _, _ => True

theorem fitsIn_unlimited (e : Expr) : e.FitsIn .unlimited := by
  induction e with
  | group inner ih => exact ⟨.unlimited, rfl, ih⟩
  | unary op operand ih => exact ⟨.unlimited, rfl, ih⟩
  | binary left op right ihl ihr => exact ⟨ihl, ihr⟩
  | conditional c t e ihc iht ihe => exact ⟨ihc, .unlimited, rfl, iht, ihe⟩
  | _ => exact True.intro

end Expr

namespace Rule

/-! ## What stops a rule -/

theorem stops_of_kind {rule : Rule} {t : Token} {rest : List Token} {kind : Kind}
    (h : t.kind = kind) (hkind : ∀ n ∈ kind.joint?, n < rule.tightness) :
    rule.Stops (t :: rest).head? := by
  intro t' ht
  cases ht
  exact h ▸ hkind

/-- A question mark does not carry on what stands before it in a conditional. -/
theorem stops_question {t : Token} {rest : List Token} (h : t.kind = .question) :
    (level .comma).Stops (t :: rest).head? :=
  stops_of_kind h (by simp [Kind.joint?, tightness, Level.tightness])

theorem stops_operand {l : Level} {op : Token} {rest : List Token} (h : op.kind ∈ l.operators) :
    l.operand.Stops (op :: rest).head? := by
  refine stops_of_kind rfl fun n hn => ?_
  rw [Level.mem_operators_iff.1 h, Option.mem_some_iff] at hn
  rw [Level.tightness_operand]
  omega

theorem Stops.mono {rule rule' : Rule} {next : Option Token} (h : rule.Stops next)
    (hle : rule.tightness ≤ rule'.tightness) : rule'.Stops next :=
  fun t ht n hn => Nat.lt_of_lt_of_le (h t ht n hn) hle

theorem Stops.operand {l : Level} {next : Option Token} (h : (level l).Stops next) :
    l.operand.Stops next :=
  h.mono (by rw [Level.tightness_operand]; exact Nat.le_succ _)

/-- What stops the operands of a level and is not one of its operators stops the level. -/
theorem stops_level {l : Level} {next : Option Token} (h : l.operand.Stops next)
    (hnext : ∀ t ∈ next, t.kind ∉ l.operators) : (level l).Stops next := by
  intro t ht n hn
  have hlt := h t ht n hn
  have hne : n ≠ l.tightness := fun heq => hnext t ht (Level.mem_operators_iff.2 (heq ▸ hn))
  rw [Level.tightness_operand] at hlt
  simp only [tightness]
  omega

/-- What stops a comma chain and is no question mark stops an expression. -/
theorem stops_expression {next : Option Token} (h : (level .comma).Stops next)
    (hnext : ∀ t ∈ next, t.kind ≠ .question) : expression.Stops next := by
  intro t ht n hn
  have hlt : n < 1 := h t ht n hn
  have hzero : ∀ kind : Kind, kind.joint? = some 0 → kind = .question := by
    intro kind
    cases kind <;> decide
  obtain rfl : n = 0 := by omega
  exact absurd (hzero _ hn) (hnext t ht)

theorem not_mem_of_stops {l : Level} {t : Token} {rest : List Token}
    (h : (level l).Stops (t :: rest).head?) : t.kind ∉ l.operators := fun hop =>
  absurd (h t rfl _ (Level.mem_operators_iff.1 hop)) (Nat.lt_irrefl _)

theorem ne_question_of_stops {t : Token} {rest : List Token}
    (h : expression.Stops (t :: rest).head?) : t.kind ≠ .question := by
  intro hq
  exact absurd (h t rfl 0 (by rw [hq]; rfl)) (Nat.lt_irrefl 0)

/-! ## Answers are determined by the tokens -/

variable {stop : Token}

open Outcome

/-- A chain that goes on begins with an operator of its level. -/
theorem head_of_derives_chain {l : Level} {left e : Expr} {used : List Token}
    (h : Derives (.chain l left) used e) :
    used = [] ∨ ∃ op ts, used = op :: ts ∧ op.kind ∈ l.operators := by
  cases h with
  | done => exact .inl rfl
  | join hop _ _ => exact .inr ⟨_, _, rfl, hop⟩

/-- What stops a level stops the operand before the rest of a chain. -/
theorem stops_operand_chain {l : Level} {left e : Expr} {used rest : List Token}
    (h : Derives (.chain l left) used e) (hstops : (level l).Stops rest.head?) :
    l.operand.Stops (used ++ rest).head? := by
  obtain rfl | ⟨op, used, rfl, hop⟩ := head_of_derives_chain h
  · exact hstops.operand
  · exact stops_operand hop

theorem head_of_refuses_chain {l : Level} {left : Expr} {used : List Token} {next : Option Token}
    {fault : ParseFault} (h : Refuses (.chain l left) used next fault) :
    ∃ op ts, used = op :: ts ∧ op.kind ∈ l.operators := by
  cases h with
  | operand hop _ => exact ⟨_, _, rfl, hop⟩
  | join hop _ _ => exact ⟨_, _, rfl, hop⟩

/-- A primary begins with no prefix operator. -/
theorem head_of_derives_primary {e : Expr} {used : List Token} (h : Derives .primary used e) :
    ∃ t ts, used = t :: ts ∧ t.kind ∉ unaryOperators := by
  cases h with
  | leaf h =>
    refine ⟨_, _, rfl, fun hop => ?_⟩
    have hk := Token.kind_of_leaf? h
    revert hk hop
    cases Token.kind _ <;> decide
  | group hopening _ _ => exact ⟨_, _, rfl, by rw [hopening]; decide⟩

theorem leaf?_of_leftParen {t : Token} (h : t.kind = .leftParen) : t.leaf? = none := by
  simp [Token.leaf?, h]

theorem fitsIn_of_derives_chain {room : Nesting} {l : Level} {left e : Expr} {used : List Token}
    (h : Derives (.chain l left) used e) (hroom : e.FitsIn room) : left.FitsIn room := by
  generalize hrule : chain l left = rule at h
  induction h generalizing left with
  | done =>
    cases hrule
    exact hroom
  | join _ _ _ _ ih =>
    cases hrule
    exact (ih hroom rfl).1
  | _ => cases hrule

/-- A rule reads whatever it derives, if there is room for the tree and the next token does not
carry it on. -/
theorem read_of_fitsIn (stop : Token) (rest : List Token) {room : Nesting} {rule : Rule}
    {used : List Token} {e : Expr} (h : Derives rule used e) (hstops : rule.Stops rest.head?)
    (hroom : e.FitsIn room) : rule.read room stop (used ++ rest) = .ok e rest := by
  induction h generalizing rest room with
  | plain _ ih =>
    have hc := ih rest (hstops.mono (Nat.zero_le _)) hroom
    rw [read_eq_step]
    cases rest with
    | nil => simp only [step, hc, ok_andThen]
    | cons t rest => simp only [step, hc, ok_andThen, ne_question_of_stops hstops, if_false]
  | @conditional question colon _ ts es _ _ _ _ hquestion _ hcolon _ ihc iht ihe =>
    obtain ⟨hroomc, inner, henter, hroomt, hroome⟩ := hroom
    have hc := ihc (question :: (ts ++ colon :: (es ++ rest))) (stops_question hquestion) hroomc
    have ht := iht (colon :: (es ++ rest)) (stops_of_kind hcolon (by simp [Kind.joint?])) hroomt
    have he := ihe rest hstops hroome
    rw [read_eq_step]
    simp only [step, List.append_assoc, List.cons_append, hc, ok_andThen, hquestion, if_true,
      inside_of_enter henter, ht, expect, hcolon, he]
  | @level l ts us left _ _ h ihleft ih =>
    have hleft := fitsIn_of_derives_chain h hroom
    have hnext := stops_operand_chain h hstops
    rw [read_eq_step]
    simp only [step, List.append_assoc, ihleft (us ++ rest) hnext hleft, ok_andThen]
    exact ih rest hstops hroom
  | done =>
    rw [read_eq_step]
    cases rest with
    | nil => simp only [step, List.append_nil]
    | cons t rest => simp only [step, List.nil_append, not_mem_of_stops hstops, if_false]
  | @join l op ts us left right e hop _ h ihright ih =>
    have hright := (fitsIn_of_derives_chain h hroom).2
    have hnext := stops_operand_chain h hstops
    have hr := ihright (us ++ rest) hnext hright
    rw [read_eq_step]
    simp only [step, List.cons_append, hop, if_true, List.append_assoc, hr, ok_andThen]
    exact ih rest hstops hroom
  | unary hop _ ih =>
    obtain ⟨inner, henter, hroom⟩ := hroom
    have ho := ih rest hstops hroom
    rw [read_eq_step]
    simp only [step, List.cons_append, hop, if_true, inside_of_enter henter, ho, ok_andThen]
  | bare h ih =>
    obtain ⟨t, ts, rfl, hop⟩ := head_of_derives_primary h
    rw [read_eq_step]
    simp only [step, List.cons_append, hop, if_false]
    exact ih rest (hstops.mono (by decide)) hroom
  | leaf h =>
    rw [read_eq_step]
    simp only [step, List.cons_append, List.nil_append, h]
  | @group opening closing ts _ hopening _ hclosing ih =>
    obtain ⟨inner, henter, hroom⟩ := hroom
    have hi := ih (closing :: rest) (stops_of_kind hclosing (by simp [Kind.joint?])) hroom
    have hleaf := leaf?_of_leftParen hopening
    rw [read_eq_step]
    simp only [step, List.cons_append, hleaf, hopening, reduceCtorEq, if_false, if_true,
      inside_of_enter henter, List.append_assoc, List.nil_append, hi, ok_andThen, expect, hclosing]

/-- Without a limit on room, a rule reads whatever it derives, if the next token does not carry
it on. -/
theorem read_of_derives (stop : Token) (rest : List Token) {rule : Rule} {used : List Token}
    {e : Expr} (h : Derives rule used e) (hstops : rule.Stops rest.head?) :
    rule.read .unlimited stop (used ++ rest) = .ok e rest :=
  read_of_fitsIn stop rest h hstops e.fitsIn_unlimited

theorem read_of_refuses (stop : Token) {rule : Rule} {used rest : List Token} {next : Option Token}
    {fault : ParseFault} (h : Refuses rule used next fault) (hnext : rest.head? = next) :
    (rule.read .unlimited stop (used ++ rest)).result =
      .error (.refused ⟨fault, next.getD stop⟩) := by
  induction h with
  | condition _ ih =>
    rw [read_eq_step]
    simp only [step, andThen_of_error (ih hnext)]
  | @thenBranch question _ used _ _ _ hc hquestion _ ih =>
    have hc := read_of_derives stop (question :: (used ++ rest)) hc (stops_question hquestion)
    rw [read_eq_step]
    simp only [step, List.append_assoc, List.cons_append, hc, ok_andThen, hquestion, if_true,
      inside_unlimited, andThen_of_error (ih hnext)]
  | @colon question _ ts _ _ next hc hquestion ht hstops hcolon =>
    have hc := read_of_derives stop (question :: (ts ++ rest)) hc (stops_question hquestion)
    have ht := read_of_derives stop rest ht (hnext ▸ hstops)
    rw [read_eq_step]
    simp only [step, List.append_assoc, List.cons_append, hc, ok_andThen, hquestion, if_true,
      inside_unlimited, ht, expect]
    cases rest with
    | nil => simp [← hnext, refuse]
    | cons t rest =>
      subst hnext
      simp [hcolon t rfl, refuse]
  | @elseBranch question colon _ ts used _ _ _ _ hc hquestion ht hcolon _ ih =>
    have hc := read_of_derives stop (question :: (ts ++ colon :: (used ++ rest)))
      hc (stops_question hquestion)
    have ht := read_of_derives stop (colon :: (used ++ rest)) ht
      (stops_of_kind hcolon (by simp [Kind.joint?]))
    rw [read_eq_step]
    simp only [step, List.append_assoc, List.cons_append, hc, ok_andThen, hquestion, if_true,
      inside_unlimited, ht, expect, hcolon, andThen_of_error (ih hnext)]
  | first _ ih =>
    rw [read_eq_step]
    simp only [step, andThen_of_error (ih hnext)]
  | later hleft h ih =>
    obtain ⟨op, used, rfl, hop⟩ := head_of_refuses_chain h
    have hl := read_of_derives stop (op :: (used ++ rest)) hleft
      (stops_operand hop)
    rw [read_eq_step]
    simp only [step, List.append_assoc, List.cons_append, hl, ok_andThen]
    exact ih hnext
  | operand hop _ ih =>
    rw [read_eq_step]
    simp only [step, List.cons_append, hop, if_true, andThen_of_error (ih hnext)]
  | join hop hright h ih =>
    obtain ⟨op', used, rfl, hop'⟩ := head_of_refuses_chain h
    have hr := read_of_derives stop (op' :: (used ++ rest)) hright
      (stops_operand hop')
    rw [read_eq_step]
    simp only [step, List.cons_append, hop, if_true, List.append_assoc, hr, ok_andThen]
    exact ih hnext
  | unary hop _ ih =>
    rw [read_eq_step]
    simp only [step, List.cons_append, hop, if_true, inside_unlimited, andThen_of_error (ih hnext)]
  | @bare used next _ hop _ ih =>
    have hhead : (used ++ rest).head? = (used ++ next.toList).head? := by
      rw [List.head?_append, List.head?_append, hnext, Option.head?_toList]
    rw [read_eq_step, ← ih hnext]
    cases htokens : used ++ rest with
    | nil => simp only [step]
    | cons t tokens =>
      rw [htokens] at hhead
      simp only [step, hop t hhead.symm, if_false]
  | ended =>
    obtain rfl := List.head?_eq_none_iff.1 hnext
    rw [read_eq_step]
    rfl
  | @unexpected t hleaf hnumber hopening =>
    obtain ⟨rest, rfl⟩ := List.head?_eq_some_iff.1 hnext
    rw [read_eq_step]
    simp [step, hleaf, hnumber, hopening, refuse]
  | @inner opening _ _ _ hopening _ ih =>
    have hleaf := leaf?_of_leftParen hopening
    rw [read_eq_step]
    simp only [step, List.cons_append, hleaf, hopening, reduceCtorEq, if_false, if_true,
      inside_unlimited, andThen_of_error (ih hnext)]
  | @unclosed opening ts _ next hopening h hstops hclosing =>
    have hleaf := leaf?_of_leftParen hopening
    have hi := read_of_derives stop rest h (hnext ▸ hstops)
    rw [read_eq_step]
    simp only [step, List.cons_append, hleaf, hopening, reduceCtorEq, if_false, if_true,
      inside_unlimited, hi, ok_andThen, expect]
    cases rest with
    | nil => simp [← hnext, refuse]
    | cons t rest =>
      subst hnext
      simp [hclosing t rfl, refuse]

/-! ## There is no other answer -/

/-- An outcome that derivations or refusals account for. The tokens that a failure leaves are not
part of it. -/
inductive Answers (stop : Token) (rule : Rule) (tokens : List Token) : Outcome → Prop
  | read (used rest : List Token) {e : Expr} (htokens : tokens = used ++ rest)
      (h : Derives rule used e) (hstops : rule.Stops rest.head?) :
      Answers stop rule tokens (.ok e rest)
  | refused (used rest : List Token) {left : List Token} {fault : ParseFault}
      (htokens : tokens = used ++ rest) (h : Refuses rule used rest.head? fault) :
      Answers stop rule tokens ⟨.error (.refused ⟨fault, rest.head?.getD stop⟩), left⟩
  | unreadable {t : Token} {left : List Token} (ht : t ∈ tokens) (hkind : t.kind = .number)
      (hleaf : t.leaf? = none) :
      Answers stop rule tokens ⟨.error (.unreadableNumber t.lexeme), left⟩

/-- The answer of a rule from that of its first part. -/
theorem Answers.andThen {rule part : Rule} {tokens tokens' : List Token} {o : Outcome}
    {next : Expr → List Token → Outcome} (h : Answers stop part tokens' o)
    (hread : ∀ used rest e, tokens' = used ++ rest → Derives part used e → part.Stops rest.head? →
      Answers stop rule tokens (next e rest))
    (hrefused : ∀ used rest fault, tokens' = used ++ rest → Refuses part used rest.head? fault →
      ∃ used', tokens = used' ++ rest ∧ Refuses rule used' rest.head? fault)
    (hmem : tokens' ⊆ tokens) : Answers stop rule tokens (o.andThen next) := by
  cases h with
  | read _ _ htokens h hstops => exact hread _ _ _ htokens h hstops
  | refused _ _ htokens h =>
    obtain ⟨used, htokens, h⟩ := hrefused _ _ _ htokens h
    exact .refused _ _ htokens h
  | unreadable ht hkind hleaf => exact .unreadable (hmem ht) hkind hleaf

/-- The answer of a rule from that of its last part. -/
theorem Answers.last {rule part : Rule} {tokens tokens' : List Token} {o : Outcome}
    (h : Answers stop part tokens' o)
    (hread : ∀ used rest e, tokens' = used ++ rest → Derives part used e → part.Stops rest.head? →
      ∃ used', tokens = used' ++ rest ∧ Derives rule used' e ∧ rule.Stops rest.head?)
    (hrefused : ∀ used rest fault, tokens' = used ++ rest → Refuses part used rest.head? fault →
      ∃ used', tokens = used' ++ rest ∧ Refuses rule used' rest.head? fault)
    (hmem : tokens' ⊆ tokens) : Answers stop rule tokens o := by
  cases h with
  | read _ _ htokens h hstops =>
    obtain ⟨used, htokens, h, hstops⟩ := hread _ _ _ htokens h hstops
    exact .read _ _ htokens h hstops
  | refused _ _ htokens h =>
    obtain ⟨used, htokens, h⟩ := hrefused _ _ _ htokens h
    exact .refused _ _ htokens h
  | unreadable ht hkind hleaf => exact .unreadable (hmem ht) hkind hleaf

/-- The first operands of a chain have read all that they can. -/
def Ready (rule : Rule) (tokens : List Token) : Prop :=
  ∀ l left, rule = .chain l left → l.operand.Stops tokens.head?

theorem ready_operand (l : Level) (tokens : List Token) : l.operand.Ready tokens := by
  intro _ _ h
  cases l <;> cases h

theorem ready_chain {l : Level} {left : Expr} {tokens : List Token}
    (h : l.operand.Stops tokens.head?) : (chain l left).Ready tokens := by
  rintro _ _ ⟨⟩
  exact h

theorem stops_of_tight {rule : Rule} {next : Option Token} (h : 6 ≤ rule.tightness) :
    rule.Stops next := by
  have hjoint : ∀ (kind : Kind) (n : Nat), kind.joint? = some n → n < 6 := by
    intro kind
    cases kind <;> simp [Kind.joint?]
  exact fun t _ n hn => Nat.lt_of_lt_of_le (hjoint _ _ hn) h

theorem stops_nil (rule : Rule) : rule.Stops ([] : List Token).head? := by
  intro _ h
  cases h

/-- What is known of the parts of a rule: they need less, and have an answer. -/
def PartsAnswer (stop : Token) (rule : Rule) (tokens : List Token) : Prop :=
  ∀ (part : Rule) (rest : List Token), part.need rest < rule.need tokens → part.Ready rest →
    Answers stop part rest (part.read .unlimited stop rest)

section
variable {stop : Token} {tokens : List Token} {l : Level} {left : Expr}

theorem expression_answers (part : PartsAnswer stop .expression tokens) :
    Answers stop .expression tokens (expression.read .unlimited stop tokens) := by
  rw [read_eq_step]
  simp only [step]
  have hcondition := part (.level .comma) tokens (by simp [need, depth]) (by rintro _ _ ⟨⟩)
  refine hcondition.andThen (fun cs rest c htokens hc hstops => ?_)
    (fun used rest fault hu h => ⟨used, hu, .condition h⟩) (List.Subset.refl _)
  subst htokens
  cases rest with
  | nil => exact .read _ _ rfl (.plain hc) (stops_nil _)
  | cons question after =>
    by_cases hq : question.kind = .question
    · simp only [hq, if_true, inside_unlimited]
      have hthen := part .expression after (need_lt_of_cons_suffix (List.suffix_append _ _))
        (by rintro _ _ ⟨⟩)
      refine hthen.andThen (fun ts rest t htokens ht hafter => ?_)
        (fun used rest fault hu h => ⟨cs ++ question :: used, by simp [hu], .thenBranch hc hq h⟩)
        (fun _ h => by simp [h])
      subst htokens
      have hmissing : (∀ t ∈ rest.head?, t.kind ≠ .colon) →
          Answers stop .expression (cs ++ question :: (ts ++ rest))
            (refuse .colonMissing (rest.head?.getD stop) rest) :=
        fun hnext => .refused _ _ (by simp) (.colon hc hq ht hafter hnext)
      refine expect_elim (fun colon after hrest hcolon => ?_) hmissing
      subst hrest
      have helse := part .expression after
        (need_lt_of_cons_suffix (show colon :: after <:+ _ from ⟨cs ++ question :: ts, by simp⟩))
        (by rintro _ _ ⟨⟩)
      refine helse.andThen (fun es rest e htokens he hend => ?_)
        (fun used rest fault hu h => ⟨cs ++ question :: (ts ++ colon :: used), by simp [hu],
          .elseBranch hc hq ht hcolon h⟩)
        (fun _ h => by simp [h])
      subst htokens
      exact .read _ _ (by simp) (.conditional hc hq ht hcolon he) hend
    · simp only [hq, if_false]
      exact .read _ _ rfl (.plain hc) (stops_expression hstops (by simpa using hq))

theorem level_answers (part : PartsAnswer stop (.level l) tokens) :
    Answers stop (.level l) tokens ((level l).read .unlimited stop tokens) := by
  rw [read_eq_step]
  simp only [step]
  have hd := depth_operand l
  have hfirst := part l.operand tokens (by simp only [need]; omega) (ready_operand l tokens)
  refine hfirst.andThen (fun ts rest left htokens hleft hstops => ?_)
    (fun used rest fault hu h => ⟨used, hu, .first h⟩) (List.Subset.refl _)
  subst htokens
  have hd := depth_chain_lt l left
  have hchain := part (.chain l left) rest (by simp only [need, List.length_append]; omega)
    (ready_chain hstops)
  exact hchain.last
    (fun used rest e hu h hstops => ⟨ts ++ used, by simp [hu], .level hleft h, hstops⟩)
    (fun used rest fault hu h => ⟨ts ++ used, by simp [hu], .later hleft h⟩)
    (List.subset_append_right _ _)

theorem chain_answers (part : PartsAnswer stop (.chain l left) tokens)
    (hready : (chain l left).Ready tokens) :
    Answers stop (.chain l left) tokens ((chain l left).read .unlimited stop tokens) := by
  rw [read_eq_step]
  cases tokens with
  | nil => exact .read _ _ rfl .done (stops_nil _)
  | cons op tokens =>
    by_cases hop : op.kind ∈ l.operators
    · simp only [step, hop, if_true]
      have hoperand := part l.operand tokens (need_lt_of_cons_suffix List.suffix_rfl)
        (ready_operand l tokens)
      refine hoperand.andThen (fun ts rest right htokens hright hstops => ?_)
        (fun used rest fault hu h => ⟨op :: used, by simp [hu], .operand hop h⟩)
        (fun _ h => by simp [h])
      subst htokens
      have hchain := part (.chain l (.binary left op.operator right)) rest
        (by simp only [need, depth, List.length_append, List.length_cons]; omega)
        (ready_chain hstops)
      exact hchain.last
        (fun used rest e hu h hstops =>
          ⟨op :: (ts ++ used), by simp [hu], .join hop hright h, hstops⟩)
        (fun used rest fault hu h => ⟨op :: (ts ++ used), by simp [hu], .join hop hright h⟩)
        (fun _ h => by simp [h])
    · simp only [step, hop, if_false]
      have hstops := stops_level (hready l left rfl) (by simpa using hop)
      exact .read [] (op :: tokens) rfl .done hstops

theorem unary_answers (part : PartsAnswer stop .unary tokens) :
    Answers stop .unary tokens (unary.read .unlimited stop tokens) := by
  rw [read_eq_step]
  have bare : (∀ t ∈ tokens.head?, t.kind ∉ unaryOperators) →
      Answers stop .unary tokens (primary.read .unlimited stop tokens) := by
    intro hop
    have hprimary := part .primary tokens (by simp [need, depth]) (by rintro _ _ ⟨⟩)
    refine hprimary.last
      (fun used rest e hu h _ => ⟨used, hu, .bare h, stops_of_tight (by decide)⟩)
      (fun used rest fault hu h => ⟨used, hu, .bare ?_ h⟩) (List.Subset.refl _)
    rwa [List.head?_append, Option.head?_toList, ← List.head?_append, ← hu]
  cases tokens with
  | nil =>
    simp only [step]
    exact bare (by simp)
  | cons op tokens =>
    by_cases hop : op.kind ∈ unaryOperators
    · simp only [step, hop, if_true, inside_unlimited]
      have hoperand := part .unary tokens (need_lt_of_cons_suffix List.suffix_rfl) (by rintro _ _ ⟨⟩)
      refine hoperand.andThen (fun ts rest operand htokens h hstops => ?_)
        (fun used rest fault hu h => ⟨op :: used, by simp [hu], .unary hop h⟩)
        (fun _ h => by simp [h])
      subst htokens
      exact .read _ _ (by simp) (.unary hop h) hstops
    · simp only [step, hop, if_false]
      exact bare (by simpa using hop)

theorem primary_answers (part : PartsAnswer stop .primary tokens) :
    Answers stop .primary tokens (primary.read .unlimited stop tokens) := by
  rw [read_eq_step]
  cases tokens with
  | nil => exact .refused [] [] rfl .ended
  | cons t tokens =>
    simp only [step]
    cases hleaf : t.leaf? with
    | some e => exact .read [t] tokens rfl (.leaf hleaf) (stops_of_tight (by decide))
    | none =>
      by_cases hnumber : t.kind = .number
      · simp only [hnumber, if_true]
        exact .unreadable (by simp) hnumber hleaf
      · by_cases hopening : t.kind = .leftParen
        · simp only [hopening, reduceCtorEq, if_false, if_true, inside_unlimited]
          have hinner := part .expression tokens (need_lt_of_cons_suffix List.suffix_rfl)
            (by rintro _ _ ⟨⟩)
          refine hinner.andThen (fun ts rest inner htokens h hstops => ?_)
            (fun used rest fault hu h => ⟨t :: used, by simp [hu], .inner hopening h⟩)
            (fun _ h => by simp [h])
          subst htokens
          refine expect_elim (fun closing rest hrest hclosing => ?_) fun hnext =>
            .refused (t :: ts) _ rfl (.unclosed hopening h hstops hnext)
          subst hrest
          exact .read _ _ (by simp) (.group hopening h hclosing) (stops_of_tight (by decide))
        · simp only [hnumber, hopening, if_false]
          exact .refused [] (t :: tokens) rfl
            (.unexpected hleaf hnumber hopening)

end

/-- Without a limit on room, a rule derives or is refused, unless a number cannot be read. -/
theorem read_answers (stop : Token) (rule : Rule) (tokens : List Token)
    (hready : rule.Ready tokens) :
    Answers stop rule tokens (rule.read .unlimited stop tokens) := by
  induction hn : rule.need tokens using Nat.strongRecOn generalizing rule tokens with
  | ind n ih =>
  subst hn
  have part : PartsAnswer stop rule tokens :=
    fun part rest hlt hready => ih _ hlt part rest hready rfl
  cases rule with
  | expression => exact expression_answers part
  | level l => exact level_answers part
  | chain l left => exact chain_answers part hready
  | unary => exact unary_answers part
  | primary => exact primary_answers part

end Rule

end LoxExpr
