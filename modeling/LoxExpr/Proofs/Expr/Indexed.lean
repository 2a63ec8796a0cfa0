import LoxExpr.Expr.Cursor
import LoxExpr.Expr.Parser
import LoxExpr.Proofs.Expr.Nodes
import LoxExpr.Proofs.Expr.Parsing

/-!
# Reading through an index

A parser stands in an input: some of its tokens are left, then comes the token that ends it, then
whatever the token list goes on with (`Parser.standing`). From there the single operations do what
is to be expected of them, and a rule reads exactly as `Rule.read` says (`Parser.readsAs_read`). So
all that is known of rules holds for the parser: it is the one that reads whole inputs
(`Parser.parseWithin_eq_whole`).
-/

namespace LoxExpr

/-- An input ends at its last token and nowhere before. -/
structure Input.IsProper (input : Input) : Prop where
  stop : input.stop.isEof = true
  tokens : ∀ t ∈ input.tokens, t.isEof = false

theorem isProper_sentence {tokens : List Token} {stop : Token} (h : stop.isEof = true) :
    Input.IsProper ⟨sentence tokens, stop⟩ :=
  ⟨h, fun _ => isEof_of_mem_sentence⟩

theorem Input.IsProper.stop_not_mem {input : Input} (h : input.IsProper) {kinds : List Kind}
    (hkinds : .eof ∉ kinds) : input.stop.kind ∉ kinds := by
  have hstop : input.stop.kind = .eof := by simpa [Token.isEof] using h.stop
  rwa [hstop]

theorem Cursor.rest_isSuffix (c : Cursor) : c.rest <:+ c.input.tokens := List.drop_suffix _ _

theorem Cursor.rest_advance (c : Cursor) : c.advance.2.rest = c.rest.tail := by
  cases hrest : c.rest with
  | nil =>
    have hend : c.atEnd := by rw [Cursor.atEnd, hrest]; rfl
    rw [Cursor.advance, if_pos hend, hrest]
    rfl
  | cons token rest =>
    have hmore : ¬c.atEnd := by rw [Cursor.atEnd, hrest]; simp
    rw [Cursor.advance, if_neg hmore, ← hrest, Cursor.rest, Cursor.rest, List.tail_drop]

namespace Parser

/-! ## Operations -/

section
variable {α β : Type}

@[simp] theorem perform_pure (a : α) (p : Parser) : perform (pure a) p = (.ok a, p) := rfl

@[simp] theorem perform_refuse (fault : ParseFault) (token : Token) (p : Parser) :
    perform (refuse fault token : Operation α) p = (.error (.rule (.refused ⟨fault, token⟩)), p) :=
  rfl

@[simp] theorem perform_get (p : Parser) : perform get p = (.ok p, p) := rfl

@[simp] theorem perform_modify (f : Parser → Parser) (p : Parser) :
    perform (modify f) p = (.ok ⟨⟩, f p) := rfl

theorem perform_bind (operation : Operation α) (next : α → Operation β) (p : Parser) :
    perform (operation >>= next) p =
      match perform operation p with
      | (.ok a, q) => perform (next a) q
      | (.error failure, q) => (.error failure, q) := by
  simp only [perform, ExceptT.run_bind, StateT.run_bind]
  rcases StateT.run (ExceptT.run operation) p with ⟨result, q⟩
  cases result <;> rfl

end

/-! ## Places in an input -/

/-- The parser that has some tokens of an input left. The token list goes on behind the end. -/
def standing (input : Input) (after rest : List Token) : Parser :=
  ⟨input.tokens ++ input.stop :: after, input.tokens.length - rest.length⟩

/-- The result of a rule, and the parser that has the tokens left that the rule leaves. -/
def leaving (input : Input) (after : List Token) (o : Outcome) : Except Failure Expr × Parser :=
  (o.result.mapError .rule, standing input after o.rest)

variable {input : Input} {after rest : List Token}

theorem leaving_of_ok {o : Outcome} {e : Expr} (h : o.result = .ok e) :
    leaving input after o = (.ok e, standing input after o.rest) := by
  simp only [leaving, h, Except.mapError]

theorem leaving_of_error {o : Outcome} {failure : RuleFailure} (h : o.result = .error failure) :
    leaving input after o = (.error (.rule failure), standing input after o.rest) := by
  simp only [leaving, h, Except.mapError]

/-! ## Single tokens -/

theorem perform_current (hrest : rest <:+ input.tokens) :
    perform current (standing input after rest) =
      (.ok (rest.headD input.stop), standing input after rest) := by
  have hnext : (standing input after rest).tokens[(standing input after rest).position]? =
      some (rest.headD input.stop) := by
    obtain ⟨before, hbefore⟩ := hrest
    simp only [standing, ← hbefore, List.length_append, Nat.add_sub_cancel, List.append_assoc]
    rw [List.getElem?_append_right (Nat.le_refl _), Nat.sub_self]
    cases rest <;> rfl
  simp only [current, perform_bind, perform_get, hnext, perform_pure]

theorem isEof_headD (hinput : input.IsProper) (hrest : rest <:+ input.tokens) :
    (rest.headD input.stop).isEof = rest.isEmpty := by
  cases rest with
  | nil => exact hinput.stop
  | cons t rest => exact hinput.tokens t (hrest.subset List.mem_cons_self)

theorem perform_atEnd (hinput : input.IsProper) (hrest : rest <:+ input.tokens) :
    perform atEnd (standing input after rest) =
      (.ok rest.isEmpty, standing input after rest) := by
  simp only [atEnd, perform_bind, perform_current hrest, perform_pure, isEof_headD hinput hrest]

theorem perform_advance (hinput : input.IsProper) (hrest : rest <:+ input.tokens) :
    perform advance (standing input after rest) =
      (.ok (rest.headD input.stop), standing input after rest.tail) := by
  simp only [advance, perform_bind, perform_current hrest, perform_atEnd hinput hrest]
  cases rest with
  | nil => rfl
  | cons t rest =>
    have hlength : rest.length + 1 ≤ input.tokens.length := hrest.length_le
    have hposition : input.tokens.length - (rest.length + 1) + 1 =
        input.tokens.length - rest.length := by omega
    simp only [List.isEmpty_cons, Bool.false_eq_true, if_false, perform_bind, perform_modify,
      perform_pure, standing, List.length_cons, hposition, List.tail_cons]

theorem perform_check (kinds : List Kind) (hrest : rest <:+ input.tokens) :
    perform (check kinds) (standing input after rest) =
      (.ok (kinds.contains (rest.headD input.stop).kind), standing input after rest) := by
  simp only [check, perform_bind, perform_current hrest, perform_pure]

theorem perform_accept (kinds : List Kind) (hinput : input.IsProper)
    (hrest : rest <:+ input.tokens) :
    perform (accept kinds) (standing input after rest) =
      if (rest.headD input.stop).kind ∈ kinds then
        (.ok (some (rest.headD input.stop)), standing input after rest.tail)
      else (.ok none, standing input after rest) := by
  simp only [accept, perform_bind, perform_check kinds hrest, List.contains_iff_mem]
  split
  · simp only [perform_bind, perform_advance hinput hrest, perform_pure]
  · rfl

theorem perform_expect (kind : Kind) (fault : ParseFault) (hinput : input.IsProper)
    (hrest : rest <:+ input.tokens) :
    perform (expect kind fault) (standing input after rest) =
      if (rest.headD input.stop).kind = kind then
        (.ok (rest.headD input.stop), standing input after rest.tail)
      else (.error (.rule (.refused ⟨fault, rest.headD input.stop⟩)),
        standing input after rest) := by
  simp only [expect, perform_bind, perform_current hrest]
  split
  · exact perform_advance hinput hrest
  · simp only [perform_bind, perform_current hrest, perform_refuse]

/-! ## Rules -/

theorem perform_bind_leaving {operation : Operation Expr} {o : Outcome} {p : Parser}
    {next : Expr → Operation Expr} {reading : Expr → List Token → Outcome}
    (h : perform operation p = leaving input after o)
    (hnext : ∀ e, o.result = .ok e →
      perform (next e) (standing input after o.rest) = leaving input after (reading e o.rest)) :
    perform (operation >>= next) p = leaving input after (o.andThen reading) := by
  rw [perform_bind, h]
  cases ho : o.result with
  | ok e =>
    rw [Outcome.andThen_of_ok ho, leaving_of_ok ho]
    exact hnext e ho
  | error failure =>
    rw [Outcome.andThen_of_error ho, leaving_of_error ho]
    rfl

theorem perform_inside {next : Nesting → Operation Expr} {reading : Nesting → Outcome} (cost : Nat)
    (room : Nesting)
    (hnext : ∀ room, perform (next room) (standing input after rest) =
      leaving input after (reading room)) :
    perform (inside cost room next) (standing input after rest) =
      leaving input after (.inside cost room rest reading) := by
  cases h : room.enter cost with
  | some room =>
    simp only [inside, Outcome.inside, h]
    exact hnext room
  | none =>
    simp only [inside, Outcome.inside, h]
    rfl

theorem perform_expect_bind (hinput : input.IsProper) (hrest : rest <:+ input.tokens) {kind : Kind}
    {fault : ParseFault} {next : Token → Operation Expr} {reading : List Token → Outcome}
    (hkind : kind ≠ .eof)
    (hnext : ∀ token rest', rest = token :: rest' →
      perform (next token) (standing input after rest') = leaving input after (reading rest')) :
    perform (expect kind fault >>= next) (standing input after rest) =
      leaving input after (.expect kind fault input.stop rest reading) := by
  rw [perform_bind, perform_expect kind fault hinput hrest]
  cases rest with
  | nil =>
    have hstop : input.stop.kind ∉ [kind] :=
      hinput.stop_not_mem (by simpa using hkind.symm)
    simp only [List.mem_singleton] at hstop
    simp only [List.headD_nil, hstop, if_false]
    rfl
  | cons token rest =>
    by_cases htoken : token.kind = kind
    · simp only [List.headD_cons, htoken, if_true, List.tail_cons, Outcome.expect]
      exact hnext token rest rfl
    · simp only [List.headD_cons, htoken, if_false, Outcome.expect]
      rfl

/-- An operation reads as a rule does, from where some tokens are left. -/
def ReadsAs (input : Input) (after rest : List Token) (operation : Operation Expr) (rule : Rule)
    (room : Nesting) : Prop :=
  perform operation (standing input after rest) =
    leaving input after (rule.read room input.stop rest)

theorem not_mem_operators (l : Level) : Kind.eof ∉ l.operators := by
  cases l <;> decide

section
variable {operand : Operation Expr} {operators : List Kind} {limit : Nat} {left : Expr}

theorem perform_join_zero (hrest : rest <:+ input.tokens) :
    perform (join operand operators 0 left) (standing input after rest) =
      (.ok left, standing input after rest) := by
  simp only [join, perform_bind, perform_check operators hrest, perform_pure]

theorem perform_join_of_not_mem (hrest : rest <:+ input.tokens)
    (hkind : (rest.headD input.stop).kind ∉ operators) :
    perform (join operand operators (limit + 1) left) (standing input after rest) =
      (.ok left, standing input after rest) := by
  simp only [join, perform_bind, perform_check operators hrest, List.contains_iff_mem, hkind,
    if_false, perform_pure]

theorem perform_join_of_mem {operator : Token} (hinput : input.IsProper)
    (hrest : operator :: rest <:+ input.tokens) (hkind : operator.kind ∈ operators) :
    perform (join operand operators (limit + 1) left) (standing input after (operator :: rest)) =
      perform (operand >>= fun right =>
        join operand operators limit (.binary left operator.operator right))
        (standing input after rest) := by
  simp only [join, perform_bind, perform_check operators hrest, List.contains_iff_mem,
    List.headD_cons, hkind, if_true, perform_advance hinput hrest, List.tail_cons]

/-- With a limit that is high enough, a loop over operators reads as a chain does. -/
theorem readsAs_join (hinput : input.IsProper) {l : Level} {room : Nesting}
    (hoperand : ∀ token rest', token :: rest' <:+ rest →
      ReadsAs input after rest' operand l.operand room)
    (hrest : rest <:+ input.tokens) (hlimit : rest.length ≤ limit) :
    ReadsAs input after rest (join operand l.operators limit left) (.chain l left) room := by
  -- every round reads its operator, so the tokens left are used up no later than the limit
  induction limit generalizing rest left with
  | zero =>
    obtain rfl := List.eq_nil_of_length_eq_zero (Nat.le_zero.1 hlimit)
    unfold ReadsAs
    rw [Rule.read_eq_step]
    exact perform_join_zero hrest
  | succ limit ih =>
    unfold ReadsAs
    rw [Rule.read_eq_step]
    cases rest with
    | nil => exact perform_join_of_not_mem hrest (hinput.stop_not_mem (not_mem_operators l))
    | cons operator rest =>
      by_cases hkind : operator.kind ∈ l.operators
      · have hleft : (l.operand.read room input.stop rest).rest <:+ rest :=
          Rule.read_rest_isSuffix room l.operand rest
        rw [perform_join_of_mem hinput hrest hkind]
        simp only [Rule.step, hkind, if_true]
        refine perform_bind_leaving (hoperand operator rest List.suffix_rfl) fun right _ => ?_
        refine ih (fun token rest' h => ?_) ?_ ?_
        · exact hoperand token rest' ((h.trans hleft).trans (List.suffix_cons operator rest))
        · exact (hleft.trans (List.suffix_cons operator rest)).trans hrest
        · exact Nat.le_trans hleft.length_le (Nat.le_of_succ_le_succ hlimit)
      · simp only [Rule.step, hkind, if_false]
        exact perform_join_of_not_mem hrest hkind

end

/-- Parts of a rule that need less than the rule are read as they should be. -/
def ReadsParts (input : Input) (after : List Token) (self : Nesting → Rule → Operation Expr)
    (rule : Rule) (rest : List Token) : Prop :=
  ∀ room part rest', rest' <:+ rest → part.need rest' < rule.need rest →
    ReadsAs input after rest' (self room part) part room

theorem ReadsParts.behind {self : Nesting → Rule → Operation Expr} {rule part : Rule}
    {token : Token} {rest' : List Token} (h : ReadsParts input after self rule rest)
    (hrest : token :: rest' <:+ rest) (room : Nesting) :
    ReadsAs input after rest' (self room part) part room :=
  h room part rest' ((List.suffix_cons token rest').trans hrest) (Rule.need_lt_of_cons_suffix hrest)

/-- No rule joins operands with a colon. -/
theorem sides?_colon {room : Nesting} {stop : Token} {tokens : List Token} {e : Expr}
    (h : (Rule.expression.read room stop tokens).result = .ok e) : sides? .colon e = none := by
  have hoperator : ¬ Kind.colon.isOperator := by decide
  obtain ⟨used, hderives⟩ : ∃ used, Derives .expression used e := by
    rcases Rule.read_mono stop room.le_unlimited .expression tokens with heq | hout
    · have hanswer := Rule.read_answers stop .expression tokens (by rintro _ _ ⟨⟩)
      rw [heq] at h
      generalize Rule.expression.read .unlimited stop tokens = o at hanswer h
      cases hanswer with
      | read used rest _ hderives =>
        cases h
        exact ⟨used, hderives⟩
      | refused => cases h
      | unreadable => cases h
    · cases h.symm.trans hout
  have hnode : e.OnOperator fun op => op.kind.isOperator :=
    (hderives.everywhere_onOperator fun _ _ h => h).here
  cases e with
  | binary left operator right =>
    have hkind : operator.kind ≠ .colon := by
      intro heq
      exact hoperator (heq ▸ hnode)
    simp only [sides?, hkind, if_false]
  | _ => rfl

section
variable {self : Nesting → Rule → Operation Expr}

theorem readsAs_step_level (hinput : input.IsProper) (hrest : rest <:+ input.tokens) (l : Level)
    (hself : ReadsParts input after self (.level l) rest) (room : Nesting) :
    ReadsAs input after rest (step self room (.level l)) (.level l) room := by
  have hd := Rule.depth_operand l
  have hleft : (l.operand.read room input.stop rest).rest <:+ rest :=
    Rule.read_rest_isSuffix room l.operand rest
  have hfirst := hself room l.operand rest List.suffix_rfl (by simp only [Rule.need]; omega)
  unfold ReadsAs
  rw [Rule.read_eq_step]
  refine perform_bind_leaving hfirst fun left _ => ?_
  rw [perform_bind, perform_get]
  refine readsAs_join hinput (fun token rest' h => ?_) (hleft.trans hrest) ?_
  · exact hself.behind (h.trans hleft) room
  · have hlength := (hleft.trans hrest).length_le
    simp only [Option.getD_none, standing, List.length_append]
    omega

theorem readsAs_step_chain (hinput : input.IsProper) (hrest : rest <:+ input.tokens) (l : Level)
    (left : Expr) (hself : ReadsParts input after self (.chain l left) rest) (room : Nesting) :
    ReadsAs input after rest (step self room (.chain l left)) (.chain l left) room := by
  unfold ReadsAs step
  rw [perform_bind, perform_get]
  refine readsAs_join hinput (fun token rest' h => hself.behind h room) hrest ?_
  have hlength := hrest.length_le
  simp only [standing, List.length_append]
  omega

theorem readsAs_step_unary (hinput : input.IsProper) (hrest : rest <:+ input.tokens)
    (hself : ReadsParts input after self .unary rest) (room : Nesting) :
    ReadsAs input after rest (step self room .unary) .unary room := by
  have hprimary := hself room .primary rest List.suffix_rfl (by simp [Rule.need, Rule.depth])
  unfold ReadsAs
  rw [Rule.read_eq_step]
  cases rest with
  | nil =>
    have hstop : input.stop.kind ∉ unaryOperators := hinput.stop_not_mem (by decide)
    simp only [step, perform_bind, perform_check _ hrest, List.contains_iff_mem, List.headD_nil,
      hstop, if_false, Rule.step]
    exact hprimary
  | cons operator rest =>
    simp only [step, perform_bind, perform_check _ hrest, List.headD_cons, Rule.step,
      List.contains_iff_mem]
    split
    · rw [perform_bind, perform_advance hinput hrest]
      refine perform_inside unaryCost room fun room => ?_
      exact perform_bind_leaving (hself.behind List.suffix_rfl room) fun operand _ => rfl
    · exact hprimary

/-- A token other than a bracket is read by itself. -/
theorem perform_leaf {token : Token} (htoken : token.kind ≠ .leftParen)
    (reading : Nesting → Rule → List Token → Outcome) (room : Nesting) :
    perform (leaf token) (standing input after rest) =
      leaving input after (Rule.step input.stop reading room .primary (token :: rest)) := by
  cases hkind : token.kind with
  | number =>
    simp only [leaf, Rule.step, Token.leaf?, hkind]
    cases Expr.ofNumeral? token.lexeme <;> rfl
  | leftParen => exact absurd hkind htoken
  | _ =>
    simp only [leaf, Rule.step, Token.leaf?, hkind]
    rfl

theorem readsAs_step_primary (hinput : input.IsProper) (hrest : rest <:+ input.tokens)
    (hself : ReadsParts input after self .primary rest) (room : Nesting) :
    ReadsAs input after rest (step self room .primary) .primary room := by
  unfold ReadsAs
  rw [Rule.read_eq_step]
  cases rest with
  | nil =>
    simp only [step, perform_bind, perform_current hrest, List.headD_nil, hinput.stop]
    rfl
  | cons token rest =>
    have htail : rest <:+ input.tokens := (List.suffix_cons token rest).trans hrest
    have htoken : token.isEof = false := hinput.tokens token (hrest.subset List.mem_cons_self)
    simp only [step, perform_bind, perform_current hrest, List.headD_cons, htoken,
      Bool.false_eq_true, if_false, perform_advance hinput hrest, List.tail_cons]
    split
    · next hopening =>
      simp only [Rule.step, Token.leaf?, hopening]
      refine perform_inside groupCost room fun room => ?_
      have hinner : (Rule.expression.read room input.stop rest).rest <:+ input.tokens :=
        (Rule.read_rest_isSuffix room .expression rest).trans htail
      refine perform_bind_leaving (hself.behind List.suffix_rfl room) fun inner _ => ?_
      exact perform_expect_bind hinput hinner (by decide) fun _ _ _ => rfl
    · next hopening => exact perform_leaf hopening _ room

/-- Branches are read one after the other, with a colon between them. -/
theorem perform_branches (hinput : input.IsProper) (hrest : rest <:+ input.tokens)
    {branch : Operation Expr} {room : Nesting} (condition : Expr)
    (hthen : ReadsAs input after rest branch .expression room)
    (helse : ∀ colon rest', colon :: rest' <:+ rest →
      ReadsAs input after rest' branch .expression room) :
    perform (branches branch condition) (standing input after rest) =
      leaving input after
        ((Rule.expression.read room input.stop rest).andThen fun thenBranch rest =>
          .expect .colon .colonMissing input.stop rest fun rest =>
            (Rule.expression.read room input.stop rest).andThen fun elseBranch rest =>
              .ok (.conditional condition thenBranch elseBranch) rest) := by
  have hleft : (Rule.expression.read room input.stop rest).rest <:+ rest :=
    Rule.read_rest_isSuffix room .expression rest
  rw [branches, binary, bind_assoc]
  refine perform_bind_leaving hthen fun thenBranch hok => ?_
  -- a first branch that has no colon behind it is no joined pair itself
  have hsides := sides?_colon hok
  generalize (Rule.expression.read room input.stop rest).rest = rest' at hleft
  have hrest' := hleft.trans hrest
  rw [bind_assoc, perform_bind, perform_get]
  simp only [Option.getD_some]
  rw [perform_bind]
  cases rest' with
  | nil =>
    rw [perform_join_of_not_mem hrest' (hinput.stop_not_mem (by decide))]
    simp only [hsides, perform_bind, perform_current hrest', perform_refuse]
    rfl
  | cons colon rest' =>
    by_cases hcolon : colon.kind = .colon
    · have htail := (List.suffix_cons colon rest').trans hrest'
      have hlast : (Rule.expression.read room input.stop rest').rest <:+ input.tokens :=
        (Rule.read_rest_isSuffix room .expression rest').trans htail
      have hcolons : colon.kind ∈ [Kind.colon] := by simp [hcolon]
      rw [perform_join_of_mem hinput hrest' hcolons, ← perform_bind, bind_assoc]
      simp only [Outcome.expect, hcolon, if_true]
      refine perform_bind_leaving (helse colon rest' hleft) fun elseBranch _ => ?_
      rw [perform_bind, perform_join_zero hlast]
      simp only [sides?, Token.operator, hcolon, if_true]
      rfl
    · have hcolons : colon.kind ∉ [Kind.colon] := by simp [hcolon]
      rw [perform_join_of_not_mem hrest' hcolons]
      simp only [hsides, perform_bind, perform_current hrest', List.headD_cons, perform_refuse,
        Outcome.expect, hcolon, if_false]
      rfl

theorem readsAs_step_expression (hinput : input.IsProper) (hrest : rest <:+ input.tokens)
    (hself : ReadsParts input after self .expression rest) (room : Nesting) :
    ReadsAs input after rest (step self room .expression) .expression room := by
  have hcondition := hself room (.level .comma) rest List.suffix_rfl
    (by simp [Rule.need, Rule.depth])
  have hleft : ((Rule.level .comma).read room input.stop rest).rest <:+ rest :=
    Rule.read_rest_isSuffix room (.level .comma) rest
  unfold ReadsAs
  rw [Rule.read_eq_step]
  refine perform_bind_leaving hcondition fun condition _ => ?_
  generalize ((Rule.level .comma).read room input.stop rest).rest = rest' at hleft
  rw [perform_bind, perform_accept _ hinput (hleft.trans hrest)]
  cases rest' with
  | nil =>
    have hstop : input.stop.kind ∉ [Kind.question] := hinput.stop_not_mem (by decide)
    simp only [List.headD_nil, hstop, if_false]
    rfl
  | cons question rest' =>
    by_cases hquestion : question.kind = .question
    · simp only [List.headD_cons, List.mem_singleton, hquestion, if_true, List.tail_cons,
        Option.isSome_some]
      refine perform_inside branchCost room fun room => ?_
      refine perform_branches hinput (((List.suffix_cons _ _).trans hleft).trans hrest) condition
        (hself.behind hleft room) fun colon rest'' h => hself.behind (h.trans ?_) room
      exact (List.suffix_cons _ _).trans hleft
    · simp only [List.headD_cons, List.mem_singleton, hquestion, if_false]
      rfl

theorem readsAs_step (hinput : input.IsProper) (hrest : rest <:+ input.tokens) {rule : Rule}
    (hself : ReadsParts input after self rule rest) (room : Nesting) :
    ReadsAs input after rest (step self room rule) rule room := by
  cases rule with
  | expression => exact readsAs_step_expression hinput hrest hself room
  | level l => exact readsAs_step_level hinput hrest l hself room
  | chain l left => exact readsAs_step_chain hinput hrest l left hself room
  | unary => exact readsAs_step_unary hinput hrest hself room
  | primary => exact readsAs_step_primary hinput hrest hself room

end

theorem readsAs_run (hinput : input.IsProper) (hrest : rest <:+ input.tokens) {fuel : Nat}
    {rule : Rule} (hfuel : rule.need rest ≤ fuel) (room : Nesting) :
    ReadsAs input after rest (run fuel room rule) rule room := by
  induction fuel generalizing rest rule room with
  | zero => exact absurd (Rule.need_pos rule rest) (by omega)
  | succ fuel ih =>
    refine readsAs_step hinput hrest (fun room part rest' hsuffix hneed => ?_) room
    exact ih (hsuffix.trans hrest) (by omega) room

/-- A parser reads by a rule as the rule says, whatever stands behind the end of the input. -/
theorem readsAs_read (hinput : input.IsProper) (hrest : rest <:+ input.tokens) (rule : Rule)
    (room : Nesting) : ReadsAs input after rest (read rule room) rule room := by
  unfold ReadsAs read
  rw [perform_bind, perform_get]
  refine readsAs_run hinput hrest (Nat.le_trans (Rule.need_le_fuelFor rule rest) ?_) room
  have hlength := hrest.length_le
  simp only [Rule.fuelFor, standing, List.length_append]
  omega

/-! ## Cursors

A cursor is a parser without what stands behind the end of the input. -/

section
variable {c : Cursor}

theorem perform_advance_cursor (hinput : c.input.IsProper) :
    perform advance (standing c.input after c.rest) =
      (.ok c.advance.1, standing c.input after c.advance.2.rest) := by
  rw [perform_advance hinput c.rest_isSuffix, c.rest_advance]
  rfl

theorem perform_accept_cursor (hinput : c.input.IsProper) (kinds : List Kind) :
    perform (accept kinds) (standing c.input after c.rest) =
      (.ok (c.accept kinds).1, standing c.input after (c.accept kinds).2.rest) := by
  rw [perform_accept kinds hinput c.rest_isSuffix, ← c.rest_advance]
  simp only [Cursor.accept, Cursor.check, List.contains_iff_mem, Cursor.current, Cursor.advance]
  split <;> rfl

theorem perform_expect_cursor (hinput : c.input.IsProper) (kind : Kind) (message : String) :
    perform (expect kind (.missing message)) (standing c.input after c.rest) =
      ((c.expect kind message).1.mapError fun error => .rule (.refused error),
        standing c.input after (c.expect kind message).2.rest) := by
  rw [perform_expect kind _ hinput c.rest_isSuffix, ← c.rest_advance]
  simp only [Cursor.expect, Cursor.check, List.contains_iff_mem, List.mem_singleton,
    Cursor.current, Cursor.advance]
  split <;> rfl

theorem perform_read_cursor (hinput : c.input.IsProper) (rule : Rule) :
    perform (read rule .standard) (standing c.input after c.rest) =
      ((c.read rule).1.mapError .rule, standing c.input after (c.read rule).2.rest) := by
  have hrest : c.rest <:+ c.input.tokens := c.rest_isSuffix
  have hleft : (rule.read .standard c.input.stop c.rest).rest <:+ c.input.tokens :=
    (Rule.read_rest_isSuffix _ rule c.rest).trans hrest
  rw [readsAs_read hinput hrest rule .standard]
  simp only [leaving, Cursor.read, Cursor.rest] at hleft ⊢
  rw [← List.suffix_iff_eq_drop.1 hleft]

end

/-! ## Whole inputs -/

theorem perform_tryCatch {α : Type} (operation : Operation α) (handle : Failure → Operation α)
    (p : Parser) :
    perform (tryCatch operation handle) p =
      match perform operation p with
      | (.ok a, q) => (.ok a, q)
      | (.error failure, q) => perform (handle failure) q := by
  rcases h : perform operation p with ⟨result, q⟩
  have hrun : StateT.run (ExceptT.run operation) p = (result, q) := h
  simp only [perform, ExceptT.run_tryCatch, StateT.run_bind, hrun]
  cases result <;> rfl

theorem ended_iff {tokens : List Token} :
    Ended tokens ↔ (tokens.getLast?.map Token.isEof).getD false = true := by
  cases h : tokens.getLast? <;> simp [Ended, h]

/-- A parser over tokens that end has all of their sentence left. -/
theorem exists_standing_of_ended {tokens : List Token} (hend : Ended tokens) :
    ∃ stop after, stop.isEof = true ∧ tokens = sentence tokens ++ stop :: after ∧
      Input.ofTokens? tokens = some ⟨sentence tokens, stop⟩ ∧
      ofTokens? tokens = some (standing ⟨sentence tokens, stop⟩ after (sentence tokens)) := by
  obtain ⟨stop, after, heof, htokens, hsplit⟩ := hend.split
  refine ⟨stop, after, heof, htokens, hsplit, ?_⟩
  rw [ofTokens?, if_pos (ended_iff.1 hend), standing, Nat.sub_self, ← htokens]

theorem perform_whole (hinput : input.IsProper) (room : Nesting) :
    (perform (whole room) (standing input after input.tokens)).1.mapError Failure.parse? =
      (input.parseWithin room).mapError some := by
  have hread : ReadsAs input after input.tokens (read .expression room) .expression room :=
    readsAs_read hinput List.suffix_rfl .expression room
  have hleft : (Rule.expression.read room input.stop input.tokens).rest <:+ input.tokens :=
    Rule.read_rest_isSuffix room .expression input.tokens
  unfold ReadsAs at hread
  unfold Input.parseWithin
  generalize Rule.expression.read room input.stop input.tokens = o at hread hleft
  obtain ⟨result, rest⟩ := o
  simp only [whole, perform_bind, perform_tryCatch, hread, leaving]
  cases result with
  | ok e =>
    simp only [Except.mapError, perform_atEnd hinput hleft]
    cases rest with
    | nil => rfl
    | cons token rest =>
      simp only [List.isEmpty_cons, Bool.false_eq_true, if_false, perform_bind,
        perform_current hleft]
      rfl
  | error failure =>
    cases failure with
    | outOfRoom =>
      simp only [Except.mapError, perform_bind, perform_current hleft]
      rfl
    | refused | unreadableNumber => rfl

/-- Tokens are read as one expression by the parser over them. -/
theorem parseWithin_eq_whole (room : Nesting) (tokens : List Token) :
    (parseWithin room tokens).mapError some =
      match ofTokens? tokens with
      | some p => (perform (whole room) p).1.mapError Failure.parse?
      | none => .error (some .unended) := by
  by_cases hend : Ended tokens
  · obtain ⟨stop, after, heof, -, hsplit, hparser⟩ := exists_standing_of_ended hend
    simp only [parseWithin, hsplit, hparser]
    exact (perform_whole (isProper_sentence heof) room).symm
  · have hunended : ¬(tokens.getLast?.map Token.isEof).getD false = true :=
      fun h => hend (ended_iff.2 h)
    rw [parseWithin, Input.ofTokens?, ofTokens?, if_neg hunended, if_neg hunended]
    rfl

end Parser

end LoxExpr
