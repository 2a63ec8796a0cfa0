import Mathlib
import LoxExpr.Expr.Parse

/-!
# Reading by rules

`Rule.run` spends fuel and room, and both can hide what a rule does. Neither matters: more fuel
than `Rule.need` changes nothing, so that `Rule.read` unfolds without fuel (`read_eq_step`), and
more room gives the same outcome unless the rule ran out of it (`read_mono`).
-/

namespace LoxExpr

/-! ## Outcomes -/

namespace Outcome

variable {P : Outcome → Prop} {o : Outcome} {next next' : Expr → List Token → Outcome}

theorem andThen_of_ok {e : Expr} (h : o.result = .ok e) : o.andThen next = next e o.rest := by
  simp only [andThen, h]

theorem andThen_of_error {failure : RuleFailure} (h : o.result = .error failure) :
    o.andThen next = ⟨.error failure, o.rest⟩ := by
  simp only [andThen, h]

@[simp] theorem ok_andThen (e : Expr) (rest : List Token) : (ok e rest).andThen next = next e rest :=
  rfl

theorem andThen_elim (hok : ∀ e, o.result = .ok e → P (next e o.rest))
    (herror : ∀ failure, o.result = .error failure → P ⟨.error failure, o.rest⟩) :
    P (o.andThen next) := by
  cases h : o.result with
  | ok e => exact andThen_of_ok h ▸ hok e h
  | error failure => exact andThen_of_error h ▸ herror failure h

theorem andThen_congr (h : ∀ e, o.result = .ok e → next e o.rest = next' e o.rest) :
    o.andThen next = o.andThen next' := by
  cases ho : o.result with
  | ok e => rw [andThen_of_ok ho, andThen_of_ok ho, h e ho]
  | error failure => rw [andThen_of_error ho, andThen_of_error ho]

theorem inside_elim {cost : Nat} {room : Nesting} {rest : List Token} {next : Nesting → Outcome}
    (hout : P ⟨.error .outOfRoom, rest⟩) (hin : ∀ room, P (next room)) :
    P (inside cost room rest next) := by
  unfold inside
  split
  · exact hin _
  · exact hout

theorem inside_of_enter {cost : Nat} {room inner : Nesting} {rest : List Token}
    {next : Nesting → Outcome} (h : room.enter cost = some inner) :
    inside cost room rest next = next inner := by
  simp only [inside, h]

@[simp] theorem inside_unlimited (cost : Nat) (rest : List Token) (next : Nesting → Outcome) :
    inside cost .unlimited rest next = next .unlimited := rfl

theorem expect_elim {kind : Kind} {fault : ParseFault} {stop : Token} {rest : List Token}
    {next : List Token → Outcome}
    (hin : ∀ token after, rest = token :: after → token.kind = kind → P (next after))
    (hout : (∀ token ∈ rest.head?, token.kind ≠ kind) →
      P (refuse fault (rest.head?.getD stop) rest)) :
    P (expect kind fault stop rest next) := by
  unfold expect
  split
  · exact hout (by simp)
  · split
    · next h => exact hin _ _ rfl h
    · next h => exact hout (by simpa using h)

theorem expect_congr {kind : Kind} {fault : ParseFault} {stop : Token} {rest : List Token}
    {next next' : List Token → Outcome}
    (h : ∀ token after, rest = token :: after → next after = next' after) :
    expect kind fault stop rest next = expect kind fault stop rest next' := by
  cases rest with
  | nil => rfl
  | cons token after => simp only [expect, h token after rfl]

end Outcome

namespace Rule

open Outcome

variable {stop : Token} {self self' : Nesting → Rule → List Token → Outcome}

/-! ## What a rule leaves -/

/-- A rule leaves an end of the tokens that it gets, also when it fails. -/
theorem step_rest_isSuffix (h : ∀ room rule tokens, (self room rule tokens).rest <:+ tokens)
    (room : Nesting) (rule : Rule) (tokens : List Token) :
    (step stop self room rule tokens).rest <:+ tokens := by
  cases rule with
  | expression =>
    have hc := h room (.level .comma) tokens
    refine andThen_elim (P := (·.rest <:+ tokens)) (fun condition _ => ?_) (fun _ _ => hc)
    split
    · exact List.nil_suffix
    · next token after heq =>
      have ha : after <:+ tokens := (List.suffix_cons token after).trans (heq ▸ hc)
      split
      · refine inside_elim (P := (·.rest <:+ tokens)) ha fun room => ?_
        have ht := (h room .expression after).trans ha
        refine andThen_elim (P := (·.rest <:+ tokens)) (fun thenBranch _ => ?_) (fun _ _ => ht)
        refine expect_elim (P := (·.rest <:+ tokens)) (fun colon rest hr _ => ?_) (fun _ => ht)
        have he := (h room .expression rest).trans ((List.suffix_cons colon rest).trans (hr ▸ ht))
        exact andThen_elim (P := (·.rest <:+ tokens)) (fun _ _ => he) (fun _ _ => he)
      · exact hc
  | level l =>
    have ho := h room l.operand tokens
    exact andThen_elim (P := (·.rest <:+ tokens)) (fun _ _ => (h _ _ _).trans ho) (fun _ _ => ho)
  | chain l left =>
    cases tokens with
    | nil => exact List.suffix_rfl
    | cons token rest =>
      simp only [step]
      split
      · have ho := (h room l.operand rest).trans (List.suffix_cons token rest)
        exact andThen_elim (P := (·.rest <:+ token :: rest)) (fun _ _ => (h _ _ _).trans ho)
          (fun _ _ => ho)
      · exact List.suffix_rfl
  | unary =>
    cases tokens with
    | nil => exact h _ _ _
    | cons token rest =>
      have hr := List.suffix_cons token rest
      simp only [step]
      split
      · refine inside_elim (P := (·.rest <:+ token :: rest)) hr fun room => ?_
        have ho := (h room .unary rest).trans hr
        exact andThen_elim (P := (·.rest <:+ token :: rest)) (fun _ _ => ho) (fun _ _ => ho)
      · exact h _ _ _
  | primary =>
    cases tokens with
    | nil => exact List.suffix_rfl
    | cons token rest =>
      have hr := List.suffix_cons token rest
      simp only [step]
      split
      · exact hr
      · split
        · exact hr
        · split
          · refine inside_elim (P := (·.rest <:+ token :: rest)) hr fun room => ?_
            have hi := (h room .expression rest).trans hr
            refine andThen_elim (P := (·.rest <:+ token :: rest)) (fun _ _ => ?_) (fun _ _ => hi)
            refine expect_elim (P := (·.rest <:+ token :: rest)) (fun bracket after ha _ => ?_)
              (fun _ => hi)
            exact (List.suffix_cons bracket after).trans (ha ▸ hi)
          · exact hr

theorem run_rest_isSuffix (fuel : Nat) (room : Nesting) (rule : Rule) (tokens : List Token) :
    (run stop fuel room rule tokens).rest <:+ tokens := by
  induction fuel generalizing room rule tokens with
  | zero => exact List.suffix_rfl
  | succ fuel ih => exact step_rest_isSuffix ih room rule tokens

theorem read_rest_isSuffix (room : Nesting) (rule : Rule) (tokens : List Token) :
    (rule.read room stop tokens).rest <:+ tokens :=
  run_rest_isSuffix _ room rule tokens

/-! ## Fuel -/

/-- How many rules a rule goes through before it reads a token, itself included. -/
def depth : Rule → Nat
  | .expression => 8
  | .level .comma => 7
  | .level .equality => 6
  | .level .comparison => 5
  | .level .term => 4
  | .level .factor => 3
  | .unary => 2
  | .primary => 1
  | .chain .. => 1

/-- The fuel that a rule needs. -/
def need (rule : Rule) (tokens : List Token) : Nat := 8 * tokens.length + rule.depth

theorem depth_le (rule : Rule) : rule.depth ≤ 8 := by
  cases rule with
  | level l => cases l <;> decide
  | _ => simp [depth]

theorem depth_operand (l : Level) : l.operand.depth + 1 = (level l).depth := by
  cases l <;> rfl

theorem depth_chain_lt (l : Level) (left : Expr) : (chain l left).depth < (level l).depth := by
  cases l <;> simp [depth]

theorem need_pos (rule : Rule) (tokens : List Token) : 0 < rule.need tokens := by
  cases rule with
  | level l => cases l <;> simp [need, depth]
  | _ => simp [need, depth]

theorem need_lt_of_cons_suffix {rule rule' : Rule} {token : Token} {rest tokens : List Token}
    (h : token :: rest <:+ tokens) : rule'.need rest < rule.need tokens := by
  have hl : rest.length + 1 ≤ tokens.length := h.length_le
  have hd := depth_le rule'
  have hp := need_pos rule []
  simp only [need, List.length_nil] at *
  omega

/-- A step depends on `self` only for what needs less fuel. -/
theorem step_congr {rule : Rule} {tokens : List Token}
    (hrest : ∀ room rule tokens, (self room rule tokens).rest <:+ tokens)
    (hself : ∀ room (rule' : Rule) tokens', rule'.need tokens' < rule.need tokens →
      self room rule' tokens' = self' room rule' tokens') (room : Nesting) :
    step stop self room rule tokens = step stop self' room rule tokens := by
  cases rule with
  | expression =>
    simp only [step]
    rw [← hself room (.level .comma) tokens (by simp [need, depth])]
    refine andThen_congr fun condition _ => ?_
    have hc := hrest room (.level .comma) tokens
    split
    · rfl
    · next token after heq =>
      rw [heq] at hc
      congr 2
      funext room
      rw [← hself room .expression after (need_lt_of_cons_suffix hc)]
      refine andThen_congr fun thenBranch _ => ?_
      have ht := (hrest room .expression after).trans ((List.suffix_cons _ _).trans hc)
      refine expect_congr fun colon rest hr => ?_
      rw [hself room .expression rest (need_lt_of_cons_suffix (hr ▸ ht))]
  | level l =>
    simp only [step]
    have hd := depth_operand l
    rw [← hself room l.operand tokens (by simp only [need]; omega)]
    refine andThen_congr fun left _ => hself room _ _ ?_
    have hl := (hrest room l.operand tokens).length_le
    have hc := depth_chain_lt l left
    simp only [need]
    omega
  | chain l left =>
    cases tokens with
    | nil => rfl
    | cons token rest =>
      simp only [step]
      rw [← hself room l.operand rest (need_lt_of_cons_suffix List.suffix_rfl)]
      congr 1
      refine andThen_congr fun right _ => hself room _ _ ?_
      have hl := (hrest room l.operand rest).length_le
      simp only [need, depth, List.length_cons]
      omega
  | unary =>
    cases tokens with
    | nil => exact hself room .primary [] (by simp [need, depth])
    | cons token rest =>
      simp only [step]
      rw [hself room .primary (token :: rest) (by simp [need, depth])]
      congr 2
      funext room
      rw [hself room .unary rest (need_lt_of_cons_suffix List.suffix_rfl)]
  | primary =>
    cases tokens with
    | nil => rfl
    | cons token rest =>
      simp only [step]
      have he := fun room => hself room .expression rest (need_lt_of_cons_suffix List.suffix_rfl)
      simp only [he]

/-- Beyond what a rule needs, fuel makes no difference. -/
theorem run_eq_run {f g : Nat} {rule : Rule} {tokens : List Token} (hf : rule.need tokens ≤ f)
    (hg : rule.need tokens ≤ g) (room : Nesting) :
    run stop f room rule tokens = run stop g room rule tokens := by
  induction f generalizing g room rule tokens with
  | zero => exact absurd (need_pos rule tokens) (by omega)
  | succ f ih =>
    cases g with
    | zero => exact absurd (need_pos rule tokens) (by omega)
    | succ g =>
      exact step_congr (run_rest_isSuffix f)
        (fun room rule' tokens' h => ih (by omega) (by omega) room) room

theorem need_le_fuelFor (rule : Rule) (tokens : List Token) : rule.need tokens ≤ fuelFor tokens := by
  have := depth_le rule
  simp only [need, fuelFor]
  omega

/-- Reading is a step whose parts are read. -/
theorem read_eq_step (room : Nesting) (rule : Rule) (tokens : List Token) :
    rule.read room stop tokens =
      step stop (fun room rule tokens => rule.read room stop tokens) room rule tokens := by
  obtain ⟨fuel, hfuel⟩ : ∃ fuel, fuelFor tokens = fuel + 1 := ⟨8 * tokens.length + 7, rfl⟩
  have hneed := need_le_fuelFor rule tokens
  unfold read
  rw [hfuel]
  exact step_congr (run_rest_isSuffix fuel)
    (fun room rule' tokens' h => run_eq_run (by omega) (need_le_fuelFor _ _) room) room

/-! ## Room -/

/-- Less room either does not show or stops the rule. -/
def Agrees (small large : Outcome) : Prop :=
  small = large ∨ small.result = .error .outOfRoom

theorem Agrees.andThen {o o' : Outcome} {next next' : Expr → List Token → Outcome}
    (h : Agrees o o') (hnext : ∀ e rest, Agrees (next e rest) (next' e rest)) :
    Agrees (o.andThen next) (o'.andThen next') := by
  rcases h with rfl | h
  · cases ho : o.result with
    | ok e => rw [andThen_of_ok ho, andThen_of_ok ho]; exact hnext e o.rest
    | error failure => rw [andThen_of_error ho, andThen_of_error ho]; exact .inl rfl
  · rw [andThen_of_error h]
    exact .inr rfl

theorem Agrees.inside {cost : Nat} {small large : Nesting} {rest : List Token}
    {next next' : Nesting → Outcome} (hroom : small ≤ large)
    (h : ∀ small large : Nesting, small ≤ large → Agrees (next small) (next' large)) :
    Agrees (inside cost small rest next) (inside cost large rest next') := by
  rcases Nesting.enter_mono hroom cost with hout | ⟨inner, outer, hinner, houter, hle⟩
  · right
    simp only [Outcome.inside, hout]
  · simp only [Outcome.inside, hinner, houter]
    exact h inner outer hle

theorem step_agrees
    (h : ∀ {small large : Nesting}, small ≤ large → ∀ rule tokens,
      Agrees (self small rule tokens) (self large rule tokens))
    {small large : Nesting} (hroom : small ≤ large) (rule : Rule) (tokens : List Token) :
    Agrees (step stop self small rule tokens) (step stop self large rule tokens) := by
  cases rule with
  | expression =>
    simp only [step]
    refine (h hroom _ tokens).andThen fun condition rest => ?_
    split
    · exact .inl rfl
    · split
      · refine .inside hroom fun small large hle => (h hle _ _).andThen fun thenBranch rest => ?_
        unfold expect
        split
        · exact .inl rfl
        · split
          · exact (h hle _ _).andThen fun _ _ => .inl rfl
          · exact .inl rfl
      · exact .inl rfl
  | level l =>
    simp only [step]
    exact (h hroom _ tokens).andThen fun _ _ => h hroom _ _
  | chain l left =>
    cases tokens with
    | nil => exact .inl rfl
    | cons token rest =>
      simp only [step]
      split
      · exact (h hroom _ rest).andThen fun _ _ => h hroom _ _
      · exact .inl rfl
  | unary =>
    cases tokens with
    | nil => exact h hroom _ _
    | cons token rest =>
      simp only [step]
      split
      · exact .inside hroom fun small large hle => (h hle _ _).andThen fun _ _ => .inl rfl
      · exact h hroom _ _
  | primary =>
    cases tokens with
    | nil => exact .inl rfl
    | cons token rest =>
      simp only [step]
      split
      · exact .inl rfl
      · split
        · exact .inl rfl
        · split
          · exact .inside hroom fun small large hle => (h hle _ _).andThen fun _ _ => .inl rfl
          · exact .inl rfl

/-- A reading that does not run out of room is the same with more room. -/
theorem read_mono (stop : Token) {small large : Nesting} (hroom : small ≤ large) (rule : Rule)
    (tokens : List Token) :
    rule.read small stop tokens = rule.read large stop tokens ∨
      (rule.read small stop tokens).result = .error .outOfRoom := by
  have hrun : ∀ (fuel : Nat) {small large : Nesting}, small ≤ large → ∀ rule tokens,
      Agrees (run stop fuel small rule tokens) (run stop fuel large rule tokens) := by
    intro fuel
    induction fuel with
    | zero => exact fun _ _ _ => .inl rfl
    | succ fuel ih => exact step_agrees ih
  exact hrun _ hroom rule tokens

end Rule

end LoxExpr
