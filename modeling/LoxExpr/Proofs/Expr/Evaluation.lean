import LoxExpr.Proofs.Expr.Nodes
import LoxExpr.Proofs.Expr.Operators
import LoxExpr.Proofs.Number.Rounding

/-!
# Evaluating trees

Two failures are not about operands. A whole number that is too large for a double would stop
evaluation without a diagnostic; the whole numbers that are read have 64 bits, so no derived tree
holds one (`Derives.evalWithin_ne`). And there may be too little room: more room gives the same
outcome unless evaluation ran out of it (`Expr.evalWithin_mono`).
-/

namespace LoxExpr

/-! ## Whole numbers that are read -/

/-- If a node is a whole number, it has a double. -/
def Expr.IsConvertible : Expr → Prop
  | .integer n => (Double.ofInt? n).isSome
  | _ => True

theorem ofInt?_isSome_of_fitsInteger {n : Int} (h : Expr.fitsInteger n) :
    (Double.ofInt? n).isSome := by
  have hpow : Int.pow 2 63 = 2 ^ 63 := rfl
  simp only [Expr.fitsInteger, Bool.and_eq_true, decide_eq_true_eq, hpow] at h
  have hbound : n.natAbs ≤ 2 ^ 63 := by omega
  exact Double.ofInt?_isSome hbound (by decide)

theorem isConvertible_of_ofNumeral? {lexeme : String} {e : Expr}
    (h : Expr.ofNumeral? lexeme = some e) : e.IsConvertible := by
  unfold Expr.ofNumeral? at h
  split at h
  · next n hinteger =>
    cases h
    exact ofInt?_isSome_of_fitsInteger (Option.filter_eq_some_iff.1 hinteger).2
  · obtain ⟨x, -, rfl⟩ := Option.map_eq_some_iff.1 h
    trivial

theorem hasLeaves_isConvertible (tokens : List Token) :
    HasLeaves Expr.IsConvertible tokens := by
  intro t _ e h
  unfold Token.leaf? at h
  split at h
  case h_5 => exact isConvertible_of_ofNumeral? h
  case h_6 => cases h
  all_goals
    cases h
    trivial

theorem makes_isConvertible : Rule.Makes Expr.IsConvertible where
  group := trivial
  unary _ := trivial
  binary _ := trivial
  conditional := trivial

/-! ## Steps one after the other -/

section
variable {ε α β : Type} {x : Except ε α} {f : α → Except ε β}

theorem bind_eq_ok_iff {b : β} : (x >>= f) = .ok b ↔ ∃ a, x = .ok a ∧ f a = .ok b := by
  cases x with
  | error failure => simp [bind, Except.bind]
  | ok a => simp [bind, Except.bind]

theorem bind_eq_error_iff {failure : ε} :
    (x >>= f) = .error failure ↔
      x = .error failure ∨ ∃ a, x = .ok a ∧ f a = .error failure := by
  cases x with
  | error failure => simp [bind, Except.bind]
  | ok a => simp [bind, Except.bind]

theorem bind_ne_error {failure : ε} (hx : x ≠ .error failure) (hf : ∀ a, f a ≠ .error failure) :
    (x >>= f) ≠ .error failure := by
  intro h
  rcases bind_eq_error_iff.1 h with h | ⟨a, -, h⟩
  · exact hx h
  · exact hf a h

end

/-! ## Room -/

/-- Less room either does not show or stops the evaluation. -/
def EvalAgrees {α : Type} (small large : Except EvalFailure α) : Prop :=
  small = large ∨ small = .error (.error .nestedTooDeeply)

section
variable {α β : Type} {x y : Except EvalFailure α} {f g : α → Except EvalFailure β}

theorem EvalAgrees.bind (h : EvalAgrees x y) (hf : ∀ a, EvalAgrees (f a) (g a)) :
    EvalAgrees (x >>= f) (y >>= g) := by
  rcases h with rfl | rfl
  · cases x with
    | error failure => exact .inl rfl
    | ok a => exact hf a
  · exact .inr rfl

theorem EvalAgrees.inOperand {small large : Except EvalFailure Value} (h : EvalAgrees small large)
    (op : Operator) (side : Side) :
    EvalAgrees (op.inOperand side small) (op.inOperand side large) := by
  rcases h with rfl | rfl
  · exact .inl rfl
  · -- too little room is no matter of an operand
    exact .inr rfl

theorem EvalAgrees.enter {cost : Nat} {small large : Nesting}
    {f g : Nesting → Except EvalFailure β} (hroom : small ≤ large)
    (h : ∀ small large : Nesting, small ≤ large → EvalAgrees (f small) (g large)) :
    EvalAgrees (Expr.enterEval cost small >>= f) (Expr.enterEval cost large >>= g) := by
  rcases Nesting.enter_mono hroom cost with hout | ⟨inner, outer, hinner, houter, hle⟩
  · right
    simp only [Expr.enterEval, hout]
    rfl
  · simp only [Expr.enterEval, hinner, houter]
    exact h inner outer hle

end

/-- With as much room or less, the first tree is evaluated as the second is, or there is too little
room for it. -/
def Expr.EvaluatesLike (a b : Expr) : Prop :=
  ∀ small large : Nesting, small ≤ large → EvalAgrees (a.evalWithin small) (b.evalWithin large)

namespace Expr.EvaluatesLike

variable {a a' b b' c c' : Expr}

theorem group (h : a.EvaluatesLike a') : (Expr.group a).EvaluatesLike (.group a') :=
  fun _ _ hroom => .enter hroom h

theorem unary (op : Operator) (h : a.EvaluatesLike a') :
    (Expr.unary op a).EvaluatesLike (.unary op a') := by
  refine fun _ _ hroom => .enter hroom fun small large hle => ?_
  exact (h small large hle).bind fun _ => .inl rfl

theorem binary (op : Operator) (ha : a.EvaluatesLike a') (hb : b.EvaluatesLike b') :
    (Expr.binary a op b).EvaluatesLike (.binary a' op b') := by
  refine fun _ _ hroom => .enter hroom fun small large hle => ?_
  refine ((ha small large hle).inOperand op .left).bind fun left => ?_
  exact ((hb small large hle).inOperand op .right).bind fun right => .inl rfl

theorem conditional (ha : a.EvaluatesLike a') (hb : b.EvaluatesLike b')
    (hc : c.EvaluatesLike c') : (Expr.conditional a b c).EvaluatesLike (.conditional a' b' c') := by
  refine fun _ _ hroom => .enter hroom fun small large hle => ?_
  refine (ha small large hle).bind fun value => ?_
  by_cases htrue : value.isTruthy
  · simp only [htrue, if_true]
    exact hb small large hle
  · simp only [htrue]
    exact hc small large hle

end Expr.EvaluatesLike

/-- An evaluation that does not run out of room is the same with more room. -/
theorem Expr.evalWithin_mono {small large : Nesting} (hroom : small ≤ large) (e : Expr) :
    e.evalWithin small = e.evalWithin large ∨
      e.evalWithin small = .error (.error .nestedTooDeeply) := by
  suffices e.EvaluatesLike e from this small large hroom
  induction e with
  | string | integer | float | boolean | nil => exact fun _ _ _ => .inl rfl
  | group inner ih => exact ih.group
  | unary op operand ih => exact ih.unary op
  | binary left op right ihleft ihright => exact ihleft.binary op ihright
  | conditional c t e ihc iht ihe => exact ihc.conditional iht ihe

/-- With less than unlimited room an operator fails only as it does without a limit. -/
theorem Expr.evalWithin_unlimited_of_misapplied {e : Expr} {room : Nesting} {m : Misapplication}
    (h : e.evalWithin room = .error (.error (.misapplied m))) :
    e.evalWithin .unlimited = .error (.error (.misapplied m)) := by
  rcases e.evalWithin_mono room.le_unlimited with heq | hdeep
  · rw [← heq, h]
  · cases h.symm.trans hdeep

section
variable (op : Operator) (operand left right c t e : Expr)

theorem evalWithin_unlimited_unary :
    (Expr.unary op operand).evalWithin .unlimited =
      operand.evalWithin .unlimited >>= op.applyUnary := rfl

theorem evalWithin_unlimited_binary :
    (Expr.binary left op right).evalWithin .unlimited =
      op.inOperand .left (left.evalWithin .unlimited) >>= fun a =>
        op.inOperand .right (right.evalWithin .unlimited) >>= op.applyBinary a := rfl

theorem evalWithin_unlimited_conditional :
    (Expr.conditional c t e).evalWithin .unlimited =
      c.evalWithin .unlimited >>= fun value =>
        if value.isTruthy then t.evalWithin .unlimited else e.evalWithin .unlimited := rfl

end

/-- With unlimited room operators fail by not fitting their operands, and whole numbers by being too
large; nothing else fails. -/
theorem Expr.evalWithin_unlimited_ne {failure : EvalFailure}
    (hm : ∀ m, failure ≠ .error (.misapplied m)) {e : Expr}
    (h : failure = .integerTooLarge → e.Everywhere IsConvertible) :
    e.evalWithin .unlimited ≠ .error failure := by
  induction e with
  | integer n =>
    cases hn : Double.ofInt? n with
    | some x =>
      rw [evalWithin, hn]
      exact ok_ne_error
    | none =>
      rw [evalWithin, hn]
      intro heq
      have hsome : (Double.ofInt? n).isSome := h (Except.error.inj heq).symm
      simp [hn] at hsome
  | string | float | boolean | nil => exact ok_ne_error
  | group inner ih => exact ih fun hf => (h hf).2
  | unary op operand ih =>
    rw [evalWithin_unlimited_unary]
    refine bind_ne_error (ih fun hf => (h hf).2) fun a => ?_
    obtain ⟨wrong?, hreports⟩ := exists_applyUnary_reports op a
    exact hreports.ne_error hm
  | binary left op right ihleft ihright =>
    rw [evalWithin_unlimited_binary]
    refine bind_ne_error (inOperand_ne hm (ihleft fun hf => (h hf).2.1)) fun a => ?_
    refine bind_ne_error (inOperand_ne hm (ihright fun hf => (h hf).2.2)) fun b => ?_
    obtain ⟨wrong?, hreports⟩ := exists_applyBinary_reports op a b
    exact hreports.ne_error hm
  | conditional c t e ihc iht ihe =>
    rw [evalWithin_unlimited_conditional]
    refine bind_ne_error (ihc fun hf => (h hf).2.1) fun value => ?_
    split
    · exact iht fun hf => (h hf).2.2.1
    · exact ihe fun hf => (h hf).2.2.2

theorem Expr.evalWithin_unlimited_ne_nestedTooDeeply (e : Expr) :
    e.evalWithin .unlimited ≠ .error (.error .nestedTooDeeply) :=
  evalWithin_unlimited_ne (by simp) (by simp)

/-- A tree that is read from a whole input is evaluated, or its failure has a diagnostic. -/
theorem Derives.evalWithin_ne {tokens : List Token} {e : Expr}
    (h : Derives .expression tokens e) (room : Nesting) :
    e.evalWithin room ≠ .error .integerTooLarge := by
  have hconvertible := h.everywhere makes_isConvertible (hasLeaves_isConvertible _) trivial
  rcases e.evalWithin_mono room.le_unlimited with heq | hdeep
  · rw [heq]
    exact Expr.evalWithin_unlimited_ne (by simp) fun _ => hconvertible
  · rw [hdeep]
    simp

end LoxExpr
