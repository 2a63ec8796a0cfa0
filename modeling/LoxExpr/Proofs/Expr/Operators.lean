import Mathlib
import LoxExpr.Expr.Eval
import LoxExpr.Expr.Parse

/-!
# Operators and the types of their operands

What operators ask of the types of their operands, said without the operations: `unaryMisfit?` and
`binaryMisfit?`. Main statements `applyUnary_reports` and `applyBinary_reports`: an operator of the
language has a value if its operands fit, and says what is wrong if they do not.
-/

namespace LoxExpr

/-! ## Types that fit -/

/-- The operators that stand between their operands. -/
def binaryOperators : List Kind :=
  [.comma, .equalEqual, .bangEqual, .greater, .greaterEqual, .less, .lessEqual, .plus, .minus,
   .star, .slash]

/-- The operators that ask for numbers on both sides. -/
def numericOperators : List Kind :=
  [.greater, .greaterEqual, .less, .lessEqual, .minus, .star, .slash]

/-- The operators that take operands of all types. -/
def freeOperators : List Kind := [.comma, .equalEqual, .bangEqual]

theorem binaryOperators_cases {kind : Kind} (h : kind ∈ binaryOperators) :
    kind ∈ numericOperators ∨ kind = .plus ∨ kind ∈ freeOperators := by
  revert h
  cases kind <;> decide

/-- What is wrong with the type of the operand of a prefix operator, if anything is: only minus
asks for a type. -/
def Kind.unaryMisfit? : Kind → ValueType → Option Mismatch
  | .minus, .number => none
  | .minus, operand => some (.notNumber operand)
  | _, _ => none

/-- What is wrong with the types of the operands of a binary operator, if anything is. Plus takes a
string and anything but nil, and numbers. -/
def Kind.binaryMisfit? (kind : Kind) (left right : ValueType) : Option Mismatch :=
  if kind ∈ freeOperators then none
  else if kind = .plus ∧ (left = .string ∨ right = .string) then
    if left = .nil ∨ right = .nil then some (.noText .nil) else none
  else if left = .number ∧ right = .number then none
  else some (.notNumbers left right)

/-- A mismatch is about the types of operands, and not about an unknown operator. -/
def Mismatch.IsOfTypes : Mismatch → Prop
  | .notNumber _ | .notNumbers .. | .noText _ => True
  | .unknownUnary | .unknownBinary => False

theorem isOfTypes_of_unaryMisfit? {kind : Kind} {operand : ValueType} {mismatch : Mismatch}
    (h : kind.unaryMisfit? operand = some mismatch) : mismatch.IsOfTypes := by
  unfold Kind.unaryMisfit? at h
  split at h
  · cases h
  · cases h
    trivial
  · cases h

theorem isOfTypes_of_binaryMisfit? {kind : Kind} {left right : ValueType} {mismatch : Mismatch}
    (h : kind.binaryMisfit? left right = some mismatch) : mismatch.IsOfTypes := by
  unfold Kind.binaryMisfit? at h
  split_ifs at h
  all_goals
    cases h
    trivial

/-- An outcome is a value if nothing is wrong, and else a failure that says what is. -/
def Operator.Reports (op : Operator) (wrong? : Option Mismatch)
    (outcome : Except EvalFailure Value) : Prop :=
  (wrong? = none ∧ ∃ value, outcome = .ok value) ∨
    ∃ mismatch, wrong? = some mismatch ∧ outcome = op.fail mismatch

section
variable {op : Operator}

/-! ## Operators of the language -/

/-- A prefix operator gives a value or fails, as its operand has a fitting type or not. -/
theorem applyUnary_reports (h : op.kind ∈ unaryOperators) (a : Value) :
    op.Reports (op.kind.unaryMisfit? a.type) (op.applyUnary a) := by
  obtain ⟨kind, lexeme, line⟩ := op
  obtain rfl | rfl : kind = .bang ∨ kind = .minus := by simpa [unaryOperators] using h
  · exact .inl ⟨rfl, _, rfl⟩
  · cases a with
    | number x => exact .inl ⟨rfl, _, rfl⟩
    | string | boolean | nil => exact .inr ⟨_, rfl, rfl⟩

theorem onNumbers_cases (op : Operator) (operation : Double → Double → Value) (a b : Value) :
    (a.type = .number ∧ b.type = .number ∧ ∃ value, op.onNumbers operation a b = .ok value) ∨
      (¬(a.type = .number ∧ b.type = .number) ∧
        op.onNumbers operation a b = op.fail (.notNumbers a.type b.type)) := by
  cases a <;> cases b <;> simp [Operator.onNumbers, Value.type]

theorem add_reports (a b : Value) :
    op.Reports (Kind.plus.binaryMisfit? a.type b.type) (op.add a b) := by
  cases a <;> cases b <;>
    first
    | exact .inl ⟨rfl, _, rfl⟩
    | exact .inr ⟨_, rfl, rfl⟩

theorem applyBinary_of_numeric (h : op.kind ∈ numericOperators) :
    ∃ operation, ∀ a b, op.applyBinary a b = op.onNumbers operation a b := by
  obtain ⟨kind, lexeme, line⟩ := op
  simp only [numericOperators, List.mem_cons, List.not_mem_nil, or_false] at h
  rcases h with rfl | rfl | rfl | rfl | rfl | rfl | rfl <;> exact ⟨_, fun _ _ => rfl⟩

theorem binaryMisfit?_of_numeric {kind : Kind} (h : kind ∈ numericOperators)
    (left right : ValueType) :
    kind.binaryMisfit? left right =
      if left = .number ∧ right = .number then none else some (.notNumbers left right) := by
  have hkind : kind ∉ freeOperators ∧ kind ≠ .plus := by
    revert h
    cases kind <;> decide
  simp only [Kind.binaryMisfit?, hkind, if_false, false_and]

/-- A binary operator gives a value or fails, as its operands have fitting types or not. -/
theorem applyBinary_reports (h : op.kind ∈ binaryOperators) (a b : Value) :
    op.Reports (op.kind.binaryMisfit? a.type b.type) (op.applyBinary a b) := by
  rcases binaryOperators_cases h with hnumeric | hrest
  · obtain ⟨operation, happly⟩ := applyBinary_of_numeric hnumeric
    rw [happly, binaryMisfit?_of_numeric hnumeric]
    rcases onNumbers_cases op operation a b with ⟨ha, hb, hvalue⟩ | ⟨hnot, hfail⟩
    · exact .inl ⟨if_pos ⟨ha, hb⟩, hvalue⟩
    · exact .inr ⟨_, if_neg hnot, hfail⟩
  · obtain ⟨kind, lexeme, line⟩ := op
    rcases hrest with rfl | hfree
    · exact add_reports a b
    · simp only [freeOperators, List.mem_cons, List.not_mem_nil, or_false] at hfree
      rcases hfree with rfl | rfl | rfl <;> exact .inl ⟨rfl, _, rfl⟩

/-! ## Other operators -/

theorem applyUnary_of_unknown (h : op.kind ∉ unaryOperators) (a : Value) :
    op.Reports (some .unknownUnary) (op.applyUnary a) := by
  refine .inr ⟨_, rfl, ?_⟩
  obtain ⟨kind, lexeme, line⟩ := op
  replace h : kind ∉ unaryOperators := h
  cases kind <;> first | rfl | exact absurd (by decide) h

theorem applyBinary_of_unknown (h : op.kind ∉ binaryOperators) (a b : Value) :
    op.Reports (some .unknownBinary) (op.applyBinary a b) := by
  refine .inr ⟨_, rfl, ?_⟩
  obtain ⟨kind, lexeme, line⟩ := op
  replace h : kind ∉ binaryOperators := h
  cases kind <;> first | rfl | exact absurd (by decide) h

/-- Every prefix operator gives a value or says what is wrong. -/
theorem exists_applyUnary_reports (op : Operator) (a : Value) :
    ∃ wrong?, op.Reports wrong? (op.applyUnary a) := by
  by_cases hknown : op.kind ∈ unaryOperators
  · exact ⟨_, applyUnary_reports hknown a⟩
  · exact ⟨_, applyUnary_of_unknown hknown a⟩

theorem exists_applyBinary_reports (op : Operator) (a b : Value) :
    ∃ wrong?, op.Reports wrong? (op.applyBinary a b) := by
  by_cases hknown : op.kind ∈ binaryOperators
  · exact ⟨_, applyBinary_reports hknown a b⟩
  · exact ⟨_, applyBinary_of_unknown hknown a b⟩

/-! ## Failures -/

section
variable {wrong? : Option Mismatch} {outcome : Except EvalFailure Value}

theorem ok_ne_error {ε α : Type} {a : α} {failure : ε} :
    (Except.ok a : Except ε α) ≠ .error failure := by
  intro h
  cases h

/-- If an operator is misapplied, it is so itself. -/
theorem Operator.Reports.of_misapplied {m : Misapplication} (h : op.Reports wrong? outcome)
    (houtcome : outcome = .error (.error (.misapplied m))) :
    m.path = [] ∧ m.operator = op ∧ wrong? = some m.mismatch := by
  rcases h with ⟨-, value, rfl⟩ | ⟨mismatch, hwrong, rfl⟩
  · cases houtcome
  · cases houtcome
    exact ⟨rfl, rfl, hwrong⟩

/-- An operator fails in no other way than by being misapplied. -/
theorem Operator.Reports.ne_error {failure : EvalFailure} (h : op.Reports wrong? outcome)
    (hm : ∀ m, failure ≠ .error (.misapplied m)) : outcome ≠ .error failure := by
  rcases h with ⟨-, value, rfl⟩ | ⟨mismatch, -, rfl⟩
  · exact ok_ne_error
  · intro heq
    exact hm _ (Except.error.inj heq).symm

theorem Operator.Reports.ne_ok {mismatch : Mismatch} {value : Value}
    (h : op.Reports (some mismatch) outcome) : outcome ≠ .ok value := by
  rcases h with ⟨hnone, -⟩ | ⟨mismatch, -, rfl⟩
  · cases hnone
  · intro heq
    cases heq

end

end

/-! ## Operands -/

section
variable {op : Operator} {side : Side} {outcome : Except EvalFailure Value}

theorem inOperand_eq_ok_iff {value : Value} :
    op.inOperand side outcome = .ok value ↔ outcome = .ok value := by
  unfold Operator.inOperand
  split <;> simp

theorem inOperand_eq_error_iff {m : Misapplication} :
    op.inOperand side outcome = .error (.error (.misapplied m)) ↔
      ∃ path, outcome = .error (.error (.misapplied ⟨path, m.operator, m.mismatch⟩)) ∧
        m.path = ⟨side, op⟩ :: path := by
  obtain ⟨path, operator, mismatch⟩ := m
  unfold Operator.inOperand
  split
  · next m' =>
    obtain ⟨path', operator', mismatch'⟩ := m'
    simp only [Except.error.injEq, EvalFailure.error.injEq, EvalError.misapplied.injEq,
      Misapplication.mk.injEq]
    constructor
    · rintro ⟨rfl, rfl, rfl⟩
      exact ⟨path', ⟨rfl, rfl, rfl⟩, rfl⟩
    · rintro ⟨path, ⟨rfl, rfl, rfl⟩, rfl⟩
      exact ⟨rfl, rfl, rfl⟩
  · next hnot =>
    constructor
    · rintro rfl
      exact absurd rfl (hnot _)
    · rintro ⟨path, rfl, -⟩
      exact absurd rfl (hnot _)

theorem inOperand_ne {failure : EvalFailure} (h : ∀ m, failure ≠ .error (.misapplied m))
    (houtcome : outcome ≠ .error failure) : op.inOperand side outcome ≠ .error failure := by
  unfold Operator.inOperand
  split
  · intro heq
    exact h _ (Except.error.inj heq).symm
  · exact houtcome

end

end LoxExpr
