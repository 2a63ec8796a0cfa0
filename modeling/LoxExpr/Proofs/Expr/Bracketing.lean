import LoxExpr.Proofs.Expr.Evaluation

/-!
# Brackets and lines

Two things about a tree do not matter for its evaluation: the lines of its operators show in nothing
but the lines of failures (`Expr.evalWithin_onLine`), and brackets around its nodes only take room
(`Expr.evalWithin_bracketed`).
-/

namespace LoxExpr

/-! ## Lines -/

def Operator.onLine (line : Int) (op : Operator) : Operator := { op with line }

/-- A failure with all its operators on one line. -/
def EvalFailure.onLine (line : Int) : EvalFailure → EvalFailure
  | .error (.misapplied m) =>
    .error (.misapplied
      ⟨m.path.map fun d => ⟨d.side, d.operator.onLine line⟩, m.operator.onLine line, m.mismatch⟩)
  | failure => failure

/-- A tree with all its operators on one line. -/
def Expr.onLine (line : Int) : Expr → Expr
  | .group inner => .group (inner.onLine line)
  | .unary op operand => .unary (op.onLine line) (operand.onLine line)
  | .binary left op right => .binary (left.onLine line) (op.onLine line) (right.onLine line)
  | .conditional c t e => .conditional (c.onLine line) (t.onLine line) (e.onLine line)
  | leaf => leaf

section
variable {ε ε' α β : Type}

theorem bind_mapError (x : Except ε α) (f : α → Except ε β) (g : ε → ε') :
    (x >>= f).mapError g = x.mapError g >>= fun a => (f a).mapError g := by
  cases x <;> rfl

end

section
variable (line : Int)

theorem Operator.applyUnary_onLine (op : Operator) (operand : Value) :
    (op.onLine line).applyUnary operand =
      (op.applyUnary operand).mapError (EvalFailure.onLine line) := by
  obtain ⟨kind, lexeme, line'⟩ := op
  unfold applyUnary
  cases kind <;> cases operand <;> rfl

theorem Operator.onNumbers_onLine (op : Operator) (operation : Double → Double → Value)
    (left right : Value) :
    (op.onLine line).onNumbers operation left right =
      (op.onNumbers operation left right).mapError (EvalFailure.onLine line) := by
  cases left <;> cases right <;> rfl

theorem Operator.add_onLine (op : Operator) (left right : Value) :
    (op.onLine line).add left right =
      (op.add left right).mapError (EvalFailure.onLine line) := by
  cases left <;> cases right <;> rfl

theorem Operator.applyBinary_onLine (op : Operator) (left right : Value) :
    (op.onLine line).applyBinary left right =
      (op.applyBinary left right).mapError (EvalFailure.onLine line) := by
  have hnumbers := op.onNumbers_onLine line
  have hadd := op.add_onLine line
  obtain ⟨kind, lexeme, line'⟩ := op
  unfold applyBinary
  cases kind
  case plus => exact hadd left right
  case minus | star | slash | greater | greaterEqual | less | lessEqual =>
    exact hnumbers _ left right
  all_goals rfl

theorem Operator.inOperand_onLine (op : Operator) (side : Side) (x : Except EvalFailure Value) :
    (op.onLine line).inOperand side (x.mapError (EvalFailure.onLine line)) =
      (op.inOperand side x).mapError (EvalFailure.onLine line) := by
  match x with
  | .ok _ => rfl
  | .error .integerTooLarge => rfl
  | .error (.error .nestedTooDeeply) => rfl
  | .error (.error (.misapplied _)) => rfl

/-- The lines of operators show in nothing but the lines of failures. -/
theorem Expr.evalWithin_onLine (e : Expr) (room : Nesting) :
    (e.onLine line).evalWithin room =
      (e.evalWithin room).mapError (EvalFailure.onLine line) := by
  have henter : ∀ (cost : Nat) (room : Nesting),
      (enterEval cost room).mapError (EvalFailure.onLine line) = enterEval cost room := by
    intro cost room
    unfold enterEval
    cases room.enter cost <;> rfl
  induction e generalizing room with
  | string | float | boolean | nil => rfl
  | integer n =>
    simp only [onLine, evalWithin]
    cases Double.ofInt? n <;> rfl
  | group inner ih => simp only [onLine, evalWithin, bind_mapError, henter, ih]
  | unary op operand ih =>
    simp only [onLine, evalWithin, bind_mapError, henter, ih, Operator.applyUnary_onLine]
  | binary left op right ihleft ihright =>
    simp only [onLine, evalWithin, bind_mapError, henter, ihleft, ihright,
      Operator.inOperand_onLine, Operator.applyBinary_onLine]
  | conditional c t e ihc iht ihe =>
    simp only [onLine, evalWithin, bind_mapError, henter, ihc, iht, ihe, apply_ite]

end

theorem EvalError.text_onLine {line : Int} {error error' : EvalError}
    (h : (EvalFailure.error error).onLine line = .error error') : error'.text = error.text := by
  cases error with
  | nestedTooDeeply =>
    cases h
    rfl
  | misapplied m =>
    cases h
    simp only [text, List.map_map]
    rfl

theorem EvalError.blame_onLine {line : Int} {error error' : EvalError}
    (h : (EvalFailure.error error).onLine line = .error error') :
    error'.operator = error.operator ∧ error'.side = error.side := by
  cases error with
  | nestedTooDeeply =>
    cases h
    exact ⟨rfl, rfl⟩
  | misapplied m =>
    cases h
    obtain ⟨path, op, mismatch⟩ := m
    cases path <;> exact ⟨rfl, rfl⟩

/-! ## Brackets -/

/-- A tree with brackets around every prefix operator and every conditional. -/
def Expr.bracketed : Expr → Expr
  | .group inner => .group inner.bracketed
  | .unary op operand => .group (.unary op operand.bracketed)
  | .binary left op right => .binary left.bracketed op right.bracketed
  | .conditional c t e => .group (.conditional c.bracketed t.bracketed e.bracketed)
  | leaf => leaf

/-- Brackets around a tree take room and do nothing else. -/
theorem Expr.EvaluatesLike.bracket {a b : Expr} (h : a.EvaluatesLike b) :
    (Expr.group a).EvaluatesLike b := by
  intro small large hroom
  rw [Expr.evalWithin, Expr.enterEval]
  cases henter : small.enter Expr.groupEvalCost with
  | none => exact .inr rfl
  | some room => exact h room large (Nesting.le_of_enter henter hroom)

/-- The brackets show in nothing but the room they take. -/
theorem Expr.evalWithin_bracketed (e : Expr) (room : Nesting) :
    e.bracketed.evalWithin room = e.evalWithin room ∨
      e.bracketed.evalWithin room = .error (.error .nestedTooDeeply) := by
  suffices e.bracketed.EvaluatesLike e from this room room (Nesting.le_refl room)
  induction e with
  | string | integer | float | boolean | nil => exact fun _ _ _ => .inl rfl
  | group inner ih => exact ih.group
  | unary op operand ih => exact (ih.unary op).bracket
  | binary left op right ihleft ihright => exact ihleft.binary op ihright
  | conditional c t e ihc iht ihe => exact (ihc.conditional iht ihe).bracket

end LoxExpr
