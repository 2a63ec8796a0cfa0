import LoxExpr.Proofs.Expr.Evaluation

/-!
# Where evaluation fails

A node of a tree is found by a path: the places of the parts to go into, counted from the left.
Evaluation comes to the parts of a node before the node, and to parts from left to right
(`Earlier`); of the branches of a conditional it comes to the chosen one only (`Expr.Reaches`).

Main statement `eval_error_provenance`: the failure is that of the first operator in this order
whose operands have types that do not fit it. The message names the operands of binary operators
on the way to it, and nothing else on the way leaves a trace.
-/

namespace LoxExpr

/-! ## Values -/

/-- The value of a tree, if it has one and room does not matter. -/
def Expr.HasValue (e : Expr) (value : Value) : Prop := e.evalWithin .unlimited = .ok value

theorem Expr.HasValue.unique {e : Expr} {a b : Value} (ha : e.HasValue a) (hb : e.HasValue b) :
    a = b :=
  Except.ok.inj (ha.symm.trans hb)

section
variable {op : Operator} {inner operand left right c t e : Expr} {value : Value}

theorem hasValue_group : (Expr.group inner).HasValue value ↔ inner.HasValue value := Iff.rfl

theorem hasValue_unary :
    (Expr.unary op operand).HasValue value ↔
      ∃ a, operand.HasValue a ∧ op.applyUnary a = .ok value := by
  rw [Expr.HasValue, evalWithin_unlimited_unary, bind_eq_ok_iff]
  rfl

theorem hasValue_binary :
    (Expr.binary left op right).HasValue value ↔
      ∃ a b, left.HasValue a ∧ right.HasValue b ∧ op.applyBinary a b = .ok value := by
  simp only [Expr.HasValue, evalWithin_unlimited_binary, bind_eq_ok_iff, inOperand_eq_ok_iff]
  constructor
  · rintro ⟨a, ha, b, hb, h⟩
    exact ⟨a, b, ha, hb, h⟩
  · rintro ⟨a, b, ha, hb, h⟩
    exact ⟨a, ha, b, hb, h⟩

theorem hasValue_conditional :
    (Expr.conditional c t e).HasValue value ↔
      ∃ a, c.HasValue a ∧ (if a.isTruthy then t.HasValue value else e.HasValue value) := by
  simp only [Expr.HasValue, evalWithin_unlimited_conditional, bind_eq_ok_iff]
  refine exists_congr fun a => and_congr_right fun _ => ?_
  split <;> rfl

end

/-! ## The nodes that are evaluated -/

namespace Expr

/-- Evaluating a tree includes evaluating a part of it, at a place from the left, if nothing fails
before it. -/
inductive Part : Expr → Nat → Expr → Prop
  | inner {inner : Expr} : Part (.group inner) 0 inner
  | operand {op : Operator} {operand : Expr} : Part (.unary op operand) 0 operand
  | left {left right : Expr} {op : Operator} : Part (.binary left op right) 0 left
  | right {left right : Expr} {op : Operator} : Part (.binary left op right) 1 right
  | condition {c t e : Expr} : Part (.conditional c t e) 0 c
  | thenBranch {c t e : Expr} {value : Value} (hc : c.HasValue value)
      (htrue : value.isTruthy = true) : Part (.conditional c t e) 1 t
  | elseBranch {c t e : Expr} {value : Value} (hc : c.HasValue value)
      (hfalse : value.isTruthy = false) : Part (.conditional c t e) 2 e

/-- Evaluating a tree includes evaluating the node at a path, if nothing fails before it. -/
inductive Reaches : Expr → List Nat → Expr → Prop
  | here {e : Expr} : Reaches e [] e
  | inside {e part node : Expr} {i : Nat} {path : List Nat} (hpart : e.Part i part)
      (h : part.Reaches path node) : Reaches e (i :: path) node

end Expr

/-- Depth first and from left to right: a node comes after its parts, and after all that is to
the left of it. -/
inductive Earlier : List Nat → List Nat → Prop
  | part (i : Nat) (path : List Nat) : Earlier (i :: path) []
  | left {i j : Nat} (h : i < j) (path path' : List Nat) : Earlier (i :: path) (j :: path')
  | within (i : Nat) {path path' : List Nat} (h : Earlier path path') :
      Earlier (i :: path) (i :: path')

/-- Of two nodes one comes before the other. -/
theorem earlier_or (path path' : List Nat) :
    Earlier path path' ∨ path = path' ∨ Earlier path' path := by
  induction path generalizing path' with
  | nil =>
    cases path' with
    | nil => exact .inr (.inl rfl)
    | cons j path' => exact .inr (.inr (.part j path'))
  | cons i path ih =>
    cases path' with
    | nil => exact .inl (.part i path)
    | cons j path' =>
      rcases Nat.lt_trichotomy i j with hlt | rfl | hgt
      · exact .inl (.left hlt path path')
      · rcases ih path' with h | rfl | h
        · exact .inl (.within i h)
        · exact .inr (.inl rfl)
        · exact .inr (.inr (.within i h))
      · exact .inr (.inr (.left hgt path' path))

section
variable {e part part' node : Expr} {i : Nat} {path : List Nat} {value : Value}

theorem Expr.Part.unique (h : e.Part i part) (h' : e.Part i part') : part = part' := by
  cases h <;> cases h' <;> rfl

theorem Expr.Part.everywhere {p : Expr → Prop} (h : e.Part i part) (he : e.Everywhere p) :
    part.Everywhere p := by
  cases h with
  | inner | operand => exact he.2
  | left | condition => exact he.2.1
  | right => exact he.2.2
  | thenBranch => exact he.2.2.1
  | elseBranch => exact he.2.2.2

/-- If a tree has a value, then so have the parts that are evaluated for it. -/
theorem Expr.Part.hasValue (h : e.Part i part) (he : e.HasValue value) :
    ∃ value, part.HasValue value := by
  cases h with
  | inner => exact ⟨value, hasValue_group.1 he⟩
  | operand =>
    obtain ⟨a, ha, -⟩ := hasValue_unary.1 he
    exact ⟨a, ha⟩
  | left =>
    obtain ⟨a, b, ha, -, -⟩ := hasValue_binary.1 he
    exact ⟨a, ha⟩
  | right =>
    obtain ⟨a, b, -, hb, -⟩ := hasValue_binary.1 he
    exact ⟨b, hb⟩
  | condition =>
    obtain ⟨a, ha, -⟩ := hasValue_conditional.1 he
    exact ⟨a, ha⟩
  | @thenBranch c t e chosen hc htrue =>
    obtain ⟨a, ha, h⟩ := hasValue_conditional.1 he
    obtain rfl := hc.unique ha
    rw [if_pos htrue] at h
    exact ⟨value, h⟩
  | @elseBranch c t e chosen hc hfalse =>
    obtain ⟨a, ha, h⟩ := hasValue_conditional.1 he
    obtain rfl := hc.unique ha
    rw [if_neg (by simp [hfalse])] at h
    exact ⟨value, h⟩

theorem Expr.Reaches.hasValue (h : e.Reaches path node) (he : e.HasValue value) :
    ∃ value, node.HasValue value := by
  induction h generalizing value with
  | here => exact ⟨value, he⟩
  | inside hpart _ ih =>
    obtain ⟨value, hvalue⟩ := hpart.hasValue he
    exact ih hvalue

theorem Expr.Reaches.everywhere {p : Expr → Prop} (h : e.Reaches path node)
    (he : e.Everywhere p) : node.Everywhere p := by
  induction h with
  | here => exact he
  | inside hpart _ ih => exact ih (hpart.everywhere he)

end

/-! ## Nodes that do not fit -/

namespace Expr

/-- The operator of a node, if it has one, is one of the language. -/
def HasKnownOperator : Expr → Prop
  | .unary op _ => op.kind ∈ unaryOperators
  | .binary _ op _ => op.kind ∈ binaryOperators
  | _ => True

/-- The operands of a node have values, and these have types that do not fit the operator. -/
inductive Misfit : Expr → Operator → Mismatch → Prop
  | unary {op : Operator} {operand : Expr} {a : Value} {mismatch : Mismatch}
      (ha : operand.HasValue a) (h : op.kind.unaryMisfit? a.type = some mismatch) :
      Misfit (.unary op operand) op mismatch
  | binary {op : Operator} {left right : Expr} {a b : Value} {mismatch : Mismatch}
      (ha : left.HasValue a) (hb : right.HasValue b)
      (h : op.kind.binaryMisfit? a.type b.type = some mismatch) :
      Misfit (.binary left op right) op mismatch

theorem Misfit.isOfTypes {node : Expr} {op : Operator} {mismatch : Mismatch}
    (h : node.Misfit op mismatch) : mismatch.IsOfTypes := by
  cases h with
  | unary _ h => exact isOfTypes_of_unaryMisfit? h
  | binary _ _ h => exact isOfTypes_of_binaryMisfit? h

/-- A node whose operands do not fit has no value. -/
theorem Misfit.not_hasValue {node : Expr} {op : Operator} {mismatch : Mismatch} {value : Value}
    (h : node.Misfit op mismatch) (hknown : node.HasKnownOperator) : ¬node.HasValue value := by
  intro hvalue
  cases h with
  | unary ha h =>
    obtain ⟨a, ha', happly⟩ := hasValue_unary.1 hvalue
    obtain rfl := ha.unique ha'
    exact (h ▸ applyUnary_reports hknown _).ne_ok happly
  | binary ha hb h =>
    obtain ⟨a, b, ha', hb', happly⟩ := hasValue_binary.1 hvalue
    obtain rfl := ha.unique ha'
    obtain rfl := hb.unique hb'
    exact (h ▸ applyBinary_reports hknown _ _).ne_ok happly

/-! ## The operator that fails -/

/-- The node at a path is evaluated and its operands do not fit its operator; all nodes that are
evaluated before it have values. -/
structure StopsAt (e : Expr) (path : List Nat) (op : Operator) (mismatch : Mismatch) : Prop where
  misfit : ∃ node, e.Reaches path node ∧ node.Misfit op mismatch
  before : ∀ earlier node, Earlier earlier path → e.Reaches earlier node →
    ∃ value, node.HasValue value

/-- The operands of binary operators that a path goes into, the outermost first. -/
def descents : Expr → List Nat → List Descent
  | .group inner, 0 :: path => inner.descents path
  | .unary _ operand, 0 :: path => operand.descents path
  | .binary left op _, 0 :: path => ⟨.left, op⟩ :: left.descents path
  | .binary _ op right, 1 :: path => ⟨.right, op⟩ :: right.descents path
  | .conditional c _ _, 0 :: path => c.descents path
  | .conditional _ t _, 1 :: path => t.descents path
  | .conditional _ _ e, 2 :: path => e.descents path
  | _, _ => []

section
variable {e part : Expr} {i : Nat} {path : List Nat} {op : Operator} {mismatch : Mismatch}

/-- A node stops the evaluation if its operands have values that do not fit. -/
theorem StopsAt.here (h : e.Misfit op mismatch)
    (hparts : ∀ j part, e.Part j part → ∃ value, part.HasValue value) :
    e.StopsAt [] op mismatch where
  misfit := ⟨e, .here, h⟩
  before := by
    intro earlier node hearlier hreaches
    cases hearlier with
    | part j path =>
      cases hreaches with
      | inside hpart hnode =>
        obtain ⟨value, hvalue⟩ := hparts j _ hpart
        exact hnode.hasValue hvalue

/-- What stops the evaluation of a part stops that of the whole, if the parts to the left have
values. -/
theorem StopsAt.inside (h : part.StopsAt path op mismatch) (hpart : e.Part i part)
    (hleft : ∀ j other, j < i → e.Part j other → ∃ value, other.HasValue value) :
    e.StopsAt (i :: path) op mismatch where
  misfit := by
    obtain ⟨node, hreaches, hmisfit⟩ := h.misfit
    exact ⟨node, .inside hpart hreaches, hmisfit⟩
  before := by
    intro earlier node hearlier hreaches
    cases hearlier with
    | left hlt path' =>
      cases hreaches with
      | inside hother hnode =>
        obtain ⟨value, hvalue⟩ := hleft _ _ hlt hother
        exact hnode.hasValue hvalue
    | within _ hearlier =>
      cases hreaches with
      | inside hother hnode =>
        cases hpart.unique hother
        exact h.before _ node hearlier hnode

end

/-- An operator that cannot be applied stops the evaluation at some path, and its failure names
the operands that this path goes into. -/
theorem stopsAt_of_misapplied {e : Expr} {m : Misapplication}
    (hknown : e.Everywhere HasKnownOperator)
    (h : e.evalWithin .unlimited = .error (.error (.misapplied m))) :
    ∃ path, e.StopsAt path m.operator m.mismatch ∧ m.path = e.descents path := by
  induction e generalizing m with
  | integer n =>
    rw [evalWithin] at h
    cases hn : Double.ofInt? n with
    | none => simp [hn] at h
    | some x => simp [hn] at h
  | string | float | boolean | nil => cases h
  | group inner ih =>
    obtain ⟨path, hstops, hpath⟩ := ih hknown.2 h
    refine ⟨0 :: path, hstops.inside .inner ?_, hpath⟩
    intro j other hlt
    exact absurd hlt (Nat.not_lt_zero j)
  | unary op operand ih =>
    rw [evalWithin_unlimited_unary, bind_eq_error_iff] at h
    rcases h with h | ⟨a, ha, h⟩
    · obtain ⟨path, hstops, hpath⟩ := ih hknown.2 h
      refine ⟨0 :: path, hstops.inside .operand ?_, hpath⟩
      intro j other hlt
      exact absurd hlt (Nat.not_lt_zero j)
    · obtain ⟨hpath, rfl, hmisfit⟩ := (applyUnary_reports hknown.1 a).of_misapplied h
      refine ⟨[], .here (.unary ha hmisfit) ?_, hpath⟩
      intro j part hpart
      cases hpart
      exact ⟨a, ha⟩
  | binary left op right ihleft ihright =>
    rw [evalWithin_unlimited_binary, bind_eq_error_iff] at h
    rcases h with h | ⟨a, ha, h⟩
    · obtain ⟨inner, h, hm⟩ := inOperand_eq_error_iff.1 h
      obtain ⟨path, hstops, rfl⟩ := ihleft hknown.2.1 h
      refine ⟨0 :: path, hstops.inside .left ?_, hm⟩
      intro j other hlt
      exact absurd hlt (Nat.not_lt_zero j)
    · replace ha : left.HasValue a := inOperand_eq_ok_iff.1 ha
      rw [bind_eq_error_iff] at h
      rcases h with h | ⟨b, hb, h⟩
      · obtain ⟨inner, h, hm⟩ := inOperand_eq_error_iff.1 h
        obtain ⟨path, hstops, rfl⟩ := ihright hknown.2.2 h
        refine ⟨1 :: path, hstops.inside .right ?_, hm⟩
        intro j other hlt hother
        cases hother with
        | left => exact ⟨a, ha⟩
        | right => omega
      · replace hb : right.HasValue b := inOperand_eq_ok_iff.1 hb
        obtain ⟨hpath, rfl, hmisfit⟩ := (applyBinary_reports hknown.1 a b).of_misapplied h
        refine ⟨[], .here (.binary ha hb hmisfit) ?_, hpath⟩
        intro j part hpart
        cases hpart with
        | left => exact ⟨a, ha⟩
        | right => exact ⟨b, hb⟩
  | conditional c t e ihc iht ihe =>
    rw [evalWithin_unlimited_conditional, bind_eq_error_iff] at h
    rcases h with h | ⟨a, ha, h⟩
    · obtain ⟨path, hstops, hpath⟩ := ihc hknown.2.1 h
      refine ⟨0 :: path, hstops.inside .condition ?_, hpath⟩
      intro j other hlt
      exact absurd hlt (Nat.not_lt_zero j)
    · by_cases htrue : a.isTruthy = true
      · rw [if_pos htrue] at h
        obtain ⟨path, hstops, hpath⟩ := iht hknown.2.2.1 h
        refine ⟨1 :: path, hstops.inside (.thenBranch ha htrue) ?_, hpath⟩
        intro j other hlt hother
        cases hother with
        | condition => exact ⟨a, ha⟩
        | thenBranch | elseBranch => omega
      · rw [if_neg htrue] at h
        obtain ⟨path, hstops, hpath⟩ := ihe hknown.2.2.2 h
        refine ⟨2 :: path, hstops.inside (.elseBranch ha (Bool.not_eq_true _ ▸ htrue)) ?_, hpath⟩
        intro j other hlt hother
        cases hother with
        | condition => exact ⟨a, ha⟩
        | thenBranch hc htrue' =>
          obtain rfl := Expr.HasValue.unique ha hc
          exact absurd htrue' htrue
        | elseBranch => omega

/-- No other operator whose operands do not fit comes before the one that stops the evaluation. -/
theorem StopsAt.first {e node : Expr} {path path' : List Nat} {op op' : Operator}
    {mismatch mismatch' : Mismatch} (h : e.StopsAt path op mismatch)
    (hknown : e.Everywhere HasKnownOperator) (hreaches : e.Reaches path' node)
    (hmisfit : node.Misfit op' mismatch') : path' = path ∨ Earlier path path' := by
  rcases earlier_or path' path with hearlier | heq | hlater
  · obtain ⟨value, hvalue⟩ := h.before path' node hearlier hreaches
    exact absurd hvalue (hmisfit.not_hasValue (hreaches.everywhere hknown).here)
  · exact .inl heq
  · exact .inr hlater

end Expr

/-- Where the failure of an evaluation comes from. It is that of the first operator, depth first and
from left to right, whose operands have types that do not fit it. The text is the message of
that operator, after a mark for each operand of a binary operator on the way to it; the line is
that of the operator; the operator and the side that are named are the outermost on the way. -/
theorem eval_error_provenance {e : Expr} {room : Nesting} {error : EvalError}
    (hknown : e.Everywhere Expr.HasKnownOperator)
    (hfail : e.evalWithin room = .error (.error error)) (hdepth : error ≠ .nestedTooDeeply) :
    ∃ path node op mismatch, e.Reaches path node ∧ node.Misfit op mismatch ∧
      (∀ path' node' op' mismatch', e.Reaches path' node' → node'.Misfit op' mismatch' →
        path' = path ∨ Earlier path path') ∧
      error.text =
        .join ((e.descents path).map Descent.message) ++ mismatch.message op.lexeme ∧
      error.diagnostic = ⟨error.text, some ⟨op.line, none, false⟩⟩ ∧
      match e.descents path with
      | [] => error.operator = some op.lexeme ∧ error.side = none
      | outermost :: _ =>
        error.operator = some outermost.operator.lexeme ∧ error.side = some outermost.side := by
  cases error with
  | nestedTooDeeply => exact absurd rfl hdepth
  | misapplied m =>
    obtain ⟨path, hstops, hpath⟩ :=
      Expr.stopsAt_of_misapplied hknown (Expr.evalWithin_unlimited_of_misapplied hfail)
    obtain ⟨node, hreaches, hmisfit⟩ := hstops.misfit
    refine ⟨path, node, m.operator, m.mismatch, hreaches, hmisfit, ?_, ?_, rfl, ?_⟩
    · intro path' node' op' mismatch' hreaches' hmisfit'
      exact hstops.first hknown hreaches' hmisfit'
    · rw [← hpath]
      rfl
    · rw [← hpath]
      cases hm : m.path with
      | nil => exact ⟨by simp [EvalError.operator, hm], by simp [EvalError.side, hm]⟩
      | cons outermost path =>
        exact ⟨by simp [EvalError.operator, hm], by simp [EvalError.side, hm]⟩

/-- In `"a" == (true ? -nil : nil + 1), nil` the minus fails; the plus is not evaluated. -/
theorem eval_error_provenance_in_branch :
    let minus : Operator := ⟨.minus, "-", 2⟩
    let equal : Operator := ⟨.equalEqual, "==", 1⟩
    let comma : Operator := ⟨.comma, ",", 3⟩
    let branches : Expr := .group (.conditional (.boolean true) (.unary minus .nil)
      (.binary .nil ⟨.plus, "+", 2⟩ (.integer 1)))
    let e : Expr := .binary (.binary (.string "a") equal branches) comma .nil
    let error : EvalError := .misapplied ⟨[⟨.left, comma⟩, ⟨.right, equal⟩], minus, .notNumber .nil⟩
    e.Everywhere Expr.HasKnownOperator ∧ e.eval = .error (.error error) ∧
      error ≠ .nestedTooDeeply ∧
      error.text = "Could not evaluate left operand of ',': " ++
        "Could not evaluate right operand of '==': Operand of '-' must be a number, got nil." ∧
      ∃ path node op mismatch, e.Reaches path node ∧ node.Misfit op mismatch ∧
        error.text =
          .join ((e.descents path).map Descent.message) ++ mismatch.message op.lexeme := by
  intro minus equal comma branches e error
  have hknown : e.Everywhere Expr.HasKnownOperator := by
    simp [e, branches, minus, equal, comma, Expr.Everywhere, Expr.HasKnownOperator,
      unaryOperators, binaryOperators]
  have hfail : e.evalWithin .standard = .error (.error error) := rfl
  have hdepth : error ≠ .nestedTooDeeply := by simp [error]
  obtain ⟨path, node, op, mismatch, hreaches, hmisfit, -, htext, -⟩ :=
    eval_error_provenance hknown hfail hdepth
  exact ⟨hknown, hfail, hdepth, by decide, path, node, op, mismatch, hreaches, hmisfit, htext⟩

end LoxExpr
