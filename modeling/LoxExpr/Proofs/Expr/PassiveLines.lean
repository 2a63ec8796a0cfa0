import LoxExpr.Proofs.Expr.Provenance
import LoxExpr.Proofs.Expr.Relined

/-!
# Lines are passive

Tokens and trees that differ in nothing but lines are read and evaluated in the same way. A reading
that fails does so at the same place of every such list, and an evaluation at the same path of every
such tree, so that the lines that come out are those of the tokens and operators there.
Main statement `lines_passive`.
-/

namespace LoxExpr

/-! ## Reading -/

/-- What comes of tokens. For a token at fault there is its place among them. -/
inductive Reading
  | tree (tree : Expr)
  | refused (place : Nat) (text : String) (lexeme : Option String) (atEnd : Bool)
  | unreadableNumber (place : Nat)

/-- Tokens are read, or refused at a place; the line of the diagnostic is that of the token there. A
number token that is spelled like no number is not read at all. -/
inductive Reading.IsOf (room : Nesting) (tokens : List Token) : Reading → Prop
  | tree {e : Expr} (h : parseWithin room tokens = .ok e) : IsOf room tokens (.tree (e.onLine 0))
  | refused {place : Nat} {t : Token} {fault : ParseFault} {text : String}
      {lexeme : Option String} {atEnd : Bool} (hplace : tokens[place]? = some t)
      (h : parseWithin room tokens = .error (.refused ⟨fault, t⟩))
      (hdiagnostic : ParseError.diagnostic ⟨fault, t⟩ = ⟨text, some ⟨t.line, lexeme, atEnd⟩⟩) :
      IsOf room tokens (.refused place text lexeme atEnd)
  | unreadableNumber {place : Nat} {t : Token} (hplace : tokens[place]? = some t)
      (hkind : t.kind = .number) (hleaf : t.leaf? = none)
      (h : parseWithin room tokens = .error (.unreadableNumber t.lexeme)) :
      IsOf room tokens (.unreadableNumber place)

/-- Tokens with their places for lines. -/
def numbered (tokens : List Token) : List Token :=
  tokens.mapIdx fun place t => { t with line := place }

section
variable {tokens tokens' : List Token}

/-- All tokens of the same shapes come from the numbered ones by a change of lines. -/
theorem exists_relined_numbered (h : tokens'.map Token.shape = tokens.map Token.shape) :
    ∃ g, tokens' = (numbered tokens).map (Token.relined g) := by
  refine ⟨fun n => (tokens'[n.toNat]?.map Token.line).getD 0, List.ext_getElem? fun i => ?_⟩
  have hshape := congrArg (·[i]?) h
  simp only [List.getElem?_map] at hshape
  simp only [numbered, List.getElem?_map, List.getElem?_mapIdx, Option.map_map]
  cases ht' : tokens'[i]? with
  | none => cases ht : tokens[i]? <;> simp_all
  | some t' =>
    cases ht : tokens[i]? with
    | none => simp_all
    | some t =>
      obtain ⟨kind, lexeme, literal, line⟩ := t'
      simp_all [Token.shape, Token.relined]

theorem shape_numbered (tokens : List Token) :
    (numbered tokens).map Token.shape = tokens.map Token.shape := by
  refine List.ext_getElem? fun i => ?_
  simp only [numbered, List.getElem?_map, List.getElem?_mapIdx, Option.map_map]
  rfl

theorem Ended.of_shape (h : tokens'.map Token.shape = tokens.map Token.shape)
    (hend : Ended tokens) : Ended tokens' := by
  have hshape : ∀ tokens : List Token,
      Ended tokens ↔ (tokens.map Token.shape).getLast?.any (·.1 = .eof) = true := by
    intro tokens
    rw [List.getLast?_map, Option.any_map]
    rfl
  rw [hshape, h, ← hshape]
  exact hend

/-- How tokens are read is decided by their shapes. -/
theorem exists_reading (hend : Ended tokens) (room : Nesting) :
    ∃ reading : Reading, ∀ tokens', tokens'.map Token.shape = tokens.map Token.shape →
      reading.IsOf room tokens' := by
  have hrelined : ∀ {tokens'}, tokens'.map Token.shape = tokens.map Token.shape → ∃ g,
      tokens' = (numbered tokens).map (Token.relined g) ∧ parseWithin room tokens' =
        ((parseWithin room (numbered tokens)).map (Expr.relined g)).mapError
          (ParseFailure.relined g) := by
    intro tokens' h
    obtain ⟨g, rfl⟩ := exists_relined_numbered h
    exact ⟨g, rfl, parseWithin_relined room _⟩
  cases hread : parseWithin room (numbered tokens) with
  | ok e =>
    refine ⟨.tree (e.onLine 0), fun tokens' h => ?_⟩
    obtain ⟨g, -, hparse⟩ := hrelined h
    rw [hread] at hparse
    rw [← e.onLine_relined (g := g)]
    exact .tree hparse
  | error failure =>
    have hof := (hend.of_shape (shape_numbered tokens)).isOf_of_parseWithin hread
    cases failure with
    | refused error =>
      obtain ⟨place, hplace⟩ := List.mem_iff_getElem?.1 hof
      refine ⟨.refused place error.fault.message
        (if error.token.isEof then none else some error.token.lexeme) error.token.isEof, ?_⟩
      intro tokens' h
      obtain ⟨g, rfl, hparse⟩ := hrelined h
      rw [hread] at hparse
      refine .refused (t := error.token.relined g) ?_ hparse rfl
      rw [List.getElem?_map, hplace]
      rfl
    | unreadableNumber lexeme =>
      obtain ⟨t, ht, hkind, hleaf, rfl⟩ := hof
      obtain ⟨place, hplace⟩ := List.mem_iff_getElem?.1 ht
      refine ⟨.unreadableNumber place, fun tokens' h => ?_⟩
      obtain ⟨g, rfl, hparse⟩ := hrelined h
      rw [hread] at hparse
      refine .unreadableNumber (t := t.relined g) ?_ hkind hleaf hparse
      rw [List.getElem?_map, hplace]
      rfl
    | unended => exact hof.elim

end

/-! ## Evaluation -/

/-- Trees that are equal when all operators are put on one line have the same outcome but for the
lines in it. -/
theorem Expr.evalWithin_of_onLine_eq {a b : Expr} {line : Int} (h : a.onLine line = b.onLine line)
    (room : Nesting) :
    (a.evalWithin room).mapError (EvalFailure.onLine line) =
      (b.evalWithin room).mapError (EvalFailure.onLine line) := by
  rw [← Expr.evalWithin_onLine, ← Expr.evalWithin_onLine, h]

section
variable {e e' : Expr} {line : Int}

theorem Expr.evalWithin_eq_ok_of_onLine_eq {room : Nesting} {value : Value}
    (h : e'.onLine line = e.onLine line) (hvalue : e.evalWithin room = .ok value) :
    e'.evalWithin room = .ok value := by
  have heq := Expr.evalWithin_of_onLine_eq h room
  rw [hvalue] at heq
  cases he' : e'.evalWithin room with
  | ok value' =>
    rw [he'] at heq
    exact heq
  | error failure =>
    rw [he'] at heq
    cases heq

theorem Expr.HasValue.of_onLine_eq {value : Value} (hvalue : e.HasValue value)
    (h : e'.onLine line = e.onLine line) : e'.HasValue value :=
  evalWithin_eq_ok_of_onLine_eq h hvalue

/-! ### Operators that fail -/

/-- The operands of a node have values, and its operator cannot be applied to them. -/
inductive Expr.Misapplies : Expr → Operator → Mismatch → Prop
  | unary {op : Operator} {operand : Expr} {a : Value} {mismatch : Mismatch}
      (ha : operand.HasValue a) (h : op.applyUnary a = op.fail mismatch) :
      Misapplies (.unary op operand) op mismatch
  | binary {op : Operator} {left right : Expr} {a b : Value} {mismatch : Mismatch}
      (ha : left.HasValue a) (hb : right.HasValue b)
      (h : op.applyBinary a b = op.fail mismatch) :
      Misapplies (.binary left op right) op mismatch

/-- The node at a path fails, and the failure of the whole names the operands on the way to it. -/
structure Expr.FailsAt (e : Expr) (path : List Nat) (op : Operator) (mismatch : Mismatch) :
    Prop where
  node : ∃ node, e.Reaches path node ∧ node.Misapplies op mismatch
  outcome : e.evalWithin .unlimited =
    .error (.error (.misapplied ⟨e.descents path, op, mismatch⟩))

namespace Expr.FailsAt

variable {part inner operand left right c t : Expr} {op failing : Operator} {path : List Nat}
  {mismatch : Mismatch} {value : Value}

theorem node_inside {i : Nat} (h : part.FailsAt path failing mismatch) (hpart : e.Part i part) :
    ∃ node, e.Reaches (i :: path) node ∧ node.Misapplies failing mismatch := by
  obtain ⟨node, hreaches, hnode⟩ := h.node
  exact ⟨node, .inside hpart hreaches, hnode⟩

theorem unary (ha : operand.HasValue value) (h : op.applyUnary value = op.fail mismatch) :
    (Expr.unary op operand).FailsAt [] op mismatch where
  node := ⟨_, .here, .unary ha h⟩
  outcome := by
    rw [evalWithin_unlimited_unary, ha]
    exact h

theorem binary {value' : Value} (ha : left.HasValue value) (hb : right.HasValue value')
    (h : op.applyBinary value value' = op.fail mismatch) :
    (Expr.binary left op right).FailsAt [] op mismatch where
  node := ⟨_, .here, .binary ha hb h⟩
  outcome := by
    rw [evalWithin_unlimited_binary, ha, hb]
    exact h

theorem inGroup (h : inner.FailsAt path failing mismatch) :
    (Expr.group inner).FailsAt (0 :: path) failing mismatch where
  node := h.node_inside .inner
  outcome := h.outcome

theorem inOperand (h : operand.FailsAt path failing mismatch) :
    (Expr.unary op operand).FailsAt (0 :: path) failing mismatch where
  node := h.node_inside .operand
  outcome := by
    rw [evalWithin_unlimited_unary, h.outcome]
    rfl

theorem inLeft (h : left.FailsAt path failing mismatch) :
    (Expr.binary left op right).FailsAt (0 :: path) failing mismatch where
  node := h.node_inside .left
  outcome := by
    rw [evalWithin_unlimited_binary, h.outcome]
    rfl

theorem inRight (ha : left.HasValue value) (h : right.FailsAt path failing mismatch) :
    (Expr.binary left op right).FailsAt (1 :: path) failing mismatch where
  node := h.node_inside .right
  outcome := by
    rw [evalWithin_unlimited_binary, ha, h.outcome]
    rfl

theorem inCondition (h : c.FailsAt path failing mismatch) :
    (Expr.conditional c t e).FailsAt (0 :: path) failing mismatch where
  node := h.node_inside .condition
  outcome := by
    rw [evalWithin_unlimited_conditional, h.outcome]
    rfl

theorem inThenBranch (hc : c.HasValue value) (htrue : value.isTruthy = true)
    (h : t.FailsAt path failing mismatch) :
    (Expr.conditional c t e).FailsAt (1 :: path) failing mismatch where
  node := h.node_inside (.thenBranch hc htrue)
  outcome := by
    rw [evalWithin_unlimited_conditional, hc]
    exact (if_pos htrue).trans h.outcome

theorem inElseBranch (hc : c.HasValue value) (hfalse : value.isTruthy = false)
    (h : e.FailsAt path failing mismatch) :
    (Expr.conditional c t e).FailsAt (2 :: path) failing mismatch where
  node := h.node_inside (.elseBranch hc hfalse)
  outcome := by
    rw [evalWithin_unlimited_conditional, hc]
    exact (if_neg (by simp [hfalse])).trans h.outcome

end Expr.FailsAt

theorem Operator.Reports.exists_fail {op : Operator} {wrong? : Option Mismatch}
    {outcome : Except EvalFailure Value} {failure : EvalFailure} (h : op.Reports wrong? outcome)
    (houtcome : outcome = .error failure) : ∃ mismatch, outcome = op.fail mismatch := by
  rcases h with ⟨-, value, hvalue⟩ | ⟨mismatch, -, hfail⟩
  · cases houtcome.symm.trans hvalue
  · exact ⟨mismatch, hfail⟩

/-! ### Trees that are alike -/

theorem Operator.eq_onLine {op op' : Operator} (h : op'.onLine line = op.onLine line) :
    op' = op.onLine op'.line := by
  obtain ⟨kind, lexeme, line'⟩ := op'
  simp_all [Operator.onLine]

theorem Operator.applyUnary_of_onLine_eq {op op' : Operator} {a : Value} {mismatch : Mismatch}
    (hop : op'.onLine line = op.onLine line) (h : op.applyUnary a = op.fail mismatch) :
    op'.applyUnary a = op'.fail mismatch := by
  rw [Operator.eq_onLine hop, Operator.applyUnary_onLine, h]
  rfl

theorem Operator.applyBinary_of_onLine_eq {op op' : Operator} {a b : Value} {mismatch : Mismatch}
    (hop : op'.onLine line = op.onLine line) (h : op.applyBinary a b = op.fail mismatch) :
    op'.applyBinary a b = op'.fail mismatch := by
  rw [Operator.eq_onLine hop, Operator.applyBinary_onLine, h]
  rfl

namespace Expr

variable {inner operand left right c t : Expr} {op : Operator}

theorem of_onLine_eq_group (h : e'.onLine line = (group inner).onLine line) :
    ∃ inner', e' = .group inner' ∧ inner'.onLine line = inner.onLine line := by
  cases e' with
  | group inner' => exact ⟨inner', rfl, by simpa [onLine] using h⟩
  | _ => cases h

theorem of_onLine_eq_unary (h : e'.onLine line = (unary op operand).onLine line) :
    ∃ op' operand', e' = .unary op' operand' ∧ op'.onLine line = op.onLine line ∧
      operand'.onLine line = operand.onLine line := by
  cases e' with
  | unary op' operand' => exact ⟨op', operand', rfl, by simpa [onLine] using h⟩
  | _ => cases h

theorem of_onLine_eq_binary (h : e'.onLine line = (binary left op right).onLine line) :
    ∃ left' op' right', e' = .binary left' op' right' ∧ left'.onLine line = left.onLine line ∧
      op'.onLine line = op.onLine line ∧ right'.onLine line = right.onLine line := by
  cases e' with
  | binary left' op' right' => exact ⟨left', op', right', rfl, by simpa [onLine] using h⟩
  | _ => cases h

theorem of_onLine_eq_conditional (h : e'.onLine line = (conditional c t e).onLine line) :
    ∃ c' t' e'', e' = .conditional c' t' e'' ∧ c'.onLine line = c.onLine line ∧
      t'.onLine line = t.onLine line ∧ e''.onLine line = e.onLine line := by
  cases e' with
  | conditional c' t' e'' => exact ⟨c', t', e'', rfl, by simpa [onLine] using h⟩
  | _ => cases h

/-- An operator that cannot be applied is at one path in all trees that are alike. -/
theorem exists_failsAt (line : Int) {m : Misapplication}
    (h : e.evalWithin .unlimited = .error (.error (.misapplied m))) :
    ∃ path mismatch, ∀ e' : Expr, e'.onLine line = e.onLine line →
      ∃ op, e'.FailsAt path op mismatch := by
  induction e generalizing m with
  | integer n =>
    rw [evalWithin] at h
    cases hn : Double.ofInt? n with
    | none => simp [hn] at h
    | some x => simp [hn] at h
  | string | float | boolean | nil => cases h
  | group inner ih =>
    obtain ⟨path, mismatch, hall⟩ := ih h
    refine ⟨0 :: path, mismatch, fun e' he' => ?_⟩
    obtain ⟨inner', rfl, hinner⟩ := of_onLine_eq_group he'
    obtain ⟨failing, hfails⟩ := hall inner' hinner
    exact ⟨failing, hfails.inGroup⟩
  | unary op operand ih =>
    rw [evalWithin_unlimited_unary, bind_eq_error_iff] at h
    rcases h with h | ⟨a, ha, h⟩
    · obtain ⟨path, mismatch, hall⟩ := ih h
      refine ⟨0 :: path, mismatch, fun e' he' => ?_⟩
      obtain ⟨op', operand', rfl, -, hoperand⟩ := of_onLine_eq_unary he'
      obtain ⟨failing, hfails⟩ := hall operand' hoperand
      exact ⟨failing, hfails.inOperand⟩
    · obtain ⟨wrong?, hreports⟩ := exists_applyUnary_reports op a
      obtain ⟨mismatch, hfail⟩ := hreports.exists_fail h
      refine ⟨[], mismatch, fun e' he' => ?_⟩
      obtain ⟨op', operand', rfl, hop, hoperand⟩ := of_onLine_eq_unary he'
      exact ⟨op', .unary (HasValue.of_onLine_eq ha hoperand)
        (Operator.applyUnary_of_onLine_eq hop hfail)⟩
  | binary left op right ihleft ihright =>
    rw [evalWithin_unlimited_binary, bind_eq_error_iff] at h
    rcases h with h | ⟨a, ha, h⟩
    · obtain ⟨inner, h, -⟩ := inOperand_eq_error_iff.1 h
      obtain ⟨path, mismatch, hall⟩ := ihleft h
      refine ⟨0 :: path, mismatch, fun e' he' => ?_⟩
      obtain ⟨left', op', right', rfl, hleft, -, -⟩ := of_onLine_eq_binary he'
      obtain ⟨failing, hfails⟩ := hall left' hleft
      exact ⟨failing, hfails.inLeft⟩
    · replace ha : left.HasValue a := inOperand_eq_ok_iff.1 ha
      rw [bind_eq_error_iff] at h
      rcases h with h | ⟨b, hb, h⟩
      · obtain ⟨inner, h, -⟩ := inOperand_eq_error_iff.1 h
        obtain ⟨path, mismatch, hall⟩ := ihright h
        refine ⟨1 :: path, mismatch, fun e' he' => ?_⟩
        obtain ⟨left', op', right', rfl, hleft, -, hright⟩ := of_onLine_eq_binary he'
        obtain ⟨failing, hfails⟩ := hall right' hright
        exact ⟨failing, hfails.inRight (ha.of_onLine_eq hleft)⟩
      · replace hb : right.HasValue b := inOperand_eq_ok_iff.1 hb
        obtain ⟨wrong?, hreports⟩ := exists_applyBinary_reports op a b
        obtain ⟨mismatch, hfail⟩ := hreports.exists_fail h
        refine ⟨[], mismatch, fun e' he' => ?_⟩
        obtain ⟨left', op', right', rfl, hleft, hop, hright⟩ := of_onLine_eq_binary he'
        exact ⟨op', .binary (ha.of_onLine_eq hleft) (hb.of_onLine_eq hright)
          (Operator.applyBinary_of_onLine_eq hop hfail)⟩
  | conditional c t e ihc iht ihe =>
    rw [evalWithin_unlimited_conditional, bind_eq_error_iff] at h
    rcases h with h | ⟨a, ha, h⟩
    · obtain ⟨path, mismatch, hall⟩ := ihc h
      refine ⟨0 :: path, mismatch, fun e' he' => ?_⟩
      obtain ⟨c', t', e'', rfl, hc, -, -⟩ := of_onLine_eq_conditional he'
      obtain ⟨failing, hfails⟩ := hall c' hc
      exact ⟨failing, hfails.inCondition⟩
    · by_cases htrue : a.isTruthy = true
      · rw [if_pos htrue] at h
        obtain ⟨path, mismatch, hall⟩ := iht h
        refine ⟨1 :: path, mismatch, fun e' he' => ?_⟩
        obtain ⟨c', t', e'', rfl, hc, ht, -⟩ := of_onLine_eq_conditional he'
        obtain ⟨failing, hfails⟩ := hall t' ht
        exact ⟨failing, hfails.inThenBranch (HasValue.of_onLine_eq ha hc) htrue⟩
      · rw [if_neg htrue] at h
        obtain ⟨path, mismatch, hall⟩ := ihe h
        refine ⟨2 :: path, mismatch, fun e' he' => ?_⟩
        obtain ⟨c', t', e'', rfl, hc, -, he⟩ := of_onLine_eq_conditional he'
        obtain ⟨failing, hfails⟩ := hall e'' he
        exact ⟨failing, hfails.inElseBranch (HasValue.of_onLine_eq ha hc)
          (Bool.not_eq_true _ ▸ htrue)⟩

end Expr

/-! ### Outcomes -/

theorem EvalError.reports_of_onLine_eq {error error' : EvalError}
    (h : (EvalFailure.error error').onLine line = (EvalFailure.error error).onLine line) :
    error'.text = error.text ∧ error'.operator = error.operator ∧ error'.side = error.side := by
  obtain ⟨common, hcommon⟩ : ∃ common, (EvalFailure.error error).onLine line = .error common := by
    cases error <;> exact ⟨_, rfl⟩
  obtain ⟨hoperator, hside⟩ := blame_onLine hcommon
  obtain ⟨hoperator', hside'⟩ := blame_onLine (h.trans hcommon)
  exact ⟨(text_onLine (h.trans hcommon)).symm.trans (text_onLine hcommon),
    hoperator'.symm.trans hoperator, hside'.symm.trans hside⟩

/-- What comes of a tree. For an operator that cannot be applied there is its path. -/
inductive Evaluation
  | value (value : Value)
  | nestedTooDeeply
  | integerTooLarge
  | misapplied (path : List Nat) (text : String) (operator : Option String) (side : Option Side)

/-- A tree has a value, or evaluation stops: without a place if there is too little room, at a
whole number that no double can hold, or at the operator at a path; the line of the diagnostic is
that of this operator. -/
inductive Evaluation.IsOf (room : Nesting) (e : Expr) : Evaluation → Prop
  | value {value : Value} (h : e.evalWithin room = .ok value) : IsOf room e (.value value)
  | nestedTooDeeply (h : e.evalWithin room = .error (.error .nestedTooDeeply)) :
      IsOf room e .nestedTooDeeply
  | integerTooLarge (hinteger : ¬e.Everywhere Expr.IsConvertible)
      (h : e.evalWithin room = .error .integerTooLarge) : IsOf room e .integerTooLarge
  | misapplied {path : List Nat} {node : Expr} {op : Operator} {mismatch : Mismatch}
      {error : EvalError} (hreaches : e.Reaches path node) (hnode : node.Misapplies op mismatch)
      (h : e.evalWithin room = .error (.error error))
      (herror : error = .misapplied ⟨e.descents path, op, mismatch⟩)
      (hdiagnostic : error.diagnostic = ⟨error.text, some ⟨op.line, none, false⟩⟩) :
      IsOf room e (.misapplied path error.text error.operator error.side)

theorem Expr.evalWithin_eq_error_of_onLine_eq {room : Nesting} {failure : EvalFailure}
    (h : e'.onLine line = e.onLine line) (hfail : e.evalWithin room = .error failure) :
    ∃ failure', e'.evalWithin room = .error failure' ∧
      failure'.onLine line = failure.onLine line := by
  have heq := Expr.evalWithin_of_onLine_eq h room
  rw [hfail] at heq
  cases he' : e'.evalWithin room with
  | ok value =>
    rw [he'] at heq
    cases heq
  | error failure' =>
    rw [he'] at heq
    exact ⟨failure', rfl, Except.error.inj heq⟩

/-- A failure is alike to one that names no operators only if it is that one. -/
theorem EvalFailure.eq_of_onLine_eq {failure : EvalFailure}
    (h : failure.onLine line = .integerTooLarge ∨
      failure.onLine line = .error .nestedTooDeeply) : failure.onLine line = failure := by
  match failure with
  | .error (.misapplied m) => rcases h with h | h <;> cases h
  | .error .nestedTooDeeply => rfl
  | .integerTooLarge => rfl

theorem not_isConvertible_of_integerTooLarge {room : Nesting}
    (h : e.evalWithin room = .error .integerTooLarge) : ¬e.Everywhere Expr.IsConvertible := by
  intro hall
  rcases e.evalWithin_mono room.le_unlimited with heq | hdeep
  · exact Expr.evalWithin_unlimited_ne (by simp) (fun _ => hall) (heq.symm.trans h)
  · cases h.symm.trans hdeep

/-- An operator that cannot be applied stops all trees that are alike. -/
theorem exists_evaluation_of_misapplied {room : Nesting} {m : Misapplication}
    (he : e.evalWithin room = .error (.error (.misapplied m))) :
    ∃ evaluation : Evaluation, ∀ e' : Expr, e'.onLine 0 = e.onLine 0 → evaluation.IsOf room e' := by
  obtain ⟨path, mismatch, hall⟩ :=
    Expr.exists_failsAt 0 (Expr.evalWithin_unlimited_of_misapplied he)
  refine ⟨.misapplied path (EvalError.misapplied m).text (EvalError.misapplied m).operator
    (EvalError.misapplied m).side, fun e' h => ?_⟩
  obtain ⟨op, ⟨node, hreaches, hnode⟩, houtcome⟩ := hall e' h
  obtain ⟨failure', he', hfailure⟩ := Expr.evalWithin_eq_error_of_onLine_eq h he
  match failure', hfailure with
  | .error (.misapplied m'), hfailure =>
    obtain ⟨htext, hoperator, hside⟩ := EvalError.reports_of_onLine_eq hfailure
    rw [← htext, ← hoperator, ← hside]
    have hunlimited := Expr.evalWithin_unlimited_of_misapplied he'
    have hm : m' = ⟨e'.descents path, op, mismatch⟩ := by
      simpa using hunlimited.symm.trans houtcome
    subst hm
    exact .misapplied hreaches hnode he' rfl rfl

/-- How a tree is evaluated is decided by its nodes, whatever their lines. -/
theorem exists_evaluation (e : Expr) (room : Nesting) :
    ∃ evaluation : Evaluation, ∀ e' : Expr, e'.onLine 0 = e.onLine 0 → evaluation.IsOf room e' := by
  cases he : e.evalWithin room with
  | ok value =>
    exact ⟨.value value, fun e' h => .value (Expr.evalWithin_eq_ok_of_onLine_eq h he)⟩
  | error failure =>
    match failure with
    | .integerTooLarge =>
      refine ⟨.integerTooLarge, fun e' h => ?_⟩
      obtain ⟨failure', he', hfailure⟩ := Expr.evalWithin_eq_error_of_onLine_eq h he
      rw [← EvalFailure.eq_of_onLine_eq (.inl hfailure), hfailure] at he'
      exact .integerTooLarge (not_isConvertible_of_integerTooLarge he') he'
    | .error .nestedTooDeeply =>
      refine ⟨.nestedTooDeeply, fun e' h => ?_⟩
      obtain ⟨failure', he', hfailure⟩ := Expr.evalWithin_eq_error_of_onLine_eq h he
      rw [← EvalFailure.eq_of_onLine_eq (.inr hfailure), hfailure] at he'
      exact .nestedTooDeeply he'
    | .error (.misapplied m) => exact exists_evaluation_of_misapplied he

end

/-- Lines are passive. All token lists of the same kinds, lexemes and literals are read as trees
that are equal but for lines, or refused at the same place with the same text, lexeme and mark for
the end, each with the line of its own token. All trees that are equal but for lines have the same
value, or stop with the same text, operator and side at the same path, each with the line of its
own operator there. -/
theorem lines_passive :
    (∀ (room : Nesting) (tokens : List Token), Ended tokens → ∃ reading : Reading,
      ∀ tokens', tokens'.map Token.shape = tokens.map Token.shape →
        reading.IsOf room tokens') ∧
    ∀ (room : Nesting) (e : Expr), ∃ evaluation : Evaluation,
      ∀ e' : Expr, e'.onLine 0 = e.onLine 0 → evaluation.IsOf room e' :=
  ⟨fun room _ hend => exists_reading hend room, fun room e => exists_evaluation e room⟩

/-- The bracket of `(nil ? nil)` and the minus of `"a", -nil` fail on whatever line they are. -/
theorem lines_passive_on_two_lines :
    let tokens (line : Int) : List Token :=
      [⟨.leftParen, "(", .absent, 1⟩, ⟨.nilWord, "nil", .absent, 1⟩, ⟨.question, "?", .absent, 1⟩,
       ⟨.nilWord, "nil", .absent, line⟩, ⟨.rightParen, ")", .absent, line⟩,
       ⟨.eof, "", .absent, line⟩]
    let e (line : Int) : Expr :=
      .binary (.string "a") ⟨.comma, ",", 1⟩ (.unary ⟨.minus, "-", line⟩ .nil)
    Ended (tokens 2) ∧ (tokens 7).map Token.shape = (tokens 2).map Token.shape ∧
      (∃ reading : Reading, reading.IsOf .standard (tokens 2) ∧ reading.IsOf .standard (tokens 7)) ∧
      parse (tokens 7) = .error (.refused ⟨.colonMissing, ⟨.rightParen, ")", .absent, 7⟩⟩) ∧
      (e 7).onLine 0 = (e 2).onLine 0 ∧
      (∃ evaluation : Evaluation,
        evaluation.IsOf .standard (e 2) ∧ evaluation.IsOf .standard (e 7)) ∧
      (e 7).eval = .error (.error (.misapplied
        ⟨[⟨.right, ⟨.comma, ",", 1⟩⟩], ⟨.minus, "-", 7⟩, .notNumber .nil⟩)) := by
  intro tokens e
  have hend : Ended (tokens 2) := by decide
  have htokens : (tokens 7).map Token.shape = (tokens 2).map Token.shape := rfl
  have htrees : (e 7).onLine 0 = (e 2).onLine 0 := rfl
  obtain ⟨hreading, hevaluation⟩ := lines_passive
  obtain ⟨reading, hreading⟩ := hreading .standard (tokens 2) hend
  obtain ⟨evaluation, hevaluation⟩ := hevaluation .standard (e 2)
  exact ⟨hend, htokens, ⟨reading, hreading _ rfl, hreading _ htokens⟩, rfl, htrees,
    ⟨evaluation, hevaluation _ rfl, hevaluation _ htrees⟩, rfl⟩

end LoxExpr
