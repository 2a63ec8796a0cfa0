import LoxExpr.Proofs.Expr.Limits
import LoxExpr.Proofs.Expr.Writing

/-!
# Reading what was written

Main statement `parse_render`: the text of a tree without strings and binary operators is read as
the tree with brackets around its prefix operators and conditionals, which answers as the tree.
-/

namespace LoxExpr

/-! ## Derivations -/

/-- A node that is a literal or a group. -/
def Expr.IsLiteralOrGroup : Expr → Prop
  | .unary .. | .binary .. | .conditional .. => False
  | _ => True

section
variable {e : Expr} {line : Int} {tokens : List Token}

/-- In brackets all parts are tight enough. -/
theorem keepsPrecedence_bracketed (h : e.Everywhere Expr.IsRestorable) (line : Int) :
    (e.bracketed.onLine line).KeepsPrecedence ∧ (e.bracketed.onLine line).tightness = 7 := by
  induction e with
  | string | binary => exact absurd h.here id
  | integer | float | boolean | nil => exact ⟨trivial, rfl⟩
  | group inner ih => exact ⟨(ih h.2).1, rfl⟩
  | unary op operand ih =>
    obtain ⟨hoperand, htight⟩ := ih h.2
    exact ⟨⟨h.1.mem_unaryOperators, hoperand, by omega⟩, rfl⟩
  | conditional c t e ihc iht ihe =>
    obtain ⟨hc, htight⟩ := ihc h.2.1
    exact ⟨⟨by omega, hc, (iht h.2.2.1).1, (ihe h.2.2.2).1⟩, rfl⟩

theorem derives_bracketed (h : e.Everywhere Expr.IsRestorable)
    (hwritten : e.IsWrittenAs line tokens) :
    Derives .expression tokens (e.bracketed.onLine line) :=
  derives_expression_iff.2 ⟨(keepsPrecedence_bracketed h line).1, hwritten.spelled⟩

/-- A tree of literals and groups has no node to put in brackets and no operator. -/
theorem bracketed_of_isPlain (h : e.Everywhere Expr.IsLiteralOrGroup) (line : Int) :
    e.bracketed.onLine line = e := by
  induction e with
  | string | integer | float | boolean | nil => rfl
  | group inner ih => rw [Expr.bracketed, Expr.onLine, ih h.2]
  | unary | binary | conditional => exact absurd h.here id

end

/-! ## The round trip -/

/-- The same value, or failures with the same message. -/
def SameAnswer (x y : Except EvalFailure Value) : Prop :=
  (∃ value, x = .ok value ∧ y = .ok value) ∨
    ∃ error error' : EvalError, x = .error (.error error) ∧ y = .error (.error error') ∧
      error.text = error'.text

theorem sameAnswer_mapError {x : Except EvalFailure Value} (line : Int)
    (h : x.mapError (EvalFailure.onLine line) ≠ .error .integerTooLarge) :
    SameAnswer (x.mapError (EvalFailure.onLine line)) x := by
  match x with
  | .ok value => exact .inl ⟨value, rfl, rfl⟩
  | .error .integerTooLarge => exact absurd rfl h
  | .error (.error .nestedTooDeeply) => exact .inr ⟨_, _, rfl, rfl, rfl⟩
  | .error (.error (.misapplied m)) =>
    have htext : ∀ error', (EvalFailure.error (.misapplied m)).onLine line = .error error' →
        error'.text = (EvalError.misapplied m).text := fun _ => EvalError.text_onLine
    exact .inr ⟨_, _, rfl, rfl, htext _ rfl⟩

/-- The tree that is read answers as the tree that was written, if there is room for it. -/
theorem sameAnswer_of_derives {e : Expr} {line : Int} {tokens : List Token}
    (h : Derives .expression tokens (e.bracketed.onLine line)) (room : Nesting) :
    SameAnswer ((e.bracketed.onLine line).evalWithin room) (e.evalWithin room) ∨
      (e.bracketed.onLine line).evalWithin room = .error (.error .nestedTooDeeply) := by
  have hne := h.evalWithin_ne room
  rw [Expr.evalWithin_onLine] at hne ⊢
  rcases e.evalWithin_bracketed room with heq | hdeep
  · rw [heq] at hne ⊢
    exact .inl (sameAnswer_mapError line hne)
  · rw [hdeep]
    exact .inr rfl

/-- The text of a tree of literals, groups, prefix operators and conditionals, without strings and
with no numbers but those that the language can spell, is scanned and read without a fault. What
is read is the tree with brackets around each prefix operator and each conditional, on line 1; if
there are none of these, it is the tree itself. It has the value of the tree or fails with the same
message. Limits on nesting show in nothing but refusals: writing takes room for the height of the
tree, reading for the tree that is read. -/
theorem parse_render {e : Expr} (h : e.Everywhere Expr.IsRestorable) :
    ∃ text tokens tree, tree = e.bracketed.onLine 1 ∧ (e.Everywhere Expr.IsLiteralOrGroup → tree = e) ∧
      e.renderWithin .unlimited = some text ∧
      (∀ room, e.renderWithin (.atMost room) =
        if Expr.renderCost * e.height ≤ room then some text else none) ∧
      scan text = .ok tokens ∧
      (∀ room, parseWithin room tokens = .ok tree ∨ IsTooDeep (parseWithin room tokens)) ∧
      (∀ room, parseWithin room tokens = .ok tree ↔ tree.FitsIn room) ∧
      SameAnswer (tree.evalWithin .unlimited) (e.evalWithin .unlimited) ∧
      ∀ room, SameAnswer (tree.evalWithin room) (e.evalWithin room) ∨
        tree.evalWithin room = .error (.error .nestedTooDeeply) := by
  obtain ⟨tokens, hwritten⟩ := exists_isWrittenAs h 1
  have hderives := derives_bracketed h hwritten
  have hparse : ∀ room, parseWithin room (tokens ++ [⟨.eof, "", .absent, 1⟩]) =
      .ok (e.bracketed.onLine 1) ↔ (e.bracketed.onLine 1).FitsIn room :=
    parseWithin_eq_ok_iff hderives rfl
  refine ⟨spaced tokens, _, _, rfl, fun hplain => bracketed_of_isPlain hplain 1, hwritten.text, ?_,
    scan_eq_iff.2 (scans_spaced hwritten.liesOn), ?_, hparse, ?_, sameAnswer_of_derives hderives⟩
  · intro room
    obtain ⟨hfits, hnot⟩ := e.renderWithin_atMost room
    split
    · next hle => rw [hfits hle, hwritten.text]
    · next hlt => exact hnot hlt
  · intro room
    rw [← (hparse .unlimited).2 (Expr.fitsIn_unlimited _)]
    exact (parseWithin_transparent _).limited room
  · refine (sameAnswer_of_derives hderives .unlimited).resolve_right ?_
    exact Expr.evalWithin_unlimited_ne_nestedTooDeeply _

theorem isMagnitude_one : Double.IsMagnitude 1 := by
  refine ⟨by decide, ?_⟩
  have hlog : Double.limitLog ≠ 0 := by decide
  unfold Double.limit
  generalize Double.limitLog = log at hlog ⊢
  exact Nat.one_lt_two_pow hlog

/-- The smallest positive number, in the text of which more than three hundred zeros follow the
point, and operators that stood on other lines; the height of the tree is 2. -/
theorem parse_render_smallest :
    let smallest : Expr := .float (.finite false 1 isMagnitude_one)
    let e : Expr := .conditional (.unary ⟨.bang, "!", 7⟩ .nil) (.group smallest)
      (.unary ⟨.minus, "-", 8⟩ (.boolean true))
    e.Everywhere Expr.IsRestorable ∧
      ∃ text tokens, e.render? = some text ∧ e.renderWithin (.atMost 5) = none ∧
        scan text = .ok tokens ∧
        parse tokens = .ok (.group (.conditional (.group (.unary ⟨.bang, "!", 1⟩ .nil))
          (.group smallest) (.group (.unary ⟨.minus, "-", 1⟩ (.boolean true))))) := by
  intro smallest e
  have hbang : Operator.IsRestorable ⟨.bang, "!", 7⟩ := by simp [Operator.IsRestorable]
  have hminus : Operator.IsRestorable ⟨.minus, "-", 8⟩ := by simp [Operator.IsRestorable]
  have hsmallest : smallest.IsRestorable := ⟨rfl, rfl⟩
  have h : e.Everywhere Expr.IsRestorable :=
    ⟨trivial, ⟨hbang, trivial⟩, ⟨trivial, hsmallest⟩, hminus, trivial⟩
  obtain ⟨text, tokens, tree, rfl, -, -, htext, hscan, -, hparse, -⟩ := parse_render h
  have hfits : (e.bracketed.onLine 1).FitsIn .standard :=
    ⟨_, rfl, ⟨_, rfl, _, rfl, trivial⟩, _, rfl, ⟨_, rfl, trivial⟩, _, rfl, _, rfl, trivial⟩
  exact ⟨h, text, tokens, htext 990, htext 5, hscan, (hparse .standard).2 hfits⟩

end LoxExpr
