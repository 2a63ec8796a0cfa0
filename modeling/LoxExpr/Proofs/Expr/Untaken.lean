import LoxExpr.Proofs.Expr.Limits
import LoxExpr.Proofs.Expr.Provenance

/-!
# Untaken branches and brackets

A branch that its condition does not choose is not evaluated, and brackets only hand on what is in
them. Trees that differ in nothing else, anywhere in them, are related by the congruence
`Expr.SameTaken`. Main statement `evalWithin_eq_of_sameTaken`: they have the same outcome.
-/

namespace LoxExpr

namespace Expr

/-- The value of a condition, if it has one, does not choose the branch for `chosen`. A condition
without a value chooses neither branch. -/
def Avoids (c : Expr) (chosen : Bool) : Prop :=
  ∀ value, c.HasValue value → value.isTruthy ≠ chosen

/-- Trees that differ in brackets and in branches that are not chosen, at any places: the smallest
congruence with brackets and with branches that their conditions avoid. -/
inductive SameTaken : Expr → Expr → Prop
  | bracket (e : Expr) : SameTaken (.group e) e
  | thenBranch {c : Expr} (t t' e : Expr) (h : c.Avoids true) :
      SameTaken (.conditional c t e) (.conditional c t' e)
  | elseBranch {c : Expr} (t e e' : Expr) (h : c.Avoids false) :
      SameTaken (.conditional c t e) (.conditional c t e')
  | refl (e : Expr) : SameTaken e e
  | symm {a b : Expr} (h : SameTaken a b) : SameTaken b a
  | trans {a b c : Expr} (hab : SameTaken a b) (hbc : SameTaken b c) : SameTaken a c
  | group {a b : Expr} (h : SameTaken a b) : SameTaken (.group a) (.group b)
  | unary {a b : Expr} (op : Operator) (h : SameTaken a b) :
      SameTaken (.unary op a) (.unary op b)
  | binary {a a' b b' : Expr} (op : Operator) (ha : SameTaken a a') (hb : SameTaken b b') :
      SameTaken (.binary a op b) (.binary a' op b')
  | conditional {c c' t t' e e' : Expr} (hc : SameTaken c c') (ht : SameTaken t t')
      (he : SameTaken e e') : SameTaken (.conditional c t e) (.conditional c' t' e')

section
variable {a b c t t' e e' : Expr}

/-- What a condition avoids does not show: the chosen branches decide. -/
theorem evalWithin_unlimited_congr_chosen
    (ht : ¬c.Avoids true → t.evalWithin .unlimited = t'.evalWithin .unlimited)
    (he : ¬c.Avoids false → e.evalWithin .unlimited = e'.evalWithin .unlimited) :
    (Expr.conditional c t e).evalWithin .unlimited =
      (Expr.conditional c t' e').evalWithin .unlimited := by
  rw [evalWithin_unlimited_conditional, evalWithin_unlimited_conditional]
  cases hc : c.evalWithin .unlimited with
  | error failure => rfl
  | ok value =>
    have hchosen : ¬c.Avoids value.isTruthy := fun havoids => havoids value hc rfl
    cases htruthy : value.isTruthy with
    | true =>
      rw [htruthy] at hchosen
      simpa [bind, Except.bind, htruthy] using ht hchosen
    | false =>
      rw [htruthy] at hchosen
      simpa [bind, Except.bind, htruthy] using he hchosen

/-- Without a limit on room, brackets and branches that are not chosen do not show. -/
theorem SameTaken.evalWithin_unlimited (h : a.SameTaken b) :
    a.evalWithin .unlimited = b.evalWithin .unlimited := by
  induction h with
  | bracket e => rfl
  | thenBranch t t' e havoids =>
    exact evalWithin_unlimited_congr_chosen (fun hnot => absurd havoids hnot) fun _ => rfl
  | elseBranch t e e' havoids =>
    exact evalWithin_unlimited_congr_chosen (fun _ => rfl) fun hnot => absurd havoids hnot
  | refl e => rfl
  | symm _ ih => exact ih.symm
  | trans _ _ ihab ihbc => exact ihab.trans ihbc
  | group _ ih => exact ih
  | unary op _ ih => rw [evalWithin_unlimited_unary, evalWithin_unlimited_unary, ih]
  | binary op _ _ iha ihb =>
    rw [evalWithin_unlimited_binary, evalWithin_unlimited_binary, iha, ihb]
  | conditional _ _ _ ihc iht ihe =>
    rw [evalWithin_unlimited_conditional, evalWithin_unlimited_conditional, ihc, iht, ihe]

end

end Expr

/-- Trees that differ in brackets and in branches that are not chosen have the same outcome wherever
there is room enough for both: the same value, or the same failure, with all that it says. -/
theorem evalWithin_eq_of_sameTaken {a b : Expr} (h : a.SameTaken b) {room room' : Nesting}
    (ha : a.evalWithin room ≠ .error (.error .nestedTooDeeply))
    (hb : b.evalWithin room' ≠ .error (.error .nestedTooDeeply)) :
    a.evalWithin room = b.evalWithin room' := by
  rcases (evalWithin_transparent a).limited room with ha' | hdeep
  · rcases (evalWithin_transparent b).limited room' with hb' | hdeep
    · rw [ha', hb', h.evalWithin_unlimited]
    · exact absurd hdeep hb
  · exact absurd hdeep ha

/-- In `"x" + ((nil ? 1 : true) ? -"s" : 1)` the minus fails as it does with other branches for the
first `1` and the second, and with brackets around it. -/
theorem evalWithin_eq_of_sameTaken_in_condition :
    let minus : Operator := ⟨.minus, "-", 1⟩
    let plus : Operator := ⟨.plus, "+", 1⟩
    let taken : Expr := .unary minus (.string "s")
    let a : Expr := .binary (.string "x") plus
      (.conditional (.conditional .nil (.integer 1) (.boolean true)) taken (.integer 1))
    let b : Expr := .binary (.string "x") plus (.group
      (.conditional (.conditional .nil (.unary minus .nil) (.boolean true)) (.group taken) .nil))
    a.SameTaken b ∧ b.eval ≠ .error (.error .nestedTooDeeply) ∧
      a.eval = .error (.error (.misapplied
        ⟨[⟨.right, plus⟩], minus, .notNumber .string⟩)) ∧ a.eval = b.eval := by
  intro minus plus taken a b
  have hnil : Expr.nil.Avoids true := by
    rintro value ⟨⟩
    decide
  have htrue : (Expr.conditional .nil (.unary minus .nil) (.boolean true)).Avoids false := by
    rintro value ⟨⟩
    decide
  have hcondition := Expr.SameTaken.thenBranch (.integer 1) (.unary minus .nil) (.boolean true) hnil
  have hinner : (Expr.conditional (.conditional .nil (.integer 1) (.boolean true)) taken
      (.integer 1)).SameTaken (.conditional (.conditional .nil (.unary minus .nil) (.boolean true))
        (.group taken) .nil) :=
    .trans (.conditional hcondition (.symm (.bracket taken)) (.refl (.integer 1)))
      (.elseBranch (.group taken) (.integer 1) .nil htrue)
  have hsame : a.SameTaken b :=
    .binary plus (.refl (.string "x")) (.trans hinner (.symm (.bracket _)))
  have hfails : a.eval =
      .error (.error (.misapplied ⟨[⟨.right, plus⟩], minus, .notNumber .string⟩)) := rfl
  have hdeep : b.eval ≠ .error (.error .nestedTooDeeply) := by
    show Except.error (EvalFailure.error (.misapplied _)) ≠ _
    simp
  have hdeep' : a.eval ≠ .error (.error .nestedTooDeeply) := by
    rw [hfails]
    simp
  exact ⟨hsame, hdeep, hfails, evalWithin_eq_of_sameTaken hsame hdeep' hdeep⟩

end LoxExpr
