/-!
# Nesting limits

Expressions can be read, evaluated and written only so deep, and so can the values of a settings
file. Each kind of nesting has a price, and going in is possible as long as the room that is left
covers it.
-/

namespace LoxExpr

/-- How much room for nesting is left. -/
inductive Nesting
  | unlimited
  | atMost (room : Nat)
  deriving DecidableEq, Repr

namespace Nesting

/-- The room that is left after going in at a price, if there is enough. -/
def enter (cost : Nat) : Nesting → Option Nesting
  | .unlimited => some .unlimited
  | .atMost room => if cost ≤ room then some (.atMost (room - cost)) else none

/-- The room that every activity starts with: the interpreter goes a thousand calls deep, and a few
of these are taken. -/
def standard : Nesting := .atMost 990

/-- The second limit leaves as much room as the first, or more. -/
def Le : Nesting → Nesting → Prop
  | _, .unlimited => True
  | .unlimited, .atMost _ => False
  | .atMost small, .atMost large => small ≤ large

instance : LE Nesting := ⟨Le⟩

@[simp] theorem enter_unlimited (cost : Nat) : enter cost .unlimited = some .unlimited := rfl

theorem le_unlimited (room : Nesting) : room ≤ .unlimited := by
  cases room <;> exact True.intro

theorem le_refl (room : Nesting) : room ≤ room := by
  cases room with
  | unlimited => exact True.intro
  | atMost room => exact Nat.le_refl room

/-- Inside there is no more room than outside. -/
theorem le_of_enter {small large inner : Nesting} {cost : Nat} (h : small.enter cost = some inner)
    (hroom : small ≤ large) : inner ≤ large := by
  cases large with
  | unlimited => exact inner.le_unlimited
  | atMost large =>
    cases small with
    | unlimited => exact absurd hroom id
    | atMost small =>
      obtain ⟨-, rfl⟩ : cost ≤ small ∧ Nesting.atMost (small - cost) = inner := by
        simpa [enter] using h
      exact Nat.le_trans (Nat.sub_le small cost) hroom

/-- With more room there is a way in wherever there was one, and more room is left inside. -/
theorem enter_mono {small large : Nesting} (h : small ≤ large) (cost : Nat) :
    small.enter cost = none ∨ ∃ inner outer, small.enter cost = some inner ∧
      large.enter cost = some outer ∧ inner ≤ outer := by
  cases small with
  | unlimited =>
    cases large with
    | unlimited => exact .inr ⟨_, _, rfl, rfl, True.intro⟩
    | atMost room => exact absurd h id
  | atMost small =>
    by_cases hcost : cost ≤ small
    · right
      cases large with
      | unlimited => exact ⟨.atMost (small - cost), _, by simp [enter, hcost], rfl, True.intro⟩
      | atMost large =>
        have hle : small ≤ large := h
        refine ⟨.atMost (small - cost), .atMost (large - cost), by simp [enter, hcost], ?_, ?_⟩
        · simp [enter, Nat.le_trans hcost hle]
        · exact Nat.sub_le_sub_right hle cost
    · left
      simp [enter, hcost]

end Nesting

end LoxExpr
