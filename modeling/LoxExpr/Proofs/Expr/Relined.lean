import LoxExpr.Proofs.Expr.Bracketing
import LoxExpr.Proofs.Expr.Parsing
import LoxExpr.Proofs.Token.Lines

/-!
# Reading with other lines

Reading looks at kinds, lexemes and literals. A change of all lines, whatever it is, is therefore
the same before and after (`Rule.step_relined`, and from it `parseWithin_relined`): it comes through
to the operators of the tree and to the token that is refused.
-/

namespace LoxExpr

/-! ## Changes of lines -/

section
variable (g : Int → Int)

def Token.relined (t : Token) : Token := { t with line := g t.line }

def Operator.relined (op : Operator) : Operator := { op with line := g op.line }

def Expr.relined : Expr → Expr
  | .group inner => .group inner.relined
  | .unary op operand => .unary (op.relined g) operand.relined
  | .binary left op right => .binary left.relined (op.relined g) right.relined
  | .conditional c t e => .conditional c.relined t.relined e.relined
  | leaf => leaf

/-- Only the first operands of a chain have lines. -/
def Rule.relined : Rule → Rule
  | .chain l left => .chain l (left.relined g)
  | .expression => .expression
  | .level l => .level l
  | .unary => .unary
  | .primary => .primary

def ParseError.relined (e : ParseError) : ParseError := ⟨e.fault, e.token.relined g⟩

def RuleFailure.relined : RuleFailure → RuleFailure
  | .refused error => .refused (error.relined g)
  | failure => failure

def ParseFailure.relined : ParseFailure → ParseFailure
  | .refused error => .refused (error.relined g)
  | failure => failure

def Outcome.relined (o : Outcome) : Outcome :=
  ⟨(o.result.map (Expr.relined g)).mapError (RuleFailure.relined g), o.rest.map (Token.relined g)⟩

def Input.relined (input : Input) : Input :=
  ⟨input.tokens.map (Token.relined g), input.stop.relined g⟩

end

section
variable {g : Int → Int}

theorem Expr.IsLeaf.relined {e : Expr} (h : e.IsLeaf) : e.relined g = e := by
  cases e <;> first | rfl | cases h

theorem Level.operand_relined (l : Level) : l.operand.relined g = l.operand := by
  cases l <;> rfl

theorem Expr.onLine_relined (line : Int) (e : Expr) :
    (e.relined g).onLine line = e.onLine line := by
  induction e with
  | string | integer | float | boolean | nil => rfl
  | group inner ih => simp only [relined, onLine, ih]
  | unary op operand ih => simp only [relined, onLine, ih, Operator.relined, Operator.onLine]
  | binary left op right ihleft ihright =>
    simp only [relined, onLine, ihleft, ihright, Operator.relined, Operator.onLine]
  | conditional c t e ihc iht ihe => simp only [relined, onLine, ihc, iht, ihe]

/-! ## Reading -/

namespace Outcome

variable {next next' : Expr → List Token → Outcome}

theorem ok_relined (e : Expr) (rest : List Token) :
    (ok e rest).relined g = ok (e.relined g) (rest.map (Token.relined g)) := rfl

theorem andThen_relined {o o' : Outcome} (ho : o.relined g = o')
    (h : ∀ e rest, (next e rest).relined g = next' (e.relined g) (rest.map (Token.relined g))) :
    (o.andThen next).relined g = o'.andThen next' := by
  obtain ⟨result, rest⟩ := o
  subst ho
  cases result with
  | ok e => exact h e rest
  | error failure => rfl

theorem inside_relined {next next' : Nesting → Outcome} (cost : Nat) (room : Nesting)
    (rest : List Token) (h : ∀ room, (next room).relined g = next' room) :
    (inside cost room rest next).relined g =
      inside cost room (rest.map (Token.relined g)) next' := by
  unfold inside
  cases room.enter cost with
  | none => rfl
  | some inner => exact h inner

theorem expect_relined {next next' : List Token → Outcome} (kind : Kind) (fault : ParseFault)
    (stop : Token) (rest : List Token)
    (h : ∀ rest, (next rest).relined g = next' (rest.map (Token.relined g))) :
    (expect kind fault stop rest next).relined g =
      expect kind fault (stop.relined g) (rest.map (Token.relined g)) next' := by
  cases rest with
  | nil => rfl
  | cons token after =>
    by_cases hkind : token.kind = kind
    · simpa [expect, hkind, Token.relined] using h after
    · simp [expect, hkind, Token.relined, refuse, relined, RuleFailure.relined, ParseError.relined,
        Except.map, Except.mapError]

end Outcome

namespace Rule

open Outcome

variable {stop : Token} {self self' : Nesting → Rule → List Token → Outcome}

/-- A step does not look at lines if its parts do not. -/
theorem step_relined
    (h : ∀ room rule tokens,
      (self room rule tokens).relined g =
        self' room (rule.relined g) (tokens.map (Token.relined g)))
    (room : Nesting) (rule : Rule) (tokens : List Token) :
    (step stop self room rule tokens).relined g =
      step (stop.relined g) self' room (rule.relined g) (tokens.map (Token.relined g)) := by
  cases rule with
  | expression =>
    simp only [step, Rule.relined]
    refine andThen_relined (h room (.level .comma) tokens) fun condition rest => ?_
    cases rest with
    | nil => rfl
    | cons token after =>
      by_cases hquestion : token.kind = .question
      · simp only [hquestion, if_true, List.map_cons, Token.relined]
        refine inside_relined _ _ _ fun room => ?_
        refine andThen_relined (h room .expression after) fun thenBranch rest => ?_
        refine expect_relined _ _ _ _ fun rest => ?_
        exact andThen_relined (h room .expression rest) fun elseBranch rest => rfl
      · simp only [hquestion, if_false, List.map_cons, Token.relined]
        rfl
  | level l =>
    have hoperand := h room l.operand tokens
    rw [Level.operand_relined] at hoperand
    exact andThen_relined hoperand fun left rest => h room (.chain l left) rest
  | chain l left =>
    cases tokens with
    | nil => rfl
    | cons token rest =>
      by_cases hop : token.kind ∈ l.operators
      · have hoperand := h room l.operand rest
        rw [Level.operand_relined] at hoperand
        simp only [step, Rule.relined, hop, if_true, List.map_cons, Token.relined]
        exact andThen_relined hoperand fun right rest =>
          h room (.chain l (.binary left token.operator right)) rest
      · simp only [step, Rule.relined, hop, if_false, List.map_cons, Token.relined]
        rfl
  | unary =>
    cases tokens with
    | nil => exact h room .primary []
    | cons token rest =>
      by_cases hop : token.kind ∈ unaryOperators
      · simp only [step, Rule.relined, hop, if_true, List.map_cons, Token.relined]
        refine inside_relined _ _ _ fun room => ?_
        exact andThen_relined (h room .unary rest) fun operand rest => rfl
      · simp only [step, Rule.relined, hop, if_false, List.map_cons, Token.relined]
        exact h room .primary (token :: rest)
  | primary =>
    cases tokens with
    | nil => rfl
    | cons token rest =>
      have hleaf : (token.relined g).leaf? = token.leaf? := rfl
      simp only [step, Rule.relined, List.map_cons, hleaf]
      cases htoken : token.leaf? with
      | some e =>
        simp only [ok_relined, (Token.isLeaf_of_leaf? htoken).relined]
      | none =>
        by_cases hnumber : token.kind = .number
        · simp only [hnumber, if_true, Token.relined]
          rfl
        · by_cases hopening : token.kind = .leftParen
          · simp only [hopening, if_true, reduceCtorEq, if_false, Token.relined]
            refine inside_relined _ _ _ fun room => ?_
            refine andThen_relined (h room .expression rest) fun inner rest => ?_
            exact expect_relined _ _ _ _ fun rest => rfl
          · simp only [hnumber, hopening, if_false, Token.relined]
            rfl

theorem run_relined (fuel : Nat) (room : Nesting) (rule : Rule) (tokens : List Token) :
    (run stop fuel room rule tokens).relined g =
      run (stop.relined g) fuel room (rule.relined g) (tokens.map (Token.relined g)) := by
  induction fuel generalizing room rule tokens with
  | zero => rfl
  | succ fuel ih => exact step_relined ih room rule tokens

theorem read_relined (rule : Rule) (room : Nesting) (tokens : List Token) :
    (rule.read room stop tokens).relined g =
      (rule.relined g).read room (stop.relined g) (tokens.map (Token.relined g)) := by
  rw [read, read, run_relined, fuelFor, fuelFor, List.length_map]

end Rule

/-! ## Whole inputs -/

theorem Input.parseWithin_relined (room : Nesting) (input : Input) :
    (input.relined g).parseWithin room =
      ((input.parseWithin room).map (Expr.relined g)).mapError (ParseFailure.relined g) := by
  have hread : (Rule.expression.read room input.stop input.tokens).relined g =
      Rule.expression.read room (input.stop.relined g) (input.tokens.map (Token.relined g)) :=
    Rule.read_relined .expression room input.tokens
  unfold parseWithin
  simp only [Input.relined]
  rw [← hread]
  generalize Rule.expression.read room input.stop input.tokens = o
  obtain ⟨result, rest⟩ := o
  match result, rest with
  | .ok e, [] => rfl
  | .ok e, token :: after => rfl
  | .error .outOfRoom, [] => rfl
  | .error .outOfRoom, token :: after => rfl
  | .error (.refused error), _ => rfl
  | .error (.unreadableNumber lexeme), _ => rfl

theorem Input.ofTokens?_relined (tokens : List Token) :
    ofTokens? (tokens.map (Token.relined g)) = (ofTokens? tokens).map (Input.relined g) := by
  have heof : Token.isEof ∘ Token.relined g = Token.isEof := rfl
  have hnot : (!·.isEof) ∘ Token.relined g = (!·.isEof) := rfl
  simp only [ofTokens?, List.getLast?_map, Option.map_map, heof, List.find?_map,
    List.takeWhile_map, hnot]
  split
  · rw [Option.map_map]
    rfl
  · rfl

/-- Reading takes the lines of tokens over as they are. -/
theorem parseWithin_relined (room : Nesting) (tokens : List Token) :
    parseWithin room (tokens.map (Token.relined g)) =
      ((parseWithin room tokens).map (Expr.relined g)).mapError (ParseFailure.relined g) := by
  unfold parseWithin
  rw [Input.ofTokens?_relined]
  cases Input.ofTokens? tokens with
  | none => rfl
  | some input => exact input.parseWithin_relined room

end

end LoxExpr
