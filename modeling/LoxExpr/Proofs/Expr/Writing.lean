import LoxExpr.Expr.Render
import LoxExpr.Proofs.Expr.Bracketing
import LoxExpr.Proofs.Number.LiteralText
import LoxExpr.Proofs.Token.Spaced

/-!
# The texts of trees

A tree has a text if there is room for its height (`Expr.renderWithin_atMost`). Main statement
`exists_isWrittenAs`: if it has no strings and no binary operators, then its text is put together
from lexemes with spaces between them, and the tokens spell the tree with brackets around its
prefix operators and conditionals.
-/

namespace LoxExpr

/-! ## Room for a text -/

/-- Something is the same within a limit if it fits, and nothing if it does not. -/
def Limits {α : Type} (fits : Prop) (limited unlimited : Option α) : Prop :=
  (fits → limited = unlimited) ∧ (¬fits → limited = none)

section
variable {α β : Type} {p q : Prop} {x y : Option α} {f g : α → Option β}

theorem Limits.rfl : Limits True x x := ⟨fun _ => Eq.refl x, fun h => absurd trivial h⟩

theorem Limits.congr (h : Limits p x y) (hiff : q ↔ p) : Limits q x y := by
  rwa [propext hiff]

theorem Limits.bind (h : Limits p x y) (hf : ∀ a, Limits q (f a) (g a)) :
    Limits (p ∧ q) (x >>= f) (y >>= g) := by
  constructor
  · rintro ⟨hp, hq⟩
    have heq : f = g := funext fun a => (hf a).1 hq
    rw [h.1 hp, heq]
  · intro hnot
    by_cases hp : p
    · have hnone : ∀ a, f a = none := fun a => (hf a).2 fun hq => hnot ⟨hp, hq⟩
      cases x with
      | none => exact Eq.refl none
      | some a => exact hnone a
    · rw [h.2 hp]
      exact Eq.refl none

theorem Limits.enter {cost room : Nat} {f g : Nesting → Option β}
    (h : Limits q (f (.atMost (room - cost))) (g .unlimited)) :
    Limits (cost ≤ room ∧ q) ((Nesting.atMost room).enter cost >>= f)
      (Nesting.unlimited.enter cost >>= g) := by
  have henter : (Nesting.atMost room).enter cost =
      if cost ≤ room then some (.atMost (room - cost)) else none := Eq.refl _
  rw [henter]
  by_cases hcost : cost ≤ room
  · rw [if_pos hcost]
    exact h.congr (and_iff_right hcost)
  · rw [if_neg hcost]
    exact ⟨fun hfits => absurd hfits.1 hcost, fun _ => Eq.refl none⟩

end

/-- How many compound nodes of a tree lie inside one another. -/
def Expr.height : Expr → Nat
  | .group inner => inner.height + 1
  | .unary _ operand => operand.height + 1
  | .binary left _ right => max left.height right.height + 1
  | .conditional c t e => max c.height (max t.height e.height) + 1
  | _ => 0

/-- A tree has its text within a limit exactly if the limit covers its height. -/
theorem Expr.renderWithin_atMost (e : Expr) (room : Nat) :
    Limits (renderCost * e.height ≤ room) (e.renderWithin (.atMost room))
      (e.renderWithin .unlimited) := by
  induction e generalizing room with
  | string | integer | float | boolean | nil => exact Limits.rfl.congr (by simp [height])
  | group inner ih =>
    refine (Limits.enter ((ih _).bind fun _ => Limits.rfl)).congr ?_
    simp only [height, renderCost, and_true]
    omega
  | unary op operand ih =>
    refine (Limits.enter ((ih _).bind fun _ => Limits.rfl)).congr ?_
    simp only [height, renderCost, and_true]
    omega
  | binary left op right ihleft ihright =>
    refine (Limits.enter ((ihleft _).bind fun _ => (ihright _).bind fun _ => Limits.rfl)).congr ?_
    simp only [height, renderCost, and_true]
    omega
  | conditional c t e ihc iht ihe =>
    refine (Limits.enter ((ihc _).bind fun _ => (iht _).bind fun _ => (ihe _).bind fun _ =>
      Limits.rfl)).congr ?_
    simp only [height, renderCost, and_true]
    omega

/-! ## Nodes that can be read again -/

/-- A prefix operator of the language, with its own lexeme. -/
def Operator.IsRestorable (op : Operator) : Prop :=
  (op.lexeme, op.kind) ∈ [("!", Kind.bang), ("-", Kind.minus)]

/-- A node that can be read from its text: no string and no binary operator, and numbers without a
sign that are finite or fit in 64 bits. -/
def Expr.IsRestorable : Expr → Prop
  | .string _ | .binary .. => False
  | .integer n => 0 ≤ n ∧ n < 2 ^ 63
  | .float x => x.isNegative = false ∧ x.finite?.isSome
  | .unary op _ => op.IsRestorable
  | _ => True

theorem Operator.IsRestorable.mem_signs {op : Operator} (h : op.IsRestorable) :
    (op.lexeme, op.kind) ∈ Kind.signs := by
  have hsigns : ∀ entry ∈ [("!", Kind.bang), ("-", Kind.minus)], entry ∈ Kind.signs := by decide
  exact hsigns _ h

theorem Operator.IsRestorable.mem_unaryOperators {op : Operator} (h : op.IsRestorable) :
    op.kind ∈ unaryOperators := by
  have hunary : ∀ entry ∈ [("!", Kind.bang), ("-", Kind.minus)], entry.2 ∈ unaryOperators := by
    decide
  exact hunary _ h

section
variable {e : Expr} {line : Int} {tokens : List Token}

/-- The text of a tree is that of tokens, and these spell the tree with its brackets. -/
structure Expr.IsWrittenAs (e : Expr) (line : Int) (tokens : List Token) : Prop where
  ne_nil : tokens ≠ []
  text : e.renderWithin .unlimited = some (spaced tokens)
  liesOn : ∀ t ∈ tokens, t.LiesOn line
  spelled : (e.bracketed.onLine line).IsSpelledBy tokens

/-! ### Tokens -/

/-- The token of a plain numeral. -/
def Token.ofNumeral (text : String) (line : Int) : Token :=
  ⟨.number, text, .number ((Decimal.ofNumeral text.toList).toDouble false), line⟩

theorem Token.liesOn_ofNumeral {text : String} (h : Numeral.IsPlain text.toList) (line : Int) :
    (ofNumeral text line).LiesOn line :=
  (Lexeme.number h (Numeral.real?_of_isPlain h)).liesOn (by decide) line

/-- The token of a sign or a word of the language. -/
def Token.bare (text : String) (kind : Kind) (line : Int) : Token := ⟨kind, text, .absent, line⟩

theorem Token.liesOn_sign {text : String} {kind : Kind} (h : (text, kind) ∈ Kind.signs)
    (line : Int) : (bare text kind line).LiesOn line := by
  have hsigns : ∀ entry ∈ Kind.signs, entry.2 ≠ .string := by decide
  exact (Lexeme.sign h).liesOn (hsigns _ h) line

theorem Token.liesOn_word {text : String} {kind : Kind} (h : (text, kind) ∈ Kind.words)
    (line : Int) : (bare text kind line).LiesOn line := by
  have hwords : ∀ entry ∈ Kind.words, entry.2 ≠ .string := by decide
  exact (Lexeme.keyword h).liesOn (hwords _ h) line

theorem Token.terminal?_bare {kind : Kind} (h : kind.isMark) (text : String) (line : Int) :
    (bare text kind line).terminal? = some (.mark kind) :=
  terminal?_of_mark rfl h

/-! ### Leaves -/

theorem Expr.IsWrittenAs.leaf {t : Token} (htext : e.renderWithin .unlimited = some t.lexeme)
    (hline : t.LiesOn line) (hleaf : t.leaf? = some (e.bracketed.onLine line)) :
    e.IsWrittenAs line [t] where
  ne_nil := List.cons_ne_nil _ _
  text := by simpa using htext
  liesOn := by simpa using hline
  spelled := by
    rw [IsSpelledBy, (Token.isLeaf_of_leaf? hleaf).frontier, List.map_singleton,
      List.map_singleton, Token.terminal?_of_leaf? hleaf]

/-- The text of a whole number without a sign is read as that number, if it fits. -/
theorem Expr.ofNumeral?_toString {n : Int} (hnonneg : 0 ≤ n) (hfits : n < 2 ^ 63) :
    Numeral.IsPlain (toString n).toList ∧ ofNumeral? (toString n) = some (.integer n) := by
  obtain ⟨k, rfl⟩ := Int.eq_ofNat_of_zero_le hnonneg
  have hlt : k < 10 ^ Numeral.maxIntegerDigits :=
    calc k < 2 ^ 63 := by exact_mod_cast hfits
      _ ≤ 10 ^ 19 := by decide
      _ ≤ 10 ^ Numeral.maxIntegerDigits := Nat.pow_le_pow_right (by decide) (by decide)
  obtain ⟨hplain, hread⟩ := Numeral.integer?_toString hlt
  have hfits : fitsInteger (k : Int) = true := by
    have hpow : Int.pow 2 63 = 2 ^ 63 := rfl
    simp only [fitsInteger, Bool.and_eq_true, decide_eq_true_eq, hpow]
    omega
  have htext : toString (k : Int) = toString k := rfl
  refine ⟨hplain, ?_⟩
  simp only [ofNumeral?, htext, hread, Option.filter_some, hfits, if_true]

/-- The literal text of a finite number without a sign is read as that number. -/
theorem Expr.ofNumeral?_literalText {x : Double} (hsign : x.isNegative = false)
    (hfinite : x.finite?.isSome) :
    Numeral.IsPlain x.literalText.toList ∧ ofNumeral? x.literalText = some (.float x) := by
  cases x with
  | nan | infinity => cases hfinite
  | finite negative units hmagnitude =>
    obtain rfl : negative = false := hsign
    obtain ⟨hplain, hinteger, hreal⟩ := Numeral.real?_literalText hmagnitude
    exact ⟨hplain, by simp [ofNumeral?, hinteger, hreal]⟩

theorem isWrittenAs_integer {n : Int} (hnonneg : 0 ≤ n) (hfits : n < 2 ^ 63) (line : Int) :
    (Expr.integer n).IsWrittenAs line [.ofNumeral (toString n) line] := by
  obtain ⟨hplain, hleaf⟩ := Expr.ofNumeral?_toString hnonneg hfits
  exact .leaf rfl (Token.liesOn_ofNumeral hplain line) hleaf

theorem isWrittenAs_float {x : Double} (hsign : x.isNegative = false) (hfinite : x.finite?.isSome)
    (line : Int) : (Expr.float x).IsWrittenAs line [.ofNumeral x.literalText line] := by
  obtain ⟨hplain, hleaf⟩ := Expr.ofNumeral?_literalText hsign hfinite
  exact .leaf rfl (Token.liesOn_ofNumeral hplain line) hleaf

theorem isWrittenAs_word {text : String} {kind : Kind} (h : (text, kind) ∈ Kind.words)
    (htext : e.renderWithin .unlimited = some text) (line : Int)
    (hleaf : (Token.bare text kind line).leaf? = some (e.bracketed.onLine line)) :
    e.IsWrittenAs line [.bare text kind line] :=
  .leaf htext (Token.liesOn_word h line) hleaf

/-! ### Groups -/

/-- Tokens in brackets. -/
def inBrackets (line : Int) (tokens : List Token) : List Token :=
  .bare "(" .leftParen line :: (tokens ++ [.bare ")" .rightParen line])

theorem spaced_inBrackets (h : tokens ≠ []) :
    spaced (inBrackets line tokens) = "( " ++ spaced tokens ++ " )" := by
  have hopening : "( " = "(" ++ " " := rfl
  have hclosing : " )" = " " ++ ")" := rfl
  rw [inBrackets, spaced_cons _ (by simp), spaced_append h (by simp), spaced_singleton, hopening,
    hclosing]
  simp only [Token.bare, String.append_assoc]

theorem liesOn_inBrackets (h : ∀ t ∈ tokens, t.LiesOn line) :
    ∀ t ∈ inBrackets line tokens, t.LiesOn line := by
  have hopening : (Token.bare "(" .leftParen line).LiesOn line := Token.liesOn_sign (by decide) line
  have hclosing : (Token.bare ")" .rightParen line).LiesOn line := Token.liesOn_sign (by decide) line
  simpa [inBrackets, or_imp, forall_and, hopening, hclosing] using h

theorem isSpelledBy_inBrackets (h : e.IsSpelledBy tokens) :
    (Expr.group e).IsSpelledBy (inBrackets line tokens) := by
  have hmap : tokens.map Token.terminal? = e.frontier.map some := h
  simp [Expr.IsSpelledBy, inBrackets, Expr.frontier, Token.terminal?_bare, Kind.isMark, hmap]

/-! ### Trees -/

theorem Expr.IsWrittenAs.group {inner : Expr} (h : inner.IsWrittenAs line tokens) :
    (Expr.group inner).IsWrittenAs line (inBrackets line tokens) where
  ne_nil := List.cons_ne_nil _ _
  text := by simp [renderWithin, h.text, spaced_inBrackets h.ne_nil]
  liesOn := liesOn_inBrackets h.liesOn
  spelled := isSpelledBy_inBrackets h.spelled

theorem Expr.IsWrittenAs.unary {op : Operator} {operand : Expr} (hop : op.IsRestorable)
    (h : operand.IsWrittenAs line tokens) :
    (Expr.unary op operand).IsWrittenAs line
      (inBrackets line (.bare op.lexeme op.kind line :: tokens)) where
  ne_nil := List.cons_ne_nil _ _
  text := by
    rw [spaced_inBrackets (List.cons_ne_nil _ _), spaced_cons _ h.ne_nil]
    simp [renderWithin, h.text, Token.bare, String.append_assoc]
  liesOn :=
    liesOn_inBrackets (List.forall_mem_cons.2 ⟨Token.liesOn_sign hop.mem_signs line, h.liesOn⟩)
  spelled := by
    have hsign := Token.terminal?_of_operator (t := .bare op.lexeme op.kind line)
      (Kind.isOperator_of_mem_unary hop.mem_unaryOperators)
    have hmap : tokens.map Token.terminal? = (operand.bracketed.onLine line).frontier.map some :=
      h.spelled
    refine isSpelledBy_inBrackets ?_
    rw [IsSpelledBy, List.map_cons, hsign, hmap]
    rfl

theorem Expr.IsWrittenAs.conditional {c t e : Expr} {cs ts es : List Token}
    (hc : c.IsWrittenAs line cs) (ht : t.IsWrittenAs line ts) (he : e.IsWrittenAs line es) :
    (Expr.conditional c t e).IsWrittenAs line
      (inBrackets line (cs ++ .bare "?" .question line :: (ts ++ .bare ":" .colon line :: es))) where
  ne_nil := List.cons_ne_nil _ _
  text := by
    have htext : (Expr.conditional c t e).renderWithin .unlimited =
        some ("( " ++ spaced cs ++ " ? " ++ spaced ts ++ " : " ++ spaced es ++ " )") := by
      simp [renderWithin, hc.text, ht.text, he.text]
    have hquestion : " ? " = " " ++ "?" ++ " " := rfl
    have hcolon : " : " = " " ++ ":" ++ " " := rfl
    rw [htext, spaced_inBrackets (by simp), spaced_append hc.ne_nil (List.cons_ne_nil _ _),
      spaced_cons _ (by simp), spaced_append ht.ne_nil (List.cons_ne_nil _ _),
      spaced_cons _ he.ne_nil, hquestion, hcolon]
    simp only [Token.bare, String.append_assoc]
  liesOn := by
    have hquestion : (Token.bare "?" .question line).LiesOn line :=
      Token.liesOn_sign (by decide) line
    have hcolon : (Token.bare ":" .colon line).LiesOn line := Token.liesOn_sign (by decide) line
    refine liesOn_inBrackets ?_
    simp only [List.forall_mem_append, List.forall_mem_cons]
    exact ⟨hc.liesOn, hquestion, ht.liesOn, hcolon, he.liesOn⟩
  spelled := by
    have hcs : cs.map Token.terminal? = (c.bracketed.onLine line).frontier.map some := hc.spelled
    have hts : ts.map Token.terminal? = (t.bracketed.onLine line).frontier.map some := ht.spelled
    have hes : es.map Token.terminal? = (e.bracketed.onLine line).frontier.map some := he.spelled
    refine isSpelledBy_inBrackets ?_
    simp [IsSpelledBy, onLine, frontier, Token.terminal?_bare, Kind.isMark, hcs, hts, hes]

/-- The text of a restorable tree is that of tokens, which spell the tree with its brackets. -/
theorem exists_isWrittenAs (h : e.Everywhere Expr.IsRestorable) (line : Int) :
    ∃ tokens, e.IsWrittenAs line tokens := by
  have hfalse : ("false", Kind.falseWord) ∈ Kind.words := by decide
  have htrue : ("true", Kind.trueWord) ∈ Kind.words := by decide
  have hnil : ("nil", Kind.nilWord) ∈ Kind.words := by decide
  induction e with
  | string | binary => exact absurd h.here id
  | integer n => exact ⟨_, isWrittenAs_integer h.1 h.2 line⟩
  | float x => exact ⟨_, isWrittenAs_float h.1 h.2 line⟩
  | boolean value =>
    cases value with
    | false => exact ⟨_, isWrittenAs_word hfalse rfl line rfl⟩
    | true => exact ⟨_, isWrittenAs_word htrue rfl line rfl⟩
  | nil => exact ⟨_, isWrittenAs_word hnil rfl line rfl⟩
  | group inner ih =>
    obtain ⟨tokens, hinner⟩ := ih h.2
    exact ⟨_, hinner.group⟩
  | unary op operand ih =>
    obtain ⟨tokens, hoperand⟩ := ih h.2
    exact ⟨_, hoperand.unary h.1⟩
  | conditional c t e ihc iht ihe =>
    obtain ⟨cs, hc⟩ := ihc h.2.1
    obtain ⟨ts, ht⟩ := iht h.2.2.1
    obtain ⟨es, he⟩ := ihe h.2.2.2
    exact ⟨_, hc.conditional ht he⟩

end

end LoxExpr
