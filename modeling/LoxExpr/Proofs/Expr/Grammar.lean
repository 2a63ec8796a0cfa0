import Mathlib
import LoxExpr.Expr.Parse

/-!
# The grammar

`Derives` is the grammar as a relation between tokens and trees. It has a second reading that
knows no rules: the trees that keep precedence, written out from left to right.

Main statement `derives_expression_iff`: tokens derive a tree exactly if the tree keeps precedence
and the tokens spell its frontier.
-/

namespace LoxExpr

/-! ## Derivations -/

/-- Tokens that a rule derives, and the tree. A chain turns its first operands into the tree. -/
inductive Derives : Rule → List Token → Expr → Prop
  | plain {tokens : List Token} {e : Expr} (h : Derives (.level .comma) tokens e) :
      Derives .expression tokens e
  | conditional {question colon : Token} {cs ts es : List Token} {c t e : Expr}
      (hc : Derives (.level .comma) cs c) (hquestion : question.kind = .question)
      (ht : Derives .expression ts t) (hcolon : colon.kind = .colon)
      (he : Derives .expression es e) :
      Derives .expression (cs ++ question :: (ts ++ colon :: es)) (.conditional c t e)
  | level {l : Level} {ts us : List Token} {left e : Expr} (hleft : Derives l.operand ts left)
      (h : Derives (.chain l left) us e) : Derives (.level l) (ts ++ us) e
  | done {l : Level} {left : Expr} : Derives (.chain l left) [] left
  | join {l : Level} {op : Token} {ts us : List Token} {left right e : Expr}
      (hop : op.kind ∈ l.operators) (hright : Derives l.operand ts right)
      (h : Derives (.chain l (.binary left op.operator right)) us e) :
      Derives (.chain l left) (op :: (ts ++ us)) e
  | unary {op : Token} {ts : List Token} {operand : Expr} (hop : op.kind ∈ unaryOperators)
      (h : Derives .unary ts operand) : Derives .unary (op :: ts) (.unary op.operator operand)
  | bare {tokens : List Token} {e : Expr} (h : Derives .primary tokens e) : Derives .unary tokens e
  | leaf {t : Token} {e : Expr} (h : t.leaf? = some e) : Derives .primary [t] e
  | group {opening closing : Token} {ts : List Token} {inner : Expr}
      (hopening : opening.kind = .leftParen) (h : Derives .expression ts inner)
      (hclosing : closing.kind = .rightParen) :
      Derives .primary (opening :: (ts ++ [closing])) (.group inner)

/-! ## Tightness -/

/-- How tightly a token joins what stands before it to what follows; 0 is the loosest. -/
def Kind.joint? : Kind → Option Nat
  | .question => some 0
  | .comma => some 1
  | .bangEqual | .equalEqual => some 2
  | .greater | .greaterEqual | .less | .lessEqual => some 3
  | .minus | .plus => some 4
  | .slash | .star => some 5
  | _ => none

def Level.tightness : Level → Nat
  | .comma => 1
  | .equality => 2
  | .comparison => 3
  | .term => 4
  | .factor => 5

def Rule.tightness : Rule → Nat
  | .expression => 0
  | .level l => l.tightness
  | .chain l _ => l.tightness
  | .unary => 6
  | .primary => 7

theorem Level.mem_operators_iff {l : Level} {kind : Kind} :
    kind ∈ l.operators ↔ kind.joint? = some l.tightness := by
  cases l <;> cases kind <;> decide

@[simp] theorem Level.tightness_operand (l : Level) : l.operand.tightness = l.tightness + 1 := by
  cases l <;> rfl

theorem Level.tightness_lt (l : Level) : l.tightness < 6 := by cases l <;> decide

/-- The rule of each tightness, chains left out. -/
def Rule.ofTightness : Nat → Rule
  | 0 => .expression
  | 1 => .level .comma
  | 2 => .level .equality
  | 3 => .level .comparison
  | 4 => .level .term
  | 5 => .level .factor
  | 6 => .unary
  | _ => .primary

theorem Rule.ofTightness_level (l : Level) : ofTightness l.tightness = level l := by
  cases l <;> rfl

theorem Rule.ofTightness_operand (l : Level) : ofTightness (l.tightness + 1) = l.operand := by
  cases l <;> rfl

/-- A level derives its operands alone. -/
theorem Derives.operand {l : Level} {tokens : List Token} {e : Expr}
    (h : Derives l.operand tokens e) : Derives (.level l) tokens e := by
  have hl := Derives.level h .done
  rwa [List.append_nil] at hl

theorem Derives.loosen {m n : Nat} {tokens : List Token} {e : Expr} (hmn : m ≤ n) (hn : n ≤ 7)
    (h : Derives (.ofTightness n) tokens e) : Derives (.ofTightness m) tokens e := by
  induction hmn with
  | refl => exact h
  | @step n _ ih =>
    refine ih (by omega) ?_
    match n with
    | 0 => exact .plain h
    | 1 | 2 | 3 | 4 | 5 => exact .operand h
    | 6 => exact .bare h
    | n + 7 => omega

theorem derives_of_leaf? {t : Token} {e : Expr} (h : t.leaf? = some e) :
    Derives .expression [t] e :=
  Derives.loosen (n := 7) (Nat.zero_le 7) (Nat.le_refl 7) (.leaf h)

theorem Derives.chain_snoc {l : Level} {op : Token} {ts us : List Token} {first e right : Expr}
    (h : Derives (.chain l first) ts e) (hop : op.kind ∈ l.operators)
    (hright : Derives l.operand us right) :
    Derives (.chain l first) (ts ++ op :: us) (.binary e op.operator right) := by
  generalize hr : Rule.chain l first = rule at h
  induction h generalizing first with
  | done =>
    cases hr
    simpa using Derives.join hop hright .done
  | join hop' hright' _ _ ih =>
    cases hr
    simpa using Derives.join hop' hright' (ih rfl)
  | _ => cases hr

/-- One more operand at the right end. -/
theorem Derives.snoc {l : Level} {op : Token} {ts us : List Token} {left right : Expr}
    (h : Derives (.level l) ts left) (hop : op.kind ∈ l.operators)
    (hright : Derives l.operand us right) :
    Derives (.level l) (ts ++ op :: us) (.binary left op.operator right) := by
  cases h with
  | level hleft h => simpa using Derives.level hleft (h.chain_snoc hop hright)

/-! ## Frontiers -/

/-- What a tree keeps of a token: the tree of a literal, an operator, or the mere kind of a bracket
or of a sign of a conditional. -/
inductive Terminal
  | leaf (e : Expr)
  | operator (operator : Operator)
  | mark (kind : Kind)

def Kind.isMark (kind : Kind) : Bool :=
  kind ∈ [.leftParen, .rightParen, .question, .colon]

def Kind.isOperator (kind : Kind) : Bool :=
  kind ∈ unaryOperators || (kind ≠ .question && kind.joint?.isSome)

/-- What a tree keeps of a token, if any tree can hold it. -/
def Token.terminal? (t : Token) : Option Terminal :=
  if t.kind.isMark then some (.mark t.kind)
  else if t.kind.isOperator then some (.operator t.operator)
  else t.leaf?.map .leaf

namespace Expr

/-- A tree read from left to right. -/
def frontier : Expr → List Terminal
  | .group inner => .mark .leftParen :: (inner.frontier ++ [.mark .rightParen])
  | .unary op operand => .operator op :: operand.frontier
  | .binary left op right => left.frontier ++ .operator op :: right.frontier
  | .conditional c t e =>
    c.frontier ++ .mark .question :: (t.frontier ++ .mark .colon :: e.frontier)
  | e => [.leaf e]

/-- The tokens are the frontier of the tree, none left out and none added. -/
def IsSpelledBy (e : Expr) (tokens : List Token) : Prop :=
  tokens.map Token.terminal? = e.frontier.map some

/-- The tightness of what a tree is outside of its brackets. -/
def tightness : Expr → Nat
  | .conditional .. => 0
  | .binary _ op _ => op.kind.joint?.getD 0
  | .unary .. => 6
  | _ => 7

/-- The left operand of an operator is at least as tight as the operator and the right one is
tighter; a prefix operator stands before a literal, a group or a prefix operator; the condition of
a conditional is no conditional. -/
def KeepsPrecedence : Expr → Prop
  | .group inner => inner.KeepsPrecedence
  | .unary op operand =>
    op.kind ∈ unaryOperators ∧ operand.KeepsPrecedence ∧ 6 ≤ operand.tightness
  | .binary left op right =>
    (∃ l : Level, op.kind ∈ l.operators ∧ l.tightness ≤ left.tightness ∧
      l.tightness < right.tightness) ∧ left.KeepsPrecedence ∧ right.KeepsPrecedence
  | .conditional c t e =>
    1 ≤ c.tightness ∧ c.KeepsPrecedence ∧ t.KeepsPrecedence ∧ e.KeepsPrecedence
  | _ => True

/-- A tree without parts. -/
def IsLeaf : Expr → Prop
  | .group _ | .unary .. | .binary .. | .conditional .. => False
  | _ => True

theorem IsLeaf.frontier {e : Expr} (h : e.IsLeaf) : e.frontier = [.leaf e] := by
  cases e <;> first | rfl | cases h

theorem IsLeaf.tightness {e : Expr} (h : e.IsLeaf) : e.tightness = 7 := by
  cases e <;> first | rfl | cases h

theorem IsLeaf.keepsPrecedence {e : Expr} (h : e.IsLeaf) : e.KeepsPrecedence := by
  cases e <;> trivial

end Expr

/-! ## What a tree keeps of a token -/

namespace Token

variable {t : Token} {e : Expr} {kind : Kind} {op : Operator}

theorem isLeaf_of_leaf? (h : t.leaf? = some e) : e.IsLeaf := by
  unfold leaf? at h
  split at h
  case h_5 =>
    unfold Expr.ofNumeral? at h
    split at h
    · cases h; trivial
    · obtain ⟨x, -, rfl⟩ := Option.map_eq_some_iff.1 h
      trivial
  all_goals first | cases h; trivial | cases h

theorem kind_of_leaf? (h : t.leaf? = some e) :
    t.kind ∈ [Kind.falseWord, .trueWord, .nilWord, .string, .number] := by
  unfold leaf? at h
  split at h <;> simp_all

theorem terminal?_of_mark (h : t.kind = kind) (hkind : kind.isMark) :
    t.terminal? = some (.mark kind) := by
  simp [terminal?, h, hkind]

theorem terminal?_of_operator (h : t.kind.isOperator) :
    t.terminal? = some (.operator t.operator) := by
  have hmark : t.kind.isMark = false := by
    revert h
    cases t.kind <;> decide
  simp [terminal?, h, hmark]

theorem terminal?_of_leaf? (h : t.leaf? = some e) : t.terminal? = some (.leaf e) := by
  have hk : t.kind.isMark = false ∧ t.kind.isOperator = false := by
    have hk := kind_of_leaf? h
    revert hk
    cases t.kind <;> decide
  simp [terminal?, hk, h]

theorem kind_of_terminal? (h : t.terminal? = some (.mark kind)) : t.kind = kind := by
  unfold terminal? at h
  split at h
  · simpa using h
  · split at h
    · simp at h
    · simp at h

theorem operator_of_terminal? (h : t.terminal? = some (.operator op)) : t.operator = op := by
  unfold terminal? at h
  split at h
  · simp at h
  · split at h
    · simpa using h
    · simp at h

theorem leaf?_of_terminal? (h : t.terminal? = some (.leaf e)) : t.leaf? = some e := by
  unfold terminal? at h
  split at h
  · simp at h
  · split at h
    · simp at h
    · simpa using h

end Token

theorem Kind.isOperator_of_mem_unary {kind : Kind} (h : kind ∈ unaryOperators) :
    kind.isOperator := by
  simp [isOperator, h]

theorem Level.isOperator_of_mem {l : Level} {kind : Kind} (h : kind ∈ l.operators) :
    kind.isOperator := by
  revert h
  cases l <;> cases kind <;> decide

/-! ## The two readings agree -/

/-- What the first operands of a chain have contributed to a frontier. -/
def Rule.before : Rule → List Terminal
  | .chain _ left => left.frontier
  | _ => []

@[simp] theorem Level.before_operand (l : Level) : l.operand.before = [] := by cases l <;> rfl

theorem Derives.frontier {rule : Rule} {tokens : List Token} {e : Expr}
    (h : Derives rule tokens e) :
    rule.before.map some ++ tokens.map Token.terminal? = e.frontier.map some := by
  induction h with
  | plain _ ih => exact ih
  | conditional _ hquestion _ hcolon _ ihc iht ihe =>
    simp only [Rule.before, List.map_nil, List.nil_append] at ihc iht ihe
    simp [Rule.before, Expr.frontier, ihc, iht, ihe, Token.terminal?_of_mark hquestion rfl,
      Token.terminal?_of_mark hcolon rfl]
  | level _ _ ihleft ih =>
    simp only [Level.before_operand, List.map_nil, List.nil_append] at ihleft
    simp only [Rule.before, ← ihleft, List.map_append] at ih ⊢
    exact ih
  | done => simp [Rule.before]
  | @join l op ts us left right e hop _ _ ihright ih =>
    simp only [Level.before_operand, List.map_nil, List.nil_append] at ihright
    have hop := Token.terminal?_of_operator (Level.isOperator_of_mem hop)
    rw [← ih]
    simp [Rule.before, Expr.frontier, hop, ihright]
  | unary hop _ ih =>
    have hop := Token.terminal?_of_operator (Kind.isOperator_of_mem_unary hop)
    simp only [Rule.before, List.map_nil, List.nil_append] at ih
    simp [Rule.before, Expr.frontier, hop, ih]
  | bare _ ih => exact ih
  | leaf h =>
    simp [Rule.before, (Token.isLeaf_of_leaf? h).frontier, Token.terminal?_of_leaf? h]
  | group hopening _ hclosing ih =>
    simp only [Rule.before, List.map_nil, List.nil_append] at ih
    simp [Rule.before, Expr.frontier, ih, Token.terminal?_of_mark hopening rfl,
      Token.terminal?_of_mark hclosing rfl]

theorem Derives.keepsPrecedence {rule : Rule} {tokens : List Token} {e : Expr}
    (h : Derives rule tokens e)
    (hleft : ∀ l left, rule = .chain l left → left.KeepsPrecedence ∧ l.tightness ≤ left.tightness) :
    e.KeepsPrecedence ∧ rule.tightness ≤ e.tightness := by
  have hoperand : ∀ (l : Level) {P : Level → Expr → Prop} l' left,
      l.operand = .chain l' left → P l' left := by
    intro l
    cases l <;> (intro _ _ _ h; cases h)
  induction h with
  | plain _ ih => exact ⟨(ih (by simp)).1, Nat.zero_le _⟩
  | conditional _ _ _ _ _ ihc iht ihe =>
    obtain ⟨hc, hct⟩ := ihc (by simp)
    exact ⟨⟨hct, hc, (iht (by simp)).1, (ihe (by simp)).1⟩, Nat.zero_le _⟩
  | @level l _ _ left _ _ _ ihleft ih =>
    obtain ⟨hk, ht⟩ := ihleft (hoperand l)
    rw [Level.tightness_operand] at ht
    refine ih fun l' left' heq => ?_
    cases heq
    exact ⟨hk, by omega⟩
  | done => exact hleft _ _ rfl
  | @join l op _ _ left right _ hop _ _ ihright ih =>
    obtain ⟨hk, ht⟩ := hleft _ _ rfl
    obtain ⟨hkr, htr⟩ := ihright (hoperand l)
    rw [Level.tightness_operand] at htr
    refine ih fun l' left' heq => ?_
    cases heq
    refine ⟨⟨⟨l, hop, ht, htr⟩, hk, hkr⟩, ?_⟩
    have hj := Level.mem_operators_iff.1 hop
    simp [Expr.tightness, Token.operator, hj]
  | unary hop _ ih =>
    obtain ⟨hk, ht⟩ := ih (by simp)
    exact ⟨⟨hop, hk, ht⟩, Nat.le_refl _⟩
  | bare _ ih =>
    obtain ⟨hk, ht⟩ := ih (by simp)
    exact ⟨hk, Nat.le_of_succ_le ht⟩
  | leaf h =>
    have hl := Token.isLeaf_of_leaf? h
    exact ⟨hl.keepsPrecedence, Nat.le_of_eq hl.tightness.symm⟩
  | group _ _ _ ih => exact ⟨(ih (by simp)).1, Nat.le_refl _⟩

theorem Expr.tightness_le (e : Expr) : e.tightness ≤ 7 := by
  cases e with
  | binary left op right =>
    have hop : ∀ kind : Kind, kind.joint?.getD 0 ≤ 7 := by intro kind; cases kind <;> decide
    exact hop op.kind
  | _ => simp [tightness]

theorem derives_of_isLeaf {e : Expr} {tokens : List Token} (h : e.IsLeaf)
    (hs : e.IsSpelledBy tokens) : Derives .primary tokens e := by
  simp only [Expr.IsSpelledBy, h.frontier, List.map_cons, List.map_nil, List.map_eq_cons_iff,
    List.map_eq_nil_iff] at hs
  obtain ⟨t, _, rfl, ht, rfl⟩ := hs
  exact .leaf (Token.leaf?_of_terminal? ht)

/-- The rule of the tightness of a tree that keeps precedence derives the tree from any tokens that
spell it. -/
theorem derives_of_isSpelledBy {e : Expr} {tokens : List Token} {n : Nat} (hk : e.KeepsPrecedence)
    (hs : e.IsSpelledBy tokens) (hn : n ≤ e.tightness) : Derives (.ofTightness n) tokens e := by
  refine Derives.loosen hn e.tightness_le ?_
  clear hn n
  induction e generalizing tokens with
  | group inner ih =>
    simp only [Expr.IsSpelledBy, Expr.frontier, List.map_cons, List.map_append, List.map_nil,
      List.map_eq_cons_iff, List.map_eq_append_iff, List.map_eq_nil_iff] at hs
    obtain ⟨opening, _, rfl, hopening, ts, _, rfl, hts, closing, _, rfl, hclosing, rfl⟩ := hs
    exact .group (Token.kind_of_terminal? hopening)
      (.loosen (Nat.zero_le _) inner.tightness_le (ih hk hts)) (Token.kind_of_terminal? hclosing)
  | unary op operand ih =>
    simp only [Expr.IsSpelledBy, Expr.frontier, List.map_cons, List.map_eq_cons_iff] at hs
    obtain ⟨t, ts, rfl, ht, hts⟩ := hs
    obtain ⟨hop, hk, ht'⟩ := hk
    obtain rfl := Token.operator_of_terminal? ht
    exact .unary hop (.loosen ht' operand.tightness_le (ih hk hts))
  | binary left op right ihl ihr =>
    simp only [Expr.IsSpelledBy, Expr.frontier, List.map_cons, List.map_append,
      List.map_eq_cons_iff, List.map_eq_append_iff] at hs
    obtain ⟨ts, _, rfl, hts, t, us, rfl, ht, hus⟩ := hs
    obtain ⟨⟨l, hop, htl, htr⟩, hkl, hkr⟩ := hk
    obtain rfl := Token.operator_of_terminal? ht
    have hl := Derives.loosen htl left.tightness_le (ihl hkl hts)
    have hr := Derives.loosen htr right.tightness_le (ihr hkr hus)
    rw [Rule.ofTightness_level] at hl
    rw [Rule.ofTightness_operand] at hr
    have hj := Level.mem_operators_iff.1 hop
    rw [Expr.tightness, hj, Option.getD_some, Rule.ofTightness_level]
    exact hl.snoc hop hr
  | conditional c t e ihc iht ihe =>
    simp only [Expr.IsSpelledBy, Expr.frontier, List.map_cons, List.map_append,
      List.map_eq_cons_iff, List.map_eq_append_iff] at hs
    obtain ⟨cs, _, rfl, hcs, question, _, rfl, hquestion, ts, _, rfl, hts, colon, es, rfl, hcolon,
      hes⟩ := hs
    obtain ⟨htc, hkc, hkt, hke⟩ := hk
    exact .conditional (.loosen htc c.tightness_le (ihc hkc hcs))
      (Token.kind_of_terminal? hquestion)
      (.loosen (Nat.zero_le _) t.tightness_le (iht hkt hts)) (Token.kind_of_terminal? hcolon)
      (.loosen (Nat.zero_le _) e.tightness_le (ihe hke hes))
  | _ => exact derives_of_isLeaf trivial hs

/-- The grammar derives exactly the trees that keep precedence, from the tokens that spell them. -/
theorem derives_expression_iff {tokens : List Token} {e : Expr} :
    Derives .expression tokens e ↔ e.KeepsPrecedence ∧ e.IsSpelledBy tokens := by
  constructor
  · intro h
    exact ⟨(h.keepsPrecedence (by simp)).1, by simpa [Rule.before, Expr.IsSpelledBy] using h.frontier⟩
  · rintro ⟨hk, hs⟩
    exact derives_of_isSpelledBy (n := 0) hk hs (Nat.zero_le _)

end LoxExpr
