import LoxExpr.Proofs.Expr.Grammar

/-!
# The nodes of derived trees

A property of all nodes of a tree follows, for the trees that the grammar derives, from its holding
at the leaves that tokens are and at the nodes that rules make (`Derives.everywhere`). A property of
operators follows from its holding at the operator tokens (`Derives.everywhere_onOperator`).
-/

namespace LoxExpr

namespace Expr

/-- A property holds at every node of a tree. -/
def Everywhere (p : Expr → Prop) : Expr → Prop
  | .group inner => p (.group inner) ∧ inner.Everywhere p
  | .unary op operand => p (.unary op operand) ∧ operand.Everywhere p
  | .binary left op right =>
    p (.binary left op right) ∧ left.Everywhere p ∧ right.Everywhere p
  | .conditional c t e =>
    p (.conditional c t e) ∧ c.Everywhere p ∧ t.Everywhere p ∧ e.Everywhere p
  | leaf => p leaf

theorem IsLeaf.everywhere_iff {p : Expr → Prop} {e : Expr} (h : e.IsLeaf) :
    e.Everywhere p ↔ p e := by
  cases e <;> first | exact Iff.rfl | exact absurd h id

/-- What follows at a node from two properties holds everywhere if they do. -/
theorem Everywhere.imp₂ {p q r : Expr → Prop} {e : Expr} (h : ∀ node, p node → q node → r node)
    (hp : e.Everywhere p) (hq : e.Everywhere q) : e.Everywhere r := by
  induction e with
  | string | integer | float | boolean | nil => exact h _ hp hq
  | group inner ih => exact ⟨h _ hp.1 hq.1, ih hp.2 hq.2⟩
  | unary op operand ih => exact ⟨h _ hp.1 hq.1, ih hp.2 hq.2⟩
  | binary left op right ihleft ihright =>
    exact ⟨h _ hp.1 hq.1, ihleft hp.2.1 hq.2.1, ihright hp.2.2 hq.2.2⟩
  | conditional c t e ihc iht ihe =>
    exact ⟨h _ hp.1 hq.1, ihc hp.2.1 hq.2.1, iht hp.2.2.1 hq.2.2.1, ihe hp.2.2.2 hq.2.2.2⟩

/-- What holds everywhere holds at the root. -/
theorem Everywhere.here {p : Expr → Prop} {e : Expr} (h : e.Everywhere p) : p e := by
  cases e with
  | group | unary | binary | conditional => exact h.1
  | string | integer | float | boolean | nil => exact h

end Expr

/-! ## Nodes of derived trees -/

/-- The nodes that rules make have a property. -/
structure Rule.Makes (p : Expr → Prop) : Prop where
  group : ∀ {inner : Expr}, p (.group inner)
  unary : ∀ {op : Operator} {operand : Expr}, op.kind ∈ unaryOperators → p (.unary op operand)
  binary : ∀ {l : Level} {op : Operator} {left right : Expr}, op.kind ∈ l.operators →
    p (.binary left op right)
  conditional : ∀ {c t e : Expr}, p (.conditional c t e)

/-- The leaves that tokens are have a property. -/
def HasLeaves (p : Expr → Prop) (tokens : List Token) : Prop :=
  ∀ t ∈ tokens, ∀ leaf, t.leaf? = some leaf → p leaf

theorem HasLeaves.subset {p : Expr → Prop} {tokens more : List Token} (h : HasLeaves p more)
    (hsub : tokens ⊆ more) : HasLeaves p tokens :=
  fun t ht => h t (hsub ht)

/-- The first operands that a chain starts with have a property everywhere. -/
def Rule.StartsWith (p : Expr → Prop) : Rule → Prop
  | .chain _ left => left.Everywhere p
  | _ => True

theorem Rule.startsWith_operand {p : Expr → Prop} (l : Level) : l.operand.StartsWith p := by
  cases l <;> trivial

theorem Derives.everywhere {p : Expr → Prop} (hp : Rule.Makes p) {rule : Rule}
    {tokens : List Token} {e : Expr} (h : Derives rule tokens e) (hleaves : HasLeaves p tokens)
    (hstart : rule.StartsWith p) : e.Everywhere p := by
  induction h with
  | plain _ ih => exact ih hleaves trivial
  | conditional _ _ _ _ _ ihc iht ihe =>
    refine ⟨hp.conditional, ihc ?_ trivial, iht ?_ trivial, ihe ?_ trivial⟩
    all_goals
      apply hleaves.subset
      intro t ht
      simp [ht]
  | level _ _ ihleft ih =>
    have hleft := ihleft (hleaves.subset (by simp)) (Rule.startsWith_operand _)
    exact ih (hleaves.subset (by simp)) hleft
  | done => exact hstart
  | @join l op ts us left right e hop _ _ ihright ih =>
    have hts : ts ⊆ op :: (ts ++ us) := by simp
    have hus : us ⊆ op :: (ts ++ us) := by simp
    have hright := ihright (hleaves.subset hts) (Rule.startsWith_operand _)
    exact ih (hleaves.subset hus) ⟨hp.binary hop, hstart, hright⟩
  | unary hop _ ih => exact ⟨hp.unary hop, ih (hleaves.subset (by simp)) trivial⟩
  | bare _ ih => exact ih hleaves trivial
  | leaf hleaf =>
    have hp := hleaves _ (List.mem_singleton_self _) _ hleaf
    exact (Token.isLeaf_of_leaf? hleaf).everywhere_iff.2 hp
  | group _ _ _ ih => exact ⟨hp.group, ih (hleaves.subset (by simp)) trivial⟩

/-! ## Operators of derived trees -/

namespace Expr

/-- The operator of a node, if it has one, has a property. -/
def OnOperator (p : Operator → Prop) : Expr → Prop
  | .unary op _ => p op
  | .binary _ op _ => p op
  | _ => True

theorem everywhere_onOperator {p : Operator → Prop} {e : Expr}
    (h : ∀ op, .operator op ∈ e.frontier → p op) : e.Everywhere (OnOperator p) := by
  induction e with
  | string | integer | float | boolean | nil => trivial
  | group inner ih => exact ⟨trivial, ih fun op hop => h op (by simp [frontier, hop])⟩
  | unary op operand ih =>
    exact ⟨h op (by simp [frontier]), ih fun op hop => h op (by simp [frontier, hop])⟩
  | binary left op right ihleft ihright =>
    exact ⟨h op (by simp [frontier]), ihleft fun op hop => h op (by simp [frontier, hop]),
      ihright fun op hop => h op (by simp [frontier, hop])⟩
  | conditional c t e ihc iht ihe =>
    exact ⟨trivial, ihc fun op hop => h op (by simp [frontier, hop]),
      iht fun op hop => h op (by simp [frontier, hop]),
      ihe fun op hop => h op (by simp [frontier, hop])⟩

end Expr

theorem Token.isOperator_of_terminal? {t : Token} {op : Operator}
    (h : t.terminal? = some (.operator op)) : t.kind.isOperator := by
  unfold terminal? at h
  split at h
  · simp at h
  · split at h
    · assumption
    · simp at h

/-- The operators of a derived tree are operator tokens of its sentence. -/
theorem Derives.everywhere_onOperator {p : Operator → Prop} {tokens : List Token} {e : Expr}
    (h : Derives .expression tokens e) (hp : ∀ t ∈ tokens, t.kind.isOperator → p t.operator) :
    e.Everywhere (Expr.OnOperator p) := by
  refine Expr.everywhere_onOperator fun op hop => ?_
  have hfrontier : tokens.map Token.terminal? = e.frontier.map some := h.frontier
  have hmem : some (.operator op) ∈ tokens.map Token.terminal? := by
    rw [hfrontier]
    exact List.mem_map_of_mem hop
  obtain ⟨t, ht, hterminal⟩ := List.mem_map.1 hmem
  rw [← Token.operator_of_terminal? hterminal]
  exact hp t ht (Token.isOperator_of_terminal? hterminal)

end LoxExpr
