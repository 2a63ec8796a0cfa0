import LoxExpr.Proofs.Expr.Limits
import LoxExpr.Proofs.Expr.Writing

/-!
# Trees that are read and not written

Writing takes room for the height of a tree: a tree that is higher than `Expr.maxHeight` has no text
(`Expr.exists_render?_iff`). Reading takes no room for a chain of operators, which is as high as it
is long, so there is a source text for a tree of every height (`exists_source_of_height`).
-/

namespace LoxExpr

/-! ## Heights that are written -/

/-- The greatest height of a tree that has its text within the standard limit. -/
def Expr.maxHeight : Nat := 330

/-- Without a limit every tree has a text. -/
theorem Expr.exists_renderWithin_unlimited (e : Expr) :
    ∃ text, e.renderWithin .unlimited = some text := by
  induction e with
  | string | integer | float | boolean | nil => exact ⟨_, rfl⟩
  | group inner ih =>
    obtain ⟨text, h⟩ := ih
    simp [renderWithin, h]
  | unary op operand ih =>
    obtain ⟨text, h⟩ := ih
    simp [renderWithin, h]
  | binary left op right ihleft ihright =>
    obtain ⟨text, h⟩ := ihleft
    obtain ⟨text', h'⟩ := ihright
    simp [renderWithin, h, h']
  | conditional c t e ihc iht ihe =>
    obtain ⟨text, h⟩ := ihc
    obtain ⟨text', h'⟩ := iht
    obtain ⟨text'', h''⟩ := ihe
    simp [renderWithin, h, h', h'']

/-- A tree has no text exactly if it is too high. -/
theorem Expr.render?_eq_none_iff (e : Expr) : e.render? = none ↔ maxHeight < e.height := by
  obtain ⟨hfits, hnot⟩ := e.renderWithin_atMost 990
  have hroom : renderCost * e.height ≤ 990 ↔ ¬maxHeight < e.height := by
    simp only [renderCost, maxHeight]
    omega
  rw [hroom] at hfits hnot
  refine ⟨fun hnone => ?_, fun hhigh => hnot (not_not.2 hhigh)⟩
  by_contra hlow
  obtain ⟨text, htext⟩ := e.exists_renderWithin_unlimited
  have hsome : e.render? = some text := (hfits hlow).trans htext
  rw [hnone] at hsome
  cases hsome

theorem Expr.exists_render?_iff (e : Expr) :
    (∃ text, e.render? = some text) ↔ e.height ≤ maxHeight := by
  rw [← not_lt, ← e.render?_eq_none_iff, ← Option.isNone_iff_eq_none, Bool.not_eq_true,
    Option.isNone_eq_false_iff, Option.isSome_iff_exists]

/-! ## Sums of ones -/

/-- A chain over operands that are no compound nodes is as high as it is long. -/
theorem height_chainTree {e : Expr} {links : List Link} (h : ∀ k ∈ links, k.tree.height = 0) :
    (chainTree e links).height = e.height + links.length := by
  induction links generalizing e with
  | nil => rfl
  | cons k links ih =>
    obtain ⟨hk, h⟩ := List.forall_mem_cons.1 h
    have hmore := ih (e := .binary e k.operator.operator k.tree) h
    simp only [chainTree, List.foldl_cons, List.length_cons] at hmore ⊢
    rw [hmore]
    simp only [Expr.height, hk]
    omega

namespace Ones

def one : Token := .ofNumeral (toString (1 : Int)) 1

def plusOne : Link := ⟨.bare "+" .plus 1, [one], .integer 1⟩

/-- The tokens of a one and a number of ones added to it. -/
def tokens (n : Nat) : List Token := chainTokens [one] (List.replicate n plusOne)

/-- Their text, `1 + 1 + … + 1`. -/
def source (n : Nat) : String := spaced (tokens n)

def tree (n : Nat) : Expr := chainTree (.integer 1) (List.replicate n plusOne)

theorem isWrittenAs_one : (Expr.integer 1).IsWrittenAs 1 [one] :=
  isWrittenAs_integer (by decide) (by decide) 1

theorem derives_one : Derives Level.term.operand [one] (.integer 1) := by
  rw [← Rule.ofTightness_operand]
  exact derives_of_isSpelledBy trivial isWrittenAs_one.spelled (by decide)

theorem mem_links {n : Nat} {k : Link} (h : k ∈ List.replicate n plusOne) : k = plusOne :=
  (List.mem_replicate.1 h).2

@[simp] theorem height_tree (n : Nat) : (tree n).height = n := by
  rw [tree, height_chainTree fun k hk => by rw [mem_links hk]; rfl, List.length_replicate]
  exact Nat.zero_add n

theorem liesOn_tokens (n : Nat) : ∀ t ∈ tokens n, t.LiesOn 1 := by
  have hone : one.LiesOn 1 := isWrittenAs_one.liesOn one List.mem_cons_self
  have hplus : (Token.bare "+" .plus 1).LiesOn 1 := Token.liesOn_sign (by decide) 1
  intro t ht
  simp only [tokens, chainTokens, List.mem_append, List.mem_singleton, List.mem_flatMap] at ht
  rcases ht with rfl | ⟨k, hk, ht⟩
  · exact hone
  · obtain rfl := mem_links hk
    simp only [plusOne, List.mem_cons, List.not_mem_nil, or_false] at ht
    rcases ht with rfl | rfl
    · exact hplus
    · exact hone

theorem scan_source (n : Nat) : scan (source n) = .ok (tokens n ++ [⟨.eof, "", .absent, 1⟩]) :=
  scan_eq_iff.2 (scans_spaced (liesOn_tokens n))

/-- However many ones there are, their sum is read. -/
theorem parse_tokens (n : Nat) :
    parse (tokens n ++ [⟨.eof, "", .absent, 1⟩]) = .ok (tree n) := by
  have hread : parse ([one] ++ [⟨.eof, "", .absent, 1⟩]) = .ok (.integer 1) :=
    (parseWithin_eq_ok_iff (derives_of_operand derives_one) rfl .standard).2 trivial
  refine parseWithin_chain rfl derives_one hread fun k hk => ?_
  obtain rfl := mem_links hk
  exact ⟨by decide, derives_one, hread⟩

theorem not_blank_source (n : Nat) : ¬(source n).toList.all Text.isBlank := by
  have hone : ¬one.lexeme.toList.all Text.isBlank := by decide
  cases n with
  | zero => simpa [source, tokens, chainTokens] using hone
  | succ n =>
    rw [source, tokens, chainTokens,
      spaced_append (by simp) (by simp [List.replicate_succ, plusOne])]
    simpa using fun h => absurd (List.all_eq_true.2 h) hone

end Ones

/-- Trees of all heights are read, those that have no text too. -/
theorem exists_source_of_height (n : Nat) :
    ∃ source tokens tree, scan source = .ok tokens ∧ parse tokens = .ok tree ∧ tree.height = n :=
  ⟨Ones.source n, _, Ones.tree n, Ones.scan_source n, Ones.parse_tokens n, Ones.height_tree n⟩

end LoxExpr
