import LoxExpr.Proofs.Expr.Parsing
import LoxExpr.Proofs.Expr.Provenance
import LoxExpr.Proofs.Number.Zero
import LoxExpr.Proofs.Token.Cut

/-!
# From stage to stage

What a stage hands on is in order for the next one. Scanned tokens have an end and plain numerals.
So the tree that is read from them has no operators but those of the language, and its numbers have
no sign and fit. Main statement `source_tree_sound`: evaluating such a tree fails only for want of
room or at operands of the wrong types.
-/

namespace LoxExpr

/-! ## Tokens of a source text -/

section
variable {source : String} {tokens : List Token}

theorem ended_of_scan (h : scan source = .ok tokens) : Ended tokens := by
  obtain ⟨before, last, rfl, -, -⟩ := (scan_scans source).cut h
  simp [Ended, Token.isEof]

theorem hasPlainNumeral_of_scan (h : scan source = .ok tokens) :
    ∀ t ∈ tokens, t.HasPlainNumeral := by
  obtain ⟨before, last, rfl, -, hcut⟩ := (scan_scans source).cut h
  intro t ht hkind
  obtain ht | ht := List.mem_append.1 ht
  · obtain ⟨after, hlexeme, -⟩ := hcut.standsBefore t ht
    rw [hkind] at hlexeme
    exact hlexeme.isPlain_of_number
  · obtain rfl := List.mem_singleton.1 ht
    cases hkind

/-- The tokens of a text are read as a tree that the grammar derives, or one of them is refused. -/
theorem parse_of_scan (h : scan source = .ok tokens) :
    (∃ tree, Derives .expression (sentence tokens) tree ∧ parse tokens = .ok tree) ∨
      ∃ error, parse tokens = .error (.refused error) :=
  parseWithin_answers (ended_of_scan h) (hasPlainNumeral_of_scan h) .standard

end

/-! ## Operators of derived trees -/

theorem Level.operators_subset (l : Level) : l.operators ⊆ binaryOperators := by
  cases l <;> decide

theorem makes_hasKnownOperator : Rule.Makes Expr.HasKnownOperator where
  group := trivial
  unary h := h
  binary h := Level.operators_subset _ h
  conditional := trivial

theorem Expr.IsLeaf.hasKnownOperator {e : Expr} (h : e.IsLeaf) : e.HasKnownOperator := by
  cases e with
  | group | unary | binary | conditional => exact absurd h id
  | string | integer | float | boolean | nil => trivial

theorem hasLeaves_hasKnownOperator (tokens : List Token) :
    HasLeaves Expr.HasKnownOperator tokens :=
  fun _ _ _ h => (Token.isLeaf_of_leaf? h).hasKnownOperator

section
variable {tokens : List Token} {tree : Expr}

/-- A derived tree has a value, or needs more room, or operands have types that do not fit. -/
theorem evalWithin_of_derives (h : Derives .expression tokens tree) (room : Nesting) :
    (∃ value, tree.evalWithin room = .ok value) ∨
      tree.evalWithin room = .error (.error .nestedTooDeeply) ∨
      ∃ m : Misapplication, tree.evalWithin room = .error (.error (.misapplied m)) ∧
        m.mismatch.IsOfTypes := by
  cases heval : tree.evalWithin room with
  | ok value => exact .inl ⟨value, rfl⟩
  | error failure =>
    right
    cases failure with
    | integerTooLarge => exact absurd heval (h.evalWithin_ne room)
    | error error =>
      cases error with
      | nestedTooDeeply => exact .inl rfl
      | misapplied m =>
        have hknown := h.everywhere makes_hasKnownOperator (hasLeaves_hasKnownOperator _) trivial
        obtain ⟨path, hstops, -⟩ :=
          Expr.stopsAt_of_misapplied hknown (Expr.evalWithin_unlimited_of_misapplied heval)
        obtain ⟨node, -, hmisfit⟩ := hstops.misfit
        exact .inr ⟨m, rfl, hmisfit.isOfTypes⟩

theorem eval_of_derives (h : Derives .expression tokens tree) :
    (∃ value, tree.eval = .ok value) ∨ ∃ error, tree.eval = .error (.error error) := by
  rcases evalWithin_of_derives h .standard with hvalue | hdeep | ⟨m, hmisapplied, -⟩
  · exact .inl hvalue
  · exact .inr ⟨_, hdeep⟩
  · exact .inr ⟨_, hmisapplied⟩

end

/-! ## Trees of a source text -/

namespace Expr

/-- An operator of a node stands where the language has it; a number has no sign, and a whole
number fits in 64 bits. -/
def IsSound : Expr → Prop
  | .unary op _ => op.kind ∈ unaryOperators
  | .binary _ op _ => op.kind ∈ binaryOperators
  | .integer n => 0 ≤ n ∧ n < 2 ^ 63
  | .float x => x.IsUnsigned
  | _ => True

theorem isSound_of_ofNumeral? {lexeme : String} {e : Expr} (hplain : Numeral.IsPlain lexeme.toList)
    (h : ofNumeral? lexeme = some e) : e.IsSound := by
  unfold ofNumeral? at h
  split at h
  · next n hinteger =>
    cases h
    obtain ⟨hn, hfits⟩ := Option.filter_eq_some_iff.1 hinteger
    have hpow : Int.pow 2 63 = 2 ^ 63 := rfl
    simp only [fitsInteger, Bool.and_eq_true, decide_eq_true_eq, hpow] at hfits
    exact ⟨Numeral.nonneg_of_integer?_eq_some hplain hn, hfits.2⟩
  · rw [Numeral.real?_of_isPlain hplain] at h
    cases h
    exact Decimal.isUnsigned_toDouble _

end Expr

theorem makes_isSound : Rule.Makes Expr.IsSound where
  group := trivial
  unary h := h
  binary h := Level.operators_subset _ h
  conditional := trivial

theorem hasLeaves_isSound {tokens : List Token} (hplain : ∀ t ∈ tokens, t.HasPlainNumeral) :
    HasLeaves Expr.IsSound tokens := by
  intro t ht e h
  unfold Token.leaf? at h
  split at h
  case h_5 hkind => exact Expr.isSound_of_ofNumeral? (hplain t ht hkind) h
  case h_6 => cases h
  all_goals
    cases h
    trivial

/-- What becomes of a tree that is read from a source text. Its operators are those of the language,
each in its place; its numbers have no sign and are numbers; its whole numbers have 64 bits. To
evaluate it gives a value, unless it nests too deeply or operands have the wrong types: there is
no unknown operator and no whole number without a double, and division by zero has a result. -/
theorem source_tree_sound {source : String} {tokens : List Token} {tree : Expr} {limit : Nesting}
    (hscan : scan source = .ok tokens) (hparse : parseWithin limit tokens = .ok tree) :
    tree.Everywhere Expr.IsSound ∧
      (∀ room : Nesting,
        (∃ value, tree.evalWithin room = .ok value) ∨
          tree.evalWithin room = .error (.error .nestedTooDeeply) ∨
          ∃ m : Misapplication, tree.evalWithin room = .error (.error (.misapplied m)) ∧
            m.mismatch.IsOfTypes) ∧
      ∀ (op : Operator) (x y : Double), op.kind = .slash → y.equal (.zero false) = true →
        op.applyBinary (.number x) (.number y) = .ok (.number
          (if x = .nan ∨ x.equal (.zero false) = true then .nan
            else .infinity (x.isNegative != y.isNegative))) := by
  have hplain := hasPlainNumeral_of_scan hscan
  have hderives : Derives .expression (sentence tokens) tree := by
    rcases parseWithin_answers (ended_of_scan hscan) hplain limit with ⟨e, hd, he⟩ | ⟨error, he⟩
    · cases hparse.symm.trans he
      exact hd
    · cases hparse.symm.trans he
  refine ⟨?_, evalWithin_of_derives hderives, ?_⟩
  · have hleaves := (hasLeaves_isSound hplain).subset (sentence_subset tokens)
    exact hderives.everywhere makes_isSound hleaves trivial
  · intro op x y hop hy
    rw [← Double.div_of_equal_zero x hy]
    simp only [Operator.applyBinary, hop, Operator.onNumbers]

/-- The numbers of `0 / -0.0` have no sign; the minus before the second one is an operator. -/
theorem source_tree_sound_of_zeros :
    ∃ tokens tree, scan "0 / -0.0" = .ok tokens ∧ parseWithin .standard tokens = .ok tree ∧
      tree.Everywhere Expr.IsSound := by
  have hscan : scan "0 / -0.0" =
      .ok [⟨.number, "0", .number (.zero false), 1⟩, ⟨.slash, "/", .absent, 1⟩,
        ⟨.minus, "-", .absent, 1⟩, ⟨.number, "0.0", .number (.zero false), 1⟩,
        ⟨.eof, "", .absent, 1⟩] := by
    cbv
  have hparse : parseWithin .standard
      [⟨.number, "0", .number (.zero false), 1⟩, ⟨.slash, "/", .absent, 1⟩,
        ⟨.minus, "-", .absent, 1⟩, ⟨.number, "0.0", .number (.zero false), 1⟩,
        ⟨.eof, "", .absent, 1⟩] =
      .ok (.binary (.integer 0) ⟨.slash, "/", 1⟩
        (.unary ⟨.minus, "-", 1⟩ (.float (.zero false)))) := by
    cbv
  exact ⟨_, _, hscan, hparse, (source_tree_sound hscan hparse).1⟩

end LoxExpr
