import LoxExpr.Proofs.Expr.Writing
import LoxExpr.Proofs.Stages

/-!
# One tree for a text

The text of a tree is words with single spaces between them (`Expr.renderWithin_eq_words`), and the
words tell the tree and where it ends (`Expr.isRead`), unless it has strings. Main statement
`text_eq_iff`: trees of source texts that have no strings have one text only if they are the same
but for the lines of their operators.
-/

namespace LoxExpr

/-! ## Words -/

namespace Expr

/-- The words of the text of a tree. -/
def words : Expr → List String
  | .string value => [value]
  | .integer value => [toString value]
  | .float value => [value.literalText]
  | .boolean value => [if value then "true" else "false"]
  | .nil => ["nil"]
  | .group inner => "(" :: (inner.words ++ [")"])
  | .unary op operand => "(" :: op.lexeme :: (operand.words ++ [")"])
  | .binary left op right => "(" :: op.lexeme :: (left.words ++ (right.words ++ [")"]))
  | .conditional c t e =>
    "(" :: (c.words ++ "?" :: (t.words ++ ":" :: (e.words ++ [")"])))

theorem words_ne_nil (e : Expr) : e.words ≠ [] := by
  cases e <;> simp [words]

theorem intercalate_inBrackets {inside : List String} (h : inside ≠ []) :
    " ".intercalate ("(" :: (inside ++ [")"])) = "( " ++ " ".intercalate inside ++ " )" := by
  have hopening : "( " = "(" ++ " " := rfl
  have hclosing : " )" = " " ++ ")" := rfl
  rw [String.intercalate_cons_of_ne_nil (by simp),
    String.intercalate_append_of_ne_nil h (List.cons_ne_nil _ _), hopening, hclosing]
  simp only [String.intercalate_singleton, String.append_assoc]

/-- Without a limit every tree has a text, which is its words with single spaces between them. -/
theorem renderWithin_eq_words (e : Expr) :
    e.renderWithin .unlimited = some (" ".intercalate e.words) := by
  induction e with
  | string | integer | float | boolean | nil => simp [renderWithin, words]
  | group inner ih =>
    have htext := intercalate_inBrackets inner.words_ne_nil
    simp [renderWithin, words, ih, htext]
  | unary op operand ih =>
    have hinside : " ".intercalate (op.lexeme :: operand.words) =
        op.lexeme ++ " " ++ " ".intercalate operand.words :=
      String.intercalate_cons_of_ne_nil operand.words_ne_nil
    have htext := intercalate_inBrackets (List.cons_ne_nil op.lexeme operand.words)
    rw [hinside, List.cons_append] at htext
    simp [renderWithin, words, ih, htext, String.append_assoc]
  | binary left op right ihleft ihright =>
    have hinside : " ".intercalate (op.lexeme :: (left.words ++ right.words)) =
        op.lexeme ++ " " ++ " ".intercalate left.words ++ " " ++ " ".intercalate right.words := by
      rw [String.intercalate_cons_of_ne_nil (by simp [words_ne_nil]),
        String.intercalate_append_of_ne_nil left.words_ne_nil right.words_ne_nil]
      simp only [String.append_assoc]
    have htext := intercalate_inBrackets (List.cons_ne_nil op.lexeme (left.words ++ right.words))
    rw [hinside, List.cons_append, List.append_assoc] at htext
    simp [renderWithin, words, ihleft, ihright, htext, String.append_assoc]
  | conditional c t e ihc iht ihe =>
    have hinside : " ".intercalate (c.words ++ "?" :: (t.words ++ ":" :: e.words)) =
        " ".intercalate c.words ++ " ? " ++ " ".intercalate t.words ++ " : " ++
          " ".intercalate e.words := by
      have hquestion : " ? " = " " ++ "?" ++ " " := rfl
      have hcolon : " : " = " " ++ ":" ++ " " := rfl
      rw [String.intercalate_append_of_ne_nil c.words_ne_nil (List.cons_ne_nil _ _),
        String.intercalate_cons_of_ne_nil (by simp),
        String.intercalate_append_of_ne_nil t.words_ne_nil (List.cons_ne_nil _ _),
        String.intercalate_cons_of_ne_nil e.words_ne_nil, hquestion, hcolon]
      simp only [String.append_assoc]
    have htext := intercalate_inBrackets
      (List.append_ne_nil_of_left_ne_nil c.words_ne_nil ("?" :: (t.words ++ ":" :: e.words)))
    rw [hinside] at htext
    simp only [List.append_assoc, List.cons_append] at htext
    simp [renderWithin, words, ihc, iht, ihe, htext, String.append_assoc]

/-- Limits do not change a text. -/
theorem eq_words_of_renderWithin {e : Expr} {room : Nesting} {text : String}
    (h : e.renderWithin room = some text) : text = " ".intercalate e.words := by
  have hunlimited : e.renderWithin .unlimited = some text := by
    cases room with
    | unlimited => exact h
    | atMost room =>
      obtain ⟨hfits, hnot⟩ := e.renderWithin_atMost room
      by_cases hroom : renderCost * e.height ≤ room
      · rw [← hfits hroom, h]
      · rw [hnot hroom] at h
        cases h
  rw [renderWithin_eq_words, Option.some_inj] at hunlimited
  exact hunlimited.symm

/-- The lines of operators are not in the text. -/
theorem words_onLine (line : Int) (e : Expr) : (e.onLine line).words = e.words := by
  induction e with
  | string | integer | float | boolean | nil => rfl
  | group inner ih => simp [onLine, words, ih]
  | unary op operand ih => simp [onLine, words, ih, Operator.onLine]
  | binary left op right ihleft ihright => simp [onLine, words, ihleft, ihright, Operator.onLine]
  | conditional c t e ihc iht ihe => simp [onLine, words, ihc, iht, ihe]

/-! ## Leaves -/

/-- The leaf that a word is the text of. -/
def ofWord? (word : String) : Option Expr :=
  if word = "true" then some (.boolean true)
  else if word = "false" then some (.boolean false)
  else if word = "nil" then some .nil
  else ofNumeral? word

/-- A node whose text tells it apart: no string, no number that is negative or not a number or
beyond 64 bits, and no operator that has not the lexeme of its kind. -/
def IsLegible : Expr → Prop
  | .string _ => False
  | .integer n => 0 ≤ n ∧ n < 2 ^ 63
  | .float x => x.IsUnsigned
  | .unary op _ | .binary _ op _ => (op.lexeme, op.kind) ∈ Kind.signs ∧ op.kind.isOperator
  | _ => True

theorem ofWord?_of_isPlain {word : String} (h : Numeral.IsPlain word.toList) :
    ofWord? word = ofNumeral? word := by
  obtain ⟨c, rest, hword, hc⟩ := h.head
  have hne : ∀ other : String, other.toList.head?.any Char.isDigit = false → word ≠ other := by
    rintro other hother rfl
    simp [hword, hc] at hother
  rw [ofWord?, if_neg (hne "true" (by decide)), if_neg (hne "false" (by decide)),
    if_neg (hne "nil" (by decide))]

/-- A leaf is one word, which has no space and is the text of no other leaf. -/
theorem words_of_isLeaf {e : Expr} (h : e.IsLeaf) (hlegible : e.IsLegible) :
    ∃ word, e.words = [word] ∧ ofWord? word = some e ∧ ' ' ∉ word.toList := by
  have hspace {word : String} (h : Numeral.IsPlain word.toList) : ' ' ∉ word.toList :=
    fun hmem => absurd (h.isVisible _ hmem) (by decide)
  cases e with
  | group | unary | binary | conditional => exact absurd h id
  | string => exact absurd hlegible id
  | nil => exact ⟨_, rfl, rfl, by decide⟩
  | boolean value => cases value <;> exact ⟨_, rfl, rfl, by decide⟩
  | integer n =>
    obtain ⟨hplain, hread⟩ := ofNumeral?_toString hlegible.1 hlegible.2
    exact ⟨_, rfl, (ofWord?_of_isPlain hplain).trans hread, hspace hplain⟩
  | float x =>
    match x with
    | .nan => exact absurd rfl hlegible.1
    | .infinity negative =>
      obtain rfl : negative = false := hlegible.2
      exact ⟨"inf", rfl, by decide, by decide⟩
    | .finite negative units hmagnitude =>
      obtain ⟨hplain, hread⟩ := ofNumeral?_literalText hlegible.2 rfl
      exact ⟨_, rfl, (ofWord?_of_isPlain hplain).trans hread, hspace hplain⟩

/-- No sign is the text of a leaf. -/
theorem ofWord?_of_sign : ∀ entry ∈ Kind.signs, ofWord? entry.1 = none := by
  decide

/-! ## Reading words -/

section
variable {e e' : Expr} {rest rest' : List String}

/-- A word that the text of a tree begins with. -/
def IsFirst (word : String) : Prop := word = "(" ∨ (ofWord? word).isSome

theorem not_isFirst_of_sign {word : String} {kind : Kind} (h : (word, kind) ∈ Kind.signs)
    (hkind : kind ≠ .leftParen) : ¬IsFirst word := by
  rintro (rfl | hleaf)
  · have hlookup : Kind.signs.lookup "(" = some Kind.leftParen := by decide
    rw [lookup_signs _ h, Option.some_inj] at hlookup
    exact hkind hlookup
  · rw [ofWord?_of_sign _ h] at hleaf
    cases hleaf

theorem isLeaf_or_exists_words (e : Expr) : e.IsLeaf ∨ ∃ more, e.words = "(" :: more := by
  cases e with
  | group | unary | binary | conditional => exact .inr ⟨_, rfl⟩
  | string | integer | float | boolean | nil => exact .inl trivial

theorem exists_words_eq_cons (h : e.IsLegible) :
    ∃ word more, e.words = word :: more ∧ IsFirst word := by
  rcases e.isLeaf_or_exists_words with hleaf | ⟨more, hwords⟩
  · obtain ⟨word, hwords, hword, -⟩ := words_of_isLeaf hleaf h
    exact ⟨word, [], hwords, .inr (by rw [hword]; rfl)⟩
  · exact ⟨"(", more, hwords, .inl rfl⟩

/-- No text begins with a sign other than an opening bracket. -/
theorem words_append_ne {word : String} {kind : Kind} (h : e.IsLegible)
    (hsign : (word, kind) ∈ Kind.signs) (hkind : kind ≠ .leftParen) :
    e.words ++ rest ≠ word :: rest' := by
  obtain ⟨first, more, hwords, hfirst⟩ := exists_words_eq_cons h
  rw [hwords, List.cons_append]
  intro heq
  rw [(List.cons.inj heq).1] at hfirst
  exact not_isFirst_of_sign hsign hkind hfirst

theorem words_append_ne_operator {op : Operator} (h : e.IsLegible)
    (hop : (op.lexeme, op.kind) ∈ Kind.signs ∧ op.kind.isOperator) :
    e.words ++ rest ≠ op.lexeme :: rest' :=
  words_append_ne h hop.1 fun hkind => absurd (hkind ▸ hop.2) (by decide)

theorem words_append_ne_closing (h : e.IsLegible) : e.words ++ rest ≠ ")" :: rest' := by
  have hclosing : (")", Kind.rightParen) ∈ Kind.signs := by decide
  exact words_append_ne h hclosing (by decide)

/-- Only compound nodes begin with an opening bracket. -/
theorem words_append_ne_opening (hleaf : e.IsLeaf) (h : e.IsLegible) :
    e.words ++ rest ≠ "(" :: rest' := by
  obtain ⟨word, hwords, hword, -⟩ := words_of_isLeaf hleaf h
  have hnone : ofWord? "(" = none := ofWord?_of_sign ("(", .leftParen) (by decide)
  rw [hwords, List.singleton_append]
  intro heq
  obtain ⟨rfl, -⟩ := List.cons.inj heq
  cases hword.symm.trans hnone

/-- A leaf is told by its word. -/
theorem eq_of_isLeaf (hleaf : e.IsLeaf) (h : e.IsLegible) (h' : e'.IsLegible)
    (heq : e.words ++ rest = e'.words ++ rest') : e = e' ∧ rest = rest' := by
  rcases e'.isLeaf_or_exists_words with hleaf' | ⟨more, hwords'⟩
  · obtain ⟨word, hwords, hword, -⟩ := words_of_isLeaf hleaf h
    obtain ⟨word', hwords', hword', -⟩ := words_of_isLeaf hleaf' h'
    rw [hwords, hwords', List.singleton_append, List.singleton_append] at heq
    obtain ⟨rfl, rfl⟩ := List.cons.inj heq
    rw [hword, Option.some_inj] at hword'
    exact ⟨hword', rfl⟩
  · rw [hwords', List.cons_append] at heq
    exact absurd heq (words_append_ne_opening hleaf h)

/-- An operator is told by its lexeme. -/
theorem operator_eq_of_lexeme {op op' : Operator}
    (h : (op.lexeme, op.kind) ∈ Kind.signs) (h' : (op'.lexeme, op'.kind) ∈ Kind.signs)
    (heq : op.lexeme = op'.lexeme) : op.onLine 0 = op'.onLine 0 := by
  have hkind := lookup_signs _ h
  simp only [heq, lookup_signs _ h', Option.some_inj] at hkind
  simp [Operator.onLine, heq, hkind]

/-! ## Reading trees -/

/-- No other tree has words that begin like those of the tree, whatever follows either. -/
def IsRead (e : Expr) : Prop :=
  ∀ (e' : Expr) (rest rest' : List String), e'.Everywhere IsLegible →
    e.words ++ rest = e'.words ++ rest' → e.onLine 0 = e'.onLine 0 ∧ rest = rest'

theorem IsRead.leaf (hleaf : e.IsLeaf) (h : e.IsLegible) : e.IsRead := by
  intro e' rest rest' h' heq
  obtain ⟨rfl, rfl⟩ := eq_of_isLeaf hleaf h h'.here heq
  exact ⟨rfl, rfl⟩

theorem IsRead.group {inner : Expr} (h : inner.Everywhere IsLegible) (ih : inner.IsRead) :
    (Expr.group inner).IsRead := by
  intro e' rest rest' h' heq
  cases e' with
  | string | integer | float | boolean | nil =>
    exact absurd heq.symm (words_append_ne_opening (by trivial) h'.here)
  | group inner' =>
    simp only [words, List.cons_append, List.append_assoc, List.cons.injEq, true_and] at heq
    obtain ⟨hinner, hrest⟩ := ih inner' _ _ h'.2 heq
    exact ⟨by rw [onLine, onLine, hinner], (List.cons.inj hrest).2⟩
  | unary op' operand' | binary left' op' right' =>
    -- a tree begins where the operator would stand
    simp only [words, List.cons_append, List.append_assoc, List.cons.injEq, true_and] at heq
    exact absurd heq (words_append_ne_operator h.here h'.here)
  | conditional c' t' e' =>
    -- the same tree is followed by a closing bracket here and by a question mark there
    simp only [words, List.cons_append, List.append_assoc, List.cons.injEq, true_and] at heq
    obtain ⟨-, hrest⟩ := ih c' _ _ h'.2.1 heq
    exact absurd (List.cons.inj hrest).1 (by decide)

theorem IsRead.unary {op : Operator} {operand : Expr} (hop : (Expr.unary op operand).IsLegible)
    (ih : operand.IsRead) : (Expr.unary op operand).IsRead := by
  intro e' rest rest' h' heq
  cases e' with
  | string | integer | float | boolean | nil =>
    exact absurd heq.symm (words_append_ne_opening (by trivial) h'.here)
  | group inner' =>
    simp only [words, List.cons_append, List.append_assoc, List.cons.injEq, true_and] at heq
    exact absurd heq.symm (words_append_ne_operator h'.2.here hop)
  | unary op' operand' =>
    simp only [words, List.cons_append, List.append_assoc, List.cons.injEq, true_and] at heq
    obtain ⟨hoperand, hrest⟩ := ih operand' _ _ h'.2 heq.2
    have hline := operator_eq_of_lexeme hop.1 h'.1.1 heq.1
    exact ⟨by rw [onLine, onLine, hline, hoperand], (List.cons.inj hrest).2⟩
  | binary left' op' right' =>
    -- a bracket closes where a second operand would begin
    simp only [words, List.cons_append, List.append_assoc, List.cons.injEq, true_and] at heq
    obtain ⟨-, hrest⟩ := ih left' _ _ h'.2.1 heq.2
    exact absurd hrest.symm (words_append_ne_closing h'.2.2.here)
  | conditional c' t' e' =>
    simp only [words, List.cons_append, List.append_assoc, List.cons.injEq, true_and] at heq
    exact absurd heq.symm (words_append_ne_operator h'.2.1.here hop)

theorem IsRead.binary {op : Operator} {left right : Expr}
    (hop : (Expr.binary left op right).IsLegible) (hright : right.IsLegible)
    (ihleft : left.IsRead) (ihright : right.IsRead) : (Expr.binary left op right).IsRead := by
  intro e' rest rest' h' heq
  cases e' with
  | string | integer | float | boolean | nil =>
    exact absurd heq.symm (words_append_ne_opening (by trivial) h'.here)
  | group inner' =>
    simp only [words, List.cons_append, List.append_assoc, List.cons.injEq, true_and] at heq
    exact absurd heq.symm (words_append_ne_operator h'.2.here hop)
  | unary op' operand' =>
    simp only [words, List.cons_append, List.append_assoc, List.cons.injEq, true_and] at heq
    obtain ⟨-, hrest⟩ := ihleft operand' _ _ h'.2 heq.2
    exact absurd hrest (words_append_ne_closing hright)
  | binary left' op' right' =>
    simp only [words, List.cons_append, List.append_assoc, List.cons.injEq, true_and] at heq
    obtain ⟨hleft, hrest⟩ := ihleft left' _ _ h'.2.1 heq.2
    obtain ⟨hright, hrest⟩ := ihright right' _ _ h'.2.2 hrest
    have hline := operator_eq_of_lexeme hop.1 h'.1.1 heq.1
    exact ⟨by rw [onLine, onLine, hleft, hline, hright], (List.cons.inj hrest).2⟩
  | conditional c' t' e' =>
    simp only [words, List.cons_append, List.append_assoc, List.cons.injEq, true_and] at heq
    exact absurd heq.symm (words_append_ne_operator h'.2.1.here hop)

theorem IsRead.conditional {c t e : Expr} (h : c.IsLegible) (ihc : c.IsRead) (iht : t.IsRead)
    (ihe : e.IsRead) : (Expr.conditional c t e).IsRead := by
  intro e' rest rest' h' heq
  cases e' with
  | string | integer | float | boolean | nil =>
    exact absurd heq.symm (words_append_ne_opening (by trivial) h'.here)
  | group inner' =>
    simp only [words, List.cons_append, List.append_assoc, List.cons.injEq, true_and] at heq
    obtain ⟨-, hrest⟩ := ihc inner' _ _ h'.2 heq
    exact absurd (List.cons.inj hrest).1 (by decide)
  | unary op' operand' | binary left' op' right' =>
    simp only [words, List.cons_append, List.append_assoc, List.cons.injEq, true_and] at heq
    exact absurd heq (words_append_ne_operator h h'.here)
  | conditional c' t' e' =>
    simp only [words, List.cons_append, List.append_assoc, List.cons.injEq, true_and] at heq
    obtain ⟨hc, hrest⟩ := ihc c' _ _ h'.2.1 heq
    obtain ⟨ht, hrest⟩ := iht t' _ _ h'.2.2.1 (List.cons.inj hrest).2
    obtain ⟨he, hrest⟩ := ihe e' _ _ h'.2.2.2 (List.cons.inj hrest).2
    exact ⟨by rw [onLine, onLine, hc, ht, he], (List.cons.inj hrest).2⟩

/-- A legible tree is read back from its words but for the lines of its operators. -/
theorem isRead (h : e.Everywhere IsLegible) : e.IsRead := by
  induction e with
  | string | integer | float | boolean | nil => exact .leaf (by trivial) h.here
  | group inner ih => exact .group h.2 (ih h.2)
  | unary op operand ih => exact .unary h.1 (ih h.2)
  | binary left op right ihleft ihright =>
    exact .binary h.1 h.2.2.here (ihleft h.2.1) (ihright h.2.2)
  | conditional c t e ihc iht ihe =>
    exact .conditional h.2.1.here (ihc h.2.1) (iht h.2.2.1) (ihe h.2.2.2)

/-! ## Texts -/

theorem not_mem_space_of_sign : ∀ entry ∈ Kind.signs, ' ' ∉ entry.1.toList := by
  decide

theorem not_mem_space (h : e.Everywhere IsLegible) : ∀ word ∈ e.words, ' ' ∉ word.toList := by
  have hopening : ' ' ∉ ("(" : String).toList := by decide
  have hclosing : ' ' ∉ (")" : String).toList := by decide
  have hquestion : ' ' ∉ ("?" : String).toList := by decide
  have hcolon : ' ' ∉ (":" : String).toList := by decide
  induction e with
  | string | integer | float | boolean | nil =>
    obtain ⟨word, hwords, -, hspace⟩ := words_of_isLeaf (by trivial) h.here
    rw [hwords]
    exact List.forall_mem_singleton.2 hspace
  | group inner ih =>
    simp only [words, List.forall_mem_cons, List.forall_mem_append]
    exact ⟨hopening, ih h.2, hclosing, nofun⟩
  | unary op operand ih =>
    simp only [words, List.forall_mem_cons, List.forall_mem_append]
    exact ⟨hopening, not_mem_space_of_sign _ h.1.1, ih h.2, hclosing, nofun⟩
  | binary left op right ihleft ihright =>
    simp only [words, List.forall_mem_cons, List.forall_mem_append]
    exact ⟨hopening, not_mem_space_of_sign _ h.1.1, ihleft h.2.1, ihright h.2.2, hclosing, nofun⟩
  | conditional c t e ihc iht ihe =>
    simp only [words, List.forall_mem_cons, List.forall_mem_append]
    exact ⟨hopening, ihc h.2.1, hquestion, iht h.2.2.1, hcolon, ihe h.2.2.2, hclosing, nofun⟩

/-- Spaces tell the words of a text apart. -/
theorem splitOn_intercalate {words : List String} (hne : words ≠ [])
    (hspace : ∀ word ∈ words, ' ' ∉ word.toList) :
    (" ".intercalate words).toList.splitOn ' ' = words.map String.toList := by
  have hseparator : (" " : String).toList = [' '] := rfl
  rw [String.toList_intercalate, hseparator, List.splitOn_intercalate]
  · simpa using hspace
  · simpa using hne

/-- Legible trees have one text exactly if they are the same but for the lines of operators. -/
theorem intercalate_words_eq_iff (h : e.Everywhere IsLegible) (h' : e'.Everywhere IsLegible) :
    " ".intercalate e.words = " ".intercalate e'.words ↔ e.onLine 0 = e'.onLine 0 := by
  constructor
  · intro htext
    have hwords := splitOn_intercalate e.words_ne_nil (not_mem_space h)
    rw [htext, splitOn_intercalate e'.words_ne_nil (not_mem_space h')] at hwords
    have hsame : e.words = e'.words :=
      (List.map_injective_iff.2 (fun _ _ => String.toList_inj.1) hwords).symm
    exact (isRead h e' [] [] h' (by rw [hsame])).1
  · intro htree
    rw [← words_onLine 0 e, htree, words_onLine]

end

end Expr

/-! ## Trees of source texts -/

/-- A tree that is read from a source text, within some limit. -/
def Expr.HasSource (e : Expr) : Prop :=
  ∃ source tokens limit, scan source = .ok tokens ∧ parseWithin limit tokens = .ok e

def Expr.IsString : Expr → Prop
  | .string _ => True
  | _ => False

theorem Lexeme.mem_signs {kind : Kind} {text : String} {literal : Literal}
    (h : Lexeme kind text.toList literal) (hkind : kind.isOperator) :
    (text, kind) ∈ Kind.signs := by
  have hwords : ∀ entry ∈ Kind.words, ¬entry.2.isOperator := by decide
  generalize htext : text.toList = characters at h
  cases h with
  | sign h => rwa [String.toList_inj.1 htext]
  | keyword h => exact absurd hkind (hwords _ h)
  | name | string | number => exact absurd hkind (by decide)

/-- The operator tokens of a source text are signs. -/
theorem mem_signs_of_scan {source : String} {tokens : List Token} (h : scan source = .ok tokens) :
    ∀ t ∈ tokens, t.kind.isOperator → (t.lexeme, t.kind) ∈ Kind.signs := by
  obtain ⟨before, last, rfl, -, hcut⟩ := (scan_scans source).cut h
  intro t ht hkind
  rcases List.mem_append.1 ht with ht | ht
  · obtain ⟨after, hlexeme, -⟩ := hcut.standsBefore t ht
    exact hlexeme.mem_signs hkind
  · obtain rfl := List.mem_singleton.1 ht
    have heof : ¬Kind.eof.isOperator := by decide
    exact absurd hkind heof

theorem Expr.isLegible_of_isSound {node : Expr} (h : node.IsSound)
    (hoperator : node.OnOperator fun op => (op.lexeme, op.kind) ∈ Kind.signs ∧ op.kind.isOperator)
    (hstring : ¬node.IsString) : node.IsLegible := by
  cases node with
  | string => exact absurd trivial hstring
  | integer | float => exact h
  | unary | binary => exact hoperator
  | boolean | nil | group | conditional => trivial

/-- Numbers of a source text have no sign, and its operators are spelled in one way. -/
theorem Expr.HasSource.isLegible {e : Expr} (h : e.HasSource)
    (hstrings : e.Everywhere fun node => ¬node.IsString) : e.Everywhere Expr.IsLegible := by
  obtain ⟨source, tokens, limit, hscan, hparse⟩ := h
  have hplain := hasPlainNumeral_of_scan hscan
  obtain ⟨tree, hderives, htree⟩ | ⟨error, herror⟩ :=
    parseWithin_answers (ended_of_scan hscan) hplain limit
  · cases hparse.symm.trans htree
    have hleaves := (hasLeaves_isSound hplain).subset (sentence_subset tokens)
    have hsound := hderives.everywhere makes_isSound hleaves trivial
    have hsigns := mem_signs_of_scan hscan
    have hoperators := hderives.everywhere_onOperator
      (p := fun op => (op.lexeme, op.kind) ∈ Kind.signs ∧ op.kind.isOperator)
      fun t ht hkind => ⟨hsigns t (sentence_subset tokens ht) hkind, hkind⟩
    have hlegible := hsound.imp₂ (fun _ => Expr.isLegible_of_isSound) hoperators
    exact hlegible.imp₂ (fun _ h => h) hstrings
  · cases hparse.symm.trans herror

/-- Trees of source texts without strings have one text exactly if they are the same but for the
lines of their operators. The limits within which they are read and written do not matter. -/
theorem text_eq_iff {e e' : Expr} {room room' : Nesting} {text text' : String} (h : e.HasSource)
    (h' : e'.HasSource) (hstrings : e.Everywhere fun node => ¬node.IsString)
    (hstrings' : e'.Everywhere fun node => ¬node.IsString) (htext : e.renderWithin room = some text)
    (htext' : e'.renderWithin room' = some text') :
    text = text' ↔ e.onLine 0 = e'.onLine 0 := by
  rw [Expr.eq_words_of_renderWithin htext, Expr.eq_words_of_renderWithin htext']
  exact Expr.intercalate_words_eq_iff (h.isLegible hstrings) (h'.isLegible hstrings')

/-- One tree on one line and on two; the second minus is a prefix operator. -/
theorem text_eq_iff_on_two_lines :
    let e (line : Int) : Expr :=
      .binary (.boolean true) ⟨.minus, "-", 1⟩ (.unary ⟨.minus, "-", line⟩ .nil)
    (e 1).HasSource ∧ (e 2).HasSource ∧
      (∀ line, (e line).Everywhere fun node => ¬node.IsString) ∧
      (∀ line, (e line).render? = some "( - true ( - nil ) )") ∧ e 1 ≠ e 2 ∧
      (e 1).onLine 0 = (e 2).onLine 0 := by
  intro e
  have hsource : (e 1).HasSource := by
    have hscan : scan "true--nil" =
        .ok [⟨.trueWord, "true", .absent, 1⟩, ⟨.minus, "-", .absent, 1⟩,
          ⟨.minus, "-", .absent, 1⟩, ⟨.nilWord, "nil", .absent, 1⟩, ⟨.eof, "", .absent, 1⟩] := by
      cbv
    exact ⟨_, _, .standard, hscan, by cbv⟩
  have hsource' : (e 2).HasSource := by
    have hscan : scan "true-\n-nil" =
        .ok [⟨.trueWord, "true", .absent, 1⟩, ⟨.minus, "-", .absent, 1⟩,
          ⟨.minus, "-", .absent, 2⟩, ⟨.nilWord, "nil", .absent, 2⟩, ⟨.eof, "", .absent, 2⟩] := by
      cbv
    exact ⟨_, _, .standard, hscan, by cbv⟩
  have hstrings (line : Int) : (e line).Everywhere fun node => ¬node.IsString :=
    ⟨id, id, id, id⟩
  have htext (line : Int) : (e line).render? = some "( - true ( - nil ) )" := rfl
  have hne : e 1 ≠ e 2 := by decide
  exact ⟨hsource, hsource', hstrings, htext, hne,
    (text_eq_iff hsource hsource' (hstrings 1) (hstrings 2) (htext 1) (htext 2)).1 rfl⟩

end LoxExpr
