import LoxExpr.Proofs.Expr.Provenance

/-!
# Chains of plus

A chain `e₀ + e₁ + … + eₙ` grows to the left. Plus adds numbers up to the first string and joins
texts from there on, where nothing but nil fails; what comes before the first string is therefore
a sum of numbers, a boolean on its own, or nothing.

Main statement `eval_plusChain`: the value of a chain from the values of its operands, and the
failure where there is none.
-/

namespace LoxExpr

/-! ## Chains -/

/-- A plus, the operand behind it, and the value of this operand. -/
structure Addend where
  operator : Operator
  operand : Expr
  value : Value

/-- The operator is a plus and the operand has the value. -/
structure Addend.Holds (a : Addend) : Prop where
  isPlus : a.operator.kind = .plus
  hasValue : a.operand.HasValue a.value

/-- The tree of a chain. -/
def plusChain (first : Expr) (addends : List Addend) : Expr :=
  addends.foldl (fun left a => .binary left a.operator a.operand) first

/-! ## The values of operands -/

/-- Values that can stand before the first string of a chain, and their text: none, a boolean on
its own, or numbers, which are added from left to right. -/
inductive Leads : List Value → String → Prop
  | nothing : Leads [] ""
  | boolean (b : Bool) : Leads [.boolean b] (Value.boolean b).text
  | numbers (x : Double) (xs : List Double) :
      Leads ((x :: xs).map .number) (Value.number (xs.foldl (· + ·) x)).text

/-- The values make up a text: the text of what stands before the first string, this string, and the
texts of all values behind it, none of which is nil. -/
inductive MakeUp : List Value → String → Prop
  | text {before after : List Value} {lead : String} (s : String) (hlead : Leads before lead)
      (hafter : Value.nil ∉ after) :
      MakeUp (before ++ .string s :: after) (lead ++ s ++ .join (after.map Value.text))

/-- The values are numbers, and this is their sum from left to right. -/
inductive AddUp : List Value → Double → Prop
  | numbers (x : Double) (xs : List Double) : AddUp ((x :: xs).map .number) (xs.foldl (· + ·) x)

/-! ## One plus -/

namespace Operator

variable {op : Operator} {a b : Value}

theorem add_string_left (s : String) (h : b ≠ .nil) :
    op.add (.string s) b = .ok (.string (s ++ b.text)) := by
  cases b with
  | nil => exact absurd rfl h
  | string | number | boolean => rfl

theorem add_string_right (s : String) (h : a ≠ .nil) :
    op.add a (.string s) = .ok (.string (a.text ++ s)) := by
  cases a with
  | nil => exact absurd rfl h
  | string | number | boolean => rfl

theorem add_numbers (x y : Double) : op.add (.number x) (.number y) = .ok (.number (x + y)) := rfl

end Operator

section
variable {first : Expr} {v w : Value} {a : Addend} {addends : List Addend}

theorem evalWithin_plus (hfirst : first.HasValue v) (ha : a.Holds) :
    (Expr.binary first a.operator a.operand).evalWithin .unlimited = a.operator.add v a.value := by
  obtain ⟨⟨kind, lexeme, line⟩, operand, value⟩ := a
  obtain ⟨rfl, hvalue⟩ := ha
  rw [evalWithin_unlimited_binary, hfirst, hvalue]
  rfl

theorem hasValue_plus_iff (hfirst : first.HasValue v) (ha : a.Holds) :
    (Expr.binary first a.operator a.operand).HasValue w ↔ a.operator.add v a.value = .ok w := by
  rw [Expr.HasValue, evalWithin_plus hfirst ha]

@[simp] theorem plusChain_nil (first : Expr) : plusChain first [] = first := rfl

@[simp] theorem plusChain_cons (first : Expr) (a : Addend) (addends : List Addend) :
    plusChain first (a :: addends) = plusChain (.binary first a.operator a.operand) addends := rfl

theorem plusChain_append (first : Expr) (earlier later : List Addend) :
    plusChain first (earlier ++ later) = plusChain (plusChain first earlier) later :=
  List.foldl_append

/-- A chain with a value begins with chains that have one. -/
theorem hasValue_of_plusChain (h : (plusChain first addends).HasValue w) :
    ∃ v, first.HasValue v := by
  induction addends generalizing first with
  | nil => exact ⟨w, h⟩
  | cons a addends ih =>
    obtain ⟨u, hu⟩ := ih h
    obtain ⟨v, -, hv, -⟩ := hasValue_binary.1 hu
    exact ⟨v, hv⟩

/-- The first plus of a chain with a value has one. -/
theorem exists_add_of_plusChain (hfirst : first.HasValue v) (ha : a.Holds)
    (h : (plusChain first (a :: addends)).HasValue w) :
    ∃ u, a.operator.add v a.value = .ok u ∧
      (Expr.binary first a.operator a.operand).HasValue u := by
  rw [plusChain_cons] at h
  obtain ⟨u, hu⟩ := hasValue_of_plusChain h
  exact ⟨u, (hasValue_plus_iff hfirst ha).1 hu, hu⟩

/-! ## Chains that have a value -/

/-- Behind a string, texts are joined. -/
theorem hasValue_of_string {s : String} (hfirst : first.HasValue (.string s))
    (haddends : ∀ a ∈ addends, a.Holds) (hnil : Value.nil ∉ addends.map (·.value)) :
    (plusChain first addends).HasValue
      (.string (s ++ .join ((addends.map (·.value)).map Value.text))) := by
  induction addends generalizing first s with
  | nil => simpa using hfirst
  | cons a addends ih =>
    obtain ⟨ha, haddends⟩ := List.forall_mem_cons.1 haddends
    rw [List.map_cons, List.mem_cons, not_or] at hnil
    have hvalue := (hasValue_plus_iff hfirst ha).2
      (Operator.add_string_left s (Ne.symm hnil.1))
    have hmore := ih hvalue haddends hnil.2
    simpa [String.append_assoc] using hmore

/-- Before a string, numbers are added. -/
theorem hasValue_of_numbers {x : Double} {xs : List Double} (hfirst : first.HasValue (.number x))
    (haddends : ∀ a ∈ addends, a.Holds) (hnumbers : addends.map (·.value) = xs.map .number) :
    (plusChain first addends).HasValue (.number (xs.foldl (· + ·) x)) := by
  induction addends generalizing first x xs with
  | nil =>
    obtain rfl : xs = [] := by simpa using hnumbers.symm
    exact hfirst
  | cons a addends ih =>
    obtain ⟨ha, haddends⟩ := List.forall_mem_cons.1 haddends
    cases xs with
    | nil => simp at hnumbers
    | cons y xs =>
      obtain ⟨hy, hnumbers⟩ := List.cons.inj hnumbers
      have hvalue := (hasValue_plus_iff hfirst ha).2 (hy ▸ Operator.add_numbers x y)
      rw [plusChain_cons, List.foldl_cons]
      exact ih hvalue haddends hnumbers

/-- A string behind a value that is not nil is joined to its text, and all that follows too. -/
theorem hasValue_of_lead {s : String} (hfirst : first.HasValue v) (hv : v ≠ .nil) (ha : a.Holds)
    (hs : a.value = .string s) (haddends : ∀ a ∈ addends, a.Holds)
    (hnil : Value.nil ∉ addends.map (·.value)) :
    (plusChain first (a :: addends)).HasValue
      (.string (v.text ++ s ++ .join ((addends.map (·.value)).map Value.text))) := by
  have hvalue := (hasValue_plus_iff hfirst ha).2 (hs ▸ Operator.add_string_right s hv)
  exact hasValue_of_string hvalue haddends hnil

/-- Operands that make up a text are joined to it. -/
theorem hasValue_of_makeUp {text : String} (hfirst : first.HasValue v)
    (haddends : ∀ a ∈ addends, a.Holds) (h : MakeUp (v :: addends.map (·.value)) text) :
    (plusChain first addends).HasValue (.string text) := by
  generalize hvalues : v :: addends.map (·.value) = values at h
  obtain ⟨s, hlead, hnil⟩ := h
  cases hlead with
  | nothing =>
    obtain ⟨rfl, rfl⟩ := List.cons.inj hvalues
    simpa using hasValue_of_string hfirst haddends hnil
  | boolean b =>
    obtain ⟨rfl, hrest⟩ := List.cons.inj hvalues
    obtain ⟨a, addends, rfl, hs, rfl⟩ := List.map_eq_cons_iff.1 hrest
    obtain ⟨ha, haddends⟩ := List.forall_mem_cons.1 haddends
    simpa using hasValue_of_lead hfirst (by simp) ha hs haddends hnil
  | numbers x xs =>
    obtain ⟨rfl, hrest⟩ := List.cons.inj hvalues
    obtain ⟨summed, rest, rfl, hsummed, hrest⟩ := List.map_eq_append_iff.1 hrest
    obtain ⟨a, addends, rfl, hs, rfl⟩ := List.map_eq_cons_iff.1 hrest
    obtain ⟨hbefore, hafter⟩ := List.forall_mem_append.1 haddends
    obtain ⟨ha, hafter⟩ := List.forall_mem_cons.1 hafter
    rw [plusChain_append]
    simpa using hasValue_of_lead (hasValue_of_numbers hfirst hbefore hsummed) (by simp) ha hs hafter
      hnil

/-- Operands that add up have their sum. -/
theorem hasValue_of_addUp {x : Double} (hfirst : first.HasValue v)
    (haddends : ∀ a ∈ addends, a.Holds) (h : AddUp (v :: addends.map (·.value)) x) :
    (plusChain first addends).HasValue (.number x) := by
  generalize hvalues : v :: addends.map (·.value) = values at h
  obtain ⟨x, xs⟩ := h
  obtain ⟨rfl, hrest⟩ := List.cons.inj hvalues
  exact hasValue_of_numbers hfirst haddends hrest

/-! ## No other chain has a value -/

theorem nil_not_mem_of_string {s : String} (hfirst : first.HasValue (.string s))
    (haddends : ∀ a ∈ addends, a.Holds) (h : (plusChain first addends).HasValue w) :
    Value.nil ∉ addends.map (·.value) := by
  induction addends generalizing first s with
  | nil => simp
  | cons a addends ih =>
    obtain ⟨ha, haddends⟩ := List.forall_mem_cons.1 haddends
    obtain ⟨u, hadd, hu⟩ := exists_add_of_plusChain hfirst ha h
    have hne : a.value ≠ .nil := by
      intro hnil
      rw [hnil] at hadd
      cases hadd
    rw [Operator.add_string_left s hne] at hadd
    cases hadd
    rw [List.map_cons, List.mem_cons, not_or]
    exact ⟨hne.symm, ih hu haddends h⟩

/-- Behind a number there are numbers, up to the first string if there is one. -/
theorem numbers_or_text_of_number {x : Double} (hfirst : first.HasValue (.number x))
    (haddends : ∀ a ∈ addends, a.Holds) (h : (plusChain first addends).HasValue w) :
    ∃ xs : List Double, addends.map (·.value) = xs.map .number ∨
      ∃ s after, addends.map (·.value) = xs.map .number ++ .string s :: after ∧
        Value.nil ∉ after := by
  induction addends generalizing first x with
  | nil => exact ⟨[], .inl rfl⟩
  | cons a addends ih =>
    obtain ⟨ha, haddends⟩ := List.forall_mem_cons.1 haddends
    obtain ⟨u, hadd, hu⟩ := exists_add_of_plusChain hfirst ha h
    rw [List.map_cons]
    cases hvalue : a.value with
    | number y =>
      rw [hvalue] at hadd
      cases hadd
      obtain ⟨xs, hnumbers | ⟨s, after, htext, hnil⟩⟩ := ih hu haddends h
      · exact ⟨y :: xs, .inl (by simp [hnumbers])⟩
      · exact ⟨y :: xs, .inr ⟨s, after, by simp [htext], hnil⟩⟩
    | string s =>
      rw [hvalue] at hadd
      cases hadd
      exact ⟨[], .inr ⟨s, _, rfl, nil_not_mem_of_string hu haddends h⟩⟩
    | boolean b =>
      rw [hvalue] at hadd
      cases hadd
    | nil =>
      rw [hvalue] at hadd
      cases hadd

theorem makeUp_or_addUp (hfirst : first.HasValue v) (haddends : ∀ a ∈ addends, a.Holds)
    (hsome : addends ≠ []) (h : (plusChain first addends).HasValue w) :
    (∃ text, MakeUp (v :: addends.map (·.value)) text) ∨
      ∃ x, AddUp (v :: addends.map (·.value)) x := by
  cases v with
  | string s => exact .inl ⟨_, .text s .nothing (nil_not_mem_of_string hfirst haddends h)⟩
  | number x =>
    obtain ⟨xs, hnumbers | ⟨s, after, htext, hnil⟩⟩ := numbers_or_text_of_number hfirst haddends h
    · rw [hnumbers]
      exact .inr ⟨_, .numbers x xs⟩
    · rw [htext]
      exact .inl ⟨_, .text s (.numbers x xs) hnil⟩
  | boolean b =>
    obtain ⟨a, addends, rfl⟩ := List.exists_cons_of_ne_nil hsome
    obtain ⟨ha, haddends⟩ := List.forall_mem_cons.1 haddends
    obtain ⟨u, hadd, hu⟩ := exists_add_of_plusChain hfirst ha h
    rw [List.map_cons]
    cases hvalue : a.value with
    | string s =>
      rw [hvalue] at hadd
      cases hadd
      exact .inl ⟨_, .text s (.boolean b) (nil_not_mem_of_string hu haddends h)⟩
    | number | boolean | nil =>
      rw [hvalue] at hadd
      cases hadd
  | nil =>
    obtain ⟨a, addends, rfl⟩ := List.exists_cons_of_ne_nil hsome
    obtain ⟨ha, -⟩ := List.forall_mem_cons.1 haddends
    obtain ⟨u, hadd, hu⟩ := exists_add_of_plusChain hfirst ha h
    cases hvalue : a.value <;> rw [hvalue] at hadd <;> cases hadd

/-! ## Chains that fail -/

/-- What stands before an operator of a chain has a value, and this is what is wrong with its type
and that of the operand behind the operator. -/
def PlusMeets (first : Expr) (before : List Addend) (a : Addend) (wrong? : Option Mismatch) : Prop :=
  ∃ left, (plusChain first before).HasValue left ∧
    Kind.plus.binaryMisfit? left.type a.value.type = wrong?

/-- The two sides of an operator of a chain do not fit, and those of all operators before it do. -/
structure FailsFirst (first : Expr) (before : List Addend) (a : Addend) (mismatch : Mismatch) :
    Prop where
  misfit : PlusMeets first before a (some mismatch)
  fits : ∀ earlier b later, before = earlier ++ b :: later → PlusMeets first earlier b none

/-- Into the left operand of every operator of a chain, the outermost first. -/
def leftDescents (addends : List Addend) : List Descent :=
  addends.reverse.map fun a => ⟨.left, a.operator⟩

theorem message_of_left (op : Operator) :
    (Descent.mk .left op).message =
      "Could not evaluate left operand of '" ++ op.lexeme ++ "': " := by
  have hwords : "Could not evaluate " ++ Side.left.name ++ " operand of '" =
      "Could not evaluate left operand of '" := by decide
  exact congrArg (· ++ op.lexeme ++ "': ") hwords

/-- A failure of what a chain begins with is marked once for every operator. -/
theorem evalWithin_plusChain_of_misapplied {path : List Descent} {op : Operator}
    {mismatch : Mismatch}
    (h : first.evalWithin .unlimited = .error (.error (.misapplied ⟨path, op, mismatch⟩))) :
    (plusChain first addends).evalWithin .unlimited =
      .error (.error (.misapplied ⟨leftDescents addends ++ path, op, mismatch⟩)) := by
  induction addends generalizing first path with
  | nil => exact h
  | cons a addends ih =>
    have hmarked : (Expr.binary first a.operator a.operand).evalWithin .unlimited =
        .error (.error (.misapplied ⟨⟨.left, a.operator⟩ :: path, op, mismatch⟩)) := by
      rw [evalWithin_unlimited_binary, h]
      rfl
    rw [plusChain_cons, ih hmarked]
    simp [leftDescents]

/-- Operands with values have a chain with a value, or one that fails at its first operator whose
sides do not fit. -/
theorem hasValue_or_failsFirst (hfirst : first.HasValue v) (haddends : ∀ a ∈ addends, a.Holds) :
    (∃ w, (plusChain first addends).HasValue w) ∨
      ∃ before a after mismatch, addends = before ++ a :: after ∧
        FailsFirst first before a mismatch ∧
        (plusChain first addends).evalWithin .unlimited =
          .error (.error (.misapplied ⟨leftDescents after, a.operator, mismatch⟩)) := by
  induction addends generalizing first v with
  | nil => exact .inl ⟨v, hfirst⟩
  | cons a addends ih =>
    obtain ⟨ha, haddends⟩ := List.forall_mem_cons.1 haddends
    have hreports : a.operator.Reports _ (a.operator.add v a.value) := add_reports v a.value
    rcases hreports with ⟨hfits, u, hadd⟩ | ⟨mismatch, hmisfit, hadd⟩
    · rcases ih ((hasValue_plus_iff hfirst ha).2 hadd) haddends with
        hvalue | ⟨before, b, after, mismatch, rfl, hfails, heval⟩
      · exact .inl hvalue
      · refine .inr ⟨a :: before, b, after, mismatch, rfl, ⟨hfails.misfit, ?_⟩, heval⟩
        intro earlier b' later hsplit
        cases earlier with
        | nil =>
          obtain ⟨rfl, -⟩ := List.cons.inj hsplit
          exact ⟨v, hfirst, hfits⟩
        | cons a' earlier =>
          obtain ⟨rfl, hrest⟩ := List.cons.inj hsplit
          exact hfails.fits earlier b' later hrest
    · refine .inr ⟨[], a, addends, mismatch, rfl, ⟨⟨v, hfirst, hmisfit⟩, by simp⟩, ?_⟩
      have hfail := (evalWithin_plus hfirst ha).trans hadd
      rw [plusChain_cons, evalWithin_plusChain_of_misapplied hfail, List.append_nil]

end

/-- What a chain `e₀ + e₁ + … + eₙ` gives, if its operands have values and it does not nest too
deeply. If the values make up a text, this is the text. If they are numbers, it is their sum from
left to right. In all other cases the chain fails at the first operator whose two sides do not fit,
and the failure is marked as one of the left operand once for each operator behind that one. -/
theorem eval_plusChain {first : Expr} {v : Value} {addends : List Addend} {room : Nesting}
    (hfirst : first.HasValue v) (haddends : ∀ a ∈ addends, a.Holds) (hsome : addends ≠ [])
    (hroom : (plusChain first addends).evalWithin room ≠ .error (.error .nestedTooDeeply)) :
    (∀ text, MakeUp (v :: addends.map (·.value)) text →
      (plusChain first addends).evalWithin room = .ok (.string text)) ∧
    (∀ x, AddUp (v :: addends.map (·.value)) x →
      (plusChain first addends).evalWithin room = .ok (.number x)) ∧
    ((¬∃ text, MakeUp (v :: addends.map (·.value)) text) →
      (¬∃ x, AddUp (v :: addends.map (·.value)) x) →
      ∃ before a after mismatch error, addends = before ++ a :: after ∧
        FailsFirst first before a mismatch ∧
        (plusChain first addends).evalWithin room = .error (.error error) ∧
        error = .misapplied ⟨leftDescents after, a.operator, mismatch⟩ ∧
        error.text = .join (after.reverse.map fun b =>
          "Could not evaluate left operand of '" ++ b.operator.lexeme ++ "': ") ++
            mismatch.message a.operator.lexeme) := by
  have heval : (plusChain first addends).evalWithin room =
      (plusChain first addends).evalWithin .unlimited :=
    ((plusChain first addends).evalWithin_mono room.le_unlimited).resolve_right hroom
  rw [heval]
  refine ⟨fun text h => hasValue_of_makeUp hfirst haddends h,
    fun x h => hasValue_of_addUp hfirst haddends h, fun hnotext hnosum => ?_⟩
  rcases hasValue_or_failsFirst hfirst haddends with
    ⟨w, hw⟩ | ⟨before, a, after, mismatch, hsplit, hfails, hfail⟩
  · rcases makeUp_or_addUp hfirst haddends hsome hw with htext | hsum
    · exact absurd htext hnotext
    · exact absurd hsum hnosum
  · have htext : (EvalError.misapplied ⟨leftDescents after, a.operator, mismatch⟩).text =
        .join (after.reverse.map fun b =>
          "Could not evaluate left operand of '" ++ b.operator.lexeme ++ "': ") ++
            mismatch.message a.operator.lexeme := by
      simp only [EvalError.text, leftDescents, List.map_map, Function.comp_def, message_of_left]
    exact ⟨before, a, after, mismatch, _, hsplit, hfails, hfail, rfl, htext⟩

/-- In `1.5 + 1.5 + "a" + true` the numbers are added and the others joined. -/
theorem eval_plusChain_of_text :
    let plus : Operator := ⟨.plus, "+", 1⟩
    let x : Double := .ofRatio false (3 * Double.scale) 2
    let addends : List Addend :=
      [⟨plus, .float x, .number x⟩, ⟨plus, .string "a", .string "a"⟩,
       ⟨plus, .boolean true, .boolean true⟩]
    let chain : Expr := plusChain (.float x) addends
    (Expr.float x).HasValue (.number x) ∧ (∀ a ∈ addends, a.Holds) ∧ addends ≠ [] ∧
      chain.evalWithin .standard ≠ .error (.error .nestedTooDeeply) ∧
      MakeUp (.number x :: addends.map (·.value)) "3atrue" ∧
      chain.evalWithin .standard = .ok (.string "3atrue") := by
  intro plus x addends chain
  have hfirst : (Expr.float x).HasValue (.number x) := rfl
  have haddends : ∀ a ∈ addends, a.Holds := by
    simp only [addends, List.forall_mem_cons, List.not_mem_nil, false_implies, implies_true,
      and_true]
    exact ⟨⟨rfl, rfl⟩, ⟨rfl, rfl⟩, ⟨rfl, rfl⟩⟩
  have hroom : chain.evalWithin .standard ≠ .error (.error .nestedTooDeeply) := by
    have heval : chain.evalWithin .standard =
        .ok (.string ((Value.number (x + x)).text ++ "a" ++ (Value.boolean true).text)) := rfl
    rw [heval]
    exact ok_ne_error
  have htext : (Value.number (x + x)).text ++ "a" ++ .join ([.boolean true].map Value.text) =
      "3atrue" := by
    decide +kernel
  have hmake : MakeUp (.number x :: addends.map (·.value)) "3atrue" := by
    rw [← htext]
    exact .text "a" (.numbers x [x]) (by simp)
  exact ⟨hfirst, haddends, List.cons_ne_nil _ _, hroom, hmake,
    (eval_plusChain hfirst haddends (List.cons_ne_nil _ _) hroom).1 _ hmake⟩

end LoxExpr
