import LoxExpr.Proofs.Expr.NumberLiteral
import LoxExpr.Proofs.Number.DisplayText
import LoxExpr.Session

/-!
# Number texts are programs

Main statements `scan_literalText`: the text of a float literal is one token and is read as that
literal; `runSource_displayText`: a number that is displayed without an exponent is the output of
the program that its own text is, whichever sign it has.
-/

namespace LoxExpr

/-! ## Literals -/

/-- The literal text of a finite number without a sign has digits on both sides of a point and
nothing else. It is scanned as one token, which is read as a float, and that is the number. -/
theorem scan_literalText {x : Double} (hfinite : x.finite?.isSome) (hsign : x.isNegative = false) :
    (∃ whole fraction, Numeral.IsDigits whole ∧ Numeral.IsDigits fraction ∧
      x.literalText.toList = whole ++ '.' :: fraction) ∧
    scan x.literalText = .ok [⟨.number, x.literalText, .number x, 1⟩, ⟨.eof, "", .absent, 1⟩] ∧
    ∀ room, parseWithin room [⟨.number, x.literalText, .number x, 1⟩, ⟨.eof, "", .absent, 1⟩] =
      .ok (.float x) := by
  match x with
  | .finite negative units hmagnitude =>
    obtain ⟨-, hleaf⟩ := Expr.ofNumeral?_literalText hsign hfinite
    obtain rfl : negative = false := hsign
    obtain ⟨whole, fraction, hwhole, hfraction, htext, hread⟩ :=
      Double.toDouble_literalText hmagnitude
    have hplain : Numeral.IsPlain (Double.finite false units hmagnitude).literalText.toList :=
      .inr ⟨whole, fraction, hwhole, hfraction, htext⟩
    have hscan := scan_numeral hplain
    rw [Token.ofNumeral, htext, hread] at hscan
    exact ⟨⟨whole, fraction, hwhole, hfraction, htext⟩, hscan, parseWithin_leaf hleaf rfl⟩

theorem isMagnitude_large : Double.IsMagnitude (10 ^ 22 * Double.scale) := by decide +kernel

/-- A number that is displayed without a fraction, and is too large for a whole number: its text as
a literal still has a point. -/
theorem scan_literalText_large :
    ∃ x : Double, x = .finite false (10 ^ 22 * Double.scale) isMagnitude_large ∧
      x.finite?.isSome ∧ x.isNegative = false ∧ x.literalText = "10000000000000000000000.0" ∧
      scan "10000000000000000000000.0" =
        .ok [⟨.number, "10000000000000000000000.0", .number x, 1⟩, ⟨.eof, "", .absent, 1⟩] ∧
      parse [⟨.number, "10000000000000000000000.0", .number x, 1⟩, ⟨.eof, "", .absent, 1⟩] =
        .ok (.float x) := by
  have htext : (Double.finite false _ isMagnitude_large).literalText =
      "10000000000000000000000.0" := by decide +kernel
  obtain ⟨-, hscan, hparse⟩ :=
    scan_literalText (x := .finite false _ isMagnitude_large) rfl rfl
  rw [htext] at hscan hparse
  exact ⟨_, rfl, rfl, rfl, htext, hscan, hparse .standard⟩

/-! ## Output -/

/-- The token of a numeral is a literal that is evaluated as the number in the token. -/
theorem exists_leaf_ofNumeral {text : String} (h : Numeral.IsPlain text.toList) (line : Int) :
    ∃ e, (Token.ofNumeral text line).leaf? = some e ∧
      ∀ room, e.evalWithin room =
        .ok (.number ((Decimal.ofNumeral text.toList).toDouble false)) := by
  obtain ⟨value, hwrites⟩ := Numeral.isPlain_iff_exists_writes.1 h
  have hvalue := Decimal.value_ofNumeral hwrites
  obtain ⟨e, hread, hliteral⟩ := Expr.isLiteral_ofNumeral? hwrites
  exact ⟨e, hread, hliteral.evalWithin fun n hn hlt =>
    Double.ofInt?_eq_toDouble ((Expr.fitsInteger_natCast n).2 hlt) (hvalue.trans hn)⟩

/-- A minus is a token of its own before a numeral. -/
theorem scan_minus_numeral {text numeral : String} (h : Numeral.IsPlain numeral.toList)
    (htext : text.toList = '-' :: numeral.toList) :
    scan text = .ok [.bare "-" .minus 1, .ofNumeral numeral 1, ⟨.eof, "", .absent, 1⟩] := by
  have hrest := scan_eq_iff.1 (scan_numeral h)
  have hminus : (Token.bare "-" .minus 1).LiesOn 1 := Token.liesOn_sign (by decide) 1
  have hlongest : IsLongest ['-'] numeral.toList := by
    obtain ⟨c, rest, hnumeral, hc⟩ := h.head
    have hmark : IsMark '-' := by decide
    refine isLongest_mark _ hmark fun d hd hlexical => ?_
    obtain rfl : c = d := by simpa [hnumeral] using hd
    rcases hlexical.second hmark with ⟨hequal, -⟩ | ⟨hslash, -⟩
    · exact hequal (by decide)
    · exact absurd hslash (by decide)
  have hscans := hminus.scans hlongest hrest
  refine scan_eq_iff.2 ?_
  rw [htext]
  exact hscans

/-- A minus before a literal is read as a prefix operator. -/
theorem parse_minus {t : Token} {e : Expr} (h : t.leaf? = some e) :
    parse [.bare "-" .minus 1, t, ⟨.eof, "", .absent, 1⟩] = .ok (.unary ⟨.minus, "-", 1⟩ e) := by
  have hop : (Token.bare "-" .minus 1).kind ∈ unaryOperators := by decide
  have hderives : Derives .expression [.bare "-" .minus 1, t] (.unary ⟨.minus, "-", 1⟩ e) :=
    Derives.loosen (n := 6) (Nat.zero_le 6) (by decide) (.unary hop (.bare (.leaf h)))
  refine (parseWithin_eq_ok_iff hderives rfl .standard).2 ⟨_, rfl, ?_⟩
  exact (Token.isLeaf_of_leaf? h).fitsIn _

theorem runSource_of_eval {source : String} {tokens : List Token} {tree : Expr} {value : Value}
    (hscan : scan source = .ok tokens) (hparse : parse tokens = .ok tree)
    (heval : tree.eval = .ok value) : runSource source = .ok value.text := by
  simp only [runSource, evalSource, hscan, hparse, heval, Except.mapError, bind, Except.bind, pure,
    Except.pure]

/-- The text of a number that is displayed as a plain numeral is scanned, read and evaluated as that
number. A number with a sign is read as a prefix operator before a literal. -/
theorem exists_eval_displayText {negative : Bool} {units : Nat} (h : Double.IsMagnitude units)
    (hplain : Numeral.IsPlain (Double.displayMagnitude units)) :
    ∃ tokens tree, scan (Double.finite negative units h).displayText = .ok tokens ∧
      parse tokens = .ok tree ∧ tree.eval = .ok (.number (.finite negative units h)) := by
  obtain ⟨numeral, hnumeral⟩ : ∃ numeral : String, numeral.toList = Double.displayMagnitude units :=
    ⟨.ofList _, String.toList_ofList⟩
  have htext := Double.toList_displayText negative h
  have hread := (Double.isNumeralOf_displayMagnitude h).toDouble_ofNumeral hplain
  rw [← hnumeral] at hplain htext hread
  obtain ⟨e, hleaf, heval⟩ := exists_leaf_ofNumeral hplain 1
  rw [hread] at heval
  cases negative with
  | false =>
    have hsame : (Double.finite false units h).displayText = numeral := by
      rw [← String.toList_inj, htext]
      rfl
    rw [hsame]
    exact ⟨_, e, scan_numeral hplain, parseWithin_leaf hleaf rfl .standard, heval .standard⟩
  | true =>
    refine ⟨_, _, scan_minus_numeral hplain htext, parse_minus hleaf, ?_⟩
    show Except.bind (e.evalWithin _) _ = _
    rw [heval]
    rfl

/-- The text of a finite number, if the number is whole or its magnitude is at least `10⁻⁴`, is
scanned, read and evaluated as the number itself, the sign of zero included, and so it is the output
of the program that it is. No two numbers share a text, infinities included. -/
theorem runSource_displayText :
    (∀ (negative : Bool) (units : Nat) (h : Double.IsMagnitude units) (x : Double),
      x = .finite negative units h →
      (x.isWhole = true ∨ Double.scale ≤ 10 ^ 4 * units) →
      ∃ tokens tree, scan x.displayText = .ok tokens ∧ parse tokens = .ok tree ∧
        tree.eval = .ok (.number x) ∧ runSource x.displayText = .ok x.displayText) ∧
    ∀ x y : Double, x ≠ .nan → y ≠ .nan → (x.displayText = y.displayText ↔ x = y) := by
  refine ⟨?_, fun x y hx hy => ⟨Double.displayText_injective hx hy, congrArg Double.displayText⟩⟩
  rintro negative units h x rfl hsize
  have hplain := Double.isPlain_displayMagnitude h
    (hsize.imp_left fun hwhole => Nat.dvd_of_mod_eq_zero (of_decide_eq_true hwhole))
  obtain ⟨tokens, tree, hscan, hparse, heval⟩ := exists_eval_displayText h hplain
  exact ⟨tokens, tree, hscan, hparse, heval, runSource_of_eval hscan hparse heval⟩

/-- The double nearest to `10⁻⁴` is the least that is not below it. -/
theorem isMagnitude_least : Double.IsMagnitude (7378697629483821 * 2 ^ 1008) := by decide +kernel

/-- The least number that is displayed without an exponent though it has a fraction, with a minus;
without the minus it has another text. -/
theorem runSource_displayText_of_least :
    ∃ x : Double, x = .finite true (7378697629483821 * 2 ^ 1008) isMagnitude_least ∧
      (x.isWhole = true ∨ Double.scale ≤ 10 ^ 4 * (7378697629483821 * 2 ^ 1008)) ∧
      x.displayText = "-0.0001" ∧
      (∃ tokens tree, scan "-0.0001" = .ok tokens ∧ parse tokens = .ok tree ∧
        tree.eval = .ok (.number x)) ∧
      runSource "-0.0001" = .ok "-0.0001" ∧ x.abs.displayText ≠ "-0.0001" := by
  have hsize : Double.scale ≤ 10 ^ 4 * (7378697629483821 * 2 ^ 1008) := by decide +kernel
  have htext : (Double.finite true _ isMagnitude_least).displayText = "-0.0001" := by
    decide +kernel
  obtain ⟨hreads, hinjective⟩ := runSource_displayText
  have hne {units : Nat} (h : Double.IsMagnitude units) :
      (Double.finite true units h).abs.displayText ≠ (Double.finite true units h).displayText :=
    mt (hinjective _ _ (by simp [Double.abs]) (by simp)).1 (by simp [Double.abs])
  obtain ⟨tokens, tree, hscan, hparse, heval, hrun⟩ :=
    hreads true _ isMagnitude_least _ rfl (.inr hsize)
  rw [htext] at hscan hrun
  exact ⟨_, rfl, .inr hsize, htext, ⟨tokens, tree, hscan, hparse, heval⟩, hrun,
    fun heq => hne isMagnitude_least (heq.trans htext.symm)⟩

end LoxExpr
