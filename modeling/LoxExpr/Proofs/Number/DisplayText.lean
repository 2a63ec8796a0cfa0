import LoxExpr.Proofs.Number.LiteralText
import LoxExpr.Proofs.Number.Point

/-!
# Display texts read back

A number is displayed in full if it is whole, and with the fewest digits otherwise. Main statements
`isPlain_displayMagnitude`: without its sign the text is a plain numeral, unless there is a fraction
and the value is too small; `real?_displayText`: the text is read as the number, sign included, so
that no two numbers share one (`displayText_injective`).
-/

namespace LoxExpr

/-! ## The sign -/

/-- A sign does not change which magnitude a decimal is read as. -/
theorem Decimal.toDouble_signed {d : Decimal} {units : Nat} {hmagnitude : Double.IsMagnitude units}
    (h : d.toDouble false = .finite false units hmagnitude) (negative : Bool) :
    d.toDouble negative = .finite negative units hmagnitude := by
  obtain ⟨num, den, hden, hratio, hd⟩ := toDouble_eq_ofRatio false d
  obtain ⟨num', den', hden', hratio', hd'⟩ := toDouble_eq_ofRatio negative d
  rw [hd', Double.ofRatio_congr negative hden' hden (hratio'.trans hratio.symm)]
  rw [hd] at h
  unfold Double.ofRatio at h ⊢
  split at h
  · next hlt =>
    cases h
    exact dif_pos hlt
  · cases h

namespace Numeral

/-! ## Numerals with an exponent or a sign -/

/-- A text without a sign that is read as a decimal, and the double nearest to that. -/
structure IsNumeralOf (text : List Char) (x : Double) : Prop where
  head : ∃ c rest, text = c :: rest ∧ c.isDigit
  visible : ∀ c ∈ text, IsVisible c
  decimal : ∃ d, decimal? text = some d ∧ d.toDouble false = x

theorem IsPlain.isNumeralOf {text : List Char} (h : IsPlain text) :
    IsNumeralOf text ((Decimal.ofNumeral text).toDouble false) where
  head := h.head
  visible := h.isVisible
  decimal := ⟨_, decimal?_of_isPlain h, rfl⟩

theorem IsNumeralOf.toDouble_ofNumeral {text : List Char} {x : Double} (h : IsNumeralOf text x)
    (hplain : IsPlain text) : (Decimal.ofNumeral text).toDouble false = x := by
  obtain ⟨d, hdecimal, hd⟩ := h.decimal
  rw [decimal?_of_isPlain hplain, Option.some_inj] at hdecimal
  rw [hdecimal, hd]

theorem exponent?_signed (negative : Bool) {digits : List Char} (h : IsDigits digits) :
    exponent? ('e' :: (if negative then '-' else '+') :: digits) =
      some (Double.signed negative (Decimal.ofDigits digits)) := by
  have hall : digits.all Char.isDigit = true := List.all_eq_true.2 h.2
  cases negative <;> simp [exponent?, sign, h.1, hall, Double.signed]

/-- The digits of an exponent, filled up to two, write it. -/
theorem ofDigits_padded (n : Nat) :
    let written := if (Nat.toDigits 10 n).length < 2 then '0' :: Nat.toDigits 10 n
      else Nat.toDigits 10 n
    IsDigits written ∧ Decimal.ofDigits written = n := by
  have hdigits := isDigits_toDigits n
  have hvalue := Decimal.ofDigits_toDigits n
  dsimp only
  split
  · exact ⟨⟨List.cons_ne_nil _ _, List.forall_mem_cons.2 ⟨rfl, hdigits.2⟩⟩, hvalue⟩
  · exact ⟨hdigits, hvalue⟩

/-- The exponent of a numeral in scientific form is the place of the point after the first digit. -/
theorem exists_exponent (c : Char) (fraction : List Char) (point : Int) :
    ∃ (negative : Bool) (written : List Char), IsDigits written ∧
      exponent? ('e' :: (if negative then '-' else '+') :: written) = some (point - 1) ∧
      Double.scientific (c :: fraction) point =
        c :: ((if fraction.isEmpty then [] else '.' :: fraction) ++
          'e' :: (if negative then '-' else '+') :: written) := by
  obtain ⟨hwritten, hvalue⟩ := ofDigits_padded (point - 1).natAbs
  have hsigned : Double.signed (point - 1 < 0) (point - 1).natAbs = point - 1 := by
    unfold Double.signed
    split <;> simp only [decide_eq_true_eq] at * <;> omega
  refine ⟨point - 1 < 0, _, hwritten, ?_, ?_⟩
  · rw [exponent?_signed _ hwritten, hvalue, hsigned]
  · simp only [decide_eq_true_eq]
    rfl

/-- A run of digits ends before what is no digit. -/
theorem span_digits {digits : List Char} {c : Char} (h : ∀ d ∈ digits, d.isDigit)
    (hc : c.isDigit = false) (rest : List Char) :
    (digits ++ c :: rest).takeWhile Char.isDigit = digits ∧
      (digits ++ c :: rest).dropWhile Char.isDigit = c :: rest := by
  rw [List.takeWhile_append_of_pos h, List.dropWhile_append_of_pos h]
  simp [hc]

/-- A numeral with an exponent is read as the digits with the point at its place. -/
theorem isNumeralOf_scientific {digits : List Char} (h : IsDigits digits) (point : Int) :
    IsNumeralOf (Double.scientific digits point)
      ((Decimal.mk (Decimal.ofDigits digits) (point - digits.length)).toDouble false) := by
  obtain ⟨c, fraction, rfl⟩ := List.exists_cons_of_ne_nil h.1
  obtain ⟨hc, hfraction⟩ := List.forall_mem_cons.1 h.2
  obtain ⟨negative, written, hwritten, hexponent, htext⟩ := exists_exponent c fraction point
  rw [htext]
  refine ⟨⟨c, _, rfl, hc⟩, ?_, _, ?_, rfl⟩
  · have hsign : IsVisible (if negative then '-' else '+') := by
      cases negative <;> decide
    have hmem : ∀ d ∈ if fraction.isEmpty then [] else '.' :: fraction, IsVisible d := by
      split
      · simp
      · exact List.forall_mem_cons.2 ⟨by decide, fun d hd => isVisible_of_isDigit (hfraction d hd)⟩
    simp only [List.forall_mem_cons, List.forall_mem_append]
    exact ⟨isVisible_of_isDigit hc, hmem, by decide, hsign,
      fun d hd => isVisible_of_isDigit (hwritten.2 d hd)⟩
  · have he : ('e').isDigit = false := by decide
    have hpoint : ('.').isDigit = false := by decide
    have hspan := span_digits hfraction he
    rcases eq_or_ne fraction [] with rfl | hne
    · simp [decimal?, hc, he, hexponent]
    · simp [decimal?, hc, hpoint, hne, hspan, hexponent]
      omega

/-- A minus before a numeral makes the number negative. -/
theorem real?_of_isNumeralOf {text : String} {negative : Bool} {magnitude : List Char} {units : Nat}
    {hmagnitude : Double.IsMagnitude units}
    (htext : text.toList = Double.signText negative ++ magnitude)
    (h : IsNumeralOf magnitude (.finite false units hmagnitude)) :
    real? text = some (.finite negative units hmagnitude) := by
  obtain ⟨⟨c, rest, rfl, hc⟩, hvisible, d, hdecimal, hd⟩ := h
  have hsign : sign text.toList = (negative, c :: rest) := by
    cases negative with
    | false => exact htext ▸ sign_of_isDigit hc rest
    | true => rw [htext]; rfl
  have hall : ∀ d ∈ text.toList, IsVisible d := by
    rw [htext]
    cases negative with
    | false => exact hvisible
    | true => exact List.forall_mem_cons.2 ⟨by decide, hvisible⟩
  rw [real?_of_body hall hsign hc, hdecimal, Option.map_some, Decimal.toDouble_signed hd]

end Numeral

namespace Double

section
variable {units : Nat}

/-! ## Layouts of a magnitude -/

/-- The digits of a whole value write its magnitude. -/
theorem toDouble_whole (hmagnitude : IsMagnitude units) (h : scale ∣ units) :
    (Decimal.ofNumeral (Nat.toDigits 10 (units / scale))).toDouble false =
      .finite false units hmagnitude := by
  rw [Decimal.ofNumeral_toDigits]
  by_cases hzero : units = 0
  · subst hzero
    exact if_pos (Nat.zero_div _)
  · refine Decimal.toDouble_of_close false hzero hmagnitude ?_
    have hvalue : (Decimal.mk (units / scale) 0).value * scale = units := by
      rw [Decimal.value, zpow_zero, mul_one]
      exact_mod_cast Nat.div_mul_cancel h
    have hpos : (0 : ℚ) < units := by exact_mod_cast Nat.pos_of_ne_zero hzero
    rw [hvalue, sub_self, abs_zero]
    positivity

theorem isNumeralOf_whole (hmagnitude : IsMagnitude units) (h : scale ∣ units) :
    Numeral.IsNumeralOf (Nat.toDigits 10 (units / scale)) (.finite false units hmagnitude) := by
  rw [← toDouble_whole hmagnitude h]
  exact Numeral.IsPlain.isNumeralOf (.inl (Numeral.isDigits_toDigits _))

theorem isPlain_positional (hmagnitude : IsMagnitude units) (h : units ≠ 0) :
    Numeral.IsPlain (positional (significant units).1 (significant units).2) := by
  obtain ⟨whole, fraction, hwhole, hfraction, htext, -⟩ := toDouble_positional h hmagnitude
  exact .inr ⟨whole, fraction, hwhole, hfraction, htext⟩

theorem isNumeralOf_positional (hmagnitude : IsMagnitude units) (h : units ≠ 0) :
    Numeral.IsNumeralOf (positional (significant units).1 (significant units).2)
      (.finite false units hmagnitude) := by
  have hplain := isPlain_positional hmagnitude h
  obtain ⟨whole, fraction, -, -, htext, hread⟩ := toDouble_positional h hmagnitude
  rw [← hread, ← htext]
  exact hplain.isNumeralOf

theorem isNumeralOf_scientific (hmagnitude : IsMagnitude units) (h : units ≠ 0) :
    Numeral.IsNumeralOf (scientific (significant units).1 (significant units).2)
      (.finite false units hmagnitude) := by
  obtain ⟨hdigits, hvalue⟩ := significant_eq (coefficient_shortest_ne_zero h hmagnitude)
  rw [← toDouble_shortest h hmagnitude, ← Decimal.toDouble_congr false hvalue]
  exact Numeral.isNumeralOf_scientific hdigits _

/-! ## The text -/

/-- The text of a magnitude as it is displayed, without a sign. -/
def displayMagnitude (units : Nat) : List Char :=
  if scale ∣ units then Nat.toDigits 10 (units / scale)
  else if isPlain (significant units).2 then positional (significant units).1 (significant units).2
  else scientific (significant units).1 (significant units).2

theorem toList_displayText (negative : Bool) (hmagnitude : IsMagnitude units) :
    (Double.finite negative units hmagnitude).displayText.toList =
      signText negative ++ displayMagnitude units := by
  simp only [displayText, displayMagnitude, Nat.dvd_iff_mod_eq_zero]
  by_cases hwhole : units % scale = 0
  · rw [if_pos hwhole, if_pos hwhole, String.toList_ofList]
  · have hne := ne_zero_of_not_dvd (mt Nat.mod_eq_zero_of_dvd hwhole)
    simp only [shortText, textWith, hwhole, hne, if_false, String.toList_ofList]

/-- Without a fraction, and also with one unless the value is too small, what is displayed is a
plain numeral. -/
theorem isPlain_displayMagnitude (hmagnitude : IsMagnitude units)
    (h : scale ∣ units ∨ scale ≤ 10 ^ 4 * units) : Numeral.IsPlain (displayMagnitude units) := by
  unfold displayMagnitude
  by_cases hwhole : scale ∣ units
  · rw [if_pos hwhole]
    exact .inl (Numeral.isDigits_toDigits _)
  · have hpoint := isPlain_significant hmagnitude hwhole (h.resolve_left hwhole)
    rw [if_neg hwhole, if_pos hpoint]
    exact isPlain_positional hmagnitude (ne_zero_of_not_dvd hwhole)

/-- What is displayed of a magnitude writes it. -/
theorem isNumeralOf_displayMagnitude (hmagnitude : IsMagnitude units) :
    Numeral.IsNumeralOf (displayMagnitude units) (.finite false units hmagnitude) := by
  unfold displayMagnitude
  split
  · next hwhole => exact isNumeralOf_whole hmagnitude hwhole
  · next hwhole =>
    have hne := ne_zero_of_not_dvd hwhole
    split
    · exact isNumeralOf_positional hmagnitude hne
    · exact isNumeralOf_scientific hmagnitude hne

/-- The text of a number is read as that number, sign included. -/
theorem real?_displayText {x : Double} (h : x ≠ .nan) : Numeral.real? x.displayText = some x := by
  match x with
  | .nan => exact absurd rfl h
  | .infinity false => decide
  | .infinity true => decide
  | .finite negative units hmagnitude =>
    exact Numeral.real?_of_isNumeralOf (toList_displayText negative hmagnitude)
      (isNumeralOf_displayMagnitude hmagnitude)

/-- Two numbers, zeros of either sign and infinities included, do not share a text. -/
theorem displayText_injective {x y : Double} (hx : x ≠ .nan) (hy : y ≠ .nan)
    (h : x.displayText = y.displayText) : x = y := by
  have hread := real?_displayText hx
  rw [h, real?_displayText hy, Option.some_inj] at hread
  exact hread.symm

end

end Double

end LoxExpr
