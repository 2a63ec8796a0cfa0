import LoxExpr.Number.Layout
import LoxExpr.Proofs.Number.Shortest

/-!
# Number texts read back

The positional text of a number is a plain numeral, and the decimal that it spells has the value of
the digits it was laid out from. Main statements `real?_literalText`: the text of a finite number
without a sign is read as that number, and it is no whole number; `integer?_toString`: a whole
number is read back too.
-/

namespace LoxExpr

/-! ## Digits -/

theorem Numeral.isDigits_toDigits (n : Nat) : IsDigits (Nat.toDigits 10 n) :=
  ⟨Nat.toDigits_ne_nil, fun _ hc => Nat.isDigit_of_mem_toDigits (by decide) (by decide) hc⟩

namespace Decimal

theorem ofDigits_eq (digits : List Char) : ofDigits digits = Nat.ofDigitChars 10 digits 0 := rfl

theorem ofDigits_append (front back : List Char) :
    ofDigits (front ++ back) = ofDigits front * 10 ^ back.length + ofDigits back := by
  simp only [ofDigits_eq]
  rw [Nat.ofDigitChars_append, Nat.ofDigitChars_eq_ofDigitChars_zero, Nat.mul_comm]

theorem ofDigits_replicate_zero (n : Nat) : ofDigits (List.replicate n '0') = 0 := by
  simp [ofDigits_eq]

theorem ofDigits_toDigits (n : Nat) : ofDigits (Nat.toDigits 10 n) = n := by
  simp [ofDigits_eq]

theorem ofNumeral_toDigits (n : Nat) : ofNumeral (Nat.toDigits 10 n) = ⟨n, 0⟩ := by
  have hdigits := (Numeral.isDigits_toDigits n).2
  obtain ⟨htake, hdrop⟩ := Numeral.span_of_forall (Numeral.ne_point_of_isDigit hdigits)
  simp only [ofNumeral, htake, hdrop, List.drop_nil, List.append_nil, ofDigits_toDigits]
  rfl

theorem ofNumeral_of_isDigits {whole : List Char} (h : Numeral.IsDigits whole)
    (fraction : List Char) :
    ofNumeral (whole ++ '.' :: fraction) = ⟨ofDigits (whole ++ fraction), -fraction.length⟩ := by
  have hpoint := Numeral.ne_point_of_isDigit h.2
  simp only [ofNumeral, List.takeWhile_append_of_pos hpoint, List.dropWhile_append_of_pos hpoint]
  simp

/-- A power of ten moves from the coefficient to the exponent. -/
theorem value_mul_pow (n k : Nat) (exponent : Int) :
    (mk (n * 10 ^ k) exponent).value = (mk n (k + exponent)).value := by
  simp only [value, Nat.cast_mul, Nat.cast_pow, Nat.cast_ofNat]
  rw [zpow_add₀ (by norm_num), zpow_natCast, mul_assoc]

/-- Zeros at the end of the digits count for the exponent. -/
theorem ofDigits_rdropWhile (digits : List Char) :
    ∃ zeros, digits.length = (digits.rdropWhile (· = '0')).length + zeros ∧
      ofDigits digits = ofDigits (digits.rdropWhile (· = '0')) * 10 ^ zeros := by
  induction digits using List.reverseRecOn with
  | nil => exact ⟨0, rfl, rfl⟩
  | append_singleton digits c ih =>
    by_cases hc : c = '0'
    · subst hc
      obtain ⟨zeros, hlength, hvalue⟩ := ih
      rw [List.rdropWhile_concat_pos _ _ _ (by simp), ofDigits_append, hvalue, Nat.mul_assoc]
      exact ⟨zeros + 1, by simp [hlength, Nat.add_assoc], rfl⟩
    · rw [List.rdropWhile_concat_neg _ _ _ (by simpa using hc)]
      exact ⟨0, rfl, (Nat.mul_one _).symm⟩

end Decimal

/-! ## The positional text -/

namespace Double

section
variable {digits : List Char}

theorem isDigit_of_mem_zeros {n : Nat} : ∀ c ∈ List.replicate n '0', c.isDigit := by
  intro c hc
  rw [List.eq_of_mem_replicate hc]
  rfl

theorem IsDigits.append {front back : List Char} (hne : front ++ back ≠ [])
    (hfront : ∀ c ∈ front, c.isDigit) (hback : ∀ c ∈ back, c.isDigit) :
    Numeral.IsDigits (front ++ back) :=
  ⟨hne, fun c hc => (List.mem_append.1 hc).elim (hfront c) (hback c)⟩

/-- A text is a numeral with a point and digits on both sides of it, and writes a decimal. -/
def SpellsOut (text : List Char) (d : Decimal) : Prop :=
  ∃ whole fraction, Numeral.IsDigits whole ∧ Numeral.IsDigits fraction ∧
    text = whole ++ '.' :: fraction ∧
    (Decimal.mk (Decimal.ofDigits (whole ++ fraction)) (-fraction.length)).value = d.value

theorem spellsOut_between (h : Numeral.IsDigits digits) {k : Nat} (hk : k + 1 < digits.length) :
    SpellsOut (positional digits (k + 1 : Nat))
      ⟨Decimal.ofDigits digits, (k + 1 : Nat) - digits.length⟩ := by
  have hwhole : (digits.take (k + 1)).length = k + 1 := List.length_take_of_le hk.le
  have hfraction : digits.drop (k + 1) ≠ [] := by simpa using hk
  refine ⟨digits.take (k + 1), digits.drop (k + 1), ⟨?_, ?_⟩, ⟨hfraction, ?_⟩, ?_, ?_⟩
  · exact List.ne_nil_of_length_pos (by omega)
  · exact fun c hc => h.2 c (List.mem_of_mem_take hc)
  · exact fun c hc => h.2 c (List.mem_of_mem_drop hc)
  · simp [positional, hwhole, hfraction]
  · rw [List.take_append_drop, List.length_drop, Nat.cast_sub hk.le, neg_sub]

/-- Zeros fill up to the point, and one stands after it. -/
theorem spellsOut_after (h : Numeral.IsDigits digits) {k : Nat} (hk : digits.length ≤ k + 1) :
    SpellsOut (positional digits (k + 1 : Nat))
      ⟨Decimal.ofDigits digits, (k + 1 : Nat) - digits.length⟩ := by
  have hwhole : digits.take (k + 1) = digits := List.take_of_length_le hk
  refine ⟨digits ++ List.replicate (k + 1 - digits.length) '0', List.replicate 1 '0', ?_,
    ⟨List.cons_ne_nil _ _, isDigit_of_mem_zeros⟩, ?_, ?_⟩
  · exact IsDigits.append (List.append_ne_nil_of_left_ne_nil h.1 _) h.2 isDigit_of_mem_zeros
  · simp [positional, hwhole, List.drop_of_length_le hk]
  · rw [List.append_assoc, List.replicate_append_replicate, Decimal.ofDigits_append,
      Decimal.ofDigits_replicate_zero, Nat.add_zero, Decimal.value_mul_pow, List.length_replicate,
      List.length_replicate]
    congr 2
    omega

/-- A zero stands before the point, and zeros after it up to the digits. -/
theorem spellsOut_before (h : Numeral.IsDigits digits) {point : Int} (hpoint : point ≤ 0) :
    SpellsOut (positional digits point) ⟨Decimal.ofDigits digits, point - digits.length⟩ := by
  refine ⟨List.replicate 1 '0', List.replicate point.natAbs '0' ++ digits,
    ⟨List.cons_ne_nil _ _, isDigit_of_mem_zeros⟩, ?_, ?_, ?_⟩
  · exact IsDigits.append (List.append_ne_nil_of_right_ne_nil _ h.1) isDigit_of_mem_zeros h.2
  · match point with
    | .ofNat 0 => rfl
    | .negSucc _ => rfl
    | .ofNat (k + 1) => exact absurd hpoint (by simp only [Int.ofNat_eq_natCast]; omega)
  · rw [← List.append_assoc, List.replicate_append_replicate, Decimal.ofDigits_append,
      Decimal.ofDigits_replicate_zero, Nat.zero_mul, Nat.zero_add, List.length_append,
      List.length_replicate]
    congr 2
    omega

/-- Wherever the point is, the positional text writes the digits with the point at its place. -/
theorem spellsOut_positional (h : Numeral.IsDigits digits) (point : Int) :
    SpellsOut (positional digits point) ⟨Decimal.ofDigits digits, point - digits.length⟩ := by
  rcases lt_or_ge 0 point with hpos | hnonpos
  · obtain ⟨k, rfl⟩ : ∃ k : Nat, point = (k + 1 : Nat) := ⟨point.toNat - 1, by omega⟩
    rcases Nat.lt_or_ge (k + 1) digits.length with hlt | hle
    · exact spellsOut_between h hlt
    · exact spellsOut_after h hle
  · exact spellsOut_before h hnonpos

end

/-! ## Reading back -/

theorem coefficient_shortest_ne_zero {units : Nat} (h : units ≠ 0)
    (hmagnitude : IsMagnitude units) : (shortest units).coefficient ≠ 0 := by
  have hread := toDouble_shortest h hmagnitude
  intro hzero
  rw [Decimal.toDouble, if_pos hzero] at hread
  cases hread
  exact h rfl

/-- The significant digits and their place write the shortest decimal. -/
theorem significant_eq {units : Nat} (h : (shortest units).coefficient ≠ 0) :
    Numeral.IsDigits (significant units).1 ∧
      (Decimal.mk (Decimal.ofDigits (significant units).1)
        ((significant units).2 - (significant units).1.length)).value = (shortest units).value := by
  unfold significant
  generalize shortest units = d at h ⊢
  obtain ⟨coefficient, exponent⟩ := d
  have hstripped : ((Nat.toDigits 10 coefficient).reverse.dropWhile (· = '0')).reverse =
      (Nat.toDigits 10 coefficient).rdropWhile (· = '0') := rfl
  obtain ⟨zeros, hlength, hvalue⟩ := Decimal.ofDigits_rdropWhile (Nat.toDigits 10 coefficient)
  rw [Decimal.ofDigits_toDigits] at hvalue
  dsimp only
  rw [hstripped, hlength]
  refine ⟨⟨?_, ?_⟩, ?_⟩
  · intro hnil
    rw [hnil] at hvalue
    exact h (hvalue.trans (Nat.zero_mul _))
  · intro c hc
    have hmem : c ∈ Nat.toDigits 10 coefficient := (List.rdropWhile_prefix _ _).subset hc
    exact Nat.isDigit_of_mem_toDigits (by decide) (by decide) hmem
  · conv => rhs; rw [hvalue, Decimal.value_mul_pow]
    congr 2
    push_cast
    omega

/-- The positional text of a positive number is a plain numeral with a point, and it is read as that
number. -/
theorem toDouble_positional {units : Nat} (h : units ≠ 0) (hmagnitude : IsMagnitude units) :
    ∃ whole fraction, Numeral.IsDigits whole ∧ Numeral.IsDigits fraction ∧
      positional (significant units).1 (significant units).2 = whole ++ '.' :: fraction ∧
      (Decimal.ofNumeral (whole ++ '.' :: fraction)).toDouble false =
        .finite false units hmagnitude := by
  obtain ⟨hdigits, hvalue⟩ := significant_eq (coefficient_shortest_ne_zero h hmagnitude)
  obtain ⟨whole, fraction, hwhole, hfraction, htext, htextValue⟩ :=
    spellsOut_positional hdigits (significant units).2
  refine ⟨whole, fraction, hwhole, hfraction, htext, ?_⟩
  rw [Decimal.ofNumeral_of_isDigits hwhole, ← toDouble_shortest h hmagnitude]
  exact Decimal.toDouble_congr false (htextValue.trans hvalue)

/-- The text of a finite number without a sign, zero included, has digits on both sides of a point,
and it is read as that number. -/
theorem toDouble_literalText {units : Nat} (hmagnitude : IsMagnitude units) :
    ∃ whole fraction, Numeral.IsDigits whole ∧ Numeral.IsDigits fraction ∧
      (Double.finite false units hmagnitude).literalText.toList = whole ++ '.' :: fraction ∧
      (Decimal.ofNumeral (whole ++ '.' :: fraction)).toDouble false =
        .finite false units hmagnitude := by
  by_cases hzero : units = 0
  · subst hzero
    have hdigit : Numeral.IsDigits ['0'] :=
      ⟨List.cons_ne_nil _ _, isDigit_of_mem_zeros (n := 1)⟩
    refine ⟨['0'], ['0'], hdigit, hdigit, ?_, ?_⟩
    · simp [literalText, textWith, signText]
    · rw [Decimal.ofNumeral_of_isDigits hdigit]
      exact if_pos rfl
  · obtain ⟨whole, fraction, hwhole, hfraction, htext, hread⟩ :=
      toDouble_positional hzero hmagnitude
    refine ⟨whole, fraction, hwhole, hfraction, ?_, hread⟩
    simp [literalText, textWith, signText, hzero, htext]

end Double

namespace Numeral

/-- A plain numeral is a whole number if it has no point and is not too long. -/
theorem integer?_of_isPlain {text : String} (h : IsPlain text.toList) :
    integer? text =
      if !text.toList.all Char.isDigit || maxIntegerDigits < text.toList.length then none
      else some (Decimal.ofDigits text.toList : Int) := by
  obtain ⟨c, rest, htext, -⟩ := h.head
  simp only [integer?, body_of_isPlain h, h.sign_eq,
    dropUnderscores_of_not_mem h.not_mem_underscore (by decide : ' ' ≠ '_'),
    Option.bind_eq_bind, Option.bind_some]
  simp [htext]

/-- A plain numeral with a point is no whole number. -/
theorem integer?_of_point {text : String} {whole fraction : List Char} (hwhole : IsDigits whole)
    (hfraction : IsDigits fraction) (h : text.toList = whole ++ '.' :: fraction) :
    integer? text = none := by
  have hpoint : text.toList.all Char.isDigit = false := by
    simp [h]
  rw [integer?_of_isPlain (.inr ⟨whole, fraction, hwhole, hfraction, h⟩), hpoint]
  rfl

/-- The text of a finite number without a sign is a plain numeral, is read as that number, and is no
whole number. -/
theorem real?_literalText {units : Nat} (hmagnitude : Double.IsMagnitude units) :
    IsPlain (Double.finite false units hmagnitude).literalText.toList ∧
      integer? (Double.finite false units hmagnitude).literalText = none ∧
      real? (Double.finite false units hmagnitude).literalText =
        some (.finite false units hmagnitude) := by
  obtain ⟨whole, fraction, hwhole, hfraction, htext, hread⟩ :=
    Double.toDouble_literalText hmagnitude
  have hplain : IsPlain (Double.finite false units hmagnitude).literalText.toList :=
    .inr ⟨whole, fraction, hwhole, hfraction, htext⟩
  refine ⟨hplain, integer?_of_point hwhole hfraction htext, ?_⟩
  rw [real?_of_isPlain hplain, htext, hread]

/-- The text of a natural number is a plain numeral and is read as that number, if it is not too
long. -/
theorem integer?_toString {n : Nat} (h : n < 10 ^ maxIntegerDigits) :
    IsPlain (toString n).toList ∧ integer? (toString n) = some (n : Int) := by
  have htext : (toString n).toList = Nat.toDigits 10 n := by simp
  have hdigits := isDigits_toDigits n
  have hplain : IsPlain (toString n).toList := htext ▸ .inl hdigits
  refine ⟨hplain, ?_⟩
  have hlength : (Nat.toDigits 10 n).length ≤ maxIntegerDigits :=
    (Nat.length_toDigits_le_iff (by decide) (by decide)).2 h
  have hall : (Nat.toDigits 10 n).all Char.isDigit = true := List.all_eq_true.2 hdigits.2
  rw [integer?_of_isPlain hplain, htext, hall, Decimal.ofDigits_toDigits]
  simp [hlength]

end Numeral

end LoxExpr
