import Mathlib
import LoxExpr.Number.Numeral

/-!
# Plain numerals

The numerals of the language: digits, and perhaps a point with digits after it. All the liberties
of free-form numerals come to nothing on them.

Main statement `real?_of_isPlain`: a plain numeral is read as the double nearest to its decimal. As
it has no sign, neither has the number (`Decimal.isUnsigned_toDouble`).
-/

namespace LoxExpr

/-! ## Digits -/

namespace Numeral

def IsDigits (text : List Char) : Prop := text ≠ [] ∧ ∀ c ∈ text, c.isDigit

/-- Digits, or digits on both sides of a point. -/
def IsPlain (text : List Char) : Prop :=
  IsDigits text ∨
    ∃ whole fraction, IsDigits whole ∧ IsDigits fraction ∧ text = whole ++ '.' :: fraction

theorem toNat_of_isDigit {c : Char} (h : c.isDigit) : 48 ≤ c.toNat ∧ c.toNat ≤ 57 := by
  simpa [Char.isDigit, UInt32.le_iff_toNat_le] using h

/-- A plain numeral begins with a digit. -/
theorem IsPlain.head {text : List Char} (h : IsPlain text) :
    ∃ c rest, text = c :: rest ∧ c.isDigit := by
  obtain ⟨hne, hd⟩ | ⟨whole, fraction, ⟨hne, hd⟩, -, rfl⟩ := h
  · obtain ⟨c, rest, rfl⟩ := List.exists_cons_of_ne_nil hne
    exact ⟨c, rest, rfl, hd c (by simp)⟩
  · obtain ⟨c, rest, rfl⟩ := List.exists_cons_of_ne_nil hne
    exact ⟨c, _, rfl, hd c (by simp)⟩

theorem IsPlain.mem {text : List Char} (h : IsPlain text) {c : Char} (hc : c ∈ text) :
    c.isDigit ∨ c = '.' := by
  obtain ⟨-, hd⟩ | ⟨whole, fraction, ⟨-, hw⟩, ⟨-, hf⟩, rfl⟩ := h
  · exact .inl (hd c hc)
  · obtain hc | rfl | hc : c ∈ whole ∨ c = '.' ∨ c ∈ fraction := by simpa using hc
    · exact .inl (hw c hc)
    · exact .inr rfl
    · exact .inl (hf c hc)

/-! ## Preparation does nothing -/

/-- A character that the reading of a numeral neither leaves out nor takes for another. -/
def IsVisible (c : Char) : Prop := 33 ≤ c.toNat ∧ c.toNat < 127 ∧ c ≠ '_'

instance : DecidablePred IsVisible := fun _ => inferInstanceAs (Decidable (_ ∧ _))

theorem isVisible_of_isDigit {c : Char} (h : c.isDigit) : IsVisible c := by
  have hbound := toNat_of_isDigit h
  refine ⟨by omega, by omega, ?_⟩
  rintro rfl
  exact absurd hbound (by decide)

theorem IsPlain.isVisible {text : List Char} (h : IsPlain text) : ∀ c ∈ text, IsVisible c := by
  intro c hc
  obtain hd | rfl := h.mem hc
  · exact isVisible_of_isDigit hd
  · decide

theorem dropWhile_isPadding {text : List Char} (h : ∀ c ∈ text, IsVisible c) :
    text.dropWhile isPadding = text := by
  cases text with
  | nil => rfl
  | cons c rest =>
    have hc := h c (by simp)
    have hspace : c ≠ ' ' := by
      rintro rfl
      exact absurd hc (by decide)
    have hpad : isPadding c = false := by
      obtain ⟨hlow, -⟩ := hc
      simp only [isPadding, hspace, decide_false, Bool.false_or, Bool.and_eq_false_iff,
        decide_eq_false_iff_not]
      omega
    rw [List.dropWhile_cons, hpad]
    rfl

theorem body_of_visible {text : String} (h : ∀ c ∈ text.toList, IsVisible c) :
    body text = text.toList := by
  have hmap : text.toList.map plainChar = text.toList := by
    conv => rhs; rw [← List.map_id text.toList]
    refine List.map_congr_left fun c hc => ?_
    simp [plainChar, (h c hc).2.1]
  simp only [body, hmap, dropWhile_isPadding h]
  rw [dropWhile_isPadding fun c hc => h c (List.mem_reverse.1 hc), List.reverse_reverse]

theorem body_of_isPlain {text : String} (h : IsPlain text.toList) : body text = text.toList :=
  body_of_visible h.isVisible

theorem dropUnderscores_of_not_mem {text : List Char} {previous : Char} (h : '_' ∉ text)
    (hprevious : previous ≠ '_') : dropUnderscores previous text = some text := by
  induction text generalizing previous with
  | nil => simp [dropUnderscores, hprevious]
  | cons c rest ih =>
    have hc : c ≠ '_' := fun heq => h (by simp [heq])
    have hrest := ih (fun hmem => h (List.mem_cons_of_mem _ hmem)) hc
    rw [dropUnderscores]
    · simp [hprevious, hrest]
    · exact hc

theorem not_mem_underscore_of_visible {text : List Char} (h : ∀ c ∈ text, IsVisible c) :
    '_' ∉ text := fun hmem => (h _ hmem).2.2 rfl

theorem IsPlain.not_mem_underscore {text : List Char} (h : IsPlain text) : '_' ∉ text :=
  not_mem_underscore_of_visible h.isVisible

theorem sign_of_isDigit {c : Char} (h : c.isDigit) (rest : List Char) :
    sign (c :: rest) = (false, c :: rest) := by
  unfold sign
  split
  · next heq =>
    cases heq
    exact absurd h (by decide)
  · next heq =>
    cases heq
    exact absurd h (by decide)
  · rfl

theorem IsPlain.sign_eq {text : List Char} (h : IsPlain text) : sign text = (false, text) := by
  obtain ⟨c, rest, rfl, hc⟩ := h.head
  exact sign_of_isDigit hc rest

/-- What begins with a digit is no word, whatever the case of its letters. -/
theorem ne_word_of_isDigit {c : Char} (h : c.isDigit) (rest : List Char) (word : String)
    (hword : word.toList.head?.any Char.isDigit = false) :
    String.ofList ((c :: rest).map Char.toLower) ≠ word := by
  rintro rfl
  have hlower : c.toLower = c := by
    have hbound := toNat_of_isDigit h
    refine dif_neg fun hle => ?_
    have hupper : 65 ≤ c.toNat := by simpa [UInt32.le_iff_toNat_le] using hle.1
    omega
  simp [hlower, h] at hword

/-! ## The decimal -/

theorem span_of_forall {p : Char → Bool} {text : List Char} (h : ∀ c ∈ text, p c) :
    text.takeWhile p = text ∧ text.dropWhile p = [] := by
  have ht : (text ++ []).takeWhile p = text ++ [].takeWhile p := List.takeWhile_append_of_pos h
  have hd : (text ++ []).dropWhile p = [].dropWhile p := List.dropWhile_append_of_pos h
  simpa using And.intro ht hd

theorem ne_point_of_isDigit {digits : List Char} (h : ∀ c ∈ digits, c.isDigit) :
    ∀ c ∈ digits, decide (c ≠ '.') = true := by
  intro c hc
  have := toNat_of_isDigit (h c hc)
  refine decide_eq_true ?_
  rintro rfl
  exact absurd this (by decide)

theorem decimal?_of_isPlain {text : List Char} (h : IsPlain text) :
    decimal? text = some (Decimal.ofNumeral text) := by
  obtain ⟨hne, hd⟩ | ⟨whole, fraction, ⟨hne, hw⟩, ⟨-, hf⟩, rfl⟩ := h
  · obtain ⟨htake, hdrop⟩ := span_of_forall hd
    obtain ⟨htake', hdrop'⟩ := span_of_forall (ne_point_of_isDigit hd)
    simp only [decimal?, Decimal.ofNumeral, htake, hdrop, htake', hdrop']
    simp [hne, exponent?]
  · obtain ⟨htake, hdrop⟩ := span_of_forall hf
    have hpoint := ne_point_of_isDigit hw
    simp only [decimal?, Decimal.ofNumeral, List.takeWhile_append_of_pos hw,
      List.dropWhile_append_of_pos hw, List.takeWhile_append_of_pos hpoint,
      List.dropWhile_append_of_pos hpoint]
    simp [htake, hdrop, hne, exponent?]

/-- What begins with a digit is read as the double nearest to its decimal, if it is one. -/
theorem real?_of_body {text : String} {negative : Bool} {c : Char} {rest : List Char}
    (hvisible : ∀ d ∈ text.toList, IsVisible d) (hsign : sign text.toList = (negative, c :: rest))
    (hc : c.isDigit) : real? text = (decimal? (c :: rest)).map (·.toDouble negative) := by
  have hinf := ne_word_of_isDigit hc rest "inf" (by decide)
  have hinfinity := ne_word_of_isDigit hc rest "infinity" (by decide)
  have hnan := ne_word_of_isDigit hc rest "nan" (by decide)
  have hdrop := dropUnderscores_of_not_mem (not_mem_underscore_of_visible hvisible)
    (by decide : ' ' ≠ '_')
  simp only [real?, body_of_visible hvisible, hdrop, hsign, Option.bind_eq_bind, Option.bind_some,
    hinf, hinfinity, hnan, or_self, if_false]

/-- A plain numeral is read as the double nearest to its decimal. -/
theorem real?_of_isPlain {text : String} (h : IsPlain text.toList) :
    real? text = some ((Decimal.ofNumeral text.toList).toDouble false) := by
  obtain ⟨c, rest, htext, hc⟩ := h.head
  have hsign : sign text.toList = (false, c :: rest) := htext ▸ sign_of_isDigit hc rest
  rw [real?_of_body h.isVisible hsign hc, ← htext, decimal?_of_isPlain h]
  rfl

/-- A plain numeral has no sign, so a whole number that it spells is not negative. -/
theorem nonneg_of_integer?_eq_some {text : String} (h : IsPlain text.toList) {n : Int}
    (hn : integer? text = some n) : 0 ≤ n := by
  simp only [integer?, body_of_isPlain h, h.sign_eq,
    dropUnderscores_of_not_mem h.not_mem_underscore (by decide : ' ' ≠ '_'), Option.bind_eq_bind,
    Option.bind_some] at hn
  split at hn
  · cases hn
  · cases hn
    exact Int.natCast_nonneg _

end Numeral

/-! ## Doubles without a sign -/

/-- A number, and its sign bit is not set. -/
def Double.IsUnsigned (x : Double) : Prop := x ≠ .nan ∧ x.isNegative = false

theorem Double.isUnsigned_zero : (Double.zero false).IsUnsigned := ⟨by simp [zero], rfl⟩

theorem Double.isUnsigned_infinity : (Double.infinity false).IsUnsigned := ⟨by simp, rfl⟩

theorem Double.isUnsigned_ofRatio (num den : Nat) : (Double.ofRatio false num den).IsUnsigned := by
  unfold Double.ofRatio
  split
  · exact ⟨by simp, rfl⟩
  · exact isUnsigned_infinity

theorem Decimal.isUnsigned_toDouble (d : Decimal) : (d.toDouble false).IsUnsigned := by
  unfold Decimal.toDouble
  split
  · exact Double.isUnsigned_zero
  · split <;> split
    · exact Double.isUnsigned_infinity
    · exact Double.isUnsigned_ofRatio _ _
    · exact Double.isUnsigned_zero
    · exact Double.isUnsigned_ofRatio _ _

end LoxExpr
