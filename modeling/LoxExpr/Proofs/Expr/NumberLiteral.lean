import LoxExpr.Proofs.Expr.Limits
import LoxExpr.Proofs.Expr.Writing
import LoxExpr.Proofs.Number.Nearest
import LoxExpr.Proofs.Stages

/-!
# One number for a literal

A number literal is read twice: scanning reads its text as a real number, and the parser reads it as
a whole number first, which evaluating turns into a double later. Main statements `eval_numeral`:
whichever way the parser goes, both are the double nearest to what the digits write;
`number_node`: which way it goes is told by the text.
-/

namespace LoxExpr

/-! ## What digits write -/

/-- The exact value of digits, or of digits on both sides of a point. -/
inductive Numeral.Writes : List Char → ℚ → Prop
  | whole {digits : List Char} (h : IsDigits digits) : Writes digits (Decimal.ofDigits digits)
  | pointed {whole fraction : List Char} (hwhole : IsDigits whole) (hfraction : IsDigits fraction) :
      Writes (whole ++ '.' :: fraction)
        (Decimal.ofDigits whole + Decimal.ofDigits fraction / 10 ^ fraction.length)

section
variable {digits : List Char} {value : ℚ}

theorem Numeral.Writes.isPlain (h : Numeral.Writes digits value) : Numeral.IsPlain digits := by
  cases h with
  | whole h => exact .inl h
  | pointed hwhole hfraction => exact .inr ⟨_, _, hwhole, hfraction, rfl⟩

/-- The texts that write a number are the plain numerals. -/
theorem Numeral.isPlain_iff_exists_writes :
    Numeral.IsPlain digits ↔ ∃ value, Numeral.Writes digits value := by
  constructor
  · rintro (h | ⟨whole, fraction, hwhole, hfraction, rfl⟩)
    · exact ⟨_, .whole h⟩
    · exact ⟨_, .pointed hwhole hfraction⟩
  · rintro ⟨value, h⟩
    exact h.isPlain

/-- The decimal of a numeral has the value that the numeral writes. -/
theorem Decimal.value_ofNumeral (h : Numeral.Writes digits value) :
    (ofNumeral digits).value = value := by
  cases h with
  | whole h =>
    obtain ⟨htake, hdrop⟩ := Numeral.span_of_forall (Numeral.ne_point_of_isDigit h.2)
    simp only [ofNumeral, Decimal.value, htake, hdrop]
    simp
  | @pointed whole fraction hwhole _ =>
    have hten : (10 : ℚ) ^ fraction.length ≠ 0 := by positivity
    rw [ofNumeral_of_isDigits hwhole, ofDigits_append, Decimal.value, zpow_neg, zpow_natCast]
    push_cast
    rw [add_mul, mul_inv_cancel_right₀ hten, div_eq_mul_inv]

/-! ## Whole numbers as doubles -/

/-- A whole number of 64 bits has the double that a decimal of its value is read as. -/
theorem Double.ofInt?_eq_toDouble {n : Nat} {d : Decimal} (hfits : Expr.fitsInteger n)
    (h : d.value = n) : ofInt? n = some (d.toDouble false) := by
  obtain ⟨num, den, hden, hratio, hd⟩ := d.toDouble_eq_ofRatio false
  have hsame : ofRatio false (n * scale) 1 = ofRatio false num den := by
    refine ofRatio_congr false Nat.one_pos hden ?_
    rw [hratio, h, Nat.cast_one, div_one, Nat.cast_mul]
  have hfinite := ofInt?_isSome_of_fitsInteger hfits
  have hnonneg : decide ((n : Int) < 0) = false := decide_eq_false (by omega)
  rw [ofInt?, hnonneg, Int.natAbs_natCast, hsame, ← hd] at hfinite ⊢
  cases hx : d.toDouble false with
  | finite => rfl
  | nan | infinity =>
    rw [hx] at hfinite
    cases hfinite

/-! ## The ways of the parser -/

/-- The tree that a numeral of a given value, with a given nearest double, is read as: a whole
number of 64 bits, unless the digits are too many, or the number is too large, or there is a
point. -/
inductive Expr.IsLiteral (digits : List Char) (value : ℚ) (x : Double) : Expr → Prop
  | integer {n : Nat} (h : Numeral.IsDigits digits) (hlength : digits.length ≤ 4300)
      (hvalue : value = n) (hfits : n < 2 ^ 63) : IsLiteral digits value x (.integer n)
  | overlong (h : Numeral.IsDigits digits) (hlength : 4300 < digits.length) :
      IsLiteral digits value x (.float x)
  | large (h : Numeral.IsDigits digits) (hlength : digits.length ≤ 4300)
      (hvalue : 2 ^ 63 ≤ value) : IsLiteral digits value x (.float x)
  | pointed (h : '.' ∈ digits) : IsLiteral digits value x (.float x)

theorem Expr.fitsInteger_natCast (n : Nat) : fitsInteger n = true ↔ n < 2 ^ 63 := by
  have hpow : Int.pow 2 63 = 2 ^ 63 := rfl
  simp only [fitsInteger, Bool.and_eq_true, decide_eq_true_eq, hpow]
  omega

/-- The parser reads a numeral in one of these ways. -/
theorem Expr.isLiteral_ofNumeral? {text : String} (h : Numeral.Writes text.toList value) :
    ∃ e, ofNumeral? text = some e ∧
      e.IsLiteral text.toList value ((Decimal.ofNumeral text.toList).toDouble false) := by
  have hreal := Numeral.real?_of_isPlain h.isPlain
  have hinteger := Numeral.integer?_of_isPlain h.isPlain
  unfold ofNumeral?
  generalize htext : text.toList = digits at *
  cases h with
  | whole h =>
    have hall : digits.all Char.isDigit = true := List.all_eq_true.2 h.2
    simp only [hall, Bool.not_true, Bool.false_or, decide_eq_true_eq] at hinteger
    rw [hinteger]
    rcases Nat.lt_or_ge Numeral.maxIntegerDigits digits.length with hlong | hshort
    · refine ⟨_, ?_, .overlong h hlong⟩
      rw [if_pos hlong, Option.filter_none, hreal]
      rfl
    · rw [if_neg (Nat.not_lt.2 hshort), Option.filter_some]
      have hfits := fitsInteger_natCast (Decimal.ofDigits digits)
      rcases Nat.lt_or_ge (Decimal.ofDigits digits) (2 ^ 63) with hsmall | hlarge
      · refine ⟨_, ?_, .integer h hshort rfl hsmall⟩
        rw [if_pos (hfits.2 hsmall)]
      · refine ⟨_, ?_, .large h hshort (by exact_mod_cast hlarge)⟩
        rw [if_neg (mt hfits.1 (Nat.not_lt.2 hlarge)), hreal]
        rfl
  | pointed hwhole hfraction =>
    have hpoint := Numeral.integer?_of_point hwhole hfraction htext
    refine ⟨_, ?_, .pointed (by simp)⟩
    rw [hpoint, hreal]
    rfl

theorem Expr.IsLiteral.evalWithin {x : Double} {e : Expr} (h : e.IsLiteral digits value x)
    (hint : ∀ n : Nat, value = n → n < 2 ^ 63 → Double.ofInt? n = some x) (room : Nesting) :
    e.evalWithin room = .ok (.number x) := by
  cases h with
  | integer _ _ hvalue hfits =>
    rw [Expr.evalWithin, hint _ hvalue hfits]
    rfl
  | overlong | large | pointed => rfl

end

/-! ## Literals -/

/-- Digits, perhaps with a point and more digits after it, are one token and are evaluated as the
number that is its literal, in whichever way the parser reads them. That number is the double
nearest to what the digits write, a tie going to the even one, and it is infinite from half a step
beyond the largest double on. -/
theorem eval_numeral {text : String} {value : ℚ} (h : Numeral.Writes text.toList value) :
    ∃ x, Double.IsNearest value x ∧ (∀ y, Double.IsNearest value y → y = x) ∧
      (x = .infinity false ↔ 2 ^ 1024 - 2 ^ 970 ≤ value) ∧
      scan text = .ok [⟨.number, text, .number x, 1⟩, ⟨.eof, "", .absent, 1⟩] ∧
      ∃ e : Expr, e.IsLiteral text.toList value x ∧
        (∀ room, parseWithin room [⟨.number, text, .number x, 1⟩, ⟨.eof, "", .absent, 1⟩] = .ok e) ∧
        ∀ room, e.evalWithin room = .ok (.number x) := by
  have hvalue := Decimal.value_ofNumeral h
  have hnearest := (Decimal.ofNumeral text.toList).isNearest_toDouble
  have hint (n : Nat) (hn : value = n) (hlt : n < 2 ^ 63) :=
    Double.ofInt?_eq_toDouble ((Expr.fitsInteger_natCast n).2 hlt) (hvalue.trans hn)
  rw [hvalue] at hnearest
  obtain ⟨e, hleaf, hliteral⟩ := Expr.isLiteral_ofNumeral? h
  refine ⟨_, hnearest, fun y hy => hy.unique hnearest, hnearest.eq_infinity_iff, ?_, e, hliteral,
    ?_, hliteral.evalWithin hint⟩
  · have hliesOn := Token.liesOn_ofNumeral h.isPlain 1
    have hscans := scans_spaced (List.forall_mem_singleton.2 hliesOn)
    rw [spaced_singleton] at hscans
    exact scan_eq_iff.2 hscans
  · exact parseWithin_leaf hleaf rfl

/-- The first whole number that no double is: it lies in the middle between two, and the lower one
is even. -/
theorem eval_numeral_of_tie :
    Numeral.Writes "9007199254740993".toList 9007199254740993 ∧
      ∃ x, Double.IsNearest 9007199254740993 x ∧
        x.place = some (9007199254740992 * Double.scale : Nat) ∧
        scan "9007199254740993" =
          .ok [⟨.number, "9007199254740993", .number x, 1⟩, ⟨.eof, "", .absent, 1⟩] ∧
        ∃ e : Expr, e.IsLiteral "9007199254740993".toList 9007199254740993 x ∧
          parse [⟨.number, "9007199254740993", .number x, 1⟩, ⟨.eof, "", .absent, 1⟩] = .ok e ∧
          e.eval = .ok (.number x) := by
  have hdigits : Numeral.IsDigits "9007199254740993".toList :=
    ⟨by simp, by simp⟩
  have hvalue : Decimal.ofDigits "9007199254740993".toList = 9007199254740993 := by
    decide +kernel
  have h : Numeral.Writes "9007199254740993".toList 9007199254740993 := by
    have hwrites := Numeral.Writes.whole hdigits
    rw [hvalue] at hwrites
    exact_mod_cast hwrites
  obtain ⟨x, hnearest, hunique, -, hscan, e, hliteral, hparse, heval⟩ := eval_numeral h
  refine ⟨h, x, hnearest, ?_, hscan, e, hliteral, hparse _, heval _⟩
  have hread := (Decimal.ofNumeral "9007199254740993".toList).isNearest_toDouble
  rw [Decimal.value_ofNumeral h] at hread
  rw [← hunique _ hread]
  decide +kernel

/-! ## Whole numbers and floats -/

section
variable {digits : List Char} {value : ℚ}

theorem Numeral.Writes.unique {value' : ℚ} (h : Numeral.Writes digits value)
    (h' : Numeral.Writes digits value') : value = value' := by
  rw [← Decimal.value_ofNumeral h, Decimal.value_ofNumeral h']

/-- A numeral is a whole number for the parser if it has no point, has few enough digits, leading
zeros counted, and fits. -/
theorem Expr.IsLiteral.eq_integer_iff {x : Double} {e : Expr} {n : Int}
    (h : e.IsLiteral digits value x) :
    e = .integer n ↔
      (∀ c ∈ digits, c.isDigit) ∧ digits.length ≤ 4300 ∧ value = n ∧ n < 2 ^ 63 := by
  cases h with
  | @integer m hdigits hlength hvalue hfits =>
    rw [Expr.integer.injEq]
    constructor
    · rintro rfl
      exact ⟨hdigits.2, hlength, by exact_mod_cast hvalue, by exact_mod_cast hfits⟩
    · rintro ⟨-, -, hn, -⟩
      exact_mod_cast hvalue.symm.trans hn
  | overlong _ hlength =>
    refine iff_of_false (by simp) ?_
    rintro ⟨-, hshort, -⟩
    omega
  | large _ _ hlarge =>
    refine iff_of_false (by simp) ?_
    rintro ⟨-, -, rfl, hsmall⟩
    exact absurd hsmall (not_lt.2 (by exact_mod_cast hlarge))
  | pointed hpoint =>
    refine iff_of_false (by simp) ?_
    rintro ⟨hdigits, -⟩
    exact absurd (hdigits _ hpoint) (by decide)

theorem Expr.IsLiteral.integer_or_float {x : Double} {e : Expr} (h : e.IsLiteral digits value x) :
    (∃ n, e = .integer n) ∨ e = .float x := by
  cases h with
  | integer => exact .inl ⟨_, rfl⟩
  | overlong | large | pointed => exact .inr rfl

end

theorem Rule.read_leaf {t : Token} {e : Expr} (h : t.leaf? = some e) (room : Nesting) (stop : Token)
    (rest : List Token) : primary.read room stop (t :: rest) = .ok e rest := by
  rw [read_eq_step]
  simp only [step, h]

/-- A plain numeral is scanned as one token. -/
theorem scan_numeral {text : String} (h : Numeral.IsPlain text.toList) :
    scan text = .ok [.ofNumeral text 1, ⟨.eof, "", .absent, 1⟩] := by
  have hliesOn := Token.liesOn_ofNumeral h 1
  have hscans := scans_spaced (List.forall_mem_singleton.2 hliesOn)
  rw [spaced_singleton] at hscans
  exact scan_eq_iff.2 hscans

/-- A number token of a source text is one node wherever the parser meets it. The node is a whole
number exactly if the lexeme has digits only, 4300 of them at most, and what they write is less
than `2 ^ 63`. Else it is a float, the double nearest to what the lexeme writes. -/
theorem number_node {source : String} {tokens : List Token} {t : Token}
    (hscan : scan source = .ok tokens) (ht : t ∈ tokens) (hkind : t.kind = .number) :
    ∃ value x e, Numeral.Writes t.lexeme.toList value ∧ Double.IsNearest value x ∧
      (∀ y, Double.IsNearest value y → y = x) ∧
      (∀ room stop rest, Rule.primary.read room stop (t :: rest) = .ok e rest) ∧
      (∀ n : Int, e = .integer n ↔ (∀ c ∈ t.lexeme.toList, c.isDigit) ∧
        t.lexeme.toList.length ≤ 4300 ∧ value = n ∧ n < 2 ^ 63) ∧
      ((∃ n, e = .integer n) ∨ e = .float x) := by
  have hplain := hasPlainNumeral_of_scan hscan t ht hkind
  obtain ⟨value, hwrites⟩ := Numeral.isPlain_iff_exists_writes.1 hplain
  obtain ⟨e, hread, hliteral⟩ := Expr.isLiteral_ofNumeral? hwrites
  have hnearest := (Decimal.ofNumeral t.lexeme.toList).isNearest_toDouble
  rw [Decimal.value_ofNumeral hwrites] at hnearest
  have hleaf : t.leaf? = some e := by
    unfold Token.leaf?
    rw [hkind]
    exact hread
  exact ⟨value, _, e, hwrites, hnearest, fun y hy => hy.unique hnearest, Rule.read_leaf hleaf,
    fun n => hliteral.eq_integer_iff, hliteral.integer_or_float⟩

/-- The largest whole number of 64 bits, with zeros before it. -/
theorem number_node_at_bound :
    ∃ t tokens, scan "009223372036854775807" = .ok tokens ∧ t ∈ tokens ∧ t.kind = .number ∧
      Numeral.Writes t.lexeme.toList 9223372036854775807 ∧
      ∀ room stop rest,
        Rule.primary.read room stop (t :: rest) = .ok (.integer 9223372036854775807) rest := by
  have hdigits : Numeral.IsDigits "009223372036854775807".toList := ⟨by simp, by simp⟩
  have hvalue : Decimal.ofDigits "009223372036854775807".toList = 9223372036854775807 := by
    decide +kernel
  have hwrites : Numeral.Writes "009223372036854775807".toList 9223372036854775807 := by
    have h := Numeral.Writes.whole hdigits
    rw [hvalue] at h
    exact_mod_cast h
  have hscan := scan_numeral hwrites.isPlain
  obtain ⟨value, x, e, hwrites', -, -, hread, hinteger, -⟩ :=
    number_node hscan List.mem_cons_self rfl
  obtain rfl : e = .integer 9223372036854775807 := by
    refine (hinteger _).2 ⟨hdigits.2, by decide, ?_, by decide⟩
    rw [hwrites'.unique hwrites]
    norm_num
  exact ⟨_, _, hscan, List.mem_cons_self, rfl, hwrites, hread⟩

theorem isDigits_padded (zeros : Nat) : Numeral.IsDigits (List.replicate zeros '0' ++ ['7']) :=
  Double.IsDigits.append (by simp) Double.isDigit_of_mem_zeros (by simp)

theorem writes_padded (zeros : Nat) :
    Numeral.Writes (List.replicate zeros '0' ++ ['7']) 7 := by
  have hvalue : Decimal.ofDigits (List.replicate zeros '0' ++ ['7']) = 7 := by
    rw [Decimal.ofDigits_append, Decimal.ofDigits_replicate_zero, Nat.zero_mul, Nat.zero_add]
    rfl
  have h := Numeral.Writes.whole (isDigits_padded zeros)
  rw [hvalue] at h
  exact_mod_cast h

/-- Too many digits are a float, whatever they write. -/
theorem read_overlong {text : String} (h : Numeral.IsDigits text.toList)
    (hlong : 4300 < text.toList.length) :
    ∃ x, ∀ room stop rest,
      Rule.primary.read room stop (.ofNumeral text 1 :: rest) = .ok (.float x) rest := by
  obtain ⟨e, hread, hliteral⟩ := Expr.isLiteral_ofNumeral? (.whole h)
  rcases hliteral.integer_or_float with ⟨n, rfl⟩ | rfl
  · exact absurd (hliteral.eq_integer_iff.1 rfl).2.1 (Nat.not_le.2 hlong)
  · exact ⟨_, Rule.read_leaf hread⟩

/-- Digits alone do not make a whole number, however small it is: a seven with 4300 zeros before it
is a float. -/
theorem number_node_not_by_value :
    ∃ t tokens x, scan (.ofList (List.replicate 4300 '0' ++ ['7'])) = .ok tokens ∧ t ∈ tokens ∧
      t.kind = .number ∧ (∀ c ∈ t.lexeme.toList, c.isDigit) ∧
      Numeral.Writes t.lexeme.toList 7 ∧
      ∀ room stop rest, Rule.primary.read room stop (t :: rest) = .ok (.float x) rest := by
  obtain ⟨text, htext, hlist⟩ : ∃ text, String.ofList (List.replicate 4300 '0' ++ ['7']) = text ∧
      text.toList = List.replicate 4300 '0' ++ ['7'] := ⟨_, rfl, String.toList_ofList⟩
  have hwrites : Numeral.Writes text.toList 7 := hlist ▸ writes_padded 4300
  have hdigits : Numeral.IsDigits text.toList := hlist ▸ isDigits_padded 4300
  have hlong : 4300 < text.toList.length := by
    rw [hlist, List.length_append, List.length_replicate]
    decide
  obtain ⟨x, hread⟩ := read_overlong hdigits hlong
  rw [htext]
  exact ⟨_, _, x, scan_numeral hwrites.isPlain, List.mem_cons_self, rfl, hdigits.2, hwrites, hread⟩

end LoxExpr
