import LoxExpr.Proofs.Session
import LoxExpr.Proofs.Token.Lines

/-!
# Diagnostics of source texts

What a diagnostic is put together from has no line breaks, and its line comes from a token, except
in two cases. A refused string is quoted as it is spelled, and evaluation that nests too deeply
knows no place. Main statement `diagnostic_of_source`: in no other case is a diagnostic
anything but one line that begins with a line of the source text.
-/

namespace LoxExpr

/-! ## Texts of one line -/

/-- A text without line breaks. -/
def IsLine (s : String) : Prop := '\n' ∉ s.toList

instance : DecidablePred IsLine := fun _ => inferInstanceAs (Decidable (¬_))

@[simp] theorem isLine_append {s t : String} : IsLine (s ++ t) ↔ IsLine s ∧ IsLine t := by
  simp [IsLine]

theorem isLine_join {l : List String} : IsLine (.join l) ↔ ∀ s ∈ l, IsLine s := by
  simp [IsLine]

theorem mem_toDigits {b n : Nat} {c : Char} (hb : 1 < b) (h : c ∈ Nat.toDigits b n) :
    ∃ d < b, c = d.digitChar := by
  induction n using Nat.strong_induction_on with
  | _ n ih =>
    by_cases hn : n < b
    · rw [Nat.toDigits_of_lt_base hn, List.mem_singleton] at h
      exact ⟨n, hn, h⟩
    · rw [Nat.toDigits_of_base_le hb (by omega), List.mem_append, List.mem_singleton] at h
      rcases h with h | h
      · exact ih _ (Nat.div_lt_self (by omega) hb) h
      · exact ⟨n % b, Nat.mod_lt _ (by omega), h⟩

theorem digitChar_ne_newline : ∀ d < 16, d.digitChar ≠ '\n' ∧ d.digitChar.toUpper ≠ '\n' := by
  decide

theorem isLine_toString (n : Int) : IsLine (toString n) := by
  have hnat : ∀ n : Nat, '\n' ∉ (Nat.repr n).toList := by
    intro n h
    rw [Nat.repr_eq_ofList_toDigits, String.toList_ofList] at h
    obtain ⟨d, hd, heq⟩ := mem_toDigits (by decide) h
    exact (digitChar_ne_newline d (by omega)).1 heq.symm
  cases n with
  | ofNat n => exact hnat n
  | negSucc n =>
    change IsLine ("-" ++ Nat.repr (n + 1))
    rw [isLine_append]
    exact ⟨by decide, hnat _⟩

namespace Text

theorem mem_hexPadded {width n : Nat} {c : Char} (h : c ∈ hexPadded width n) :
    ∃ d < 16, c = d.digitChar := by
  rcases List.mem_append.1 h with h | h
  · exact ⟨0, by decide, (List.mem_replicate.1 h).2⟩
  · exact mem_toDigits (by decide) h

theorem newline_not_mem_hexPadded (width n : Nat) : '\n' ∉ hexPadded width n := by
  intro h
  obtain ⟨d, hd, heq⟩ := mem_hexPadded h
  exact (digitChar_ne_newline d hd).1 heq.symm

/-- A line break is escaped between quotes, which are none themselves. -/
theorem newline_not_mem_quoteChar {quote : Char} (hquote : quote ≠ '\n') (c : Char) :
    '\n' ∉ quoteChar quote c := by
  by_cases hc : c = '\n'
  · subst hc
    rw [quoteChar, if_neg, if_pos rfl]
    · decide
    · rintro (h | h)
      · exact hquote h.symm
      · exact absurd h (by decide)
  · unfold quoteChar
    have hhex := newline_not_mem_hexPadded
    split_ifs <;> simp [Ne.symm hc, hhex]

theorem quoteFor_ne_newline (s : List Char) : quoteFor s ≠ '\n' := by
  unfold quoteFor
  split <;> decide

theorem isLine_quoted (s : String) : IsLine (quoted s) := by
  have hquote := quoteFor_ne_newline s.toList
  simp only [IsLine, quoted, String.toList_ofList, List.mem_append, List.mem_cons,
    List.mem_flatMap, List.not_mem_nil, or_false, not_or, not_exists, not_and]
  exact ⟨⟨hquote.symm, fun c _ => newline_not_mem_quoteChar hquote c⟩, hquote.symm⟩

end Text

/-! ## Texts of failures -/

theorem ScanFault.isLine_message (fault : ScanFault) : IsLine fault.message := by
  cases fault with
  | unexpectedCharacter c =>
    have hcode : IsLine (codePoint c) := by
      rw [codePoint, isLine_append]
      refine ⟨by decide, ?_⟩
      simp only [IsLine, String.toList_ofList, List.mem_map, not_exists, not_and]
      intro d hd
      obtain ⟨n, hn, rfl⟩ := Text.mem_hexPadded hd
      exact (digitChar_ne_newline n hn).2
    change IsLine ("Unexpected character " ++ Text.quoted (.singleton c) ++ " (" ++ codePoint c ++
      ").")
    have hwords : IsLine "Unexpected character " ∧ IsLine " (" ∧ IsLine ")." := by
      decide +kernel
    simp only [isLine_append, hwords, Text.isLine_quoted, hcode, and_self]
  | unterminatedString | unterminatedComment => decide +kernel

theorem ParseFault.isLine_message {fault : ParseFault} (h : ∀ message, fault ≠ .missing message) :
    IsLine fault.message := by
  cases fault with
  | missing message => exact absurd rfl (h message)
  | _ => decide +kernel

theorem Mismatch.isLine_message {lexeme : String} (h : IsLine lexeme) (mismatch : Mismatch) :
    IsLine (mismatch.message lexeme) := by
  have hname : ∀ type : ValueType, IsLine type.name := by
    intro type
    cases type <;> decide
  have hwords : IsLine "Operand of '-' must be a number, got " ∧ IsLine "Operands of '" ∧
      IsLine "' must be numbers, got " ∧ IsLine " and " ∧ IsLine "." ∧ IsLine "Cannot convert " ∧
      IsLine " to a string for '" ∧ IsLine "Unknown unary operator '" ∧
      IsLine "Unknown binary operator '" ∧ IsLine "'." := by
    decide +kernel
  cases mismatch with
  | notNumber got =>
    change IsLine ("Operand of '-' must be a number, got " ++ got.name ++ ".")
    simp only [isLine_append, hwords, hname, and_self]
  | notNumbers left right =>
    change IsLine ("Operands of '" ++ lexeme ++ "' must be numbers, got " ++ left.name ++ " and " ++
      right.name ++ ".")
    simp only [isLine_append, hwords, hname, h, and_self]
  | noText got =>
    change IsLine ("Cannot convert " ++ got.name ++ " to a string for '" ++ lexeme ++ "'.")
    simp only [isLine_append, hwords, hname, h, and_self]
  | unknownUnary =>
    change IsLine ("Unknown unary operator '" ++ lexeme ++ "'.")
    simp only [isLine_append, hwords, h, and_self]
  | unknownBinary =>
    change IsLine ("Unknown binary operator '" ++ lexeme ++ "'.")
    simp only [isLine_append, hwords, h, and_self]

theorem Descent.isLine_message {d : Descent} (h : IsLine d.operator.lexeme) : IsLine d.message := by
  have hside : IsLine d.side.name := by
    cases d.side <;> decide
  have hwords : IsLine "Could not evaluate " ∧ IsLine " operand of '" ∧ IsLine "': " := by
    decide +kernel
  change IsLine ("Could not evaluate " ++ d.side.name ++ " operand of '" ++ d.operator.lexeme ++
    "': ")
  simp only [isLine_append, hwords, hside, h, and_self]

/-- The heading of a place is one line exactly if the lexeme that it quotes is. -/
theorem Location.isLine_heading {l : Location} :
    IsLine l.heading ↔ l.atEnd = true ∨ ∀ lexeme ∈ l.lexeme, IsLine lexeme := by
  have hline : IsLine "[line " ∧ IsLine (toString l.line) ∧ IsLine "] Error" :=
    ⟨by decide, isLine_toString _, by decide⟩
  have hwords : IsLine " at end" ∧ IsLine " at '" ∧ IsLine "'" := by decide
  unfold heading
  split
  · next hatEnd => simp only [isLine_append, hline, hwords, hatEnd, and_self, true_or]
  · next hatEnd =>
    split
    · next lexeme hlexeme =>
      simp only [isLine_append, hline, hwords, hatEnd, hlexeme, true_and, and_true,
        Bool.false_eq_true, false_or, Option.mem_some_iff, forall_eq']
    · next hlexeme =>
      simp only [isLine_append, hline, hlexeme, true_and, true_iff]
      simp

/-! ## Refused tokens -/

theorem Refuses.fault_ne_missing {rule : Rule} {used : List Token} {next : Option Token}
    {fault : ParseFault} (h : Refuses rule used next fault) (message : String) :
    fault ≠ .missing message := by
  induction h with
  | colon | ended | unexpected | unclosed => simp
  | _ => assumption

theorem RefusesAll.fault_ne_missing {used : List Token} {next : Option Token} {fault : ParseFault}
    (h : RefusesAll used next fault) (message : String) : fault ≠ .missing message := by
  cases h with
  | expression h => exact h.fault_ne_missing message
  | trailing => simp

/-- An input is refused in words of the grammar. -/
theorem Input.fault_ne_missing {room : Nesting} {input : Input} {error : ParseError}
    (hplain : ∀ t ∈ input.tokens, t.HasPlainNumeral)
    (h : input.parseWithin room = .error (.refused error)) (message : String) :
    error.fault ≠ .missing message := by
  rcases input.parseWithin_limited room with heq | ⟨t, hdeep⟩
  · rw [heq] at h
    obtain ⟨e, -, hok⟩ | ⟨used, rest, fault, -, hrefuses, herror⟩ :=
      input.parseWithin_answers hplain
    · cases h.symm.trans hok
    · cases h.symm.trans herror
      exact hrefuses.fault_ne_missing message
  · cases h.symm.trans hdeep
    simp

section
variable {source : String} {tokens : List Token}

theorem refused_of_scan {error : ParseError} (hscan : scan source = .ok tokens)
    (hparse : parse tokens = .error (.refused error)) :
    error.token ∈ tokens ∧ ∀ message, error.fault ≠ .missing message := by
  refine ⟨(ended_of_scan hscan).isOf_of_parseWithin hparse, ?_⟩
  obtain ⟨stop, after, -, -, hinput⟩ := (ended_of_scan hscan).parseWithin_eq
  have hplain : ∀ t ∈ sentence tokens, t.HasPlainNumeral :=
    fun t ht => hasPlainNumeral_of_scan hscan t (sentence_subset tokens ht)
  rw [parse, hinput] at hparse
  exact Input.fault_ne_missing hplain hparse

end

/-! ## Operators of a tree -/

namespace Expr

theorem Misfit.onOperator {p : Operator → Prop} {node : Expr} {op : Operator} {mismatch : Mismatch}
    (h : node.Misfit op mismatch) (hnode : node.OnOperator p) : p op := by
  cases h <;> exact hnode

theorem descents_onOperator {p : Operator → Prop} {e : Expr} (h : e.Everywhere (OnOperator p))
    (path : List Nat) : ∀ d ∈ e.descents path, p d.operator := by
  fun_induction descents e path with
  | case1 inner path ih => exact ih h.2
  | case2 op operand path ih => exact ih h.2
  | case3 left op right path ih => exact List.forall_mem_cons.2 ⟨h.1, ih h.2.1⟩
  | case4 left op right path ih => exact List.forall_mem_cons.2 ⟨h.1, ih h.2.2⟩
  | case5 c t e path ih => exact ih h.2.1
  | case6 c t e path ih => exact ih h.2.2.1
  | case7 c t e path ih => exact ih h.2.2.2
  | case8 => simp

end Expr

/-- What fails is an operator of the tree, and so are those on the way to it. -/
theorem onOperator_of_misapplied {p : Operator → Prop} {e : Expr} {m : Misapplication}
    {room : Nesting} (hknown : e.Everywhere Expr.HasKnownOperator)
    (hp : e.Everywhere (Expr.OnOperator p))
    (h : e.evalWithin room = .error (.error (.misapplied m))) :
    p m.operator ∧ ∀ d ∈ m.path, p d.operator := by
  obtain ⟨path, hstops, hpath⟩ :=
    Expr.stopsAt_of_misapplied hknown (Expr.evalWithin_unlimited_of_misapplied h)
  obtain ⟨node, hreaches, hmisfit⟩ := hstops.misfit
  refine ⟨hmisfit.onOperator (hreaches.everywhere hp).here, ?_⟩
  rw [hpath]
  exact Expr.descents_onOperator hp path

/-! ## Diagnostics -/

/-- A diagnostic of a source text is at one of its lines, and begins with that line. -/
def Diagnostic.IsLocated (d : Diagnostic) (source : String) : Prop :=
  ∃ l, d.location = some l ∧ (1 ≤ l.line ∧ l.line ≤ 1 + source.toList.count '\n') ∧
    ("[line " ++ toString l.line ++ "] Error").toList <+: d.message.toList

theorem Diagnostic.isLocated {text : String} {l : Location} {source : String}
    (h : 1 ≤ l.line ∧ l.line ≤ 1 + source.toList.count '\n') :
    (Diagnostic.mk text (some l)).IsLocated source := by
  refine ⟨l, rfl, h, ?_⟩
  have hheading : ("[line " ++ toString l.line ++ "] Error").toList <+: l.heading.toList := by
    unfold Location.heading
    split
    · simp
    · split <;> simp
  simp only [message, String.toList_append, List.append_assoc] at hheading ⊢
  exact hheading.trans (List.prefix_append _ _)

theorem Diagnostic.isLine_message {text : String} {l : Location} :
    IsLine (Diagnostic.mk text (some l)).message ↔ IsLine l.heading ∧ IsLine text := by
  have hcolon : IsLine ": " := by decide
  simp only [message, isLine_append, hcolon, and_true]

theorem isLine_of_misapplied {m : Misapplication} (hop : IsLine m.operator.lexeme)
    (hpath : ∀ d ∈ m.path, IsLine d.operator.lexeme) : IsLine (EvalError.misapplied m).text := by
  change IsLine (.join (m.path.map Descent.message) ++ m.mismatch.message m.operator.lexeme)
  rw [isLine_append, isLine_join, List.forall_mem_map]
  exact ⟨fun d hd => Descent.isLine_message (hpath d hd), m.mismatch.isLine_message hop⟩

section
variable {source : String} {tokens : List Token} {tree : Expr}

theorem diagnostic_of_scan {error : ScanError} (hscan : scan source = .error error) :
    error.diagnostic.IsLocated source ∧ IsLine error.diagnostic.message := by
  obtain ⟨before, rest, hfails, hline⟩ := scan_eq_error_iff.1 hscan
  refine ⟨Diagnostic.isLocated ?_, Diagnostic.isLine_message.2 ⟨?_, error.fault.isLine_message⟩⟩
  · simp only [Location.ofLine, hline, hfails.split, List.count_append]
    omega
  · simp [Location.isLine_heading, Location.ofLine]

theorem diagnostic_of_refused {error : ParseError} (hscan : scan source = .ok tokens)
    (hparse : parse tokens = .error (.refused error)) :
    error.diagnostic.IsLocated source ∧
      (IsLine error.diagnostic.message ↔ IsLine error.token.lexeme) := by
  obtain ⟨htoken, hfault⟩ := refused_of_scan hscan hparse
  refine ⟨Diagnostic.isLocated (line_bounds_of_scan hscan htoken), ?_⟩
  rw [ParseError.diagnostic, Diagnostic.isLine_message, Location.isLine_heading]
  simp only [ParseFault.isLine_message hfault, and_true, Location.ofLexeme]
  cases heof : error.token.isEof with
  | true =>
    -- the end of the input has no lexeme
    have hlexeme : IsLine error.token.lexeme := by
      intro hnewline
      have hkind := kind_of_newline_of_scan hscan htoken hnewline
      simp [Token.isEof, hkind] at heof
    simp [hlexeme]
  | false => simp

/-- An operator that fails is on a line of the source text, and none on the way to it is spelled
with a line break. -/
theorem diagnostic_of_misapplied {m : Misapplication} (hscan : scan source = .ok tokens)
    (hderives : Derives .expression (sentence tokens) tree)
    (heval : tree.eval = .error (.error (.misapplied m))) :
    (EvalError.misapplied m).diagnostic.IsLocated source ∧
      IsLine (EvalError.misapplied m).diagnostic.message := by
  have hknown := hderives.everywhere makes_hasKnownOperator (hasLeaves_hasKnownOperator _) trivial
  have hoperator := hderives.everywhere_onOperator
    (p := fun op => (1 ≤ op.line ∧ op.line ≤ 1 + source.toList.count '\n') ∧ IsLine op.lexeme)
    fun t ht hkind => ⟨line_bounds_of_scan hscan (sentence_subset tokens ht), fun hnewline => by
      rw [kind_of_newline_of_scan hscan (sentence_subset tokens ht) hnewline] at hkind
      exact absurd hkind (by decide)⟩
  obtain ⟨hop, hpath⟩ := onOperator_of_misapplied hknown hoperator heval
  refine ⟨Diagnostic.isLocated hop.1, Diagnostic.isLine_message.2 ⟨?_, ?_⟩⟩
  · simp [Location.isLine_heading, Location.ofLine]
  · exact isLine_of_misapplied hop.2 fun d hd => (hpath d hd).2

end

/-- What a failed run reports. It begins with a line of the source text, unless evaluation nests
too deeply: then it has no place. It is one line, unless the refused token has a line break in
it: then the token is a string. -/
theorem diagnostic_of_source (source : String) :
    ∃ r, Report.ofSource source = .ok r ∧ ∀ d, r.diagnostic = some d →
      (d.IsLocated source ∨ ∃ tokens tree, r = .failed tokens tree .nestedTooDeeply ∧
        d = ⟨"Expression nests too deeply.", none⟩) ∧
      (IsLine d.message ↔ ∀ tokens error, r = .unread tokens error → IsLine error.token.lexeme) ∧
      ∀ tokens error, r = .unread tokens error → ¬IsLine error.token.lexeme →
        error.token.kind = .string := by
  cases hscan : scan source with
  | error error =>
    refine ⟨_, (tells_unscanned hscan).ofSource, ?_⟩
    rintro _ ⟨⟩
    obtain ⟨hlocated, hline⟩ := diagnostic_of_scan hscan
    exact ⟨.inl hlocated, by simp [hline], by simp⟩
  | ok tokens =>
    obtain ⟨tree, hderives, hparse⟩ | ⟨error, hparse⟩ := parse_of_scan hscan
    · obtain ⟨value, heval⟩ | ⟨error, heval⟩ := eval_of_derives hderives
      · refine ⟨_, (tells_finished hscan hparse heval).ofSource, ?_⟩
        rintro _ ⟨⟩
      · refine ⟨_, (tells_failed hscan hparse heval).ofSource, ?_⟩
        rintro _ ⟨⟩
        cases error with
        | nestedTooDeeply =>
          have hline : IsLine EvalError.nestedTooDeeply.diagnostic.message := by decide +kernel
          exact ⟨.inr ⟨tokens, tree, rfl, rfl⟩, by simp [hline], by simp⟩
        | misapplied m =>
          obtain ⟨hlocated, hline⟩ := diagnostic_of_misapplied hscan hderives heval
          exact ⟨.inl hlocated, by simp [hline], by simp⟩
    · refine ⟨_, (tells_unread hscan hparse).ofSource, ?_⟩
      rintro _ ⟨⟩
      obtain ⟨hlocated, hline⟩ := diagnostic_of_refused hscan hparse
      refine ⟨.inl hlocated, by simpa using hline, ?_⟩
      rintro _ _ ⟨⟩ hnewline
      exact kind_of_newline_of_scan hscan (refused_of_scan hscan hparse).1 (not_not.1 hnewline)

/-- A string of two lines after a complete expression is quoted in a diagnostic of two lines. -/
theorem diagnostic_not_line :
    ¬∀ source r d, Report.ofSource source = .ok r → r.diagnostic = some d →
      d.IsLocated source ∧ IsLine d.message := by
  intro h
  have hrun : Report.ofSource "nil \"a\nb\"" = .ok (.unread
      [⟨.nilWord, "nil", .absent, 1⟩, ⟨.string, "\"a\nb\"", .text "a\nb", 2⟩,
        ⟨.eof, "", .absent, 2⟩]
      ⟨.endExpected, ⟨.string, "\"a\nb\"", .text "a\nb", 2⟩⟩) := by
    cbv
  have hline := (h _ _ _ hrun rfl).2
  exact absurd hline (by decide +kernel)

end LoxExpr
