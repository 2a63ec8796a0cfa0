import LoxExpr.Proofs.Token.Front

/-!
# Cutting a source text

A text is scanned from its front (`Scans`, one rule for each way to begin), so a fact about
scanning is proved by induction on how a text was scanned. Main statement `scan_cut`: the lexemes
of the tokens, with layout between them, are the source text, and each is the longest there is.
-/

namespace LoxExpr

/-! ## Scanning by its parts -/

/-- How a text that begins on a line is scanned, and the result. -/
inductive Scans : Int → List Char → Except ScanError (List Token) → Prop
  | ended {line : Int} : Scans line [] (.ok [⟨.eof, "", .absent, line⟩])
  | gap {line : Int} {text rest : List Char} {result : Except ScanError (List Token)}
      (h : IsGap text rest) (hrest : Scans (line + text.count '\n') rest result) :
      Scans line (text ++ rest) result
  | token {line : Int} {text rest : List Char} {kind : Kind} {literal : Literal}
      {result : Except ScanError (List Token)} (h : Lexeme kind text literal)
      (hlongest : IsLongest text rest) (hrest : Scans (line + text.count '\n') rest result) :
      Scans line (text ++ rest)
        (result.map (⟨kind, .ofList text, literal, line + text.count '\n'⟩ :: ·))
  | fault {line : Int} {text : List Char} {fault : ScanFault} (h : IsFaulty fault text) :
      Scans line text (.error ⟨fault, line⟩)

theorem tokensOf_token {line : Int} {text : List Char} {kind : Kind} {literal : Literal}
    (more : List Piece) :
    tokensOf line (⟨text, .token kind literal⟩ :: more) =
      (tokensOf (line + text.count '\n') more).map
        (⟨kind, .ofList text, literal, line + text.count '\n'⟩ :: ·) := by
  simp only [tokensOf, Piece.newlines]
  cases tokensOf (line + text.count '\n') more <;> rfl

/-- A piece before pieces of which the scan is known. -/
theorem Piece.Fits.scans {p : Piece} {text after : List Char} (h : p.Fits text)
    (htext : text = p.text ++ after) {more : List Piece} {line : Int}
    (hmore : p.isFault = false →
      Scans (line + p.newlines) after (tokensOf (line + p.newlines) more)) :
    Scans line text (tokensOf line (p :: more)) := by
  cases h with
  | gap text rest h =>
    obtain rfl := List.append_cancel_left htext
    exact .gap h (hmore rfl)
  | token text rest h hlongest =>
    obtain rfl := List.append_cancel_left htext
    rw [tokensOf_token]
    exact .token h hlongest (hmore rfl)
  | fault text rest h => exact .fault h

theorem scans_tokensOf (line : Int) (text : List Char) :
    Scans line text (tokensOf line (pieces text)) := by
  fun_induction pieces text generalizing line with
  | case1 => exact .ended
  | case2 c rest piece hfault =>
    obtain ⟨after, hafter⟩ := Piece.front_text_isPrefix c rest
    refine (Piece.front_fits c rest).scans hafter.symm fun h => ?_
    rw [h] at hfault
    cases hfault
  | case3 c rest piece hfault ih =>
    obtain ⟨after, hafter⟩ := Piece.front_text_isPrefix c rest
    have hdrop : rest.drop (piece.text.length - 1) = after := by
      obtain ⟨d, text, htext⟩ := List.exists_cons_of_ne_nil (Piece.front_text_ne_nil c rest)
      rw [htext, List.cons_append, List.cons.injEq] at hafter
      obtain ⟨rfl, rfl⟩ := hafter
      simp [piece, htext]
    rw [hdrop] at ih ⊢
    exact (Piece.front_fits c rest).scans hafter.symm fun _ => ih _

theorem scan_scans (source : String) : Scans 1 source.toList (scan source) :=
  scans_tokensOf 1 source.toList

/-! ## Lexemes and layout -/

/-- Blanks and comments one after the other, before the rest of a text. -/
inductive Layout : (text rest : List Char) → Prop
  | nil {rest : List Char} : Layout [] rest
  | cons {gap text rest : List Char} (h : IsGap gap (text ++ rest)) (hmore : Layout text rest) :
      Layout (gap ++ text) rest

/-- A text before `rest` is the lexemes of tokens with layout before, between and after them. -/
inductive Cut (rest : List Char) : List Char → List Token → Prop
  | last {layout : List Char} (h : Layout layout rest) : Cut rest layout []
  | next {layout text : List Char} {t : Token} {tokens : List Token}
      (hlayout : Layout layout (t.lexeme.toList ++ text ++ rest))
      (ht : t.StandsBefore (text ++ rest)) (h : Cut rest text tokens) :
      Cut rest (layout ++ t.lexeme.toList ++ text) (t :: tokens)

theorem Cut.gap {gap text rest : List Char} {tokens : List Token} (h : Cut rest text tokens)
    (hgap : IsGap gap (text ++ rest)) : Cut rest (gap ++ text) tokens := by
  cases h with
  | last hlayout => exact .last (.cons hgap hlayout)
  | @next layout text t tokens hlayout ht h =>
    have hcons : Layout (gap ++ layout) (t.lexeme.toList ++ text ++ rest) :=
      .cons (by simpa using hgap) hlayout
    simpa using Cut.next hcons ht h

theorem Cut.token {text rest : List Char} {t : Token} {tokens : List Token}
    (h : Cut rest text tokens) (ht : t.StandsBefore (text ++ rest)) :
    Cut rest (t.lexeme.toList ++ text) (t :: tokens) :=
  .next .nil ht h

theorem Cut.standsBefore {text rest : List Char} {tokens : List Token}
    (h : Cut rest text tokens) : ∀ t ∈ tokens, ∃ after, t.StandsBefore after := by
  induction h with
  | last => simp
  | next _ ht _ ih => exact List.forall_mem_cons.2 ⟨⟨_, ht⟩, ih⟩

theorem Lexeme.kind_ne_eof {kind : Kind} {text : List Char} {literal : Literal}
    (h : Lexeme kind text literal) : kind ≠ .eof := by
  have hsigns : ∀ entry ∈ Kind.signs, entry.2 ≠ .eof := by decide
  have hwords : ∀ entry ∈ Kind.words, entry.2 ≠ .eof := by decide
  cases h with
  | sign h => exact hsigns _ h
  | keyword h => exact hwords _ h
  | name | string | number => decide

/-- A text is scanned up to its end or up to a fault. What comes before is cut into lexemes and
layout, and the result is about the lines of that. -/
theorem Scans.cut_or_fault {line : Int} {text : List Char}
    {result : Except ScanError (List Token)} (h : Scans line text result) :
    ∃ before rest tokens, text = before ++ rest ∧ Cut rest before tokens ∧
      ((rest = [] ∧ ∃ last, result = .ok (tokens ++ [⟨.eof, "", .absent, last⟩])) ∨
        ∃ fault, IsFaulty fault rest ∧
          result = .error ⟨fault, line + before.count '\n'⟩) := by
  induction h with
  | @ended line => exact ⟨[], [], [], rfl, .last .nil, .inl ⟨rfl, line, rfl⟩⟩
  | @gap line text rest result hgap _ ih =>
    obtain ⟨before, after, tokens, rfl, hcut, hresult⟩ := ih
    refine ⟨text ++ before, after, tokens, by simp, hcut.gap hgap, ?_⟩
    obtain hended | ⟨fault, hfault, rfl⟩ := hresult
    · exact .inl hended
    · exact .inr ⟨fault, hfault, by simp [Int.add_assoc]⟩
  | @token line text rest kind literal result hlexeme hlongest _ ih =>
    obtain ⟨before, after, tokens, rfl, hcut, hresult⟩ := ih
    have hstands : Token.StandsBefore
        ⟨kind, .ofList text, literal, line + text.count '\n'⟩ (before ++ after) := by
      simpa [Token.StandsBefore] using And.intro hlexeme hlongest
    have hcut := hcut.token hstands
    rw [String.toList_ofList] at hcut
    refine ⟨text ++ before, after, _, by simp, hcut, ?_⟩
    obtain ⟨hnil, last, rfl⟩ | ⟨fault, hfault, rfl⟩ := hresult
    · exact .inl ⟨hnil, last, rfl⟩
    · exact .inr ⟨fault, hfault, by simp [Except.map, Int.add_assoc]⟩
  | @fault line text fault h =>
    exact ⟨[], text, [], rfl, .last .nil, .inr ⟨fault, h, by simp⟩⟩

theorem Scans.cut {line : Int} {text : List Char} {result : Except ScanError (List Token)}
    (h : Scans line text result) {tokens : List Token} (hresult : result = .ok tokens) :
    ∃ before last, tokens = before ++ [⟨.eof, "", .absent, last⟩] ∧
      (∀ t ∈ before, t.kind ≠ .eof) ∧ Cut [] text before := by
  obtain ⟨before, rest, pieces, rfl, hcut, ⟨rfl, last, rfl⟩ | ⟨fault, -, rfl⟩⟩ := h.cut_or_fault
  · cases hresult
    refine ⟨pieces, last, rfl, fun t ht => ?_, by simpa using hcut⟩
    obtain ⟨after, hlexeme, -⟩ := hcut.standsBefore t ht
    exact hlexeme.kind_ne_eof
  · cases hresult

/-- If a source text is scanned, then it is cut into the lexemes of the tokens and layout around
them. Each lexeme has the kind and the literal of its token and is the longest one at its place.
The one token for the end of the input comes last. -/
theorem scan_cut {source : String} {tokens : List Token} (h : scan source = .ok tokens) :
    ∃ before last, tokens = before ++ [⟨.eof, "", .absent, last⟩] ∧
      (∀ t ∈ before, t.kind ≠ .eof) ∧ Cut [] source.toList before :=
  (scan_scans source).cut h

theorem scan_cut_lookahead :
    ∃ tokens, scan "/*/*/0.0.andy>=\"\\\"\"//" = .ok tokens ∧
      ∃ before last, tokens = before ++ [⟨.eof, "", .absent, last⟩] ∧
        (∀ t ∈ before, t.kind ≠ .eof) ∧
        Cut [] "/*/*/0.0.andy>=\"\\\"\"//".toList before := by
  have hscan : scan "/*/*/0.0.andy>=\"\\\"\"//" =
      .ok [⟨.number, "0.0", .number (.zero false), 1⟩, ⟨.dot, ".", .absent, 1⟩,
        ⟨.identifier, "andy", .text "andy", 1⟩, ⟨.greaterEqual, ">=", .absent, 1⟩,
        ⟨.string, "\"\\\"\"", .text "\\\"", 1⟩, ⟨.eof, "", .absent, 1⟩] := by
    cbv
  exact ⟨_, hscan, scan_cut hscan⟩

end LoxExpr
