import LoxExpr.Proofs.Token.Joined

/-!
# Tokens laid out anew

A lexeme before a blank is scanned as the token it came from, and blanks and comments that are
complete are scanned as nothing, whatever comes behind them. Main statement `scan_relaid`: the
lexemes of a scan are scanned again as the same tokens with any such layout between them.
-/

namespace LoxExpr

/-! ## Texts between lexemes -/

/-- Blanks, line comments up to the line break that ends them, and closed block comments. -/
inductive IsSpacing : List Char → Prop
  | nil : IsSpacing []
  | blank {c : Char} {text : List Char} (hc : c ∈ [' ', '\t', '\r', '\n'])
      (h : IsSpacing text) : IsSpacing (c :: text)
  | lineComment {body text : List Char} (hbody : '\n' ∉ body) (h : IsSpacing text) :
      IsSpacing ('/' :: '/' :: (body ++ '\n' :: text))
  | blockComment {body text : List Char} (hbody : ¬['*', '/'] <:+: body ++ ['*'])
      (h : IsSpacing text) : IsSpacing ('/' :: '*' :: (body ++ '*' :: '/' :: text))

/-- A text that keeps two lexemes apart: a blank and then any spacing. -/
structure Separator where
  first : Char
  more : List Char
  first_mem : first ∈ [' ', '\t', '\r', '\n']
  isSpacing : IsSpacing more

def Separator.text (s : Separator) : List Char := s.first :: s.more

/-- The lexemes of tokens with one separator before each of them and one more at the end. -/
def relaid (s : Nat → Separator) : List Token → List Char
  | [] => (s 0).text
  | t :: tokens => (s 0).text ++ (t.lexeme.toList ++ relaid (fun i => s (i + 1)) tokens)

section
variable {text rest : List Char} {line : Int} {result : Except ScanError (List Token)}

theorem Separator.isSpacing_text (s : Separator) : IsSpacing s.text :=
  .blank s.first_mem s.isSpacing

/-- Spacing is layout before any text: nothing in it reaches beyond its end. -/
theorem IsSpacing.layout (h : IsSpacing text) (rest : List Char) : Layout text rest := by
  induction h with
  | nil => exact .nil
  | blank hc _ ih => exact .cons (.blank hc) ih
  | @lineComment body text hbody _ ih =>
    have hbreak : Layout ('\n' :: text) rest := .cons (.blank (by simp)) ih
    exact .cons (.lineComment hbody (by simp)) hbreak
  | @blockComment body text hbody _ ih =>
    have hcomment := Layout.cons (.blockComment hbody) ih
    simpa using hcomment

/-- Layout yields no tokens. -/
theorem Layout.scans (h : Layout text rest) (hrest : Scans (line + text.count '\n') rest result) :
    Scans line (text ++ rest) result := by
  induction h generalizing line with
  | nil => simpa using hrest
  | @cons gap text rest hgap _ ih =>
    rw [List.count_append, Int.natCast_add, ← Int.add_assoc] at hrest
    rw [List.append_assoc]
    exact .gap hgap (ih hrest)

/-! ## Lexemes between separators -/

/-- Nothing lexical goes on into a separator. -/
theorem Lexeme.isLongest_of_separator {kind : Kind} {literal : Literal}
    (h : Lexeme kind text literal) (s : Separator) (rest : List Char) :
    IsLongest text (s.text ++ rest) :=
  h.isLongest_of_character (fun _ => not_lexical_of_blank s.first_mem) _

theorem exists_relaid_eq (s : Nat → Separator) (tokens : List Token) :
    ∃ rest, relaid s tokens = (s 0).text ++ rest := by
  cases tokens with
  | nil => exact ⟨[], (List.append_nil _).symm⟩
  | cons t tokens => exact ⟨_, rfl⟩

theorem relaid_append_singleton (s : Nat → Separator) (tokens : List Token) (t : Token) :
    relaid s (tokens ++ [t]) =
      relaid s tokens ++ (t.lexeme.toList ++ (s (tokens.length + 1)).text) := by
  induction tokens generalizing s with
  | nil => simp [relaid]
  | cons u tokens ih => simp [relaid, ih]

/-- Lexemes laid out anew, with spacing behind them, are scanned as tokens of the same shapes. -/
theorem exists_scans_relaid {tokens : List Token} (hspacing : IsSpacing text)
    (h : ∀ t ∈ tokens, Lexeme t.kind t.lexeme.toList t.literal) (s : Nat → Separator)
    (line : Int) :
    ∃ tokens' last, Scans line (relaid s tokens ++ text)
        (.ok (tokens' ++ [⟨.eof, "", .absent, last⟩])) ∧
      tokens'.map Token.shape = tokens.map Token.shape := by
  induction tokens generalizing s line with
  | nil =>
    have hend : Scans line ((s 0).text ++ (text ++ [])) _ :=
      ((s 0).isSpacing_text.layout _).scans ((hspacing.layout []).scans .ended)
    exact ⟨[], _, by simpa [relaid] using hend, rfl⟩
  | cons t tokens ih =>
    obtain ⟨ht, h⟩ := List.forall_mem_cons.1 h
    obtain ⟨tokens', last, hmore, hshape⟩ := ih h (fun i => s (i + 1))
      (line + (s 0).text.count '\n' + t.lexeme.toList.count '\n')
    obtain ⟨rest, hrest⟩ := exists_relaid_eq (fun i => s (i + 1)) tokens
    have hlongest : IsLongest t.lexeme.toList (relaid (fun i => s (i + 1)) tokens ++ text) := by
      rw [hrest, List.append_assoc]
      exact ht.isLongest_of_separator _ _
    have htoken := ((s 0).isSpacing_text.layout _).scans (.token ht hlongest hmore)
    refine ⟨⟨t.kind, t.lexeme, t.literal,
      line + (s 0).text.count '\n' + t.lexeme.toList.count '\n'⟩ :: tokens', last, ?_, ?_⟩
    · rw [String.ofList_toList] at htoken
      rw [relaid, List.append_assoc, List.append_assoc]
      exact htoken
    · rw [List.map_cons, List.map_cons, hshape]
      rfl

end

/-- The lexemes of a scan, with a blank and any blanks and comments before each and after the
last, are scanned as tokens of the same kinds, lexemes and literals. It does not matter whether the
empty lexeme for the end of the input is written with its separator or not. -/
theorem scan_relaid {source : String} {tokens : List Token} (h : scan source = .ok tokens)
    (s : Nat → Separator) :
    ∃ before last, tokens = before ++ [⟨.eof, "", .absent, last⟩] ∧
      ∀ written ∈ [before, tokens], ∃ tokens',
        scan (.ofList (relaid s written)) = .ok tokens' ∧
          tokens'.map Token.shape = tokens.map Token.shape := by
  obtain ⟨before, last, rfl, -, hcut⟩ := scan_cut h
  have hlexemes : ∀ t ∈ before, Lexeme t.kind t.lexeme.toList t.literal := by
    intro t ht
    obtain ⟨-, hlexeme, -⟩ := hcut.standsBefore t ht
    exact hlexeme
  -- the empty lexeme of the end leaves its separator alone
  have hends : ∀ written ∈ [before, before ++ [⟨.eof, "", .absent, last⟩]], ∃ text,
      IsSpacing text ∧ relaid s written = relaid s before ++ text := by
    intro written hwritten
    obtain rfl | rfl := List.mem_pair.1 hwritten
    · exact ⟨[], .nil, (List.append_nil _).symm⟩
    · exact ⟨_, (s (before.length + 1)).isSpacing_text, relaid_append_singleton s before _⟩
  refine ⟨before, last, rfl, fun written hwritten => ?_⟩
  obtain ⟨text, hspacing, hwritten⟩ := hends written hwritten
  obtain ⟨tokens', last', hscans, hshape⟩ := exists_scans_relaid hspacing hlexemes s 1
  refine ⟨tokens' ++ [⟨.eof, "", .absent, last'⟩], ?_, ?_⟩
  · rw [scan_eq_iff, String.toList_ofList, hwritten]
    exact hscans
  · rw [List.map_append, List.map_append, hshape]
    rfl

/-- A carriage return, a comment with a quote in it up to the end of its line, and a comment of
stars and slashes. -/
def Separator.withComments : Separator where
  first := '\r'
  more := "//\"\n/***/\t".toList
  first_mem := by decide
  isSpacing := by
    have hstars : IsSpacing ('/' :: '*' :: (['*'] ++ '*' :: '/' :: ['\t'])) :=
      .blockComment (by decide) (.blank (by decide) .nil)
    have hquote : IsSpacing ('/' :: '/' :: (['"'] ++ '\n' :: _)) := .lineComment (by decide) hstars
    exact hquote

/-- A string that ends in a comment mark, and signs that would be others without what is between
them. -/
theorem scan_relaid_half_operators :
    scan "\"/*\"< =/" = .ok ([⟨.string, "\"/*\"", .text "/*", 1⟩, ⟨.less, "<", .absent, 1⟩,
        ⟨.equal, "=", .absent, 1⟩, ⟨.slash, "/", .absent, 1⟩] ++ [⟨.eof, "", .absent, 1⟩]) ∧
      ∃ tokens', scan ("\r//\"\n/***/\t\"/*\"\r//\"\n/***/\t<\r//\"\n/***/\t=" ++
          "\r//\"\n/***/\t/\r//\"\n/***/\t") = .ok tokens' ∧
        tokens'.map Token.shape = [(.string, "\"/*\"", .text "/*"), (.less, "<", .absent),
          (.equal, "=", .absent), (.slash, "/", .absent), (.eof, "", .absent)] := by
  have hscan : scan "\"/*\"< =/" = .ok ([⟨.string, "\"/*\"", .text "/*", 1⟩,
      ⟨.less, "<", .absent, 1⟩, ⟨.equal, "=", .absent, 1⟩, ⟨.slash, "/", .absent, 1⟩] ++
        [⟨.eof, "", .absent, 1⟩]) := by
    cbv
  obtain ⟨before, last, htokens, hwritten⟩ := scan_relaid hscan (fun _ => .withComments)
  obtain ⟨rfl, -⟩ := List.append_singleton_inj.1 htokens
  exact ⟨hscan, hwritten _ (List.mem_cons_self ..)⟩

end LoxExpr
