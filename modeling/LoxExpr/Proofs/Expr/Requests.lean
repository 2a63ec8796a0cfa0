import LoxExpr.Proofs.Expr.Indexed

/-!
# Requests to a parser

A request is answered in one way, whatever stands behind the end of the input
(`Parser.Request.isAnswered`). Main statement `parser_law`: so are any number of requests, and they
never lead back or past the end.
-/

namespace LoxExpr

namespace Parser

variable {input : Input} {rest : List Token}

/-! ## Single requests -/

/-- From where some tokens are left, an operation comes to one result whatever stands behind the
end of the input. If it fails, a rule of the grammar does; it leaves an end of the tokens. -/
def IsAnswered {α : Type} (input : Input) (rest : List Token) (operation : Operation α) : Prop :=
  ∃ result rest', rest' <:+ rest ∧ result ≠ .error .outOfTokens ∧ result ≠ .error .outOfFuel ∧
    ∀ after, perform operation (standing input after rest) = (result, standing input after rest')

section
variable {α β : Type} {operation : Operation α} {rest' : List Token}

theorem IsAnswered.of_ok (a : α) (hsuffix : rest' <:+ rest)
    (h : ∀ after, perform operation (standing input after rest) =
      (.ok a, standing input after rest')) : IsAnswered input rest operation :=
  ⟨.ok a, rest', hsuffix, by simp, by simp, h⟩

theorem IsAnswered.of_rule (failure : RuleFailure) (hsuffix : rest' <:+ rest)
    (h : ∀ after, perform operation (standing input after rest) =
      (.error (.rule failure), standing input after rest')) : IsAnswered input rest operation :=
  ⟨.error (.rule failure), rest', hsuffix, by simp, by simp, h⟩

theorem IsAnswered.bind_pure (h : IsAnswered input rest operation) (f : α → β) :
    IsAnswered input rest (operation >>= fun a => pure (f a)) := by
  obtain ⟨result, rest', hsuffix, htokens, hfuel, hperform⟩ := h
  cases result with
  | ok a =>
    refine .of_ok (f a) hsuffix fun after => ?_
    rw [perform_bind, hperform after]
    rfl
  | error failure =>
    refine ⟨.error failure, rest', hsuffix, ?_, ?_, fun after => ?_⟩
    · simpa using htokens
    · simpa using hfuel
    · rw [perform_bind, hperform after]

end

theorem isAnswered_read (hinput : input.IsProper) (hrest : rest <:+ input.tokens) (rule : Rule)
    (room : Nesting) : IsAnswered input rest (read rule room) := by
  have hleft : (rule.read room input.stop rest).rest <:+ rest :=
    Rule.read_rest_isSuffix room rule rest
  cases h : (rule.read room input.stop rest).result with
  | ok e =>
    exact .of_ok e hleft fun after => (readsAs_read hinput hrest rule room).trans (leaving_of_ok h)
  | error failure =>
    exact .of_rule failure hleft fun after =>
      (readsAs_read hinput hrest rule room).trans (leaving_of_error h)

theorem isAnswered_accept (hinput : input.IsProper) (hrest : rest <:+ input.tokens)
    (kinds : List Kind) : IsAnswered input rest (accept kinds) := by
  by_cases hkind : (rest.headD input.stop).kind ∈ kinds
  · refine .of_ok (some (rest.headD input.stop)) (List.tail_suffix rest) fun after => ?_
    rw [perform_accept kinds hinput hrest, if_pos hkind]
  · refine .of_ok none List.suffix_rfl fun after => ?_
    rw [perform_accept kinds hinput hrest, if_neg hkind]

theorem isAnswered_expect (hinput : input.IsProper) (hrest : rest <:+ input.tokens) (kind : Kind)
    (fault : ParseFault) : IsAnswered input rest (expect kind fault) := by
  by_cases hkind : (rest.headD input.stop).kind = kind
  · refine .of_ok (rest.headD input.stop) (List.tail_suffix rest) fun after => ?_
    rw [perform_expect kind fault hinput hrest, if_pos hkind]
  · refine .of_rule (.refused ⟨fault, rest.headD input.stop⟩) List.suffix_rfl fun after => ?_
    rw [perform_expect kind fault hinput hrest, if_neg hkind]

theorem Request.isAnswered (hinput : input.IsProper) (hrest : rest <:+ input.tokens)
    (request : Request) : IsAnswered input rest request.operation := by
  cases request with
  | read rule room => exact (isAnswered_read hinput hrest rule room).bind_pure _
  | current =>
    exact (IsAnswered.of_ok _ List.suffix_rfl fun _ => perform_current hrest).bind_pure _
  | atEnd =>
    exact (IsAnswered.of_ok _ List.suffix_rfl fun _ => perform_atEnd hinput hrest).bind_pure _
  | advance =>
    have hadvance : IsAnswered input rest Parser.advance :=
      .of_ok _ (List.tail_suffix rest) fun _ => perform_advance hinput hrest
    exact hadvance.bind_pure _
  | check kinds =>
    exact (IsAnswered.of_ok _ List.suffix_rfl fun _ => perform_check kinds hrest).bind_pure _
  | accept kinds => exact (isAnswered_accept hinput hrest kinds).bind_pure _
  | expect kind message => exact (isAnswered_expect hinput hrest kind _).bind_pure _

/-! ## Requests one after another -/

/-- Replies with the positions after them, from one position on. No request fails for want of
tokens or fuel, the positions never decrease, and none is behind the end of the input. -/
structure AreOrderly (start stop : Nat) (replies : List (Except Failure Reply × Nat)) : Prop where
  inside : ∀ reply ∈ replies, reply.1 ≠ .error .outOfTokens
  fuelled : ∀ reply ∈ replies, reply.1 ≠ .error .outOfFuel
  ascending : (start :: replies.map Prod.snd).Pairwise (· ≤ ·)
  le : ∀ reply ∈ replies, reply.2 ≤ stop

theorem exists_replies (hinput : input.IsProper) (hrest : rest <:+ input.tokens)
    (requests : List Request) :
    ∃ replies, AreOrderly (input.tokens.length - rest.length) input.tokens.length replies ∧
      ∀ after, (standing input after rest).replies requests = replies := by
  induction requests generalizing rest with
  | nil => exact ⟨[], ⟨by simp, by simp, by simp, by simp⟩, fun _ => rfl⟩
  | cons request requests ih =>
    obtain ⟨reply, rest', hsuffix, htokens, hfuel, hperform⟩ := request.isAnswered hinput hrest
    obtain ⟨replies, horderly, hreplies⟩ := ih (hsuffix.trans hrest)
    have hle : input.tokens.length - rest.length ≤ input.tokens.length - rest'.length := by
      have := hsuffix.length_le
      omega
    refine ⟨(reply, input.tokens.length - rest'.length) :: replies, ⟨?_, ?_, ?_, ?_⟩,
      fun after => ?_⟩
    · exact List.forall_mem_cons.2 ⟨htokens, horderly.inside⟩
    · exact List.forall_mem_cons.2 ⟨hfuel, horderly.fuelled⟩
    · rw [List.map_cons, List.pairwise_cons]
      refine ⟨fun position hmem => ?_, horderly.ascending⟩
      obtain rfl | hmem := List.mem_cons.1 hmem
      · exact hle
      · exact Nat.le_trans hle ((List.pairwise_cons.1 horderly.ascending).1 position hmem)
    · exact List.forall_mem_cons.2 ⟨Nat.sub_le _ _, horderly.le⟩
    · simp only [Parser.replies, hperform after, hreplies after]
      rfl

theorem findIdx_isEof (tokens : List Token) :
    tokens.findIdx Token.isEof = (sentence tokens).length := by
  have hle : tokens.findIdx Token.isEof ≤ tokens.length := List.findIdx_le_length
  rw [sentence, List.takeWhile_eq_take_findIdx_not]
  simp [hle]

theorem eq_of_ofTokens? {tokens : List Token} {p : Parser} (h : ofTokens? tokens = some p) :
    p = ⟨tokens, 0⟩ := by
  unfold ofTokens? at h
  split at h
  · exact (Option.some.inj h).symm
  · cases h

end Parser

/-- A parser over tokens that end reads them as one expression just as `parseWithin` does. Whatever
is asked of it, also after requests that have failed, its position never decreases and never passes
the first token that ends the input, and no request looks behind the tokens. The tokens behind the
first one that ends the input have no influence: parsers over lists that agree up to there give the
same replies and take the same positions. -/
theorem parser_law {tokens : List Token} (hend : Ended tokens) :
    ∃ p, Parser.ofTokens? tokens = some p ∧
      (∀ room, (Parser.perform (Parser.whole room) p).1.mapError Parser.Failure.parse? =
        (parseWithin room tokens).mapError some) ∧
      ∀ requests,
        Parser.AreOrderly 0 (tokens.findIdx Token.isEof) (p.replies requests) ∧
        ∀ tokens' p', Parser.ofTokens? tokens' = some p' →
          tokens'.take (tokens.findIdx Token.isEof + 1) =
            tokens.take (tokens.findIdx Token.isEof + 1) →
          p'.replies requests = p.replies requests := by
  obtain ⟨stop, after, heof, htokens, -, hparser⟩ := Parser.exists_standing_of_ended hend
  have hwhole := fun room => Parser.parseWithin_eq_whole room tokens
  simp only [hparser] at hwhole
  refine ⟨_, hparser, fun room => (hwhole room).symm, fun requests => ?_⟩
  obtain ⟨replies, horderly, hreplies⟩ :=
    Parser.exists_replies (isProper_sentence heof) List.suffix_rfl requests
  rw [hreplies after, Parser.findIdx_isEof]
  refine ⟨by simpa using horderly, fun tokens' p' hparser' htake => ?_⟩
  obtain ⟨after', htokens'⟩ : ∃ after', tokens' = sentence tokens ++ stop :: after' := by
    have hfirst : tokens.take ((sentence tokens).length + 1) = sentence tokens ++ [stop] :=
      (congrArg (List.take _) htokens).trans (List.take_length_add_append 1)
    refine ⟨tokens'.drop ((sentence tokens).length + 1), ?_⟩
    rw [← List.singleton_append, ← List.append_assoc, ← hfirst, ← htake, List.take_append_drop]
  have hp' : p' = Parser.standing ⟨sentence tokens, stop⟩ after' (sentence tokens) := by
    rw [Parser.eq_of_ofTokens? hparser', Parser.standing, Nat.sub_self, ← htokens']
  rw [hp', hreplies after']

/-- A group that the end of the input leaves open, with its closing bracket behind the end. No
request reaches the bracket. -/
theorem parser_law_open_group :
    let opening : Token := ⟨.leftParen, "(", .absent, 1⟩
    let word : Token := ⟨.nilWord, "nil", .absent, 1⟩
    let stop : Token := ⟨.eof, "", .absent, 1⟩
    let tokens : List Token := [opening, word, stop, ⟨.rightParen, ")", .absent, 1⟩, stop]
    let requests : List Parser.Request :=
      [.check [.leftParen], .read .expression .standard, .advance, .read .unary .unlimited,
       .expect .rightParen "Expect more.", .accept [.eof]]
    let replies := (Parser.mk tokens 0).replies requests
    Ended tokens ∧ Parser.AreOrderly 0 2 replies ∧ replies.map Prod.snd = [0, 2, 2, 2, 2, 2] ∧
      (Parser.mk [opening, word, stop] 0).replies requests = replies := by
  intro opening word stop tokens requests replies
  have hend : Ended tokens := by decide
  obtain ⟨p, hp, -, hlaw⟩ := parser_law hend
  obtain rfl := Parser.eq_of_ofTokens? hp
  obtain ⟨horderly, hsame⟩ := hlaw requests
  exact ⟨hend, horderly, by cbv, hsame [opening, word, stop] _ rfl rfl⟩

end LoxExpr
