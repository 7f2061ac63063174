import AcctAdmin.Proofs.Protocol.Codec

/-!
# The word decides

What a message is gets settled by its word. The words of commands, the words of replies and the word
of refusals are all different, so a word stands for one thing at most; and as long as it does not
stand for something that the generation reads, neither the request that is answered nor the body has
a say. The schema never has one.
-/

set_option autoImplicit false

namespace AcctAdmin.Protocol

open AcctAdmin.Json

/-! ## No word names two things -/

theorem CommandKind.mem_all (k : CommandKind) : k ∈ all := by
  cases k with
  | searchBegin s => cases s <;> decide
  | searchTurn s t => cases s <;> cases t <;> decide
  | _ => decide

theorem ReplyKind.mem_all (k : ReplyKind) : k ∈ all := by
  cases k <;> decide

theorem CommandKind.ofWord?_eq_some {s : String} {k : CommandKind} :
    ofWord? s = some k ↔ s = k.word := by
  constructor
  · intro h
    exact (by simpa using List.find?_some h : k.word = s).symm
  · rintro rfl
    exact ofWord?_word k

theorem ReplyKind.ofWord?_eq_some {s : String} {k : ReplyKind} :
    ofWord? s = some k ↔ s = k.word := by
  constructor
  · intro h
    exact (by simpa using List.find?_some h : k.word = s).symm
  · rintro rfl
    exact ofWord?_word k

theorem CommandKind.ofWord?_eq_none {s : String} :
    ofWord? s = none ↔ ∀ k : CommandKind, s ≠ k.word := by
  simp [Option.eq_none_iff_forall_ne_some, ofWord?_eq_some]

theorem ReplyKind.ofWord?_eq_none {s : String} :
    ofWord? s = none ↔ ∀ k : ReplyKind, s ≠ k.word := by
  simp [Option.eq_none_iff_forall_ne_some, ofWord?_eq_some]

theorem CommandKind.word_ne_errorWord (k : CommandKind) : k.word ≠ errorWord := by
  have hall : ∀ k ∈ all, k.word ≠ errorWord := by decide
  exact hall k k.mem_all

theorem CommandKind.word_ne_replyWord (k : CommandKind) (r : ReplyKind) : k.word ≠ r.word := by
  have hall : ∀ k ∈ all, ∀ r ∈ ReplyKind.all, k.word ≠ r.word := by decide
  exact hall k k.mem_all r r.mem_all

theorem kind_of_commandBody {kind : CommandKind} {v : Value} {c : Command}
    (h : Command.ofBody? kind v = some c) : c.kind = kind := by
  have hvoid : ∀ {a : Command}, readVoid? a v = some c → c = a := by
    intro a ha
    rw [readVoid?] at ha
    split at ha
    · exact (Option.some.inj ha).symm
    · cases ha
  cases kind with
  | logout =>
    rw [hvoid h]
    rfl
  | searchTurn s t =>
    rw [hvoid h]
    rfl
  | userBan =>
    simp only [Command.ofBody?, readUserBan?, Option.bind_eq_bind, Option.bind_eq_some_iff] at h
    obtain ⟨_, -, _, -, _, -, _, -, h⟩ := h
    cases h
    rfl
  | searchBegin s =>
    obtain ⟨q, hq, rfl⟩ := Option.map_eq_some_iff.1 h
    cases s with
    | _ =>
      obtain ⟨_, -, rfl⟩ := Option.map_eq_some_iff.1 hq
      rfl
  | _ =>
    obtain ⟨_, -, rfl⟩ := Option.map_eq_some_iff.1 h
    rfl

namespace Generation

variable {g : Generation} {e : Envelope} {bytes : ByteArray}

/-! ## What is said of a message -/

/-- Whether a word is that of a command which the generation speaks. -/
def ReadsCommand (g : Generation) (word : String) : Prop :=
  ∃ k : CommandKind, word = k.word ∧ g.allowsCommand k = true

/-- Whether a word is that of refusals, or of a reply which the generation speaks. -/
def ReadsResponse (g : Generation) (word : String) : Prop :=
  word = errorWord ∨ ∃ k : ReplyKind, word = k.word ∧ g.allowsReply k = true

/-- What reading a command is to give. -/
structure RulesCommand (g : Generation) (e : Envelope) (result : Except CodecError Command) :
    Prop where
  unexpected : (e.word = errorWord ∨ ∃ k : ReplyKind, e.word = k.word) →
    result = .error (.unexpectedType .command e.word)
  unknown : e.word ≠ errorWord → (∀ k : CommandKind, e.word ≠ k.word) →
    (∀ k : ReplyKind, e.word ≠ k.word) → result = .error (.unknownType e.word)
  notPermitted : ∀ k : CommandKind, e.word = k.word → g.allowsCommand k = false →
    result = .error (.notPermitted e.word g.identifier)
  invalidBody : ∀ k : CommandKind, e.word = k.word → g.allowsCommand k = true →
    Command.ofBody? k e.body = none → result = .error (.invalidBody e.word)
  command : ∀ k : CommandKind, e.word = k.word → g.allowsCommand k = true →
    ∀ c, Command.ofBody? k e.body = some c → result = .ok c ∧ c.kind.word = e.word

/-- What reading a response is to give. -/
structure RulesResponse (g : Generation) (e : Envelope) (result : Except CodecError Response) :
    Prop where
  unexpected : (∃ k : CommandKind, e.word = k.word) →
    result = .error (.unexpectedType .response e.word)
  unknown : e.word ≠ errorWord → (∀ k : CommandKind, e.word ≠ k.word) →
    (∀ k : ReplyKind, e.word ≠ k.word) → result = .error (.unknownType e.word)
  notPermitted : ∀ k : ReplyKind, e.word = k.word → g.allowsReply k = false →
    result = .error (.notPermitted e.word g.identifier)
  missingRequestId : g.ReadsResponse e.word → e.requestId = none →
    result = .error (.missingRequestId e.word)
  refusal : e.word = errorWord → ∀ id, e.requestId = some id →
    (readRefusal? id e.body = none → result = .error (.invalidBody e.word)) ∧
    ∀ r, readRefusal? id e.body = some r → result = .ok (.refused r) ∧ r.requestId = id
  reply : ∀ k : ReplyKind, e.word = k.word → g.allowsReply k = true →
    ∀ id, e.requestId = some id →
      (Reply.ofBody? k e.body = none → result = .error (.invalidBody e.word)) ∧
      ∀ r, Reply.ofBody? k e.body = some r →
        result = .ok (.success id r) ∧ r.kind.word = e.word

/-! ## Commands -/

theorem readCommand_of_command {k : CommandKind} (h : Envelope.ofBytes? bytes = some e)
    (hword : e.word = k.word) :
    g.readCommand bytes =
      if g.allowsCommand k then
        (Command.ofBody? k e.body).elim (.error (.invalidBody e.word)) .ok
      else .error (.notPermitted e.word g.identifier) := by
  simp only [readCommand, h, CommandKind.ofWord?_eq_some.2 hword]
  cases Command.ofBody? k e.body with
  | none => rfl
  | some c => rfl

theorem readCommand_of_other (h : Envelope.ofBytes? bytes = some e)
    (hword : ∀ k : CommandKind, e.word ≠ k.word) :
    g.readCommand bytes = .error (.unrecognized .command e.word) := by
  simp only [readCommand, h, CommandKind.ofWord?_eq_none.2 hword]

theorem unrecognized_of_unknown {expected : Heading} {word : String} (herror : word ≠ errorWord)
    (hcommand : ∀ k : CommandKind, word ≠ k.word) (hreply : ∀ k : ReplyKind, word ≠ k.word) :
    CodecError.unrecognized expected word = .unknownType word := by
  rw [CodecError.unrecognized, CommandKind.ofWord?_eq_none.2 hcommand,
    ReplyKind.ofWord?_eq_none.2 hreply]
  simp [herror]

theorem rulesCommand (h : Envelope.ofBytes? bytes = some e) :
    g.RulesCommand e (g.readCommand bytes) where
  unexpected := by
    rintro (hword | ⟨r, hword⟩)
    · rw [readCommand_of_other h fun k => hword ▸ k.word_ne_errorWord.symm,
        CodecError.unrecognized, if_pos (.inl hword)]
    · rw [readCommand_of_other h fun k => hword ▸ (k.word_ne_replyWord r).symm,
        CodecError.unrecognized, ReplyKind.ofWord?_eq_some.2 hword]
      simp
  unknown := by
    intro herror hcommand hreply
    rw [readCommand_of_other h hcommand, unrecognized_of_unknown herror hcommand hreply]
  notPermitted := by
    intro k hword hallows
    rw [readCommand_of_command h hword, if_neg (by simp [hallows])]
  invalidBody := by
    intro k hword hallows hbody
    rw [readCommand_of_command h hword, if_pos hallows, hbody]
    rfl
  command := by
    intro k hword hallows c hbody
    rw [readCommand_of_command h hword, if_pos hallows, hbody, kind_of_commandBody hbody, hword]
    exact ⟨rfl, rfl⟩

/-! ## Responses -/

theorem readResponse_of_error (h : Envelope.ofBytes? bytes = some e) (hword : e.word = errorWord) :
    g.readResponse bytes =
      readNamedResponse e fun id => (readRefusal? id e.body).map .refused := by
  simp only [readResponse, h, if_pos hword]

theorem readResponse_of_reply {k : ReplyKind} (h : Envelope.ofBytes? bytes = some e)
    (hword : e.word = k.word) :
    g.readResponse bytes =
      if g.allowsReply k then
        readNamedResponse e fun id => (Reply.ofBody? k e.body).map (.success id)
      else .error (.notPermitted e.word g.identifier) := by
  have herror : e.word ≠ errorWord := hword ▸ k.word_ne_errorWord
  simp only [readResponse, h, if_neg herror, ReplyKind.ofWord?_eq_some.2 hword]

theorem readResponse_of_other (h : Envelope.ofBytes? bytes = some e) (herror : e.word ≠ errorWord)
    (hword : ∀ k : ReplyKind, e.word ≠ k.word) :
    g.readResponse bytes = .error (.unrecognized .response e.word) := by
  simp only [readResponse, h, if_neg herror, ReplyKind.ofWord?_eq_none.2 hword]

theorem request_of_readRefusal? {id : RequestId} {v : Value} {r : Refusal}
    (h : readRefusal? id v = some r) : r.requestId = id := by
  simp only [readRefusal?, Option.bind_eq_bind, Option.bind_eq_some_iff] at h
  obtain ⟨_, -, _, -, _, -, _, -, _, -, _, -, h⟩ := h
  cases h
  rfl

theorem rulesResponse (h : Envelope.ofBytes? bytes = some e) :
    g.RulesResponse e (g.readResponse bytes) where
  unexpected := by
    rintro ⟨k, hword⟩
    rw [readResponse_of_other h (hword ▸ k.word_ne_errorWord)
      (fun r => hword ▸ k.word_ne_replyWord r), CodecError.unrecognized,
      CommandKind.ofWord?_eq_some.2 hword]
    simp
  unknown := by
    intro herror hcommand hreply
    rw [readResponse_of_other h herror hreply, unrecognized_of_unknown herror hcommand hreply]
  notPermitted := by
    intro k hword hallows
    rw [readResponse_of_reply h hword, if_neg (by simp [hallows])]
  missingRequestId := by
    rintro (hword | ⟨k, hword, hallows⟩) hnone
    · rw [readResponse_of_error h hword, readNamedResponse, hnone]
    · rw [readResponse_of_reply h hword, if_pos hallows, readNamedResponse, hnone]
  refusal := by
    intro hword id hid
    rw [readResponse_of_error h hword, readNamedResponse, hid]
    constructor
    · intro hbody
      simp [hbody]
    · intro r hbody
      simp [hbody, request_of_readRefusal? hbody]
  reply := by
    intro k hword hallows id hid
    rw [readResponse_of_reply h hword, if_pos hallows, readNamedResponse, hid]
    constructor
    · intro hbody
      simp [hbody]
    · intro r hbody
      simp [hbody, kind_of_ofBody? hbody, hword]

/-! ## Two messages with one word -/

section Pairs

variable {e' : Envelope} {bytes' : ByteArray}

/-- A body has a say only if the generation reads the word as a command. -/
theorem readCommand_congr (h : Envelope.ofBytes? bytes = some e)
    (h' : Envelope.ofBytes? bytes' = some e') (hword : e'.word = e.word)
    (hbody : g.ReadsCommand e.word → e'.body = e.body) :
    g.readCommand bytes' = g.readCommand bytes := by
  by_cases hnamed : ∃ k : CommandKind, e.word = k.word
  · obtain ⟨k, hk⟩ := hnamed
    rw [readCommand_of_command h hk, readCommand_of_command h' (hword.trans hk), hword]
    cases hallows : g.allowsCommand k with
    | false => simp
    | true => rw [hbody ⟨k, hk, hallows⟩]
  · have hother : ∀ k : CommandKind, e.word ≠ k.word := fun k hk => hnamed ⟨k, hk⟩
    rw [readCommand_of_other h hother, readCommand_of_other h' (hword ▸ hother), hword]

theorem readNamedResponse_congr {ofBody? ofBody'? : RequestId → Option Response}
    (hword : e'.word = e.word) (hid : e'.requestId = e.requestId)
    (hbody : ∀ id, e.requestId = some id → ofBody'? id = ofBody? id) :
    readNamedResponse e' ofBody'? = readNamedResponse e ofBody? := by
  rw [readNamedResponse, readNamedResponse, hid, hword]
  cases hrequest : e.requestId with
  | none => rfl
  | some id => simp only [hbody id hrequest]

/-- The request and the body have a say only if the generation reads the word as a response, and the
body only if there is a request. -/
theorem readResponse_congr (h : Envelope.ofBytes? bytes = some e)
    (h' : Envelope.ofBytes? bytes' = some e') (hword : e'.word = e.word)
    (hid : g.ReadsResponse e.word → e'.requestId = e.requestId)
    (hbody : g.ReadsResponse e.word → e.requestId ≠ none → e'.body = e.body) :
    g.readResponse bytes' = g.readResponse bytes := by
  by_cases herror : e.word = errorWord
  · rw [readResponse_of_error h herror, readResponse_of_error h' (hword.trans herror)]
    refine readNamedResponse_congr hword (hid (.inl herror)) fun id hrequest => ?_
    rw [hbody (.inl herror) (by simp [hrequest])]
  by_cases hnamed : ∃ k : ReplyKind, e.word = k.word
  · obtain ⟨k, hk⟩ := hnamed
    rw [readResponse_of_reply h hk, readResponse_of_reply h' (hword.trans hk), hword]
    cases hallows : g.allowsReply k with
    | false => simp
    | true =>
      have hreads : g.ReadsResponse e.word := .inr ⟨k, hk, hallows⟩
      rw [if_pos rfl, if_pos rfl]
      refine readNamedResponse_congr hword (hid hreads) fun id hrequest => ?_
      rw [hbody hreads (by simp [hrequest])]
  · have hother : ∀ k : ReplyKind, e.word ≠ k.word := fun k hk => hnamed ⟨k, hk⟩
    rw [readResponse_of_other h herror hother,
      readResponse_of_other h' (hword ▸ herror) (hword ▸ hother), hword]

end Pairs

/-- **The word decides.** A word of the other direction is unexpected, a word that nobody knows is
unknown, and a word that the generation does not speak is not permitted. Only a message with a word
that the generation speaks is looked into: a command for its body, and a response for the request
that it answers and then for its body. What is read has the kind that the word says. So two messages
with one word are read alike if the generation does not speak the word, and otherwise if request and
body are the same. The schema makes no difference at all. -/
theorem word_decides (g : Generation) {bytes : ByteArray} {e : Envelope}
    (h : Envelope.ofBytes? bytes = some e) :
    g.RulesCommand e (g.readCommand bytes) ∧ g.RulesResponse e (g.readResponse bytes) ∧
    ∀ bytes' e', Envelope.ofBytes? bytes' = some e' → e'.word = e.word →
      (¬ g.ReadsCommand e.word → g.readCommand bytes' = g.readCommand bytes) ∧
      (e'.body = e.body → g.readCommand bytes' = g.readCommand bytes) ∧
      (¬ g.ReadsResponse e.word → g.readResponse bytes' = g.readResponse bytes) ∧
      (e'.requestId = none → e.requestId = none →
        g.readResponse bytes' = g.readResponse bytes) ∧
      (e'.requestId = e.requestId → e'.body = e.body →
        g.readResponse bytes' = g.readResponse bytes) := by
  refine ⟨rulesCommand h, rulesResponse h, ?_⟩
  intro bytes' e' h' hword
  refine ⟨?_, ?_, ?_, ?_, ?_⟩
  · intro hnot
    exact readCommand_congr h h' hword fun hreads => absurd hreads hnot
  · intro hbody
    exact readCommand_congr h h' hword fun _ => hbody
  · intro hnot
    exact readResponse_congr h h' hword (fun hreads => absurd hreads hnot)
      fun hreads => absurd hreads hnot
  · intro hnone' hnone
    exact readResponse_congr h h' hword (fun _ => hnone'.trans hnone.symm)
      fun _ hsome => absurd hnone hsome
  · intro hid hbody
    exact readResponse_congr h h' hword (fun _ => hid) fun _ _ => hbody

/-- To the first generation, to which a search of the audit log is nothing, an empty one and an odd
one are the same. To the second they are not. -/
theorem word_decides_audit_search :
    let plain : Envelope := ⟨generation11.schema, "AuditSearchNext", none, .null⟩
    let odd : Envelope := ⟨"", "AuditSearchNext", some ⟨.zero⟩, .text "next"⟩
    Envelope.ofBytes? plain.render.toUTF8 = some plain ∧
      Envelope.ofBytes? odd.render.toUTF8 = some odd ∧
      generation10.readCommand plain.render.toUTF8 =
        .error (.notPermitted "AuditSearchNext" generation10.identifier) ∧
      generation10.readCommand odd.render.toUTF8 =
        generation10.readCommand plain.render.toUTF8 ∧
      generation11.readCommand plain.render.toUTF8 = .ok (.searchTurn .audit .next) ∧
      generation11.readCommand odd.render.toUTF8 = .error (.invalidBody "AuditSearchNext") := by
  intro plain odd
  have hplain : Envelope.ofBytes? plain.render.toUTF8 = some plain :=
    Envelope.ofBytes?_render .null
  have hodd : Envelope.ofBytes? odd.render.toUTF8 = some odd :=
    Envelope.ofBytes?_render (.text "next")
  obtain ⟨hfirst, -, hsame⟩ := word_decides generation10 hplain
  obtain ⟨hsecond, -⟩ := word_decides generation11 hplain
  obtain ⟨hother, -⟩ := word_decides generation11 hodd
  have hnot : ¬ generation10.ReadsCommand plain.word := by
    rintro ⟨k, hk, hallows⟩
    have hall : ∀ k ∈ CommandKind.all, "AuditSearchNext" = k.word →
        generation10.allowsCommand k = false := by decide
    rw [hall k k.mem_all hk] at hallows
    cases hallows
  refine ⟨hplain, hodd, ?_, ?_, ?_, ?_⟩
  · exact hfirst.notPermitted (.searchTurn .audit .next) rfl rfl
  · exact (hsame _ _ hodd rfl).1 hnot
  · exact (hsecond.command (.searchTurn .audit .next) rfl rfl _ rfl).1
  · exact hother.invalidBody (.searchTurn .audit .next) rfl rfl rfl

end Generation

end AcctAdmin.Protocol
