import AcctAdmin.Proofs.Protocol.Body
import AcctAdmin.Protocol.Codec

/-!
# Messages come back

What one side writes is what the other side reads, whatever the texts, numbers and identifiers in
it. Between two generations the only thing that can go wrong is that the reader does not speak the
kind of message. In a refusal the code travels as a bare text, and the codes that keep their meaning
on the way are the canonical ones.
-/

set_option autoImplicit false

namespace AcctAdmin.Protocol

open AcctAdmin.Json AcctAdmin.Record

namespace Code

/-- The codes that survive the wire, on which a code is a bare text. A storage code has to look
like one, and any other code must not look like one nor be one of the fixed words. -/
def Canonical : Code → Prop
  | .storage s => isStorageCode s = true
  | .other s => isStorageCode s = false ∧ ∀ code ∈ named, code.text ≠ s
  | _ => True

/-- A text is taken for the code it names, else for a storage code, else for itself. -/
theorem ofText_cases (s : String) :
    (∃ code ∈ named, code.text = s ∧ ofText s = code) ∨
    (∀ code ∈ named, code.text ≠ s) ∧
      (isStorageCode s = true ∧ ofText s = .storage s ∨
        isStorageCode s = false ∧ ofText s = .other s) := by
  rw [ofText]
  split
  · rename_i code h
    exact .inl ⟨code, List.mem_of_find?_eq_some h, by simpa using List.find?_some h, rfl⟩
  · rename_i h
    refine .inr ⟨by simpa using h, ?_⟩
    cases hshape : isStorageCode s with
    | true => exact .inl ⟨rfl, rfl⟩
    | false => exact .inr ⟨rfl, rfl⟩

@[simp] theorem text_ofText (s : String) : (ofText s).text = s := by
  obtain ⟨code, -, htext, hs⟩ | ⟨-, ⟨-, hs⟩ | ⟨-, hs⟩⟩ := ofText_cases s
  · rw [hs, htext]
  · rw [hs, text]
  · rw [hs, text]

theorem isStorageCode_of_named {code : Code} (h : code ∈ named) :
    isStorageCode code.text = false := by
  revert code
  decide

/-- A code is read from its own text exactly if it is canonical. -/
theorem ofText_text_eq_iff (c : Code) : ofText c.text = c ↔ c.Canonical := by
  cases c with
  | storage s =>
    change ofText s = .storage s ↔ isStorageCode s = true
    obtain ⟨code, hcode, rfl, hs⟩ | ⟨-, ⟨hshape, hs⟩ | ⟨hshape, hs⟩⟩ := ofText_cases s
    · have hne : code ≠ .storage code.text := fun h => by
        rw [h] at hcode
        simp [named] at hcode
      rw [hs]
      exact iff_of_false hne (by simp [isStorageCode_of_named hcode])
    · exact iff_of_true hs hshape
    · exact iff_of_false (by simp [hs]) (by simp [hshape])
  | other s =>
    change ofText s = .other s ↔ isStorageCode s = false ∧ ∀ code ∈ named, code.text ≠ s
    obtain ⟨code, hcode, rfl, hs⟩ | ⟨hnamed, ⟨hshape, hs⟩ | ⟨hshape, hs⟩⟩ := ofText_cases s
    · have hne : code ≠ .other code.text := fun h => by
        rw [h] at hcode
        simp [named] at hcode
      rw [hs]
      exact iff_of_false hne fun h => h.2 code hcode rfl
    · exact iff_of_false (by simp [hs]) (by simp [hshape])
    · exact iff_of_true hs ⟨hshape, hnamed⟩
  | _ => exact iff_of_true (by decide) trivial

end Code

/-! ## Envelopes -/

namespace Envelope

theorem readRequestId?_text {s : String} {id : RequestId} (h : Uuid.parse? s = some id.uuid) :
    Node.option? readRequestId? (.text (some s)) = some (some id) := by
  rw [Node.option?, readRequestId?, Node.text?, Option.bind_some, h]
  · rfl
  · intro hnull
    cases hnull

theorem sound_value {e : Envelope} (h : e.body.Sound bodyDepth) :
    e.value.Sound (bodyDepth + 1) := by
  obtain ⟨schema, word, requestId, body⟩ := e
  cases requestId with
  | none => exact .object (by simp) (by simpa using h)
  | some id => exact .object (by simp) (by simpa using h)

theorem ofNode?_value {e : Envelope} (h : e.body.Sound bodyDepth) :
    ofNode? e.value.node = some e := by
  have hbody := value?_node h
  obtain ⟨schema, word, requestId, body⟩ := e
  cases requestId with
  | none =>
    refine after rfl ?_
    refine after (required_eq rfl rfl) ?_
    refine after (required_eq rfl rfl) ?_
    refine after rfl ?_
    refine after (defaulted_eq rfl hbody) ?_
    rfl
  | some id =>
    refine after rfl ?_
    refine after (required_eq rfl rfl) ?_
    refine after (required_eq rfl rfl) ?_
    refine after (defaulted_eq rfl (readRequestId?_text (Uuid.parse?_hyphenated _))) ?_
    refine after (defaulted_eq rfl hbody) ?_
    rfl

theorem ofBytes?_render {e : Envelope} (h : e.body.Sound bodyDepth) :
    ofBytes? e.render.toUTF8 = some e := by
  rw [ofBytes?, render, Node.ofBytes?_render (sound_value h)]
  exact ofNode?_value h

end Envelope

/-! ## Words -/

@[simp] theorem CommandKind.ofWord?_word (k : CommandKind) : ofWord? k.word = some k := by
  cases k with
  | searchBegin s => cases s <;> rfl
  | searchTurn s t => cases s <;> cases t <;> rfl
  | _ => rfl

@[simp] theorem ReplyKind.ofWord?_word (k : ReplyKind) : ofWord? k.word = some k := by
  cases k <;> rfl

theorem ReplyKind.word_ne_errorWord (k : ReplyKind) : k.word ≠ errorWord := by
  cases k <;> decide

/-! ## Bodies and their envelopes -/

theorem fits_commandBody (c : Command) : c.body.Sound Envelope.bodyDepth :=
  @sound_commandBody 123 c

theorem fits_replyBody (r : Reply) : r.body.Sound Envelope.bodyDepth := @sound_replyBody 123 r

theorem fits_refusalValue (r : Refusal) : (refusalValue r).Sound Envelope.bodyDepth :=
  @sound_refusalValue 124 r

theorem kind_of_ofBody? {kind : ReplyKind} {v : Value} {reply : Reply}
    (h : Reply.ofBody? kind v = some reply) : reply.kind = kind := by
  cases kind with
  | loginOk =>
    simp only [Reply.ofBody?, Option.bind_eq_bind, Option.bind_eq_some_iff] at h
    obtain ⟨_, -, _, -, h⟩ := h
    cases h
    rfl
  | done =>
    simp only [Reply.ofBody?, readVoid?] at h
    split at h
    · cases h
      rfl
    · cases h
  | _ =>
    obtain ⟨_, -, rfl⟩ := Option.map_eq_some_iff.1 h
    rfl

theorem code_of_readRefusal? {id : RequestId} {v : Value} {r : Refusal}
    (h : readRefusal? id v = some r) : r.code.Canonical := by
  simp only [readRefusal?, Option.bind_eq_bind, Option.bind_eq_some_iff] at h
  obtain ⟨_, -, _, -, code, -, _, -, _, -, _, -, h⟩ := h
  cases h
  rw [← Code.ofText_text_eq_iff, Code.text_ofText]

namespace Generation

/-! ## Commands -/

/-- **A command comes back** to every generation that speaks it. It is written by the generations
that speak it and by no others, and one that does not speak it refuses it by name. -/
theorem command_comes_back (v w : Generation) (c : Command) :
    ((∃ text, v.commandText c = .ok text) ↔ v.allowsCommand c.kind = true) ∧
    (v.allowsCommand c.kind = false →
      v.commandText c = .error (.notPermitted c.kind.word v.identifier)) ∧
    ∀ text, v.commandText c = .ok text →
      w.readCommand text.toUTF8 =
        if w.allowsCommand c.kind then .ok c
        else .error (.notPermitted c.kind.word w.identifier) := by
  rw [commandText]
  cases hv : v.allowsCommand c.kind with
  | false => simp
  | true =>
    refine ⟨by simp, nofun, ?_⟩
    intro text htext
    obtain rfl := Except.ok.inj htext
    rw [readCommand, Envelope.ofBytes?_render (fits_commandBody c)]
    simp [ofBody?_commandBody]

/-- The second generation writes a search of the audit log, which the first cannot read. -/
theorem audit_search_is_new :
    ∃ text, generation11.commandText (.searchBegin (.audit .standard)) = .ok text ∧
      generation11.readCommand text.toUTF8 = .ok (.searchBegin (.audit .standard)) ∧
      generation10.readCommand text.toUTF8 =
        .error (.notPermitted "AuditSearchBegin" generation10.identifier) := by
  obtain ⟨hwritten, -, hsame⟩ :=
    command_comes_back generation11 generation11 (.searchBegin (.audit .standard))
  obtain ⟨-, -, hfirst⟩ :=
    command_comes_back generation11 generation10 (.searchBegin (.audit .standard))
  obtain ⟨text, htext⟩ := hwritten.2 (by decide)
  exact ⟨text, htext, hsame text htext, hfirst text htext⟩

/-! ## Responses -/

theorem success_comes_back {g : Generation} {reply : Reply} (h : g.allowsReply reply.kind = true)
    (id : RequestId) :
    ∃ text, g.responseText (.success id reply) = .ok text ∧
      g.readResponse text.toUTF8 = .ok (.success id reply) := by
  refine ⟨_, if_pos h, ?_⟩
  rw [readResponse, Envelope.ofBytes?_render (fits_replyBody reply)]
  simp [ReplyKind.word_ne_errorWord, h, readNamedResponse, ofBody?_replyBody]

theorem refusal_comes_back (g : Generation) (r : Refusal) :
    ∃ text, g.responseText (.refused r) = .ok text ∧
      g.readResponse text.toUTF8 = .ok (.refused { r with code := .ofText r.code.text }) := by
  refine ⟨_, rfl, ?_⟩
  rw [readResponse, Envelope.ofBytes?_render (fits_refusalValue r)]
  simp [readNamedResponse, readRefusal?_refusalValue]

theorem readNamedResponse_eq_ok {e : Envelope} {ofBody? : RequestId → Option Response}
    {r : Response} (h : readNamedResponse e ofBody? = .ok r) : ∃ id, ofBody? id = some r := by
  rw [readNamedResponse] at h
  split at h
  · cases h
  · rename_i id _
    split at h
    · rename_i hbody
      obtain rfl := Except.ok.inj h
      exact ⟨id, hbody⟩
    · cases h

/-- Only what can be written is accepted: replies that the generation speaks, and refusals whose
code is taken for itself. -/
theorem readResponse_eq_ok {g : Generation} {bytes : ByteArray} {r : Response}
    (h : g.readResponse bytes = .ok r) :
    (∃ id reply, r = .success id reply ∧ g.allowsReply reply.kind = true) ∨
    (∃ refusal, r = .refused refusal ∧ refusal.code.Canonical) := by
  rw [readResponse] at h
  split at h
  · cases h
  · rename_i e _
    split at h
    · obtain ⟨id, hread⟩ := readNamedResponse_eq_ok h
      obtain ⟨refusal, hrefusal, rfl⟩ := Option.map_eq_some_iff.1 hread
      exact .inr ⟨refusal, rfl, code_of_readRefusal? hrefusal⟩
    · split at h
      · cases h
      · rename_i kind _
        split at h
        · rename_i hallows
          obtain ⟨id, hread⟩ := readNamedResponse_eq_ok h
          obtain ⟨reply, hreply, rfl⟩ := Option.map_eq_some_iff.1 hread
          exact .inl ⟨id, reply, rfl, kind_of_ofBody? hreply ▸ hallows⟩
        · cases h

/-- **A response comes back.** A reply that the generation speaks comes back as it is. A refusal is
always written and comes back with the code that its code's text is taken for, so that it is the
same exactly if its code is canonical. Whatever was accepted once is written and accepted again as
the same. -/
theorem response_comes_back (g : Generation) :
    (∀ id reply, g.allowsReply reply.kind = true →
      ∃ text, g.responseText (.success id reply) = .ok text ∧
        g.readResponse text.toUTF8 = .ok (.success id reply)) ∧
    (∀ r, ∃ text, g.responseText (.refused r) = .ok text ∧
      g.readResponse text.toUTF8 = .ok (.refused { r with code := .ofText r.code.text }) ∧
      (g.readResponse text.toUTF8 = .ok (.refused r) ↔ Code.ofText r.code.text = r.code) ∧
      (Code.ofText r.code.text = r.code ↔ r.code.Canonical)) ∧
    (∀ bytes r, g.readResponse bytes = .ok r →
      ∃ text, g.responseText r = .ok text ∧ g.readResponse text.toUTF8 = .ok r) := by
  refine ⟨fun id reply h => success_comes_back h id, fun r => ?_, fun bytes r h => ?_⟩
  · obtain ⟨text, htext, hread⟩ := refusal_comes_back g r
    refine ⟨text, htext, hread, ?_, Code.ofText_text_eq_iff r.code⟩
    rw [hread]
    constructor
    · intro h
      exact congrArg Refusal.code (Response.refused.inj (Except.ok.inj h))
    · intro h
      rw [h]
  · obtain ⟨id, reply, rfl, hallows⟩ | ⟨refusal, rfl, hcode⟩ := readResponse_eq_ok h
    · exact success_comes_back hallows id
    · obtain ⟨text, htext, hread⟩ := refusal_comes_back g refusal
      rw [(Code.ofText_text_eq_iff _).2 hcode] at hread
      exact ⟨text, htext, hread⟩

/-- A code that nobody knows comes back as it was, beside the plainest of replies. -/
theorem unheard_of_code_comes_back :
    (∃ text, generation10.responseText (.success ⟨.zero⟩ .done) = .ok text ∧
      generation10.readResponse text.toUTF8 = .ok (.success ⟨.zero⟩ .done)) ∧
    ∃ text, generation10.responseText
        (.refused ⟨⟨.zero⟩, "", .other "Overloaded", .empty, none, .server⟩) = .ok text ∧
      generation10.readResponse text.toUTF8 =
        .ok (.refused ⟨⟨.zero⟩, "", .other "Overloaded", .empty, none, .server⟩) := by
  obtain ⟨hsuccess, hrefused, -⟩ := response_comes_back generation10
  refine ⟨hsuccess ⟨.zero⟩ .done (by decide), ?_⟩
  obtain ⟨text, htext, -, hsame, -⟩ :=
    hrefused ⟨⟨.zero⟩, "", .other "Overloaded", .empty, none, .server⟩
  exact ⟨text, htext, hsame.2 (by decide)⟩

end Generation

end AcctAdmin.Protocol
