import AcctAdmin.Proofs.Protocol.Dispatch
import AcctAdmin.Proofs.Protocol.Written

/-!
# Presentation makes no difference

A message may be put down in many ways: with blanks and escapes as one likes, by name or by place,
in any order, among members that nobody knows, and with things left out that go without saying.
Whichever way is taken, the message is read.
-/

set_option autoImplicit false

namespace AcctAdmin.Protocol

open AcctAdmin.Json AcctAdmin.Record

/-! ## Envelopes -/

/-- The request that is answered is shown by any text that names it. -/
def ShowsRequest (id : RequestId) (node : Node) : Prop :=
  ∃ s, node = .text (some s) ∧ Uuid.parse? s = some id.uuid

/-- A response says which request it answers. A command answers none, and what it says is not
looked at. -/
def requestField : Option RequestId → Field
  | some id => .required "request_id" (ShowsRequest id)
  | none => .defaulted "request_id" (fun node => node = .null ∨ ∃ id, ShowsRequest id node) True

/-- The body has to be something that can be taken as a value. It may be left out if null will
do. -/
def bodyField (shown : Node → Prop) : Field :=
  .defaulted "body" (fun node => node.Legible Envelope.bodyDepth ∧ shown node) (shown .null)

def envelopeFields (schema word : String) (answers : Option RequestId) (shown : Node → Prop) :
    List Field :=
  [.required "schema" (ShowsText schema),
   .required "type" (ShowsText word),
   requestField answers,
   bodyField shown]

/-- Whether a text presents a message with a given word and with a body that is shown in a given
way. The schema may be any. -/
def Presented (word : String) (answers : Option RequestId) (shown : Node → Prop) (text : String) :
    Prop :=
  ∃ schema node, node.Spelled text ∧ node.Named ∧
    Presents (envelopeFields schema word answers shown) node

section

variable {schema word text : String} {answers : Option RequestId} {shown : Node → Prop}

theorem readRequestId?_of_shows {id : RequestId} {node : Node} (h : ShowsRequest id node) :
    Node.option? Envelope.readRequestId? node = some (some id) := by
  obtain ⟨s, rfl, hs⟩ := h
  exact Envelope.readRequestId?_text hs

theorem request_of_found {r : Record Node} (h : (requestField answers).FoundIn (· = ·) r) :
    ∃ requestId, r.defaulted "request_id" (Node.option? Envelope.readRequestId?) none =
      some requestId ∧ ∀ id, answers = some id → requestId = some id := by
  cases answers with
  | none =>
    refine h.defaulted ?_ (by simp)
    rintro node _ (rfl | ⟨id, hid⟩) rfl
    · exact ⟨none, rfl, by simp⟩
    · exact ⟨some id, readRequestId?_of_shows hid, by simp⟩
  | some id =>
    cases h with
    | there hfind hsame hshown =>
      subst hsame
      exact ⟨some id, defaulted_eq hfind (readRequestId?_of_shows hshown), fun _ h => h⟩
    | lacking _ _ hlackable => exact hlackable.elim
    | dropped _ hdroppable => exact hdroppable.elim

theorem body_of_found {r : Record Node} (h : (bodyField shown).FoundIn (· = ·) r) :
    ∃ body, r.defaulted "body" (Node.value? Envelope.bodyDepth) .null = some body ∧
      ∃ node, shown node ∧ Gives node body := by
  refine h.defaulted ?_ fun hnull => ⟨.null, hnull, 0, by rw [Node.value?]⟩
  -- What can be taken as a value is one, and which one is left to the reader of the body.
  rintro node _ ⟨hlegible, hshown⟩ rfl
  obtain ⟨body, hbody⟩ := hlegible.exists_value?
  exact ⟨body, hbody, node, hshown, _, hbody⟩

/-- The envelope of what is presented has the word, the request and the body of it. -/
theorem Presented.envelope (h : Presented word answers shown text) :
    ∃ e node, Envelope.ofBytes? text.toUTF8 = some e ∧ e.word = word ∧
      (∀ id, answers = some id → e.requestId = some id) ∧ shown node ∧ Gives node e.body := by
  obtain ⟨schema, node, hspelled, hnamed, hpresents⟩ := h
  obtain ⟨r, hr, hfound⟩ := hpresents.nodeRecord ["schema", "type", "request_id", "body"]
    (by cases answers <;> rfl) (by decide) hnamed
  simp only [envelopeFields, List.forall_mem_cons] at hfound
  obtain ⟨hschema, hword, hrequest, hbody, -⟩ := hfound
  have htext : ∀ s node a, ShowsText s node → node = a → a.text? = some s := by
    rintro s _ _ rfl rfl
    rfl
  obtain ⟨requestId, hreads, hanswers⟩ := request_of_found hrequest
  obtain ⟨body, hvalue, shownNode, hshown, hgives⟩ := body_of_found hbody
  refine ⟨⟨schema, word, requestId, body⟩, shownNode, ?_, rfl, hanswers, hshown, hgives⟩
  refine after (Node.ofBytes?_of_spelled hspelled) ?_
  refine after hr ?_
  refine after (hschema.required (htext schema)) ?_
  refine after (hword.required (htext word)) ?_
  refine after hreads ?_
  refine after hvalue ?_
  rfl

/-- The text of an envelope presents what is in it, if the body shows it. -/
theorem presented_render {body : Value} (hsound : body.Sound Envelope.bodyDepth)
    (hshown : shown body.node) :
    Presented word answers shown (Envelope.render ⟨schema, word, answers, body⟩) := by
  have hsent := Node.spelled_render
    (Envelope.sound_value (e := ⟨schema, word, answers, body⟩) hsound)
  have hbody := And.intro hsound.legible hshown
  cases answers with
  | none =>
    refine ⟨schema, _, hsent, ?_, .byName ?_⟩
    · exact Value.named_node _
    · simp only [envelopeFields, List.forall_mem_cons]
      exact ⟨.once rfl rfl, .once rfl rfl, .lacking rfl trivial, .once rfl hbody,
        List.forall_mem_nil _⟩
  | some id =>
    have hid : ShowsRequest id (Value.text id.text).node := ⟨id.text, rfl, Uuid.parse?_hyphenated _⟩
    refine ⟨schema, _, hsent, ?_, .byName ?_⟩
    · exact Value.named_node _
    · simp only [envelopeFields, List.forall_mem_cons]
      exact ⟨.once rfl rfl, .once rfl rfl, .once rfl hid, .once rfl hbody, List.forall_mem_nil _⟩

end

/-! ## Messages -/

def Command.PresentedBy (c : Command) (text : String) : Prop :=
  Presented c.kind.word none c.Shown text

def Response.PresentedBy : Response → String → Prop
  | .success id reply, text => Presented reply.kind.word (some id) reply.Shown text
  | .refused r, text => Presented errorWord (some r.requestId) (Presents (refusalFields r)) text

namespace Generation

variable {g : Generation} {text : String}

theorem readCommand_of_presented {c : Command} (hallows : g.allowsCommand c.kind = true)
    (h : c.PresentedBy text) : g.readCommand text.toUTF8 = .ok c := by
  obtain ⟨e, node, he, hword, -, hshown, hgives⟩ := h.envelope
  rw [readCommand_of_command he hword, if_pos hallows,
    understands_command c node e.body hshown hgives]
  rfl

theorem readResponse_of_presented_success {id : RequestId} {reply : Reply}
    (hallows : g.allowsReply reply.kind = true)
    (h : (Response.success id reply).PresentedBy text) :
    g.readResponse text.toUTF8 = .ok (.success id reply) := by
  obtain ⟨e, node, he, hword, hanswers, hshown, hgives⟩ := Presented.envelope h
  rw [readResponse_of_reply he hword, if_pos hallows, readNamedResponse, hanswers id rfl]
  simp only [understands_reply reply node e.body hshown hgives, Option.map_some]

theorem readResponse_of_presented_refusal {r : Refusal}
    (h : (Response.refused r).PresentedBy text) :
    g.readResponse text.toUTF8 = .ok (.refused { r with code := .ofText r.code.text }) := by
  obtain ⟨e, node, he, hword, hanswers, hshown, hgives⟩ := Presented.envelope h
  rw [readResponse_of_error he hword, readNamedResponse, hanswers _ rfl]
  simp only [understands_refusal r node e.body hshown hgives, Option.map_some]

/-- **Presentation makes no difference.** What a generation writes for a command or a response
presents it, and so do many other texts. All of them are read as the same thing by a generation that
speaks it. Only in a refusal the code is whatever its text is taken for, so that the refusal is the
same exactly if its code is canonical. -/
theorem presentation_makes_no_difference (g : Generation) :
    (∀ c : Command, g.allowsCommand c.kind = true →
      (∃ text, g.commandText c = .ok text ∧ c.PresentedBy text) ∧
      ∀ text, c.PresentedBy text → g.readCommand text.toUTF8 = .ok c) ∧
    (∀ id reply, g.allowsReply reply.kind = true →
      (∃ text, g.responseText (.success id reply) = .ok text ∧
        (Response.success id reply).PresentedBy text) ∧
      ∀ text, (Response.success id reply).PresentedBy text →
        g.readResponse text.toUTF8 = .ok (.success id reply)) ∧
    ∀ r : Refusal,
      (∃ text, g.responseText (.refused r) = .ok text ∧ (Response.refused r).PresentedBy text) ∧
      ∀ text, (Response.refused r).PresentedBy text →
        g.readResponse text.toUTF8 = .ok (.refused { r with code := .ofText r.code.text }) ∧
        (g.readResponse text.toUTF8 = .ok (.refused r) ↔ r.code.Canonical) := by
  refine ⟨fun c hallows => ⟨?_, ?_⟩, fun id reply hallows => ⟨?_, ?_⟩, fun r => ⟨?_, ?_⟩⟩
  · exact ⟨_, if_pos hallows, presented_render (fits_commandBody c) (shows_command c)⟩
  · exact fun text h => readCommand_of_presented hallows h
  · exact ⟨_, if_pos hallows, presented_render (fits_replyBody reply) (shows_reply reply)⟩
  · exact fun text h => readResponse_of_presented_success hallows h
  · exact ⟨_, rfl, presented_render (fits_refusalValue r) (shows_refusal r)⟩
  · intro text h
    have hread := readResponse_of_presented_refusal (g := g) h
    refine ⟨hread, ?_⟩
    rw [hread, ← Code.ofText_text_eq_iff]
    constructor
    · intro hsame
      exact congrArg Refusal.code (Response.refused.inj (Except.ok.inj hsame))
    · intro hcode
      rw [hcode]

/-- A ban by place, with its end left off and an escape in its reason, beside a number that nobody
could hold. The plainest reply by place, with its body left off. A refusal as it is written. -/
theorem presentation_of_a_ban :
    let id := "00000000-0000-0000-0000-000000000000"
    let ban : Command := .userBan ⟨.zero⟩ "spam" none
    let oddBan := " \x7b\"body\":[\"" ++ id ++ "\",\n\"sp\\u0061m\"],\"x\":1e999," ++
      "\"schema\":\"\",\"type\":\"UserBan\"\x7d"
    let done : Response := .success ⟨.zero⟩ .done
    let oddDone := (Value.array [.text "", .text "Done", .text id]).render
    let refusal : Refusal := ⟨⟨.zero⟩, "", .validity, .empty, none, .client⟩
    generation10.allowsCommand ban.kind = true ∧ ban.PresentedBy oddBan ∧
    generation10.readCommand oddBan.toUTF8 = .ok ban ∧
    generation10.allowsReply Reply.done.kind = true ∧ done.PresentedBy oddDone ∧
    generation10.readResponse oddDone.toUTF8 = .ok done ∧
    ∃ text, (Response.refused refusal).PresentedBy text ∧ refusal.code.Canonical ∧
      generation10.readResponse text.toUTF8 = .ok (.refused refusal) := by
  intro id ban oddBan done oddDone refusal
  obtain ⟨hcommands, hreplies, hrefusals⟩ := presentation_makes_no_difference generation10
  have hban : ban.PresentedBy oddBan := by
    -- From the inside out, as the text is put together.
    have hspam : StringSpelled (some "spam") _ :=
      ⟨[.char 's', .char 'p', .ofUnit 0x61, .char 'm'],
        .cons (.plain (by decide) (by decide) (by decide))
          (.cons (.plain (by decide) (by decide) (by decide))
            (.cons (.unit (a := '0') (b := '0') (c := '6') (d := '1') rfl)
              (.cons (.plain (by decide) (by decide) (by decide)) .nil))), rfl⟩
    have hreason := @Spells.padded _ ['\n'] _ [] (by simp [Blanks]) (.text hspam)
      (List.forall_mem_nil _)
    have hbody := Spells.array (.moreItems (spells_text id).unpadded (.lastItem hreason))
    have hlarge : Number.Spelled ⟨false, ['1'], none, some (false, ['9', '9', '9'])⟩ _ :=
      .mk ⟨List.cons_ne_nil _ _, by simp⟩ (by decide) .none
        (@ExponentSpelled.plain 'e' _ (.inl rfl) ⟨List.cons_ne_nil _ _, by simp⟩)
    have hmembers := Spells.moreMembers (@spells_member "body" _ _ hbody)
      (.moreMembers (@spells_member "x" _ _ (.number hlarge))
        (.moreMembers (@spells_member "schema" _ _ (spells_text ""))
          (.lastMember (@spells_member "type" _ _ (spells_text "UserBan")))))
    have hspells := @Spells.padded _ [' '] _ [] (by simp [Blanks]) (.object hmembers)
      (List.forall_mem_nil _)
    refine ⟨"", _, cast (congrArg (Spells _) ?_) hspells, ?_, .byName ?_⟩
    · decide +kernel
    · simp [Node.Named]
    · simp only [envelopeFields, List.forall_mem_cons]
      refine ⟨.once rfl rfl, .once rfl rfl, .lacking rfl trivial, .once rfl ⟨?_, ?_⟩,
        List.forall_mem_nil _⟩
      · exact .array (by simp [Node.Legible.text])
      · exact .byPlace (.next ⟨id, rfl, by decide⟩ (.next rfl
          (.dropped (List.forall_mem_singleton.2 rfl))))
  have hdone : done.PresentedBy oddDone := by
    refine ⟨"", _, @Node.spelled_render 1 _ (.array (by simp)), trivial, .byPlace ?_⟩
    exact .next rfl (.next rfl (.next ⟨id, rfl, by decide⟩
      (.dropped (List.forall_mem_singleton.2 (.inl rfl)))))
  obtain ⟨⟨text, -, hrefusal⟩, hread⟩ := hrefusals refusal
  exact ⟨rfl, hban, (hcommands ban rfl).2 oddBan hban,
    rfl, hdone, (hreplies ⟨.zero⟩ .done rfl).2 oddDone hdone,
    text, hrefusal, trivial, (hread text hrefusal).2.2 trivial⟩

/-- Where presentation does make a difference. Inside a body a member that nobody knows is held all
the same, which is not possible for every number and every string. Beside the body it is not, except
for its name. A body that says nothing may not say anything else. When the ban in a reply ends may
be left out by name only. And a code is whatever its text is taken for. -/
theorem presentation_has_limits :
    let id := "00000000-0000-0000-0000-000000000000"
    let asking (unknown : String) := "\x7b\"schema\":\"\",\"type\":\"UserGet\",\"body\":\x7b" ++
      "\"user\":\"" ++ id ++ "\",\"x\":" ++ unknown ++ "\x7d\x7d"
    let leaving (more : String) := "\x7b\"schema\":\"\",\"type\":\"Logout\"," ++ more ++ "\x7d"
    let showing (ban : Value) : Envelope := ⟨"", "User", some ⟨.zero⟩, .array
      [.text id, .text "ada", .text "", .text "", .bool false, .ofNat 0, ban]⟩
    let refusing (code : Code) : Refusal := ⟨⟨.zero⟩, "", code, .empty, none, .client⟩
    (generation11.readCommand (asking "1").toUTF8 = .ok (.userGet ⟨.zero⟩) ∧
      generation11.readCommand (asking "1e999").toUTF8 = .error .malformed ∧
      generation11.readCommand (asking "\"\\ud800\"").toUTF8 = .error .malformed) ∧
    (generation11.readCommand (leaving "\"x\":[1e999,\"\\ud800\"]").toUTF8 = .ok .logout ∧
      generation11.readCommand (leaving "\"\\ud800\":1").toUTF8 = .error .malformed) ∧
    (generation11.readCommand (leaving "\"body\":\x7b\x7d").toUTF8 = .ok .logout ∧
      generation11.readCommand (leaving "\"body\":\x7b\"x\":1\x7d").toUTF8 =
        .error (.invalidBody "Logout")) ∧
    (generation11.readResponse (showing (.object [("reason", .text "spam")])).render.toUTF8 =
        .ok (.success ⟨.zero⟩ (.user ⟨⟨.zero⟩, "ada", "", "", false, 0, some ⟨"spam", none⟩⟩)) ∧
      generation11.readResponse (showing (.array [.text "spam"])).render.toUTF8 =
        .error (.invalidBody "User")) ∧
    ∃ text, generation11.responseText (.refused (refusing (.other "Validity"))) = .ok text ∧
      generation11.readResponse text.toUTF8 = .ok (.refused (refusing .validity)) := by
  intro id asking leaving showing refusing
  have hshown : ∀ ban : Value, ban.Sound 125 → (showing ban).body.Sound Envelope.bodyDepth := by
    intro ban hban
    have hcreated : (Value.ofNat 0).Sound 125 := .ofNat (by decide)
    exact .array (by simp [hban, hcreated])
  refine ⟨⟨by decide +kernel, by decide +kernel, by decide +kernel⟩,
    ⟨by decide +kernel, by decide +kernel⟩, ⟨by decide +kernel, by decide +kernel⟩, ⟨?_, ?_⟩, ?_⟩
  · have hban : (Value.object [("reason", .text "spam")]).Sound 125 :=
      .object (by decide) (by simp)
    rw [readResponse_of_reply (k := .user) (Envelope.ofBytes?_render (hshown _ hban)) rfl]
    decide
  · have hban : (Value.array [.text "spam"]).Sound 125 := .array (by simp)
    rw [readResponse_of_reply (k := .user) (Envelope.ofBytes?_render (hshown _ hban)) rfl]
    decide
  · obtain ⟨text, htext, hread⟩ := refusal_comes_back generation11 (refusing (.other "Validity"))
    exact ⟨text, htext, hread.trans (by decide)⟩

end Generation

end AcctAdmin.Protocol
