import AcctAdmin.Proofs.Conversation.Absence
import AcctAdmin.Proofs.Protocol.Choice

/-!
# The status of a reply

A link posts once for a command that its generation speaks, and not at all for another. Whether the
reply is a response is settled by its content type and its body. The status is told in an error, and
is otherwise not looked at: two replies that differ in nothing else are the same response, or the
same error but for the status that it tells (`status_is_advisory`).
-/

set_option autoImplicit false

namespace AcctAdmin.Client

open AcctAdmin.Protocol AcctAdmin.Text

variable {World Channel : Type}

/-! ## Two replies -/

/-- Two results that tell no more of the two statuses than a detail of an error. -/
inductive Advisory (status status' : Nat) :
    Except Error Response → Except Error Response → Prop where
  | response (r : Response) : Advisory status status' (.ok r) (.ok r)
  | error {message : String} {attributes attributes' : Attributes}
      (own : attributes.get? Error.statusAttribute = some (decimal status))
      (own' : attributes'.get? Error.statusAttribute = some (decimal status'))
      (others : ∀ name ≠ Error.statusAttribute, attributes.get? name = attributes'.get? name) :
      Advisory status status' (.error (.protocol message attributes))
        (.error (.protocol message attributes'))

/-- Details to which a status is added last, whatever they are. -/
theorem Advisory.insert (message : String) (attributes : Attributes) (status status' : Nat) :
    Advisory status status'
      (.error (.protocol message (attributes.insert Error.statusAttribute (decimal status))))
      (.error (.protocol message (attributes.insert Error.statusAttribute (decimal status')))) := by
  apply Advisory.error
  · rw [Attributes.get?_insert, if_pos rfl]
  · rw [Attributes.get?_insert, if_pos rfl]
  · intro name hname
    rw [Attributes.get?_insert, Attributes.get?_insert, if_neg hname, if_neg hname]

theorem Link.readReply_eq_ok {g : Generation} {k : CommandKind} {reply : HttpReply}
    {response : Response} :
    Link.readReply g k reply = .ok response ↔
      reply.contentType.getD "" = g.contentType ∧ g.readResponse reply.body = .ok response := by
  unfold Link.readReply
  by_cases htype : reply.contentType.getD "" = g.contentType
  · simp only [htype, if_true, true_and]
    cases g.readResponse reply.body with
    | ok _ => simp only [Except.ok.injEq]
    | error _ => exact iff_of_false nofun nofun
  · simp only [htype, if_false, false_and]
    exact iff_of_false nofun id

/-- A content type that is not empty is not that of a reply without one. -/
theorem contentType_getD_eq {g : Generation} {reply : HttpReply} (h : g.contentType ≠ "") :
    reply.contentType.getD "" = g.contentType ↔ reply.contentType = some g.contentType := by
  cases reply.contentType with
  | none => exact iff_of_false h.symm nofun
  | some received => exact Option.some_inj.symm

theorem Link.advisory_readReply (g : Generation) (k : CommandKind) (reply : HttpReply)
    (status : Nat) :
    Advisory reply.status status (readReply g k reply)
      (readReply g k { reply with status := status }) := by
  unfold Link.readReply
  dsimp only
  split
  · cases g.readResponse reply.body with
    | ok r => exact .response r
    | error e => exact .insert e.message (e.attributes.insertIfNew "expected_type" "Response") ..
  · exact .insert _ (.ofList [("expected_content_type", g.contentType),
      ("received_content_type", reply.contentType.getD "")]) ..

/-! ## One command -/

namespace Link

variable {link : Link Channel} {c : Command}

theorem commandText_of_spoken {g : Generation} (h : g.allowsCommand c.kind = true) :
    g.commandText c = .ok (Envelope.render ⟨g.schema, c.kind.word, none, c.body⟩) := if_pos h

/-- A command that is not spoken leaves everything as it is. -/
theorem send_of_unspoken (net : Network World Channel) (timeout : Duration) (w : World)
    (h : link.generation.allowsCommand c.kind = false) :
    link.send net c timeout w =
      (.error (.ofCodec (.notPermitted c.kind.word link.generation.identifier)), link, w) := by
  simp only [Link.send, Generation.commandText, h, Bool.false_eq_true, if_false]

theorem send_of_reply {net : Network World Channel} {timeout : Duration} {w w' : World}
    {text : String} {reply : HttpReply} {channel : Channel}
    (htext : link.generation.commandText c = .ok text)
    (hpost : net.post link.channel (link.urlFor c.kind) link.generation.contentType text.toUTF8
      timeout w = (.ok reply, channel, w')) :
    link.send net c timeout w =
      (readReply link.generation c.kind reply, { link with channel := channel }, w') := by
  simp only [Link.send, htext, hpost]

theorem send_of_lost {net : Network World Channel} {timeout : Duration} {w w' : World}
    {text : String} {e : ChannelError} {channel : Channel}
    (htext : link.generation.commandText c = .ok text)
    (hpost : net.post link.channel (link.urlFor c.kind) link.generation.contentType text.toUTF8
      timeout w = (.error e, channel, w')) :
    link.send net c timeout w = (.error e.toError, { link with channel := channel }, w') := by
  simp only [Link.send, htext, hpost]

theorem urlFor_eq (link : Link Channel) (k : CommandKind) :
    link.urlFor k = if k = .login then link.loginUrl else link.commandUrl := by
  unfold urlFor
  cases k <;> rfl

end Link

/-- **The status of a reply is advisory.** A command that the generation does not speak is not
posted, and is told to be no part of the protocol. Any other is posted just once, and nothing else
is done: a login to the login URL, all others to the command URL. If the channel brings no reply its
error is told. A reply is taken for a response just if its content type is the generation's to the
letter and its body can be read as one; if it has no content type that is taken for an empty one.
If the reply had come with another status, whatever network and world it had come from, the result
would be that same response, or the same error of the protocol with the other status in it: the
message and all other details are the same. -/
theorem status_is_advisory (net : Network World Channel) (link : Link Channel) (c : Command)
    (timeout : Duration) (w : World) :
    let g := link.generation
    let sent := link.send net.watched c timeout (w, [])
    let place := if c.kind = .login then link.loginUrl else link.commandUrl
    (g.allowsCommand c.kind = false →
      sent = (.error (.ofCodec (.notPermitted c.kind.word g.identifier)), link, w, [])) ∧
    (g.allowsCommand c.kind = true → ∃ text, g.commandText c = .ok text ∧
      ∀ came channel w',
        net.post link.channel place g.contentType text.toUTF8 timeout w = (came, channel, w') →
        sent.2 = ({ link with channel := channel }, w',
          [.posted place g.contentType text.toUTF8 timeout]) ∧
        (∀ e, came = .error e → sent.1 = .error e.toError) ∧
        ∀ reply, came = .ok reply →
          (∀ response, sent.1 = .ok response ↔
            reply.contentType.getD "" = g.contentType ∧ g.readResponse reply.body = .ok response) ∧
          (g.contentType ≠ "" →
            (reply.contentType.getD "" = g.contentType ↔
              reply.contentType = some g.contentType)) ∧
          ∀ (Other : Type) (net' : Network Other Channel) (timeout' : Duration) (v v' : Other)
              (status : Nat) (channel' : Channel),
            net'.post link.channel place g.contentType text.toUTF8 timeout' v =
              (.ok { reply with status := status }, channel', v') →
            Advisory reply.status status sent.1 (link.send net' c timeout' v).1) := by
  intro g sent place
  have hplace : place = link.urlFor c.kind := (link.urlFor_eq c.kind).symm
  refine ⟨fun hunspoken => Link.send_of_unspoken net.watched timeout (w, []) hunspoken,
    fun hspoken => ⟨_, Link.commandText_of_spoken hspoken, ?_⟩⟩
  have htext := Link.commandText_of_spoken hspoken
  generalize Envelope.render _ = text at htext ⊢
  rw [hplace]
  intro came channel w' hpost
  have hwatched : net.watched.post link.channel (link.urlFor c.kind) g.contentType text.toUTF8
      timeout (w, []) = (came, channel, w',
        [.posted (link.urlFor c.kind) g.contentType text.toUTF8 timeout]) := by
    simp only [Network.watched, hpost, List.nil_append]
  cases came with
  | error e =>
    have hsent := Link.send_of_lost htext hwatched
    refine ⟨congrArg Prod.snd hsent, ?_, fun _ hreply => (by cases hreply)⟩
    intro e' he'
    cases he'
    exact congrArg Prod.fst hsent
  | ok reply =>
    have hsent := Link.send_of_reply htext hwatched
    have hread : sent.1 = Link.readReply g c.kind reply := congrArg Prod.fst hsent
    refine ⟨congrArg Prod.snd hsent, fun _ herror => (by cases herror), ?_⟩
    intro reply' hreply'
    cases hreply'
    refine ⟨fun response => ?_, contentType_getD_eq, ?_⟩
    · rw [hread]
      exact Link.readReply_eq_ok
    · intro Other net' timeout' v v' status channel' hpost'
      rw [hread, Link.send_of_reply htext hpost']
      exact Link.advisory_readReply g c.kind reply status

open Conversation in
/-- What is no response stays none under a status of success, which is all that there is to tell
the two apart. -/
theorem success_makes_no_response :
    ∃ sent sent',
      accountsLink.send scriptedNetwork.watched (.userGet default) standardTimeout
          ([nothingThere], []) = sent ∧
      accountsLink.send scriptedNetwork (.userGet default) standardTimeout
          [{ nothingThere with status := 200 }] = sent' ∧
      sent.2.2.2.length = 1 ∧
      (∀ response, sent.1 ≠ .ok response) ∧
      Advisory 404 200 sent.1 sent'.1 := by
  obtain ⟨-, hspoken⟩ := status_is_advisory scriptedNetwork accountsLink (.userGet default)
    standardTimeout [nothingThere]
  obtain ⟨text, -, hposted⟩ := hspoken rfl
  obtain ⟨hlog, -, hreply⟩ := hposted (.ok nothingThere) () [] rfl
  obtain ⟨hresponse, htype, hstatus⟩ := hreply nothingThere rfl
  refine ⟨_, _, rfl, rfl, ?_, fun response hok => ?_, ?_⟩
  · rw [hlog]
    rfl
  · have hsame := (htype (by decide)).1 ((hresponse response).1 hok).1
    exact absurd hsame (by decide)
  · exact hstatus _ scriptedNetwork standardTimeout [{ nothingThere with status := 200 }] [] 200 ()
      rfl

end AcctAdmin.Client
