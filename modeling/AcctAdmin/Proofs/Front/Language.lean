import AcctAdmin.Client.Link
import AcctAdmin.Proofs.Command.Answer
import AcctAdmin.Proofs.Protocol.Dispatch
import AcctAdmin.Server.Front

/-!
# The caller's own language

Whoever posts to an endpoint of a generation is answered in that generation's words, and reads the
very response that the server wrote. Four lists have to agree for that: the commands that a
generation speaks, the replies that it speaks, the replies that commands are promised, and those
that carrying them out comes to.
-/

set_option autoImplicit false

namespace AcctAdmin.Server

open AcctAdmin.Protocol

variable {g : Generation} {spoken : List Generation} {e : Endpoint} {response : Response}

/-! ## Places -/

theorem endpointPath_injective {g g' : Generation} (hg : g ∈ generations)
    (hg' : g' ∈ generations) {e e' : Endpoint} (h : endpointPath g e = endpointPath g' e') :
    g = g' ∧ e = e' := by
  have hall : ∀ g ∈ generations, ∀ g' ∈ generations, ∀ e ∈ [Endpoint.login, .command],
      ∀ e' ∈ [Endpoint.login, .command], endpointPath g e = endpointPath g' e' →
        g = g' ∧ e = e' := by decide
  refine hall g hg g' hg' e ?_ e' ?_ h
  · cases e <;> decide
  · cases e' <;> decide

theorem endpointPath_ne_root (hg : g ∈ generations) : endpointPath g e ≠ "/" := by
  have hall : ∀ g ∈ generations, ∀ e ∈ [Endpoint.login, .command], endpointPath g e ≠ "/" := by
    decide
  refine hall g hg e ?_
  cases e <;> decide

/-- A generation's endpoints are where it says. -/
theorem route?_endpointPath (hspoken : spoken ⊆ generations) (hg : g ∈ spoken) (e : Endpoint) :
    route? spoken (endpointPath g e) = some (.endpoint g e) := by
  rw [route?, if_neg (endpointPath_ne_root (hspoken hg))]
  cases hfound : spoken.findSome? fun g' =>
      if endpointPath g e = endpointPath g' .login then some (Route.endpoint g' .login)
      else if endpointPath g e = endpointPath g' .command then some (.endpoint g' .command)
      else none with
  | none =>
    have hnone := List.findSome?_eq_none_iff.1 hfound g hg
    split at hnone
    · cases hnone
    · cases e with
      | login => contradiction
      | command => simp at hnone
  | some found =>
    obtain ⟨g', hg', hroute⟩ := List.exists_of_findSome?_eq_some hfound
    split at hroute
    · rename_i hpath
      obtain ⟨rfl, rfl⟩ := endpointPath_injective (hspoken hg) (hspoken hg') hpath
      exact hroute.symm
    · split at hroute
      · rename_i hpath
        obtain ⟨rfl, rfl⟩ := endpointPath_injective (hspoken hg) (hspoken hg') hpath
        exact hroute.symm
      · cases hroute

/-! ## Lists that agree -/

/-- A generation speaks the replies that its commands are promised. -/
theorem speaks_promised (hg : g ∈ generations) {k : CommandKind}
    (h : g.allowsCommand k = true) : g.allowsReply k.replyKind = true := by
  have hall : ∀ g ∈ generations, ∀ k ∈ CommandKind.all, g.allowsCommand k = true →
      g.allowsReply k.replyKind = true := by decide
  exact hall g hg k k.mem_all h

/-- Whether a generation has words for a response, in which it is itself again when it is read. -/
def Speaks (g : Generation) : Response → Prop
  | .success _ reply => g.allowsReply reply.kind = true
  | .refused refusal => refusal.code.Canonical

theorem speaks_of_suits (hg : g ∈ generations) {k : CommandKind} (hk : g.allowsCommand k = true)
    (h : response.Suits k) : Speaks g response := by
  cases response with
  | success id reply =>
    have hkind : reply.kind = k.replyKind := h
    show g.allowsReply reply.kind = true
    rw [hkind]
    exact speaks_promised hg hk
  | refused refusal => exact h

/-! ## Replies -/

/-- Whether a reply is in a generation's words, and those of a response that is read again. -/
structure Carries (g : Generation) (reply : Http.Reply) (response : Response) : Prop where
  contentType : reply.contentType = some g.contentType
  written : ∃ text, g.responseText response = .ok text ∧ reply.body = text.toUTF8
  read : g.readResponse reply.body = .ok response

theorem carries_replyIn (h : Speaks g response) (status : Nat) (change : Option SessionChange) :
    Carries g (replyIn g status response change) response := by
  obtain ⟨text, htext, hread⟩ : ∃ text, g.responseText response = .ok text ∧
      g.readResponse text.toUTF8 = .ok response := by
    cases response with
    | success id reply => exact Generation.success_comes_back h id
    | refused refusal =>
      obtain ⟨text, htext, hread⟩ := Generation.refusal_comes_back g refusal
      rw [(Code.ofText_text_eq_iff _).2 h] at hread
      exact ⟨text, htext, hread⟩
  rw [replyIn, htext]
  exact ⟨rfl, ⟨text, htext, rfl⟩, hread⟩

/-- Whether a client takes a reply for the answer to its command: a refusal, or the kind of reply
that the command is promised. -/
structure Understood (g : Generation) (c : Command) (reply : Http.Reply) (response : Response) :
    Prop where
  kind : ∀ id answer, response = .success id answer → answer.kind = c.kind.replyKind
  read : Client.Link.readReply g c.kind ⟨reply.status, reply.contentType, reply.body⟩ =
    .ok response
  outcome : ∃ outcome, Client.Outcome.ofResponse c response = .ok outcome

theorem payload?_of_kind {reply : Reply} {k : ReplyKind} (h : reply.kind = k) :
    ∃ payload, reply.payload? k = some payload := by
  subst h
  cases reply <;> exact ⟨_, rfl⟩

theorem Carries.understood {reply : Http.Reply} {c : Command} (h : Carries g reply response)
    (hsuits : response.Suits c.kind) : Understood g c reply response where
  kind := by
    rintro id answer rfl
    exact hsuits
  read := by
    simp [Client.Link.readReply, h.contentType, h.read]
  outcome := by
    cases response with
    | refused refusal => exact ⟨_, rfl⟩
    | success id answer =>
      have hkind : answer.kind = c.kind.replyKind := hsuits
      obtain ⟨payload, hpayload⟩ := payload?_of_kind hkind
      rw [Client.Outcome.ofResponse, hpayload]
      exact ⟨_, rfl⟩

/-! ## Requests -/

theorem readCommand_eq_ok {bytes : ByteArray} {c : Command} (h : g.readCommand bytes = .ok c) :
    g.allowsCommand c.kind = true := by
  unfold Generation.readCommand at h
  split at h
  · cases h
  · split at h
    · cases h
    · split at h
      · rename_i hallows
        split at h
        · rename_i hbody
          obtain rfl := Except.ok.inj h
          rw [kind_of_commandBody hbody]
          exact hallows
        · cases h
      · cases h

variable {id : RequestId} {r : Http.Request} {c : Command}

theorem receive_eq_ok (h : receive g e id r = .ok c) : g.readCommand r.body = .ok c := by
  simp only [receive] at h
  split at h
  · cases h
  · split at h
    · cases h
    · rename_i hread
      split at h
      · obtain rfl := Except.ok.inj h
        exact hread
      · cases h

theorem receive_of_sent (htype : r.header? "content-type" = some g.contentType)
    (hread : g.readCommand r.body = .ok c) (htakes : e.takes c.kind = true) :
    receive g e id r = .ok c := by
  simp [receive, htype, hread, htakes]

/-- Who is turned away is told so with a code that is a fixed word. -/
theorem speaks_of_turnedAway {status : Nat} (h : receive g e id r = .error (status, response)) :
    Speaks g response := by
  simp only [receive] at h
  split at h
  · cases h
    trivial
  · split at h
    · cases h
      trivial
    · split at h
      · cases h
      · cases h
        trivial

/-- The response to a request at an endpoint: that which turns it away, or that of the command in
it. -/
def Service.responseAt (server : Service) (g : Generation) (e : Endpoint) (at_ : Circumstances)
    (r : Http.Request) : Response :=
  match receive g e at_.requestId r with
  | .error (_, response) => response
  | .ok c =>
    (server.execute ⟨at_.requestId, at_.host, presentedKey r, at_.now⟩ c at_.draws).1.response

theorem carries_answer (hg : g ∈ generations) (server : Service) (at_ : Circumstances) :
    Carries g (server.answer g e at_ r).1 (server.responseAt g e at_ r) := by
  unfold Service.answer Service.responseAt
  cases hreceived : receive g e at_.requestId r with
  | error turned =>
    obtain ⟨status, response⟩ := turned
    exact carries_replyIn (speaks_of_turnedAway hreceived) status none
  | ok c =>
    have hallows := readCommand_eq_ok (receive_eq_ok hreceived)
    exact carries_replyIn (speaks_of_suits hg hallows (suits_execute ..)) _ _

theorem serve_eq_answer (hspoken : spoken ⊆ generations) (hg : g ∈ spoken) (server : Service)
    (at_ : Circumstances) (hmethod : r.method = "POST") (hpath : r.path = endpointPath g e)
    (hsize : r.body.size ≤ maxBodySize) :
    server.serve spoken at_ r = server.answer g e at_ r := by
  rw [Service.serve, hpath, route?_endpointPath hspoken hg]
  simp [hmethod, Nat.not_lt.2 hsize]

/-- What was executed is what is answered. -/
theorem response_of_executed {server : Service} {at_ : Circumstances} {execution : Execution}
    (h : (server.answer g e at_ r).2.1 = some execution) :
    execution.response = server.responseAt g e at_ r := by
  unfold Service.answer at h
  unfold Service.responseAt
  cases hreceived : receive g e at_.requestId r with
  | error turned =>
    rw [hreceived] at h
    cases h
  | ok c =>
    rw [hreceived] at h
    obtain rfl := Option.some.inj h
    rfl

/-- **Everybody is answered in their own language.** Whatever is posted to an endpoint of a
generation that the server speaks, and whatever the server has come through, the answer is in that
generation's words, and the response that is read in it is the one that was made. The answer to a
command that belongs to the endpoint is a refusal or the kind of reply that the command is promised,
and a client takes it for that. So it is with all commands that are on their way at one time, in
whatever order their steps are taken. -/
theorem answers_are_understood (hspoken : spoken ⊆ generations) (hg : g ∈ spoken) :
    (∀ (e : Endpoint) (server : Service) (at_ : Circumstances) (r : Http.Request),
      r.method = "POST" → r.path = endpointPath g e → r.body.size ≤ maxBodySize →
      let (reply, executed, _) := server.serve spoken at_ r
      let response := server.responseAt g e at_ r
      Carries g reply response ∧
      (∀ execution, executed = some execution → execution.response = response) ∧
      ∀ c, r.header? "content-type" = some g.contentType → g.readCommand r.body = .ok c →
        e.takes c.kind = true → Understood g c reply response) ∧
    (∀ (first last : OpenService) (schedule : List ServiceStep) (n : Nat) (o : OpenCommand)
        (execution : Execution),
      OpenService.Begins first → first.run schedule = some last → last.commands n = some o →
      o.execution? = some execution → g.allowsCommand o.command.kind = true →
      let reply := replyIn g execution.status execution.response execution.session
      Carries g reply execution.response ∧ Understood g o.command reply execution.response) := by
  constructor
  · intro e server at_ r hmethod hpath hsize
    rw [serve_eq_answer hspoken hg server at_ hmethod hpath hsize]
    have hcarries := carries_answer (e := e) (r := r) (hspoken hg) server at_
    refine ⟨hcarries, fun execution h => response_of_executed h, ?_⟩
    intro c htype hread htakes
    have hreceived : receive g e at_.requestId r = .ok c := receive_of_sent htype hread htakes
    apply hcarries.understood
    unfold Service.responseAt
    rw [hreceived]
    exact suits_execute ..
  · intro first last schedule n o execution hbegins hrun hn hex hallows
    have hsuits := OpenService.suits_of_run hbegins hrun hn hex
    have hcarries := carries_replyIn (speaks_of_suits (hspoken hg) hallows hsuits)
      execution.status execution.session
    exact ⟨hcarries, hcarries.understood hsuits⟩

/-- Somebody who is not logged in asks to be logged out, and the first administrator logs in. Both
are answered in the words of the first generation. -/
theorem answers_are_understood_at_first :
    (∃ text, generation10.commandText .logout = .ok text ∧
      let r : Http.Request :=
        ⟨"POST", "/adm/1/0/command", [("Content-Type", generation10.contentType)], text.toUTF8⟩
      let at_ : Circumstances :=
        ⟨"192.0.2.1", 5000, default, fun _ => .quiet default default .made⟩
      let reply := (OpenService.sample.server.serve generations at_ r).1
      r.path = endpointPath generation10 .command ∧ r.body.size ≤ maxBodySize ∧
        generation10.readCommand r.body = .ok .logout ∧
        ∃ response, Carries generation10 reply response ∧
          Understood generation10 .logout reply response) ∧
    ∃ last o execution id summary, OpenService.sample.run OpenService.sampleLogin = some last ∧
      last.commands 0 = some o ∧ o.execution? = some execution ∧
      execution.response = .success id (.loginOk summary) ∧
      Understood generation10 o.command
        (replyIn generation10 execution.status execution.response execution.session)
        execution.response := by
  have hfirst : generation10 ∈ generations := by decide
  obtain ⟨hposted, hscheduled⟩ := answers_are_understood (List.Subset.refl generations) hfirst
  constructor
  · have hwritten : generation10.commandText .logout = .ok
        (Envelope.render ⟨generation10.schema, "Logout", none, Command.logout.body⟩) := rfl
    refine ⟨_, hwritten, ?_⟩
    intro r at_ reply
    have hpath : r.path = endpointPath generation10 .command := by decide
    have hsize : r.body.size ≤ maxBodySize := by decide
    have hread : generation10.readCommand r.body = .ok .logout := by
      rw [Generation.readCommand_of_command
        (Envelope.ofBytes?_render (fits_commandBody .logout)) (k := .logout) rfl]
      rfl
    obtain ⟨hcarries, -, hunderstood⟩ :=
      hposted .command OpenService.sample.server at_ r rfl hpath hsize
    exact ⟨hpath, hsize, hread, _, hcarries, hunderstood .logout (by decide) hread rfl⟩
  · have hrun : ∃ last o execution id summary,
        OpenService.sample.run OpenService.sampleLogin = some last ∧
          last.commands 0 = some o ∧ o.execution? = some execution ∧
          execution.response = .success id (.loginOk summary) ∧
          generation10.allowsCommand o.command.kind = true :=
      ⟨_, _, _, _, _, rfl, rfl, rfl, rfl, rfl⟩
    obtain ⟨last, o, execution, id, summary, hlast, ho, hex, hresponse, hallows⟩ := hrun
    exact ⟨last, o, execution, id, summary, hlast, ho, hex, hresponse,
      (hscheduled _ _ _ _ _ _ (.administered ..) hlast ho hex hallows).2⟩

end AcctAdmin.Server
