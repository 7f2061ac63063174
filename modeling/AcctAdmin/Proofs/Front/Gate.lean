import AcctAdmin.Proofs.Command.LoggingIn
import AcctAdmin.Proofs.Front.Language

/-!
# The gate

Nothing is executed that was not posted in a generation's content type, as a command that the
generation speaks, at the endpoint that the command belongs to; what fails one of these checks is
turned back and has changed nothing. What passes is executed once, and its reply speaks of a session
only if one has begun or was ended by it.
-/

set_option autoImplicit false

namespace AcctAdmin.Server

open AcctAdmin.Protocol

/-! ## Status -/

theorem Failure.status_ofFault_ne (id : RequestId) (fault : Fault) :
    (Failure.ofFault id fault).status ≠ 200 := by
  obtain ⟨code, status, _, _, htold, htells⟩ := Failure.exists_tells id fault
  rw [htells.status]
  cases htold <;> decide

/-- The status is 200 for what was carried out, and for nothing else. -/
theorem Execution.status_ofOutcome (r : Request) (effects : Effects)
    (outcome : Except Halt Reply) :
    (Execution.ofOutcome r effects outcome).status = 200 ↔
      ∃ id reply, (Execution.ofOutcome r effects outcome).response = .success id reply := by
  cases outcome with
  | ok reply => exact ⟨fun _ => ⟨_, _, rfl⟩, fun _ => rfl⟩
  | error halt =>
    refine ⟨fun h => ?_, fun ⟨_, _, h⟩ => nomatch h⟩
    cases halt with
    | fault fault => exact absurd h (Failure.status_ofFault_ne r.requestId fault)
    | panic payload => cases h

/-! ## What is said of sessions -/

namespace Service

variable {server : Service} {r : Request} {c : Command} {draws : Nat → Draw}

theorem exists_ofOutcome (server : Service) (r : Request) (c : Command) (draws : Nat → Draw) :
    ∃ effects outcome, (server.execute r c draws).1 = .ofOutcome r effects outcome :=
  ⟨_, _, rfl⟩

/-- Who is refused is told of no session. -/
theorem session_of_refused {refusal : Refusal}
    (h : (server.execute r c draws).1.response = .refused refusal) :
    (server.execute r c draws).1.session = none := by
  obtain ⟨effects, outcome, he⟩ := exists_ofOutcome server r c draws
  rw [he] at h ⊢
  cases outcome with
  | ok reply => cases h
  | error halt => rfl

theorem session_worked (hneeds : needsCaller c = true) (draw : Draw) :
    (server.worked r c draw).2.effects.session = none := by
  let R (d d' : Desk) : Prop := d'.effects.session = d.effects.session
  have : Desk.Tacit R :=
    ⟨fun h h' => h'.trans h, fun _ _ h => h, fun _ _ _ => rfl, fun _ _ => rfl⟩
  have hkept : R (server.desk server.store.begin) (server.worked r c draw).2 :=
    Handling.tacit_dispatch (R := R) server.limits hneeds fun _ _ _ _ _ _ => rfl
  exact hkept

/-- A command that has to find its caller says nothing of their session. -/
theorem session_of_needsCaller (hneeds : needsCaller c = true) :
    (server.execute r c draws).1.session = none := by
  have hrun : ∀ left n server, (Service.run r c draws left n server).2.1.session = none := by
    intro left
    induction left with
    | zero => exact fun n server => session_worked hneeds (draws n)
    | succ left ih =>
      intro n server
      simp only [Service.run]
      split
      · exact ih (n + 1) _
      · exact session_worked hneeds (draws n)
  obtain ⟨effects, outcome, he, heffects⟩ : ∃ effects outcome,
      (server.execute r c draws).1 = .ofOutcome r effects outcome ∧ effects.session = none :=
    ⟨_, _, rfl, hrun (maxAttempts - 1) 0 server⟩
  rw [he]
  cases outcome with
  | ok reply => exact heffects
  | error halt => rfl

theorem session_of_logout {id : RequestId} {reply : Reply}
    (h : (server.execute r .logout draws).1.response = .success id reply) :
    (server.execute r .logout draws).1.session = some .ended := by
  cases hkey : r.session with
  | none =>
    have hrun : (Handling.dispatch server.limits r (draws 0) .logout).outcome
        (server.desk server.store.begin) = _ := Handling.outcome_logout_of_stranger hkey
    rw [execute_of_outcome hrun rfl] at h
    cases h
  | some key =>
    have hrun : (Handling.dispatch server.limits r (draws 0) .logout).outcome
        (server.desk server.store.begin) = _ := Handling.outcome_logout_of_key hkey
    rw [execute_of_outcome hrun rfl]
    rfl

/-- Whoever logs in is told of the session that has begun for them. -/
theorem session_of_login {l : Login} {id : RequestId} {reply : Reply}
    (h : (server.execute r (.login l) draws).1.response = .success id reply) :
    ∃ user : AccountSummary, reply = .loginOk user ∧
      (server.execute r (.login l) draws).1.session =
        some (.started ⟨user.id, (draws 0).session⟩) ∧
      ∀ later, later - r.now < server.sessions.idleTimeout →
        (((server.execute r (.login l) draws).2.sessions.get ⟨user.id, (draws 0).session⟩
          later).1.map (·.userName)) = some user.name := by
  obtain ⟨account, -, -, he⟩ := execute_login_of_accepted draws (loginFault?_of_success h)
  rw [he] at h ⊢
  obtain ⟨-, hreply⟩ := Response.success.inj h
  refine ⟨account.summary, hreply.symm, rfl, fun later hlater => ?_⟩
  have hidle : (server.sessions.without r.session).idleTimeout = server.sessions.idleTimeout := by
    cases r.session <;> rfl
  exact congrArg _ (get_of_create _ _ _ _ _ (hidle ▸ hlater))

end Service

/-! ## Checks -/

variable {g : Generation} {spoken : List Generation} {e : Endpoint} {id : RequestId}
  {r : Http.Request} {c : Command}

theorem received_eq_iff (hg : g ∈ generations) :
    (r.header? "content-type").getD "" = g.contentType ↔
      r.header? "content-type" = some g.contentType := by
  have hall : ∀ g ∈ generations, g.contentType ≠ "" := by decide
  cases r.header? "content-type" with
  | none => simp [(hall g hg).symm]
  | some received => simp

theorem takes_iff : e.takes c.kind = true ↔ (c.kind = .login ↔ e = .login) := by
  unfold Endpoint.takes CommandKind.isLogin
  cases c <;> cases e <;> simp [Command.kind]

/-- How somebody is turned back: as the first check that fails demands, with nothing changed. -/
structure TurnedBack (g : Generation) (server : Service) (status : Nat)
    (answer : Http.Reply × Option Execution × Service) : Prop where
  status : answer.1.status = status
  refused : ∃ refusal, Carries g answer.1 (.refused refusal) ∧ refusal.code = .protocol ∧
    refusal.blame = .client
  cookie : answer.1.setCookie = none
  executed : answer.2.1 = none
  unchanged : answer.2.2 = server

/-- How somebody is let in: their command is executed, and the reply tells how that went. -/
structure LetIn (g : Generation) (server : Service) (request : Request) (c : Command)
    (draws : Nat → Draw) (answer : Http.Reply × Option Execution × Service) : Prop where
  executed : (answer.2.1, answer.2.2) =
    (some (server.execute request c draws).1, (server.execute request c draws).2)
  carries : Carries g answer.1 (server.execute request c draws).1.response
  status : answer.1.status = 200 ↔
    ∃ id reply, (server.execute request c draws).1.response = .success id reply
  begun : ∀ l id reply, c = .login l →
    (server.execute request c draws).1.response = .success id reply →
      ∃ user : AccountSummary, reply = .loginOk user ∧
        answer.1.setCookie = some (sessionCookie (.started ⟨user.id, (draws 0).session⟩)) ∧
        ∀ later, later - request.now < server.sessions.idleTimeout →
          ((answer.2.2.sessions.get ⟨user.id, (draws 0).session⟩ later).1.map (·.userName)) =
            some user.name
  ended : ∀ id reply, c = .logout →
    (server.execute request c draws).1.response = .success id reply →
      answer.1.setCookie = some (sessionCookie .ended)
  cookie : answer.1.setCookie ≠ none →
    (c = .logout ∨ ∃ l, c = .login l) ∧
      ∃ id reply, (server.execute request c draws).1.response = .success id reply

theorem turnedBack_replyIn {response : Response} {refusal : Refusal} (server : Service)
    (status : Nat) (hresponse : response = .refused refusal) (hcode : refusal.code = .protocol)
    (hblame : refusal.blame = .client) :
    TurnedBack g server status (replyIn g status response none, none, server) := by
  subst hresponse
  have hspeaks : Speaks g (.refused refusal) := by
    show refusal.code.Canonical
    rw [hcode]
    trivial
  refine ⟨?_, ⟨refusal, carries_replyIn hspeaks status none, hcode, hblame⟩, ?_, rfl, rfl⟩ <;> rfl

/-- What is in a reply beside the response. -/
theorem replyIn_eq {response : Response} (h : Speaks g response) (status : Nat)
    (change : Option SessionChange) :
    (replyIn g status response change).status = status ∧
      (replyIn g status response change).setCookie = change.map sessionCookie := by
  obtain ⟨text, htext, -⟩ := (carries_replyIn h status change).written
  rw [replyIn, htext]
  exact ⟨rfl, rfl⟩

theorem letIn_answer (hg : g ∈ generations) (server : Service) (at_ : Circumstances)
    (hreceived : receive g e at_.requestId r = .ok c) :
    LetIn g server ⟨at_.requestId, at_.host, presentedKey r, at_.now⟩ c at_.draws
      (server.answer g e at_ r) := by
  set request : Request := ⟨at_.requestId, at_.host, presentedKey r, at_.now⟩ with hrequest
  obtain ⟨execution, hexecution⟩ :
      ∃ execution, execution = (server.execute request c at_.draws).1 := ⟨_, rfl⟩
  have hanswer : server.answer g e at_ r =
      (replyIn g execution.status execution.response execution.session, some execution,
        (server.execute request c at_.draws).2) := by
    rw [hexecution]
    simp only [Service.answer, hreceived]
    rfl
  have hallows := readCommand_eq_ok (receive_eq_ok hreceived)
  have hspeaks : Speaks g execution.response := by
    rw [hexecution]
    exact speaks_of_suits hg hallows (suits_execute ..)
  obtain ⟨hstatus, hcookie⟩ := replyIn_eq hspeaks execution.status execution.session
  rw [hanswer]
  refine ⟨by rw [hexecution], ?_, ?_, ?_, ?_, ?_⟩
  · rw [← hexecution]
    exact carries_replyIn hspeaks _ _
  · obtain ⟨effects, outcome, he⟩ := Service.exists_ofOutcome server request c at_.draws
    rw [hstatus, hexecution, he]
    exact Execution.status_ofOutcome ..
  · rintro l id reply rfl hsuccess
    obtain ⟨user, hreply, hsession, hlive⟩ := Service.session_of_login hsuccess
    refine ⟨user, hreply, ?_, hlive⟩
    rw [hcookie, hexecution, hsession]
    rfl
  · rintro id reply rfl hsuccess
    rw [hcookie, hexecution, Service.session_of_logout hsuccess]
    rfl
  · intro hset
    rw [hcookie, hexecution] at hset
    constructor
    · cases c with
      | login l => exact .inr ⟨l, rfl⟩
      | logout => exact .inl rfl
      | _ => exact absurd (congrArg _ (Service.session_of_needsCaller rfl)) hset
    · cases hresponse : (server.execute request c at_.draws).1.response with
      | success id reply => exact ⟨id, reply, rfl⟩
      | refused refusal => exact absurd (congrArg _ (Service.session_of_refused hresponse)) hset

/-- **Every request is checked before it is heard.** Whatever is posted to an endpoint that a server
has: if its content type is not the generation's it is turned back with 415; if it is no command
that the generation speaks, with 400; if the command belongs to the other endpoint, with 400. Only
then is it executed, once, for the caller whom its cookie names; the status is 200 if and only if it
succeeded, and a cookie is set exactly by a login that succeeded, for the session that it began, and
by a logout that succeeded, which clears it. -/
theorem requests_are_checked_first (hspoken : spoken ⊆ generations) (hg : g ∈ spoken)
    (server : Service) (at_ : Circumstances) (hmethod : r.method = "POST")
    (hpath : r.path = endpointPath g e) (hsize : r.body.size ≤ maxBodySize) :
    let answer := server.serve spoken at_ r
    let typed := r.header? "content-type" = some g.contentType
    (¬ typed → TurnedBack g server 415 answer) ∧
    (typed → ∀ error, g.readCommand r.body = .error error → TurnedBack g server 400 answer) ∧
    (typed → ∀ c, g.readCommand r.body = .ok c → ¬ (c.kind = .login ↔ e = .login) →
      TurnedBack g server 400 answer) ∧
    (typed → ∀ c, g.readCommand r.body = .ok c → (c.kind = .login ↔ e = .login) →
      LetIn g server
        ⟨at_.requestId, at_.host, (r.header? "cookie").bind SessionKey.ofCookies?, at_.now⟩ c
        at_.draws answer) := by
  intro answer typed
  have hanswer : answer = server.answer g e at_ r :=
    serve_eq_answer hspoken hg server at_ hmethod hpath hsize
  have htyped : (r.header? "content-type").getD "" = g.contentType ↔ typed :=
    received_eq_iff (hspoken hg)
  rw [hanswer]
  refine ⟨fun hother => ?_, fun h error hread => ?_, fun h c hread hmisplaced => ?_,
    fun h c hread hplaced => ?_⟩
  · have hreceived : receive g e at_.requestId r =
        .error (415, wrongContentType g at_.requestId ((r.header? "content-type").getD "")) := by
      simp only [receive, ne_eq, htyped, hother, not_false_eq_true, if_true]
    simp only [Service.answer, hreceived]
    exact turnedBack_replyIn server 415 rfl rfl rfl
  · have hreceived : receive g e at_.requestId r =
        .error (400, undecodable at_.requestId error) := by
      simp only [receive, ne_eq, htyped, h, not_true_eq_false, if_false, hread]
    simp only [Service.answer, hreceived]
    exact turnedBack_replyIn server 400 rfl rfl rfl
  · have hmisses : ¬ e.takes c.kind = true := fun htakes => hmisplaced (takes_iff.1 htakes)
    have hreceived : receive g e at_.requestId r =
        .error (400, wrongEndpoint at_.requestId c.kind e) := by
      simp only [receive, ne_eq, htyped, h, not_true_eq_false, if_false, hread, if_neg hmisses]
    simp only [Service.answer, hreceived]
    exact turnedBack_replyIn server 400 rfl rfl rfl
  · exact letIn_answer (hspoken hg) server at_ (receive_of_sent h hread (takes_iff.2 hplaced))

/-- Somebody who is not logged in posts a request to be logged out, first as a plain text, then
where logins belong, and at last as it should be. -/
theorem logout_is_heard_at_last :
    ∃ text, generation10.commandText .logout = .ok text ∧
      let server := OpenService.sample.server
      let at_ : Circumstances :=
        ⟨"192.0.2.1", 5000, default, fun _ => .quiet default default .made⟩
      let answerTo (path contentType : String) :=
        server.serve generations at_ ⟨"POST", path, [("Content-Type", contentType)], text.toUTF8⟩
      TurnedBack generation10 server 415 (answerTo "/adm/1/0/command" "text/plain") ∧
        TurnedBack generation10 server 400 (answerTo "/adm/1/0/login" generation10.contentType) ∧
        LetIn generation10 server ⟨default, "192.0.2.1", none, 5000⟩ .logout at_.draws
          (answerTo "/adm/1/0/command" generation10.contentType) := by
  let text := Envelope.render ⟨generation10.schema, "Logout", none, Command.logout.body⟩
  have hwritten : generation10.commandText .logout = .ok text := rfl
  have hread : generation10.readCommand text.toUTF8 = .ok .logout := by
    rw [Generation.readCommand_of_command (Envelope.ofBytes?_render (fits_commandBody .logout))
      (k := .logout) rfl]
    rfl
  refine ⟨text, hwritten, ?_⟩
  intro server at_ answerTo
  let posted (path contentType : String) : Http.Request :=
    ⟨"POST", path, [("Content-Type", contentType)], text.toUTF8⟩
  have hfirst : generation10 ∈ generations := by decide
  have hsize : text.toUTF8.size ≤ maxBodySize := by decide
  obtain ⟨huntyped, -⟩ := requests_are_checked_first (g := generation10) (e := .command)
    (r := posted "/adm/1/0/command" "text/plain") (List.Subset.refl generations) hfirst server at_
    rfl (by decide) hsize
  obtain ⟨-, -, hmisplaced, -⟩ := requests_are_checked_first (g := generation10) (e := .login)
    (r := posted "/adm/1/0/login" generation10.contentType) (List.Subset.refl generations) hfirst
    server at_ rfl (by decide) hsize
  obtain ⟨-, -, -, hplaced⟩ := requests_are_checked_first (g := generation10) (e := .command)
    (r := posted "/adm/1/0/command" generation10.contentType) (List.Subset.refl generations)
    hfirst server at_ rfl (by decide) hsize
  exact ⟨huntyped (by decide), hmisplaced (by decide) .logout hread (by decide),
    hplaced (by decide) .logout hread (by decide)⟩

end AcctAdmin.Server
