import AcctAdmin.Proofs.Command.Announcement
import AcctAdmin.Proofs.Front.Hearing
import AcctAdmin.Proofs.Sessions.Cookie

/-!
# A visitor among others

Somebody sends one request after the other, shows the cookie that they have with each, and keeps
what the replies tell them to keep. Meanwhile anything may happen at the server: others send
commands, whose steps fall between those of the visitor's, and sessions are swept. Whatever of the
visitor's sessions is still there is the one that their cookie names.
-/

set_option autoImplicit false

namespace AcctAdmin.Server

open AcctAdmin.Protocol AcctAdmin.Client

/-! ## Visits -/

/-- A visitor, and the server with all that happens there. -/
structure Visit where
  service : OpenService
  jar : CookieJar
  /-- The sessions that were ever given to the visitor. -/
  given : List SessionKey
  /-- The visitor's command that was not answered yet, and the generation that it was given in. -/
  pending : Option (Nat × Generation)

/-- What can happen next. -/
inductive VisitStep where
  /-- Something happens at the server: a command of others arrives, any command goes on, or
  sessions are swept. -/
  | elapse (a : ServiceStep)
  /-- The visitor sends a request. -/
  | request (n : Nat) (at_ : Circumstances) (r : Http.Request)
  /-- The visitor's command is answered. -/
  | reply

/-- The session that a change of it has begun. -/
def SessionChange.begun? : SessionChange → Option SessionKey
  | .started key => some key
  | .ended => none

namespace Visit

/-- Whether the identifier of a session that was the visitor's is dealt to somebody else.
Identifiers are drawn at random so that none is dealt twice. -/
def redeals (v : Visit) : ServiceStep → Bool
  | .advance n _ session _ => v.pending.map (·.1) != some n && v.given.any (·.session == session)
  | _ => false

/-- The visitor keeps what a reply tells them to keep. -/
def keep (v : Visit) (reply : Http.Reply) : Visit :=
  { v with jar := reply.setCookie.toList.foldl CookieJar.receive v.jar }

/-- Takes a step, unless there is no such step: the visitor waits for each reply, and shows the
cookies that they have. -/
def step (spoken : List Generation) (v : Visit) : VisitStep → Option Visit
  | .elapse a =>
    if v.redeals a then none else (v.service.step a).map fun σ => { v with service := σ }
  | .request n at_ r =>
    if v.pending.isSome ∨ r.header? "cookie" ≠ v.jar.header?.map (·.2) then none
    else
      match heard? spoken at_.requestId r with
      | none => some (v.keep (v.service.server.serve spoken at_ r).1)
      | some (g, c) =>
        let request : Request := ⟨at_.requestId, at_.host, presentedKey r, at_.now⟩
        (v.service.step (.arrive n request c)).map fun σ =>
          { v with service := σ, pending := some (n, g) }
  | .reply =>
    match v.pending with
    | none => none
    | some (n, g) =>
      ((v.service.commands n).bind (·.execution?)).map fun execution =>
        let v := v.keep (replyIn g execution.status execution.response execution.session)
        { v with
          given := v.given ++ (execution.session.bind (·.begun?)).toList
          pending := none }

def run (spoken : List Generation) (v : Visit) (steps : List VisitStep) : Option Visit :=
  steps.foldlM (step spoken) v

/-- A visit begins with a server that does, and with nothing to show. -/
structure Begins (v : Visit) : Prop where
  service : v.service.Begins
  jar : v.jar = .empty
  given : v.given = []
  pending : v.pending = none

/-- The session that the visitor's cookie names. -/
def shown? (v : Visit) : Option SessionKey :=
  (v.jar.header?.map (·.2)).bind SessionKey.ofCookies?

/-- The sessions of the visitor's that are still there. -/
def left (v : Visit) : List Session :=
  v.service.server.sessions.live.filter fun x => v.given.contains x.key

end Visit

/-! ## What holds of a visitor's sessions -/

namespace Sessions

variable {s s' : Sessions} {given : List SessionKey} {own other : Option SessionKey} {id : Uuid}
  {announced : Option SessionChange} {change : SessionChange}

/-- Whether of the sessions that were given to somebody, and of the one that is announced to them,
none is left but the one that is theirs after the announcement. -/
def LeavesOne (given : List SessionKey) (own : Option SessionKey)
    (announced : Option SessionChange) (s : Sessions) : Prop :=
  ∀ key ∈ s.live.map (·.key), key ∈ given ∨ announced = some (.started key) →
    SessionChange.after own announced = some key

theorem LeavesOne.dwindles (h : s.LeavesOne given own announced) (hd : s.Dwindles s') :
    s'.LeavesOne given own announced :=
  fun key hkey => h key (hd hkey)

/-- What a visitor's own command does, they will be told. -/
theorem LeavesOne.turns (h : s.LeavesOne given own none) (hturns : s.Turns own id s' change) :
    s'.LeavesOne given own (some change) := by
  intro key hkey htheirs
  cases hturns with
  | started account name admin now =>
    rcases key_of_create hkey with hold | rfl
    · rcases htheirs with hgiven | hannounced
      · have hown := h key ((thins_without s own).dwindles hold) (.inl hgiven)
        exact absurd hown (ne_own_of_mem_without hold)
      · cases hannounced
        rfl
    · rfl
  | @ended gone s' hown hthins hgone =>
    rcases htheirs with hgiven | hannounced
    · have hkept := h key (hthins.dwindles hkey) (.inl hgiven)
      cases hown.symm.trans hkept
      exact absurd hkey hgone
    · cases hannounced

/-- Nobody else's command brings back a session that was the visitor's. -/
theorem LeavesOne.aside (h : s.LeavesOne given own announced)
    (hturns : s.Turns other id s' change) (hfresh : ∀ key ∈ given, key.session ≠ id) :
    s'.LeavesOne given own announced := by
  cases hturns with
  | started account name admin now =>
    intro key hkey htheirs
    rcases key_of_create hkey with hold | rfl
    · exact h key ((thins_without s other).dwindles hold) htheirs
    · rcases htheirs with hgiven | rfl
      · exact absurd rfl (hfresh _ hgiven)
      · rfl
  | ended hown hthins hgone => exact h.dwindles hthins.dwindles

/-- Once it has been told, what was announced is what they have. -/
theorem LeavesOne.told (h : s.LeavesOne given own announced) :
    s.LeavesOne (given ++ (announced.bind (·.begun?)).toList) (SessionChange.after own announced)
      none := by
  intro key hkey htheirs
  refine h key hkey ?_
  rcases htheirs with hgiven | hnone
  · rcases List.mem_append.1 hgiven with hold | hnew
    · exact .inl hold
    · right
      cases announced with
      | none => simp at hnew
      | some change =>
        cases change with
        | started new =>
          obtain rfl : key = new := by simpa [SessionChange.begun?] using hnew
          rfl
        | ended => simp [SessionChange.begun?] at hnew
  · cases hnone

end Sessions

namespace Visit

variable {spoken : List Generation} {v v' : Visit} {own : Option SessionKey} {a : VisitStep}

/-- What the visitor is about to be told of their session. -/
def announced (v : Visit) : Option SessionChange :=
  v.pending.bind fun (n, _) => (v.service.commands n).bind (·.stage.announced)

/-- What holds all the time of a visitor whose own session is the one given. -/
structure Kept (v : Visit) (own : Option SessionKey) : Prop where
  tells : v.service.Tells
  distinct : v.service.server.sessions.Distinct
  jar : v.jar = ⟨cookiesOf own⟩
  leavesOne : v.service.server.sessions.LeavesOne v.given own v.announced
  asked : ∀ n g, v.pending = some (n, g) → ∃ o, v.service.commands n = some o ∧
    o.request.session = own ∧ g ∈ generations ∧ g.allowsCommand o.command.kind = true

theorem announced_of_pending {n : Nat} {g : Generation} {o : OpenCommand}
    (hpending : v.pending = some (n, g)) (hn : v.service.commands n = some o) :
    v.announced = o.stage.announced := by
  simp [announced, hpending, hn]

theorem announced_of_idle (hidle : v.pending = none) : v.announced = none := by
  simp [announced, hidle]

theorem Begins.kept (h : v.Begins) : v.Kept none where
  tells := h.service.tells
  distinct := by
    rw [Sessions.Distinct, OpenService.live_begins h.service]
    exact List.nodup_nil
  jar := h.jar
  leavesOne := by
    intro key hkey
    rw [OpenService.live_begins h.service] at hkey
    cases hkey
  asked n g hpending := by
    rw [h.pending] at hpending
    cases hpending

/-- It is enough to look at the command that has come further, if it is the visitor's, and at the
sessions that are left for them, if it is not. -/
theorem Kept.put {σ : OpenService} {n : Nat} {o : OpenCommand} (h : v.Kept own)
    (hcommands : σ.commands = v.service.commands) (htells : (σ.put n o).Tells)
    (hdistinct : σ.server.sessions.Distinct)
    (hown : ∀ g, v.pending = some (n, g) → o.request.session = own ∧
      g.allowsCommand o.command.kind = true ∧
      σ.server.sessions.LeavesOne v.given own o.stage.announced)
    (hother : (∀ g, v.pending ≠ some (n, g)) →
      σ.server.sessions.LeavesOne v.given own v.announced) :
    Kept { v with service := σ.put n o } own := by
  have hsame {m : Nat} (hm : m ≠ n) : (σ.put n o).commands m = v.service.commands m := by
    simp [OpenService.put, hm, hcommands]
  have hself : (σ.put n o).commands n = some o := by simp [OpenService.put]
  refine ⟨htells, hdistinct, h.jar, ?_, ?_⟩
  · by_cases hasked : ∃ g, v.pending = some (n, g)
    · obtain ⟨g, hpending⟩ := hasked
      have hannounced : announced { v with service := σ.put n o } = o.stage.announced :=
        announced_of_pending hpending hself
      rw [hannounced]
      exact (hown g hpending).2.2
    · have hannounced : announced { v with service := σ.put n o } = v.announced := by
        unfold announced
        refine Option.bind_congr fun asked hpending => ?_
        obtain ⟨m, g⟩ := asked
        have hm : m ≠ n := by
          rintro rfl
          exact hasked ⟨g, hpending⟩
        simp only [hsame hm]
      rw [hannounced]
      exact hother fun g hpending => hasked ⟨g, hpending⟩
  · intro m g hpending
    obtain ⟨o', ho', hsession, hg, hallows⟩ := h.asked m g hpending
    by_cases hm : m = n
    · subst hm
      obtain ⟨hsession', hallows', -⟩ := hown g hpending
      exact ⟨o, hself, hsession', hg, hallows'⟩
    · exact ⟨o', (hsame hm).trans ho', hsession, hg, hallows⟩

/-- **Whatever goes on at the server** leaves the visitor at most their own session: their own
command announces what it does, and those of others do not bring back what was the visitor's. -/
theorem kept_elapse {a : ServiceStep} {σ : OpenService} (h : v.Kept own)
    (hfresh : v.redeals a = false) (hs : v.service.step a = some σ) :
    Kept { v with service := σ } own := by
  have htells := OpenService.tells_server_step h.tells hs
  have hdistinct := OpenService.distinct_step h.distinct hs
  cases a with
  | arrive n r c =>
    obtain ⟨hfree, rfl⟩ := OpenService.step_arrive hs
    refine h.put rfl htells hdistinct (fun g hpending => ?_) fun _ => h.leavesOne
    obtain ⟨o, ho, -⟩ := h.asked n g hpending
    cases ho.symm.trans hfree
  | advance n account session hashing =>
    obtain ⟨o, o', server, hn, -, hnext, rfl⟩ := OpenService.step_advance hs
    have hstep := OpenCommand.announces_next hnext
    obtain ⟨hrequest, hcommand⟩ := OpenCommand.next_keeps hnext
    refine h.put rfl htells hdistinct (fun g hpending => ?_) fun hother => ?_
    · obtain ⟨asked, hasked, hsession, -, hallows⟩ := h.asked n g hpending
      obtain rfl := Option.some.inj (hn.symm.trans hasked)
      have hleaves := h.leavesOne
      rw [announced_of_pending hpending hn] at hleaves
      rw [hrequest, hcommand]
      refine ⟨hsession, hallows, ?_⟩
      rcases hstep with ⟨hthins, hannounced⟩ | ⟨hnone, change, hannounced, hturns⟩
      · rw [hannounced]
        exact hleaves.dwindles hthins.dwindles
      · rw [hannounced]
        rw [hnone] at hleaves
        rw [hsession] at hturns
        exact hleaves.turns hturns
    · rcases hstep with ⟨hthins, -⟩ | ⟨-, change, -, hturns⟩
      · exact h.leavesOne.dwindles hthins.dwindles
      · refine h.leavesOne.aside hturns fun key hkey hsame => ?_
        have hothers : v.pending.map (·.1) ≠ some n := by
          intro hasked
          obtain ⟨⟨m, g⟩, hpending, rfl⟩ := Option.map_eq_some_iff.1 hasked
          exact hother g hpending
        simp only [redeals, Bool.and_eq_false_iff, bne_eq_false_iff_eq, hothers, false_or,
          List.any_eq_false, beq_iff_eq] at hfresh
        exact hfresh key hkey hsame
  | sweep now inUse =>
    cases hs
    have hthins := Sessions.thins_filtered v.service.server.sessions
      fun x => inUse x.key || !v.service.server.sessions.isIdle now x
    exact ⟨htells, hdistinct, h.jar, h.leavesOne.dwindles hthins.dwindles, h.asked⟩

theorem shown?_of_jar (h : v.jar = ⟨cookiesOf own⟩) : v.shown? = own := by
  rw [shown?, h, header?_cookiesOf]
  cases own with
  | none => rfl
  | some key => rw [Option.map_some, Option.bind_some, SessionKey.ofCookies?_pair]

/-- The visitor shows the key that is theirs, and keeps it if nothing is heard. -/
theorem kept_request {n : Nat} {at_ : Circumstances} {r : Http.Request}
    (hspoken : spoken ⊆ generations) (h : v.Kept own)
    (hs : v.step spoken (.request n at_ r) = some v') : v'.Kept own := by
  simp only [step] at hs
  split at hs
  · cases hs
  · rename_i hsends
    obtain ⟨hidle, hshows⟩ : v.pending = none ∧ r.header? "cookie" = v.jar.header?.map (·.2) := by
      simpa using hsends
    split at hs
    · rename_i hunheard
      cases hs
      have hkept : v.keep (v.service.server.serve spoken at_ r).1 = v := by
        rw [keep, (serve_of_unheard v.service.server hunheard).1]
        rfl
      rw [hkept]
      exact h
    · rename_i g c hheard
      obtain ⟨σ, hσ, rfl⟩ := Option.map_eq_some_iff.1 hs
      obtain ⟨hfree, rfl⟩ := OpenService.step_arrive hσ
      obtain ⟨e, hroute, -, -, hreceived⟩ := heard?_eq_some.1 hheard
      have hleaves := h.leavesOne
      rw [announced_of_idle hidle] at hleaves
      have hkey : presentedKey r = own := by
        rw [presentedKey, hshows]
        exact shown?_of_jar h.jar
      set o := OpenCommand.arrive ⟨at_.requestId, at_.host, presentedKey r, at_.now⟩ c
        v.service.server
      have hself : (v.service.put n o).commands n = some o := by simp [OpenService.put]
      refine ⟨OpenService.tells_server_step h.tells hσ, h.distinct, h.jar, ?_, ?_⟩
      · rw [announced_of_pending (g := g) rfl hself]
        exact hleaves
      · rintro m g' hpending
        cases hpending
        exact ⟨o, hself, hkey, hspoken (mem_of_route? hroute),
          readCommand_eq_ok (receive_eq_ok hreceived)⟩

/-- The visitor is told of their session what has become of it. -/
theorem kept_reply (h : v.Kept own) (hs : v.step spoken .reply = some v') :
    v'.Kept (SessionChange.after own v.announced) ∧ v'.pending = none := by
  simp only [step] at hs
  cases hpending : v.pending with
  | none => simp [hpending] at hs
  | some asked =>
    obtain ⟨n, g⟩ := asked
    simp only [hpending] at hs
    obtain ⟨ex, hex, rfl⟩ := Option.map_eq_some_iff.1 hs
    obtain ⟨o, hn, hex⟩ := Option.bind_eq_some_iff.1 hex
    obtain ⟨o', ho', -, hg, hallows⟩ := h.asked n g hpending
    obtain rfl := Option.some.inj (hn.symm.trans ho')
    have hsuits : ex.response.Suits o.command.kind := by
      obtain ⟨outcome, effects, hst, rfl⟩ := OpenCommand.answered_of_execution hex
      exact suits_of_told o.request _ ((h.tells n o hn).of_stage hst rfl)
    have hannounced : ex.session = v.announced := by
      rw [announced_of_pending hpending hn, OpenCommand.session_of_execution hex]
    refine ⟨⟨h.tells, h.distinct, ?_, ?_, fun _ _ hnone => nomatch hnone⟩, rfl⟩
    · have hcookie := (replyIn_eq (speaks_of_suits hg hallows hsuits) ex.status ex.session).2
      rw [← hannounced, ← receive_change, ← hcookie, ← h.jar]
      rfl
    · have hleaves := h.leavesOne.told
      rw [← hannounced] at hleaves ⊢
      exact hleaves

/-- **A visitor's step keeps what holds of their sessions**, whosesoever they are by then. -/
theorem kept_step (hspoken : spoken ⊆ generations) (h : v.Kept own)
    (hs : v.step spoken a = some v') : ∃ own', v'.Kept own' := by
  cases a with
  | elapse a =>
    simp only [step] at hs
    split at hs
    · cases hs
    · rename_i hfresh
      obtain ⟨σ, hσ, rfl⟩ := Option.map_eq_some_iff.1 hs
      exact ⟨own, kept_elapse h (by simpa using hfresh) hσ⟩
  | request n at_ r => exact ⟨own, kept_request hspoken h hs⟩
  | reply => exact ⟨_, (kept_reply h hs).1⟩

theorem kept_run {first last : Visit} {steps : List VisitStep} (hspoken : spoken ⊆ generations)
    (hbegins : first.Begins) (hrun : first.run spoken steps = some last) :
    ∃ own, last.Kept own :=
  foldlM_induction (P := fun v => ∃ own, v.Kept own) ⟨none, hbegins.kept⟩
    (fun _ _ _ _ ⟨_, h⟩ hs => kept_step hspoken h hs) hrun

/-- As long as nothing was given to a visitor, all that happens at the server may happen. -/
theorem run_elapse (hgiven : v.given = []) (schedule : List ServiceStep) :
    v.run spoken (schedule.map .elapse) =
      (v.service.run schedule).map fun σ => { v with service := σ } := by
  induction schedule generalizing v with
  | nil => rfl
  | cons a rest ih =>
    have hfresh : v.redeals a = false := by
      cases a <;> simp [redeals, hgiven]
    have hstep : v.step spoken (.elapse a) =
        (v.service.step a).map fun σ => { v with service := σ } := by
      simp [step, hfresh]
    rw [run, List.map_cons, List.foldlM_cons, hstep, OpenService.run, List.foldlM_cons]
    cases v.service.step a with
    | none => rfl
    | some σ => exact ih (v := { v with service := σ }) hgiven

/-! ## A visit to try things on -/

def rootLogin : Command := .login ⟨"root", "correct horse"⟩

def loginText : String :=
  Envelope.render ⟨generation10.schema, "Login", none, rootLogin.body⟩

def sampleCircumstances : Circumstances :=
  ⟨"192.0.2.1", 5000, default, fun _ => .quiet default default .made⟩

def loginRequest : Http.Request :=
  ⟨"POST", "/adm/1/0/login", [("Content-Type", generation10.contentType)], loginText.toUTF8⟩

/-- A visit to a server that has an administrator. -/
def sample : Visit := ⟨.sample, .empty, [], none⟩

theorem heard?_loginRequest :
    heard? generations default loginRequest = some (generation10, rootLogin) := by
  have hread : generation10.readCommand loginText.toUTF8 = .ok rootLogin := by
    rw [loginText, Generation.readCommand_of_command
      (Envelope.ofBytes?_render (fits_commandBody rootLogin)) (k := .login) rfl]
    rfl
  have hpath : loginRequest.path = endpointPath generation10 .login := by decide
  have hsize : loginText.toUTF8.size ≤ maxBodySize := by decide
  refine heard?_eq_some.2 ⟨.login, ?_, rfl, hsize, receive_of_sent rfl hread rfl⟩
  rw [hpath]
  exact route?_endpointPath (List.Subset.refl _) (by decide) .login

/-- The administrator logs in, and while they do somebody else logs in to the same account. -/
def sampleSchedule : List ServiceStep :=
  .arrive 1 (OpenService.sampleRequest none) rootLogin ::
    List.replicate 3 (.advance 1 default ⟨12⟩ .made) ++
    List.replicate 3 (.advance 0 default ⟨11⟩ .made)

/-! ## One session -/

/-- **Nobody has more than one session.** Somebody sends one request after the other, shows the
cookie that they have with each, and keeps what they are told to keep. Whatever they send, and
whatever others do meanwhile, of all the sessions that they were ever given at most one is there
while they wait for no reply, and it is the one that their cookie names. -/
theorem visitors_have_one_session {first last : Visit} {steps : List VisitStep}
    (hspoken : spoken ⊆ generations) (hbegins : first.Begins)
    (hrun : first.run spoken steps = some last) (hidle : last.pending = none) :
    last.left.length ≤ 1 ∧
      ∀ x ∈ last.left, last.shown? = some x.key ∧
        last.jar.cookies = [(SessionKey.cookieName, x.key.text)] := by
  obtain ⟨own, h⟩ := kept_run hspoken hbegins hrun
  have hown : ∀ x ∈ last.left, own = some x.key := by
    intro x hx
    obtain ⟨hlive, hgiven⟩ := List.mem_filter.1 hx
    have hleaves := h.leavesOne x.key (List.mem_map_of_mem hlive)
    rw [announced_of_idle hidle] at hleaves
    exact hleaves (.inl (by simpa using hgiven))
  constructor
  · have hdistinct : (last.left.map (·.key)).Nodup := h.distinct.filtered _
    cases hleft : last.left with
    | nil => exact Nat.zero_le 1
    | cons x rest =>
      cases rest with
      | nil => exact Nat.le_refl 1
      | cons y rest =>
        rw [hleft] at hown hdistinct
        have hsame : x.key = y.key :=
          Option.some.inj ((hown x (by simp)).symm.trans (hown y (by simp)))
        simp [hsame] at hdistinct
  · intro x hx
    rw [shown?_of_jar h.jar, h.jar, hown x hx]
    exact ⟨rfl, rfl⟩

/-- Both have a session afterwards, and the one of the visitor's is shown by their cookie. -/
theorem root_keeps_one_of_two_sessions :
    ∃ last x, sample.run generations (.request 0 sampleCircumstances loginRequest ::
        (sampleSchedule.map .elapse ++ [.reply])) = some last ∧ last.pending = none ∧
      last.service.server.sessions.count = 2 ∧ last.left = [x] ∧ last.shown? = some x.key := by
  let key : SessionKey := ⟨OpenService.sampleAdmin, ⟨11⟩⟩
  let sent : Visit := { sample with
    service := OpenService.sample.put 0 (.arrive (OpenService.sampleRequest none) rootLogin
      OpenService.sample.server)
    pending := some (0, generation10) }
  have hsent : sample.step generations (.request 0 sampleCircumstances loginRequest) =
      some sent := by
    simp only [step, sampleCircumstances, heard?_loginRequest]
    rfl
  obtain ⟨σ, o, ex, x, hσ, ho, hex, hsession, hcount, hlive⟩ : ∃ σ o ex x,
      sent.service.run sampleSchedule = some σ ∧ σ.commands 0 = some o ∧
        o.execution? = some ex ∧ ex.session = some (.started key) ∧
        σ.server.sessions.count = 2 ∧
        σ.server.sessions.live.filter (fun y => [key].contains y.key) = [x] :=
    ⟨_, _, _, _, rfl, rfl, rfl, rfl, rfl, rfl⟩
  obtain ⟨last, hlast, hservice, hgiven, hidle⟩ : ∃ last,
      ({ sent with service := σ } : Visit).step generations .reply = some last ∧
        last.service = σ ∧ last.given = [key] ∧ last.pending = none := by
    simp only [step, sent, ho, Option.bind_some, hex, Option.map_some]
    refine ⟨_, rfl, rfl, ?_, rfl⟩
    simp [hsession, SessionChange.begun?, keep, sample]
  have hrun : sample.run generations (.request 0 sampleCircumstances loginRequest ::
      (sampleSchedule.map .elapse ++ [.reply])) = some last := by
    have helapsed : sent.run generations (sampleSchedule.map .elapse) =
        some { sent with service := σ } := by
      rw [run_elapse rfl, hσ]
      rfl
    rw [run] at helapsed
    rw [run, List.foldlM_cons, hsent]
    simp [List.foldlM_append, helapsed, hlast]
  have hleft : last.left = [x] := by rw [left, hservice, hgiven, hlive]
  obtain ⟨-, hshown⟩ := visitors_have_one_session (List.Subset.refl generations)
    ⟨.administered .., rfl, rfl, rfl⟩ hrun hidle
  refine ⟨last, x, hrun, hidle, hservice ▸ hcount, hleft, ?_⟩
  exact (hshown x (by simp [hleft])).1

end Visit

end AcctAdmin.Server
