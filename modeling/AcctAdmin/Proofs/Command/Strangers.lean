import AcctAdmin.Client.Conversation
import AcctAdmin.Proofs.Command.Caller

/-!
# Strangers

Whoever shows no session that is live is told to log in, which is what a client's conversation waits
for before it logs in again by itself. The one thing that is looked at before that is the text of a
search for e-mail addresses: a blank one is objected to, whoever asks for it.
-/

set_option autoImplicit false

namespace AcctAdmin.Server

open AcctAdmin.Protocol AcctAdmin.Text

/-- Whether a request shows no session that is live: none at all, or one that is over. -/
def Sessions.Strange (s : Sessions) (r : Request) : Prop :=
  ∀ key, r.session = some key → (s.get key r.now).1 = none

/-- The sessions once it has been looked for the one that a request shows. -/
def Sessions.searched (s : Sessions) (r : Request) : Sessions :=
  match r.session with
  | none => s
  | some key => (s.get key r.now).2

/-- A session that is not found live has ended at the latest by looking for it. -/
theorem Sessions.get_of_not_live {s : Sessions} {key : SessionKey} {now : Nat}
    (h : (s.get key now).1 = none) :
    (s.get key now).2 = s ∨ (s.get key now).2 = (s.remove key).2 := by
  unfold get at h ⊢
  cases hfound : s.find? key with
  | none => exact .inl rfl
  | some x =>
    cases hidle : s.isIdle now x with
    | false => simp [hfound, hidle] at h
    | true => exact .inr (by simp [hidle])

/-- The sessions of all others are left as they are. -/
theorem Sessions.others_searched {s : Sessions} {r : Request} (h : s.Strange r) :
    (s.searched r).live.filter (fun x => r.session ≠ some x.key) =
      s.live.filter fun x => r.session ≠ some x.key := by
  unfold searched
  cases hkey : r.session with
  | none => rfl
  | some key =>
    dsimp only
    rcases get_of_not_live (h key hkey) with hsame | hremoved
    · rw [hsame]
    · rw [hremoved, remove, List.filter_filter]
      refine List.filter_congr fun y _ => ?_
      by_cases hy : y.key = key
      · simp [hy]
      · simp [hy, Ne.symm hy]

namespace Handling

def notLoggedIn : Fault := .authentication "not logged in"

/-- What somebody is told who shows no session that is live. -/
def strangersFault : Option SessionKey → Fault
  | none => notLoggedIn
  | some _ => sessionExpired

variable {d : Desk} {r : Request} {c : Command}

theorem outcome_session_of_stranger (h : d.sessions.Strange r) :
    (session r).outcome d =
      (.error (.fault (strangersFault r.session)),
        { d with sessions := d.sessions.searched r }) := by
  unfold Sessions.searched
  cases hkey : r.session with
  | none =>
    unfold session
    rw [hkey]
    exact outcome_refuse_bind notLoggedIn d
  | some key => exact outcome_session_of_absent hkey (h key hkey)

/-- A blank search is all that is ever objected to. -/
theorem objectionTo?_eq_none_iff :
    objectionTo? c = none ↔
      ¬ ∃ q, c = .searchBegin (.accountsByEmail q) ∧ isAllBlank q.email = true := by
  constructor
  · rintro h ⟨q, rfl, hblank⟩
    simp [objectionTo?, hblank] at h
  · intro h
    unfold objectionTo?
    split
    · rename_i q
      exact if_neg fun hblank => h ⟨q, rfl, hblank⟩
    · rfl

end Handling

namespace Service

variable {server : Service} {r : Request} {c : Command} {draws : Nat → Draw}

/-- What becomes of a command that a stranger gives. -/
theorem execute_of_stranger (draws : Nat → Draw) (hneeds : needsCaller c = true)
    (hstranger : server.sessions.Strange r) :
    server.execute r c draws =
      match Handling.objectionTo? c with
      | some fault => (.ofOutcome r .none (.error (.fault fault)), server)
      | none =>
        (.ofOutcome r .none (.error (.fault (Handling.strangersFault r.session))),
          { server with sessions := server.sessions.searched r }) := by
  have hdispatch := Handling.dispatch_of_needsCaller server.limits r (draws 0) hneeds
  cases hobjection : Handling.objectionTo? c with
  | some fault =>
    have hrun : (Handling.dispatch server.limits r (draws 0) c).outcome
        (server.desk server.store.begin) =
          (.error (.fault fault), server.desk server.store.begin) := by
      rw [hdispatch, Handling.outcome_bind, Handling.outcome_identify_of_objection hobjection]
    have hlost : isConflict (.error (.fault fault)) = false := by
      rw [Handling.objectionTo?_eq_some hobjection]
      rfl
    rw [execute_of_outcome hrun hlost, close_error_of_begin rfl rfl]
    rfl
  | none =>
    have hsession := Handling.outcome_session_of_stranger
      (d := server.desk server.store.begin) hstranger
    have hrun : (Handling.dispatch server.limits r (draws 0) c).outcome
        (server.desk server.store.begin) =
          (.error (.fault (Handling.strangersFault r.session)),
            { server.desk server.store.begin with sessions := server.sessions.searched r }) := by
      rw [hdispatch, Handling.outcome_bind, Handling.outcome_identify hobjection, hsession]
      rfl
    have hlost : isConflict (.error (.fault (Handling.strangersFault r.session))) = false := by
      cases r.session <;> rfl
    rw [execute_of_outcome hrun hlost, close_error_of_begin rfl rfl]
    rfl

/-- Whether somebody is told to log in, in the way that a client's conversation understands. -/
def SendsToLogin (c : Command) (e : Execution) : Prop :=
  ∃ refusal, e.response = .refused refusal ∧ refusal.code = .authentication ∧
    Client.Conversation.isMendable c refusal = true ∧ e.status = 401

theorem sendsToLogin_of_authentication (hneeds : needsCaller c = true) (message : String) :
    SendsToLogin c (.ofOutcome r .none (.error (.fault (.authentication message)))) := by
  have hlogin : c.kind.isLogin = false := by
    cases c <;> first | rfl | cases hneeds
  refine ⟨_, rfl, rfl, ?_, rfl⟩
  simp only [Client.Conversation.isMendable, hlogin]
  rfl

/-- **Strangers are sent to log in**, unless what they ask for is a blank search for e-mail
addresses, which they are told instead. Either way nothing has changed but that the session which
they showed has ended if it had gone unused for too long. -/
theorem strangers_are_sent_to_login (hneeds : needsCaller c = true)
    (hstranger : server.sessions.Strange r) :
    let execution := (server.execute r c draws).1
    let after := (server.execute r c draws).2
    (SendsToLogin c execution ↔
      ¬ ∃ q, c = .searchBegin (.accountsByEmail q) ∧ isAllBlank q.email = true) ∧
    (∀ q, c = .searchBegin (.accountsByEmail q) → isAllBlank q.email = true →
      execution = .ofOutcome r .none (.error (.fault Handling.emptySearch))) ∧
    execution.session = none ∧ execution.mail = [] ∧
    after = { server with sessions := after.sessions } ∧
    after.sessions.live.filter (fun x => r.session ≠ some x.key) =
      server.sessions.live.filter fun x => r.session ≠ some x.key := by
  intro execution after
  have hexecute := execute_of_stranger draws hneeds hstranger
  rw [← Handling.objectionTo?_eq_none_iff]
  cases hobjection : Handling.objectionTo? c with
  | some fault =>
    have hfault := Handling.objectionTo?_eq_some hobjection
    simp only [hobjection, hfault] at hexecute
    have hexecution : execution = _ := congrArg Prod.fst hexecute
    have hafter : after = server := congrArg Prod.snd hexecute
    rw [hexecution, hafter]
    refine ⟨⟨?_, fun h => nomatch h⟩, fun _ _ _ => rfl, rfl, rfl, rfl, rfl⟩
    rintro ⟨refusal, hrefused, hcode, -⟩
    cases hrefused
    cases hcode
  | none =>
    simp only [hobjection] at hexecute
    have hexecution : execution = _ := congrArg Prod.fst hexecute
    have hafter : after = _ := congrArg Prod.snd hexecute
    rw [hexecution, hafter]
    refine ⟨⟨fun _ => rfl, fun _ => ?_⟩, ?_, rfl, rfl, rfl, Sessions.others_searched hstranger⟩
    · cases r.session with
      | none => exact sendsToLogin_of_authentication hneeds _
      | some key => exact sendsToLogin_of_authentication hneeds _
    · intro q hc hblank
      exact absurd ⟨q, hc, hblank⟩ (Handling.objectionTo?_eq_none_iff.1 hobjection)

/-- Ada's session has gone unused for too long when she asks for another account. She is sent to log
in, nothing is stored, and the administrator's session is still there. -/
theorem ada_is_sent_to_login :
    let server := OpenService.sample.server.advanceAll adaLogsIn
    let r := { OpenService.sampleRequest (some adasSession) with now := 605000 }
    let done := server.execute r (.userGet ⟨⟨3⟩⟩) fun _ => .quiet default default .made
    server.sessions.Strange r ∧ SendsToLogin (.userGet ⟨⟨3⟩⟩) done.1 ∧
      done.2.store = server.store ∧ done.2.sessions.live.map (·.key) = [firstSession] := by
  intro server r done
  have hstranger : server.sessions.Strange r := by
    rintro key ⟨⟩
    decide +kernel
  obtain ⟨hsent, -, -, -, hafter, hothers⟩ :=
    @strangers_are_sent_to_login server r (.userGet ⟨⟨3⟩⟩) (fun _ => .quiet default default .made)
      rfl hstranger
  have hkeys : done.2.sessions.live.map (·.key) = [firstSession] := by decide +kernel
  have hstore : done.2.store = server.store := by
    dsimp only [done]
    rw [hafter]
  exact ⟨hstranger, hsent.2 (by simp), hstore, hkeys⟩

/-- Somebody who is not logged in at all makes a blank search, and is told of that instead. -/
theorem blank_search_goes_first :
    let c := Command.searchBegin (.accountsByEmail ⟨.all, " ", [], 2⟩)
    let r := OpenService.sampleRequest none
    let done := OpenService.sample.server.execute r c fun _ => .quiet default default .made
    needsCaller c = true ∧ OpenService.sample.server.sessions.Strange r ∧
      done.1.status = 400 ∧ ¬ SendsToLogin c done.1 := by
  intro c r done
  have hstatus : done.1.status = 400 := by decide +kernel
  have hstranger : OpenService.sample.server.sessions.Strange r := by rintro key ⟨⟩
  refine ⟨rfl, hstranger, hstatus, ?_⟩
  rintro ⟨_, -, -, -, h⟩
  rw [hstatus] at h
  cases h

end Service

end AcctAdmin.Server
