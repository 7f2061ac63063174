import AcctAdmin.Proofs.Command.Announcement
import AcctAdmin.Proofs.Command.Answer

/-!
# Estrangement

Somebody is told that it is not known who they are only by the search for the session that they
show, and a search that comes to nothing leaves no such session behind: there was none, or it had
gone unused for too long, or its account may not use it any longer. So whoever is told to log in has
no session to begin with, and nothing is lost if they never come back.
-/

set_option autoImplicit false

namespace AcctAdmin.Server

open AcctAdmin.Protocol

/-- Whether a command stops short because it is not known who asks. -/
def Halt.Estranges : Halt → Prop
  | .fault (.authentication _) => True
  | _ => False

/-- What is told with that code has that reason. -/
theorem Halt.estranges_of_code {halt : Halt} {id : RequestId} (hspeakable : halt.Speakable)
    (hcode : (halt.failure id).code = .authentication) : halt.Estranges := by
  cases halt with
  | panic payload => cases hcode
  | fault fault =>
    obtain ⟨code, status, _, _, htold, htells⟩ := Failure.exists_tells id fault
    have hcode : code = .authentication := htells.code.symm.trans hcode
    cases htold with
    | authentication message => trivial
    | coded | uncoded => exact hspeakable.elim
    | _ => cases hcode

namespace Handling

variable {α : Type} {d : Desk} {r : Request} {draw : Draw} {caller : Session}

/-! ## Nobody else asks who it is -/

/-- Whether a step never stops short for that reason. -/
abbrev Trusts (d : Desk) (m : Handling α) : Prop :=
  Ends (fun _ _ => True) (fun halt _ => ¬ halt.Estranges) d m

theorem not_estranges_objection? {name email realName password : String} {fault : Fault}
    (h : objection? name email realName password = some fault) :
    ¬ (Halt.fault fault).Estranges := by
  unfold objection? at h
  repeat' split at h
  all_goals cases h
  all_goals exact id

theorem trusts_userCreate (new : NewAccount) : Trusts d (userCreate r draw caller new) := by
  refine ends_bind (ends_admin ?_ fun _ => id)
  refine ends_bind (ends_objectTo (fun _ => ?_) fun _ => not_estranges_objection?)
  refine ends_bind (ends_hash rfl ?_ (fun _ => id) fun _ => id)
  refine ends_bind (ends_write (fun _ _ _ => ?_) fun _ _ => id)
  exact ends_bind (ends_modify (ends_bind (ends_modify (ends_pure trivial))))

theorem trusts_userGet (id : AccountId) : Trusts d (userGet caller id) := by
  refine ends_bind (ends_forbid (fun _ => ?_) fun _ h => h)
  exact ends_bind (ends_existing (fun _ _ => ends_pure trivial) fun h => h)

theorem trusts_userDelete (id : AccountId) : Trusts d (userDelete r caller id) := by
  refine ends_bind (ends_admin ?_ fun _ h => h)
  refine ends_bind (ends_forbid (fun _ => ?_) fun _ h => h)
  refine ends_bind (ends_remove (fun _ _ _ _ => ?_) fun _ _ h => h)
  refine ends_bind (ends_expect (fun _ _ => ?_) fun _ h => h)
  exact ends_bind (ends_modify (ends_bind (ends_modify (ends_pure trivial))))

theorem trusts_userBan (id : AccountId) (reason : String) (expires : Option UInt64) :
    Trusts d (userBan r caller id reason expires) := by
  refine ends_bind (ends_admin ?_ fun _ h => h)
  refine ends_bind (ends_forbid (fun _ => ?_) fun _ h => h)
  refine ends_bind (ends_forbid (fun _ => ?_) fun _ h => h)
  refine ends_bind (ends_forbid (fun _ => ?_) fun _ h => h)
  refine ends_bind (ends_existing (fun _ _ => ?_) fun h => h)
  refine ends_bind (ends_write (fun _ _ _ => ?_) fun _ _ h => h)
  exact ends_bind (ends_modify (ends_bind (ends_modify (ends_pure trivial))))

theorem trusts_userUnban (id : AccountId) : Trusts d (userUnban r caller id) := by
  refine ends_bind (ends_admin ?_ fun _ h => h)
  refine ends_bind (ends_existing (fun _ _ => ?_) fun h => h)
  refine ends_bind (ends_write (fun _ _ _ => ?_) fun _ _ h => h)
  exact ends_bind (ends_modify (ends_pure trivial))

theorem trusts_searchBegin {Query Row : Type} (slot : Slot Query) (query : Query) (size : UInt32)
    (source : Desk → Source Row) : Trusts d (searchBegin caller slot query size source) := by
  refine ends_bind (ends_admin ?_ fun _ => id)
  refine ends_bind (ends_modify (ends_get_bind ?_))
  refine ends_bind (ends_ofStorage (fun _ _ => ?_) fun _ _ => id)
  exact ends_bind (ends_modify (ends_pure trivial))

theorem trusts_searchTurn {Query Row : Type} (name : String) (slot : Slot Query) (turn : Turn)
    (source : Desk → Query → Source Row) :
    Trusts d (searchTurn caller name slot turn source) := by
  refine ends_bind (ends_admin ?_ fun _ => id)
  refine ends_bind (ends_expect (fun _ _ => ?_) fun _ => id)
  refine ends_get_bind (ends_bind (ends_modify ?_))
  exact ends_ofStorage (fun _ _ => trivial) fun _ _ => id

/-- Once a caller has been found, nobody asks again. -/
theorem trusts_carryOut (limits : PageLimits) (draw : Draw) {c : Command}
    (hneeds : needsCaller c = true) : Trusts d (carryOut limits r draw caller c) := by
  cases c with
  | login l => cases hneeds
  | logout => cases hneeds
  | userCreate new => exact trusts_userCreate new
  | userGet id => exact trusts_userGet id
  | userDelete id => exact trusts_userDelete id
  | userBan id reason expires => exact trusts_userBan id reason expires
  | userUnban id => exact trusts_userUnban id
  | searchBegin query => cases query <;> exact ends_map (trusts_searchBegin ..)
  | searchTurn kind turn => cases kind <;> exact ends_map (trusts_searchTurn ..)

/-! ## A search that comes to nothing -/

/-- Whether the session that a request shows is there no more. -/
def Gone (r : Request) (d : Desk) : Prop :=
  ∀ key, r.session = some key → key ∉ d.sessions.live.map (·.key)

theorem not_mem_get_of_absent {s : Sessions} {key : SessionKey} {now : Nat}
    (h : (s.get key now).1 = none) : key ∉ (s.get key now).2.live.map (·.key) := by
  unfold Sessions.get at h ⊢
  cases hfound : s.find? key with
  | none =>
    intro hlive
    obtain ⟨x, hx, rfl⟩ := List.mem_map.1 hlive
    exact List.find?_eq_none.1 hfound x hx (beq_self_eq_true x.key)
  | some x =>
    cases hidle : s.isIdle now x with
    | false => simp [hfound, hidle] at h
    | true => simpa [hidle] using Sessions.not_mem_remove

theorem ends_session_gone (r : Request) :
    Ends (fun _ _ => True) (fun _ => Gone r) d (session r) := by
  cases hkey : r.session with
  | none =>
    refine ⟨fun _ => trivial, fun _ key hshown => ?_⟩
    cases hkey.symm.trans hshown
  | some key =>
    have hgone {d' : Desk} (h : key ∉ d'.sessions.live.map (·.key)) : Gone r d' := by
      intro shown hshown
      cases hkey.symm.trans hshown
      exact h
    cases hlooked : (d.sessions.get key r.now).1 with
    | none =>
      exact ends_of_error (outcome_session_of_absent hkey hlooked)
        (hgone (not_mem_get_of_absent hlooked))
    | some caller =>
      cases hobjection : sessionObjection? d.tx key.principal r.seconds with
      | some fault =>
        exact ends_of_error (outcome_session_of_objection hkey hlooked hobjection)
          (hgone Sessions.not_mem_remove)
      | none =>
        have hfound : (session r).outcome d =
            (.ok caller, { d with sessions := (d.sessions.get key r.now).2 }) := by
          rw [outcome_session_eq hkey, hlooked]
          simp only [expect, pure_bind, outcome_get_bind, hobjection]
          rfl
        exact ends_of_ok hfound trivial

/-- A caller is found, or there is an objection to the command, or the session is gone. -/
theorem ends_identify_gone (r : Request) (c : Command) :
    Ends (fun _ _ => True) (fun halt d' => halt.Estranges → Gone r d') d (identify r c) := by
  rw [identify_eq]
  refine ends_bind (ends_objectTo (fun _ => ?_) fun fault hfault => ?_)
  · exact ⟨fun _ => trivial, fun h _ => (ends_session_gone r).error h⟩
  · rw [objectionTo?_eq_some hfault]
    exact False.elim

theorem ends_dispatch_gone (limits : PageLimits) (draw : Draw) {c : Command}
    (hneeds : needsCaller c = true) :
    Ends (fun _ _ => True) (fun halt d' => halt.Estranges → Gone r d') d
      (dispatch limits r draw c) := by
  rw [dispatch_of_needsCaller limits r draw hneeds]
  refine ends_bind ((ends_identify_gone r c).imp fun caller d₁ _ => ?_)
  refine ⟨fun _ => trivial, fun h hestranges => ?_⟩
  exact absurd hestranges ((trusts_carryOut limits draw hneeds).error h)

end Handling

namespace Service

variable {server : Service} {r : Request} {c : Command} {draws : Nat → Draw} {refusal : Refusal}

/-- However often a command is tried, it is the last attempt that its caller is told of. -/
theorem gone_run (hneeds : needsCaller c = true) (left n : Nat) (server : Service) {halt : Halt}
    (h : (Service.run r c draws left n server).1 = .error halt) (hestranges : halt.Estranges)
    {key : SessionKey} (hkey : r.session = some key) :
    key ∉ (Service.run r c draws left n server).2.2.sessions.live.map (·.key) := by
  have hattempt (n : Nat) (server : Service) (h : (server.attempt r c (draws n)).1 = .error halt) :
      key ∉ (server.attempt r c (draws n)).2.2.sessions.live.map (·.key) := by
    rw [attempt_eq] at h ⊢
    have hends : Handling.Ends _ _ (server.desk server.store.begin)
        (Handling.dispatch server.limits r (draws n) c) :=
      Handling.ends_dispatch_gone server.limits (draws n) hneeds
    intro hlive
    exact hends.error (Prod.ext h rfl) hestranges key hkey (dwindles_close _ hlive)
  induction left generalizing n server with
  | zero => exact hattempt n server h
  | succ left ih =>
    simp only [Service.run] at h ⊢
    split at h
    · rename_i hconflict
      simp only [hconflict, if_true]
      exact ih (n + 1) _ h
    · rename_i hdone
      simp only [hdone, Bool.false_eq_true, if_false]
      exact hattempt n server h

/-- **Whoever is told to log in has no session left.** -/
theorem gone_of_unauthenticated (hneeds : needsCaller c = true)
    (h : (server.execute r c draws).1.response = .refused refusal)
    (hcode : refusal.code = .authentication) {key : SessionKey} (hkey : r.session = some key) :
    key ∉ (server.execute r c draws).2.sessions.live.map (·.key) := by
  have htold := told_run r c draws (maxAttempts - 1) 0 server
  cases hrun : (Service.run r c draws (maxAttempts - 1) 0 server).1 with
  | ok reply =>
    simp only [execute, hrun, Execution.ofOutcome] at h
    cases h
  | error halt =>
    rw [hrun] at htold
    simp only [execute, hrun, Execution.ofOutcome] at h
    cases h
    exact gone_run hneeds _ 0 server hrun (Halt.estranges_of_code htold hcode) hkey

end Service

end AcctAdmin.Server
