import AcctAdmin.Proofs.Command.Sequence

/-!
# Who is asking

What comes of looking for a caller: a session that is live and whose account may use it, or one of a
few refusals. Only one command is refused before anybody looks (`objectionTo?`). Whoever is turned
away leaves nothing behind but what was done to the session that they presented.
-/

set_option autoImplicit false

namespace AcctAdmin.Server

open AcctAdmin.Protocol AcctAdmin.Text

namespace Handling

def sessionExpired : Fault := .authentication "session expired"

def emptySearch : Fault := .validity "email query must not be empty" (some "email")

/-- What is wrong with a command, whoever gives it. -/
def objectionTo? : Command → Option Fault
  | .searchBegin (.accountsByEmail q) => if isAllBlank q.email then some emptySearch else none
  | _ => none

variable {d : Desk} {r : Request} {c : Command} {draw : Draw}

theorem identify_eq (r : Request) (c : Command) :
    identify r c = objectTo (objectionTo? c) >>= fun _ => session r := by
  cases c with
  | searchBegin query =>
    cases query with
    | accountsByEmail q =>
      simp only [identify, objectionTo?, forbid]
      cases isAllBlank q.email <;> rfl
    | _ => rfl
  | _ => rfl

theorem objectionTo?_eq_some {fault : Fault} (h : objectionTo? c = some fault) :
    fault = emptySearch := by
  unfold objectionTo? at h
  split at h
  · split at h
    · exact (Option.some.inj h).symm
    · cases h
  · cases h

/-- Nobody is looked for if the command will not do. -/
theorem outcome_identify_of_objection {fault : Fault} (h : objectionTo? c = some fault) :
    (identify r c).outcome d = (.error (.fault fault), d) := by
  rw [identify_eq, h]
  exact outcome_refuse_bind fault d

theorem outcome_identify (h : objectionTo? c = none) :
    (identify r c).outcome d = (session r).outcome d := by
  rw [identify_eq, h]
  rfl

/-- What is asked for by somebody who may ask is carried out for them. -/
theorem outcome_dispatch_of_admitted {caller : Session} (limits : PageLimits) (draw : Draw)
    (hneeds : needsCaller c = true) (hfilled : objectionTo? c = none)
    (hadmitted : Admitted r d.sessions d.tx.table.rows caller) :
    (dispatch limits r draw c).outcome d =
      (carryOut limits r draw caller c).outcome
        { d with sessions := (d.sessions.get caller.key r.now).2 } := by
  rw [dispatch_of_needsCaller limits r draw hneeds, outcome_bind, outcome_identify hfilled,
    session_of_admitted hadmitted]

section Presented

variable {key : SessionKey} (hkey : r.session = some key)

include hkey

theorem outcome_session_eq :
    (session r).outcome d =
      (expect sessionExpired (d.sessions.get key r.now).1 >>= fun caller => do
        let desk ← get
        match sessionObjection? desk.tx key.principal r.seconds with
        | some fault =>
          endSession key
          refuse fault
        | none => pure caller : Handling Session).outcome
        { d with sessions := (d.sessions.get key r.now).2 } := by
  unfold session
  rw [hkey]
  rfl

theorem outcome_session_of_absent (h : (d.sessions.get key r.now).1 = none) :
    (session r).outcome d =
      (.error (.fault sessionExpired), { d with sessions := (d.sessions.get key r.now).2 }) := by
  rw [outcome_session_eq hkey, h]
  rfl

/-- A session ends if its account may not use it. -/
theorem outcome_session_of_objection {caller : Session} {fault : Fault}
    (h : (d.sessions.get key r.now).1 = some caller)
    (hfault : sessionObjection? d.tx key.principal r.seconds = some fault) :
    (session r).outcome d =
      (.error (.fault fault),
        { d with sessions := ((d.sessions.get key r.now).2.remove key).2 }) := by
  simp only [outcome_session_eq hkey, h, expect, pure_bind, outcome_get_bind, hfault]
  rfl

end Presented

end Handling

namespace Service

variable {server : Service} {r : Request} {c : Command} {draws : Nat → Draw}

/-- A command is answered after one attempt if it is known what comes of it, and that is no lost
race. -/
theorem execute_of_outcome {outcome : Except Halt Reply} {desk : Desk}
    (h : (Handling.dispatch server.limits r (draws 0) c).outcome
      (server.desk server.store.begin) = (outcome, desk)) (hlost : isConflict outcome = false) :
    server.execute r c draws =
      (.ofOutcome r desk.effects outcome, server.close (outcome, desk)) := by
  have hworked : server.worked r c (draws 0) = (outcome, desk) := h
  rw [execute_of_not_conflict (by rw [hworked]; exact hlost), hworked]

section Untouched

variable {desk : Desk} (hstore : desk.store = server.store) (htx : desk.tx = server.store.begin)

include hstore htx

/-- Where nothing was written, a failure leaves what was done to sessions and attempts. -/
theorem close_error_of_begin (halt : Halt) :
    server.close (.error halt, desk) =
      { server with sessions := desk.sessions, attempts := desk.attempts } := by
  simp [close, abandon, hstore, htx, Transaction.drop, Store.begin]

/-- A transaction that did nothing leaves no trace in the store. -/
theorem store_close_of_begin (outcome : Except Halt Reply) :
    (server.close (outcome, desk)).store = server.store := by
  cases outcome with
  | ok reply =>
    change desk.tx.commit desk.store = server.store
    rw [hstore, htx]
    rfl
  | error halt => rw [close_error_of_begin hstore htx]

end Untouched

end Service

end AcctAdmin.Server
