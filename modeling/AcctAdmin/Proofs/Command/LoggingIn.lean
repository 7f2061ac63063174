import AcctAdmin.Proofs.Command.RefusedLogin
import AcctAdmin.Proofs.Command.Strangers

/-!
# Logging in and out

A login that nothing is wrong with (`Service.loginFault?`) begins a session of its account in place
of the one that its caller shows, and says so; it leaves a note, and that is all. Every other login
is refused, so that whoever is told of a session has one. Logging out ends the session that is shown
and says so, be it live or not.
-/

set_option autoImplicit false

namespace AcctAdmin.Server

open AcctAdmin.Protocol

/-- What is remembered of a login. -/
def loginNote (r : Request) (account : Account) : AuditNote :=
  ⟨r.seconds, account.id, "LOGIN", account.name ++ " logged in from " ++ r.host⟩

/-- Whether an account may log in so: name and password are its own, and it is not banned. -/
structure Enters (a : Account) (l : Login) (now : UInt64) : Prop where
  name : a.name = l.userName
  password : a.credential.accepts l.password = true
  unbanned : a.activeBan? now = none

namespace Handling

variable {d : Desk} {r : Request} {l : Login}

theorem loginObjection?_eq_none {tx : Transaction} {now : UInt64}
    (h : loginObjection? tx l now = none) :
    ∃ account, tx.accountByName? l.userName = some account ∧ Enters account l now := by
  unfold loginObjection? at h
  cases hfound : tx.accountByName? l.userName with
  | none => simp [hfound] at h
  | some account =>
    simp only [hfound] at h
    cases haccepts : account.credential.accepts l.password with
    | false => simp [haccepts] at h
    | true =>
      have hban : account.activeBan? now = none := by simpa [haccepts] using h
      have hname : account.name = l.userName := by simpa using List.find?_some hfound
      exact ⟨account, rfl, hname, haccepts, hban⟩

theorem outcome_login_of_accepted (draw : Draw) {account : Account}
    (hadmitted : (d.attempts.check r.host r.now).1 = .ok ())
    (hfound : d.tx.accountByName? l.userName = some account)
    (henters : Enters account l r.seconds) :
    (login r draw l).outcome d =
      (.ok (.loginOk account.summary), { d with
        attempts := (d.attempts.check r.host r.now).2
        tx := d.tx.note (loginNote r account)
        sessions := (d.sessions.without r.session).create ⟨account.id, draw.session⟩ account.name
          account.admin r.now
        effects := { d.effects with session := some (.started ⟨account.id, draw.session⟩) } }) := by
  unfold login
  rw [outcome_bind, outcome_countAttempt_eq, hadmitted]
  have hpassword : ¬ account.credential.accepts l.password = false := by
    simp [henters.password]
  simp only [Except.mapError, outcome_get_bind, hfound, expect, pure_bind, forbid,
    if_neg hpassword, henters.unbanned, Option.map_none, objectTo]
  rw [outcome_bind, note, outcome_modify]
  dsimp only
  rw [outcome_bind, outcome_beginSession]
  rfl

theorem outcome_logout_of_stranger (hkey : r.session = none) :
    (logout r).outcome d = (.error (.fault notLoggedIn), d) := by
  unfold logout
  rw [hkey]
  exact outcome_refuse_bind notLoggedIn d

theorem outcome_logout_of_key {key : SessionKey} (hkey : r.session = some key) :
    (logout r).outcome d =
      (.ok .done, { d with
        sessions := ((d.sessions.get key r.now).2.remove key).2
        effects := { d.effects with session := some .ended } }) := by
  unfold logout
  rw [hkey]
  rfl

end Handling

namespace Service

variable {server : Service} {r : Request} {l : Login} {draws : Nat → Draw}

/-- The server after a login of an account: a session has begun and a note was left. -/
def enteredBy (server : Service) (r : Request) (draws : Nat → Draw) (account : Account) : Service :=
  { server with
    store := (server.store.begin.note (loginNote r account)).commit server.store
    sessions := (server.sessions.without r.session).create ⟨account.id, (draws 0).session⟩
      account.name account.admin r.now
    attempts := (server.attempts.check r.host r.now).2 }

/-- **A login that nothing is wrong with** begins a session. -/
theorem execute_login_of_accepted (draws : Nat → Draw) (h : server.loginFault? r l = none) :
    ∃ account ∈ server.store.table.rows, Enters account l r.seconds ∧
      server.execute r (.login l) draws =
        (.ofOutcome r
          { Effects.none with session := some (.started ⟨account.id, (draws 0).session⟩) }
          (.ok (.loginOk account.summary)),
          server.enteredBy r draws account) := by
  unfold loginFault? at h
  cases hcheck : (server.attempts.check r.host r.now).1 with
  | error t => simp [hcheck] at h
  | ok u =>
    rw [hcheck] at h
    obtain ⟨account, hfound, henters⟩ := Handling.loginObjection?_eq_none h
    have hrun : (Handling.dispatch server.limits r (draws 0) (.login l)).outcome
        (server.desk server.store.begin) = _ :=
      Handling.outcome_login_of_accepted (d := server.desk server.store.begin) (draws 0) hcheck
        hfound henters
    rw [execute_of_outcome hrun rfl]
    exact ⟨account, List.mem_of_find?_eq_some hfound, henters, rfl⟩

/-- Only a login that nothing is wrong with succeeds. -/
theorem loginFault?_of_success {id : RequestId} {reply : Reply}
    (h : (server.execute r (.login l) draws).1.response = .success id reply) :
    server.loginFault? r l = none := by
  cases hfault : server.loginFault? r l with
  | none => rfl
  | some fault =>
    rw [execute_login_of_fault draws hfault] at h
    cases h

/-- Whoever shows a session is told that it is over. -/
theorem response_logout_of_key {key : SessionKey} (hkey : r.session = some key) :
    (server.execute r .logout draws).1.response = .success r.requestId .done := by
  have hrun : (Handling.dispatch server.limits r (draws 0) .logout).outcome
      (server.desk server.store.begin) = _ := Handling.outcome_logout_of_key hkey
  rw [execute_of_outcome hrun rfl]
  rfl

/-- The session that a login begins is found from then on until it has gone unused for too long. -/
theorem get_of_create (s : Sessions) (key : SessionKey) (name : String) (admin : Bool) (now : Nat)
    {later : Nat} (hlater : later - now < s.idleTimeout) :
    ((s.create key name admin now).get key later).1 = some ⟨key, name, admin, .none, later⟩ := by
  have hfound : (s.create key name admin now).find? key = some ⟨key, name, admin, .none, now⟩ := by
    unfold Sessions.find? Sessions.create
    rw [List.find?_append, List.find?_eq_none.2]
    · simp
    · intro x hx
      simpa using (List.mem_filter.1 hx).2
  have hidle : (s.create key name admin now).isIdle later ⟨key, name, admin, .none, now⟩ = false :=
    decide_eq_false (Nat.not_le.2 hlater)
  simp [Sessions.get, hfound, hidle]

end Service

end AcctAdmin.Server
