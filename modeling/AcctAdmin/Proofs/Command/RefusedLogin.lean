import AcctAdmin.Proofs.Command.Caller

/-!
# Logins that are refused

A login is refused because it is one too many, because its name and its password do not belong
together, or because its account is banned (`Service.loginFault?`), and then nothing has changed but
the count of attempts. That an account is banned is told only to somebody who has the password, so
that nobody else learns which accounts there are.
-/

set_option autoImplicit false

namespace AcctAdmin.Server

open AcctAdmin.Protocol

namespace Handling

variable {d : Desk} {r : Request} {l : Login} {fault : Fault}

/-- What is wrong with a login that is not one too many. -/
def loginObjection? (tx : Transaction) (l : Login) (now : UInt64) : Option Fault :=
  match tx.accountByName? l.userName with
  | none => some rejected
  | some account =>
    if account.credential.accepts l.password then (account.activeBan? now).map .banned
    else some rejected

theorem outcome_countAttempt_eq (r : Request) (d : Desk) :
    (countAttempt r).outcome d =
      ((d.attempts.check r.host r.now).1.mapError fun t => .fault (.tooManyAttempts t),
        { d with attempts := (d.attempts.check r.host r.now).2 }) := by
  unfold countAttempt
  rw [outcome_get_bind]
  generalize d.attempts.check r.host r.now = checked
  rcases checked with ⟨verdict, attempts⟩
  cases verdict <;> rfl

theorem outcome_login_of_limited (draw : Draw) (l : Login) {t : TooManyAttempts}
    (h : (d.attempts.check r.host r.now).1 = .error t) :
    (login r draw l).outcome d = (.error (.fault (.tooManyAttempts t)),
      { d with attempts := (d.attempts.check r.host r.now).2 }) := by
  unfold login
  rw [outcome_bind, outcome_countAttempt_eq, h]
  rfl

theorem outcome_login_of_objection (draw : Draw) (h : (d.attempts.check r.host r.now).1 = .ok ())
    (hfault : loginObjection? d.tx l r.seconds = some fault) :
    (login r draw l).outcome d =
      (.error (.fault fault), { d with attempts := (d.attempts.check r.host r.now).2 }) := by
  unfold login
  rw [outcome_bind, outcome_countAttempt_eq, h]
  simp only [Except.mapError, outcome_get_bind]
  unfold loginObjection? at hfault
  cases hfound : d.tx.accountByName? l.userName with
  | none =>
    rw [hfound] at hfault
    cases hfault
    rfl
  | some account =>
    simp only [hfound] at hfault
    cases haccepts : account.credential.accepts l.password with
    | false =>
      simp only [haccepts, Bool.false_eq_true, if_false] at hfault
      cases hfault
      simp [expect, forbid, haccepts]
    | true =>
      simp only [haccepts, if_true] at hfault
      simp [expect, forbid, haccepts, hfault, objectTo]

end Handling

namespace Service

variable {server : Service} {r : Request} {l : Login} {fault : Fault}

/-- Why a login is refused, if it is. -/
def loginFault? (server : Service) (r : Request) (l : Login) : Option Fault :=
  match (server.attempts.check r.host r.now).1 with
  | .error t => some (.tooManyAttempts t)
  | .ok () => Handling.loginObjection? server.store.begin l r.seconds

/-- A login that is refused changes nothing but the count of attempts. -/
theorem execute_login_of_fault (draws : Nat → Draw) (h : server.loginFault? r l = some fault) :
    server.execute r (.login l) draws =
      (.ofOutcome r .none (.error (.fault fault)),
        { server with attempts := (server.attempts.check r.host r.now).2 }) := by
  have hlogin : (Handling.login r (draws 0) l).outcome (server.desk server.store.begin) =
      (.error (.fault fault), { server.desk server.store.begin with
        attempts := (server.attempts.check r.host r.now).2 }) := by
    unfold loginFault? at h
    cases hcheck : (server.attempts.check r.host r.now).1 with
    | error t =>
      rw [hcheck] at h
      cases h
      exact Handling.outcome_login_of_limited (draws 0) l hcheck
    | ok u =>
      rw [hcheck] at h
      exact Handling.outcome_login_of_objection (draws 0) hcheck h
  have hrun : (Handling.dispatch server.limits r (draws 0) (.login l)).outcome
      (server.desk server.store.begin) = _ := hlogin
  rw [execute_of_outcome hrun ((Handling.ends_login_eq l).error hlogin).not_conflict,
    close_error_of_begin rfl rfl]
  rfl

/-- Whether a login shows no account's password: there is no account of that name, or it has
another password. -/
def Rejects (server : Service) (l : Login) : Prop :=
  ∀ account, server.store.begin.accountByName? l.userName = some account →
    account.credential.accepts l.password = false

theorem loginFault?_of_rejects (h : server.Rejects l) :
    server.loginFault? r l = some (match (server.attempts.check r.host r.now).1 with
      | .error t => .tooManyAttempts t
      | .ok () => Handling.rejected) := by
  unfold loginFault? Handling.loginObjection?
  cases (server.attempts.check r.host r.now).1 with
  | error t => rfl
  | ok u =>
    cases hfound : server.store.begin.accountByName? l.userName with
    | none => rfl
    | some account => simp [h account hfound]

/-- **A login that is refused tells nothing of accounts.** Two servers that have counted the same
attempts answer a login in the same way if its password is right for neither, whatever accounts
they have, whether there is one of that name, and whether it is banned: they say that it was one too
many, or that name and password do not belong together. Nothing is changed on either but the count
of attempts, which is the same again. -/
theorem refused_login_tells_nothing {one other : Service} {draws draws' : Nat → Draw}
    (hattempts : one.attempts = other.attempts) (hone : one.Rejects l) (hother : other.Rejects l) :
    let attempts := (one.attempts.check r.host r.now).2
    (one.execute r (.login l) draws).1 = (other.execute r (.login l) draws').1 ∧
      (∃ fault, (one.execute r (.login l) draws).1.response =
          .refused (Failure.ofFault r.requestId fault).refusal ∧
        (fault = Handling.rejected ∨ ∃ t, fault = .tooManyAttempts t)) ∧
      (one.execute r (.login l) draws).1.session = none ∧
      (one.execute r (.login l) draws).2 = { one with attempts := attempts } ∧
      (other.execute r (.login l) draws').2 = { other with attempts := attempts } := by
  rw [execute_login_of_fault draws (loginFault?_of_rejects hone),
    execute_login_of_fault draws' (loginFault?_of_rejects hother), ← hattempts]
  refine ⟨rfl, ⟨_, rfl, ?_⟩, rfl, rfl, rfl⟩
  cases (one.attempts.check r.host r.now).1 with
  | error t => exact .inr ⟨t, rfl⟩
  | ok u => exact .inl rfl

def adaIsBanned : List Event :=
  adaComes ++ [administratorDoes firstSession (.userBan ada "gone for good" none) 0]

/-- Somebody who guesses at a password does not learn that there is an account of that name, let
alone that it is banned. -/
theorem guessing_is_in_vain :
    let one := OpenService.sample.server
    let other := { one with store := (one.advanceAll adaIsBanned).store }
    let r := OpenService.sampleRequest none
    let draws := fun _ => Draw.quiet default default .made
    one.store.begin.accountByName? "ada" = none ∧
      (other.store.begin.accountByName? "ada").map (·.ban.isSome) = some true ∧
      (one.execute r (.login ⟨"ada", "lovelace"⟩) draws).1 =
        (other.execute r (.login ⟨"ada", "lovelace"⟩) draws).1 := by
  intro one other r draws
  have hnobody : one.store.begin.accountByName? "ada" = none := by decide +kernel
  have hbanned : (other.store.begin.accountByName? "ada").map (·.ban.isSome) = some true := by
    decide +kernel
  have hcredential : (other.store.begin.accountByName? "ada").map (·.credential) =
      some (.ofPassword "lovelace1815") := by decide +kernel
  have hone : one.Rejects ⟨"ada", "lovelace"⟩ := by
    intro account haccount
    rw [hnobody] at haccount
    cases haccount
  have hother : other.Rejects ⟨"ada", "lovelace"⟩ := by
    intro account haccount
    rw [haccount] at hcredential
    have hpassword : account.credential = .ofPassword "lovelace1815" := Option.some.inj hcredential
    rw [hpassword]
    decide
  obtain ⟨hsame, -⟩ := @refused_login_tells_nothing r ⟨"ada", "lovelace"⟩ one other draws draws rfl
    hone hother
  exact ⟨hnobody, hbanned, hsame⟩

end Service

end AcctAdmin.Server
