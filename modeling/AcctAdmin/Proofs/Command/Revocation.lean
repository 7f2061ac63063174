import AcctAdmin.Proofs.Command.Rest
import AcctAdmin.Proofs.Command.RefusedLogin
import AcctAdmin.Proofs.Command.Strangers

/-!
# Revocation is final

Banning or deleting an account ends its sessions, and they never come back: a session begins by
logging in, under a key that was not there before (`key_of_execute`). So whatever is done later,
somebody who presents one of those keys is told to log in again. What becomes of that depends on
what is stored by then: as long as the account is banned its owner is told so, and once it is
deleted there is nobody of that name until somebody is given it anew.
-/

set_option autoImplicit false

namespace AcctAdmin.Server

open AcctAdmin.Protocol

/-! ## How sessions begin -/

namespace Sessions

variable {s s' s'' : Sessions} {key : SessionKey} {now : Nat}

/-- Whether no session has begun. -/
def Dwindles (s s' : Sessions) : Prop := s'.live.map (·.key) ⊆ s.live.map (·.key)

theorem Dwindles.refl (s : Sessions) : s.Dwindles s := List.Subset.refl _

theorem Dwindles.trans (h : s.Dwindles s') (h' : s'.Dwindles s'') : s.Dwindles s'' :=
  List.Subset.trans h' h

theorem dwindles_filtered (s : Sessions) (p : Session → Bool) :
    s.Dwindles { s with live := s.live.filter p } := (List.filter_sublist.map _).subset

theorem dwindles_update {f : Session → Session} (hkey : ∀ x, (f x).key = x.key) :
    s.Dwindles (s.update key f) := by
  rw [Dwindles, keys_update hkey]
  exact List.Subset.refl _

theorem dwindles_get : s.Dwindles (s.get key now).2 := by
  unfold get
  cases s.find? key with
  | none => exact .refl s
  | some x =>
    dsimp only
    split
    · exact dwindles_filtered s _
    · exact dwindles_update fun _ => rfl

theorem dwindles_revoke (s : Sessions) (principals : List AccountId) :
    s.Dwindles (s.revoke principals) := by
  induction principals generalizing s with
  | nil => exact .refl s
  | cons p rest ih => exact (dwindles_filtered s _).trans (ih _)

theorem dwindles_without (s : Sessions) (key : Option SessionKey) : s.Dwindles (s.without key) := by
  cases key with
  | none => exact .refl s
  | some key => exact dwindles_filtered s _

theorem key_of_create {other : SessionKey} {name : String} {admin : Bool}
    (h : other ∈ (s.create key name admin now).live.map (·.key)) :
    other ∈ s.live.map (·.key) ∨ other = key := by
  obtain ⟨x, hx, rfl⟩ := List.mem_map.1 h
  rcases List.mem_append.1 hx with hold | hnew
  · exact .inl (List.mem_map.2 ⟨x, (List.mem_filter.1 hold).1, rfl⟩)
  · rw [List.mem_singleton.1 hnew]
    exact .inr rfl

theorem find?_of_gone (h : key ∉ s.live.map (·.key)) : s.find? key = none := by
  refine List.find?_eq_none.2 fun x hx hkey => h (List.mem_map.2 ⟨x, hx, ?_⟩)
  simpa using hkey

/-- Nobody is found by a key that is gone, and nothing changes by looking. -/
theorem get_of_gone (h : key ∉ s.live.map (·.key)) : s.get key now = (none, s) := by
  unfold get
  rw [find?_of_gone h]

/-- A session that is found is marked used. -/
theorem live_get {x : Session} (h : (s.get key now).1 = some x) :
    (s.get key now).2.live =
      s.live.map fun y => if y.key = key then { y with lastSeen := now } else y := by
  unfold get at h ⊢
  cases hfound : s.find? key with
  | none => simp [hfound] at h
  | some y =>
    cases hidle : s.isIdle now y with
    | true => simp [hfound, hidle] at h
    | false => simp [hidle, update]

end Sessions

instance : Desk.Lasting fun d d' => d.sessions.Dwindles d'.sessions where
  trans h h' := h.trans h'
  aside {d _} h _ := by
    rw [h]
    exact .refl d.sessions
  used _ _ _ := Sessions.dwindles_get
  ended d _ := Sessions.dwindles_filtered d.sessions _

namespace Service

variable {server : Service} {r : Request} {c : Command} {draws : Nat → Draw} {key : SessionKey}

theorem dwindles_close (done : Except Halt Reply × Desk) :
    done.2.sessions.Dwindles (server.close done).sessions := by
  obtain ⟨principals, h⟩ := close_sessions server done
  rw [h]
  exact Sessions.dwindles_revoke _ principals

/-- Sessions begin by logging in only. -/
theorem dwindles_execute (hlogin : c.kind.isLogin = false) :
    server.sessions.Dwindles (server.execute r c draws).2.sessions := by
  let R (server after : Service) : Prop := server.sessions.Dwindles after.sessions
  have : Trans R R R := ⟨.trans⟩
  refine execute_induction (R := R) fun server n => ?_
  rw [attempt_eq]
  have hworked : Handling.Leads (fun d d' => d.sessions.Dwindles d'.sessions)
      (server.desk server.store.begin) (Handling.dispatch server.limits r (draws n) c) :=
    Handling.lasts_dispatch server.limits hlogin fun _ _ _ _ _ _ =>
      Sessions.dwindles_update fun _ => rfl
  exact Sessions.Dwindles.trans hworked (dwindles_close _)

/-- **A key that is there afterwards** was there before, or was drawn for a login. -/
theorem key_of_execute (h : key ∈ (server.execute r c draws).2.sessions.live.map (·.key)) :
    key ∈ server.sessions.live.map (·.key) ∨ (draws 0).session = key.session := by
  cases hlogin : c.kind.isLogin with
  | false => exact .inl (dwindles_execute hlogin h)
  | true =>
    obtain ⟨l, rfl⟩ : ∃ l, c = .login l := by
      cases c with
      | login l => exact ⟨l, rfl⟩
      | _ => cases hlogin
    rcases execute_login server r l draws with ⟨reply, d', hlogs, he⟩ | ⟨halt, d', hturns, he⟩
    · obtain ⟨account, hsessions, -⟩ := hlogs.session
      rw [he] at h
      have hcreated := dwindles_close _ h
      rw [show d'.sessions = _ from hsessions] at hcreated
      rcases Sessions.key_of_create hcreated with hold | rfl
      · exact .inl (Sessions.dwindles_without _ _ hold)
      · exact .inr rfl
    · rw [he] at h
      have hkept := dwindles_close _ h
      rw [show d'.sessions = _ from hturns.sessions] at hkept
      exact .inl hkept

/-- Whether an identifier is among those that may be given to a session. -/
def Event.Issues (id : Uuid) : Event → Prop
  | .command _ _ draws => ∃ n, (draws n).session = id
  | .sweep _ => False

/-- A key that is gone stays away. -/
theorem gone_advanceAll {events : List Event} (hgone : key ∉ server.sessions.live.map (·.key))
    (hfresh : ∀ e ∈ events, ¬ e.Issues key.session) :
    key ∉ (server.advanceAll events).sessions.live.map (·.key) := by
  induction events generalizing server with
  | nil => exact hgone
  | cons e rest ih =>
    obtain ⟨hfirst, hrest⟩ := List.forall_mem_cons.1 hfresh
    refine ih (fun h => ?_) hrest
    cases e with
    | command r c draws =>
      rcases key_of_execute h with hold | hdrawn
      · exact hgone hold
      · exact hfirst ⟨0, hdrawn⟩
    | sweep now => exact hgone (Sessions.dwindles_filtered _ _ h)

/-- Whoever presents a key that is gone is turned away, and nothing has happened. -/
theorem execute_of_gone (draws : Nat → Draw) (hgone : key ∉ server.sessions.live.map (·.key))
    (hkey : r.session = some key) (hneeds : needsCaller c = true) :
    server.execute r c draws =
      (.ofOutcome r .none
        (.error (.fault ((Handling.objectionTo? c).getD Handling.sessionExpired))), server) := by
  have hget : server.sessions.get key r.now = (none, server.sessions) :=
    Sessions.get_of_gone hgone
  have hstranger : server.sessions.Strange r := by
    intro shown hshown
    obtain rfl := Option.some.inj (hkey.symm.trans hshown)
    exact congrArg Prod.fst hget
  have hsame : server.sessions.searched r = server.sessions := by
    simp only [Sessions.searched, hkey, hget]
  rw [execute_of_stranger draws hneeds hstranger, hsame, hkey]
  cases Handling.objectionTo? c <;> rfl

end Service

/-! ## What a revocation leaves -/

namespace Handling

variable {d d' : Desk} {r : Request} {draw : Draw} {caller : Session} {limits : PageLimits}
  {c : Command} {reply : Reply} {u : AccountId}

/-- An account that is banned or deleted is there and is not the caller's own, and nothing but its
sessions is to be ended. -/
theorem revoked_ok (hrevokes : revokes? c = some u)
    (h : (carryOut limits r draw caller c).outcome d = (.ok reply, d')) :
    caller.key.principal ≠ u ∧ d'.sessions = d.sessions ∧
      d'.effects.revoked = d.effects.revoked ++ [u] ∧
      ∃ account, d.tx.account? u = some account := by
  cases c with
  | userDelete id =>
    cases hrevokes
    simp only [carryOut, userDelete, note, revoke, outcome_bind_eq_ok, outcome_admin_eq_ok,
      outcome_forbid_eq_ok, outcome_remove_eq_ok, outcome_expect_eq_ok, outcome_modify_eq_ok,
      outcome_pure_eq_ok] at h
    obtain ⟨_, _, ⟨-, rfl, rfl⟩, _, _, ⟨hother, rfl⟩, _, _, ⟨tx, s, hdelete, rfl⟩, removed, _,
      ⟨rfl, rfl⟩, _, _, rfl, _, _, rfl, rfl, rfl⟩ := h
    refine ⟨hother, rfl, rfl, ?_⟩
    cases hfound : d.tx.account? u with
    | some account => exact ⟨account, rfl⟩
    | none => simp [Transaction.delete, hfound] at hdelete
  | userBan id reason expires =>
    cases hrevokes
    simp only [carryOut, userBan, note, revoke, outcome_bind_eq_ok, outcome_admin_eq_ok,
      outcome_forbid_eq_ok, outcome_existing_eq_ok, outcome_write_eq_ok, outcome_modify_eq_ok,
      outcome_pure_eq_ok] at h
    obtain ⟨_, _, ⟨-, rfl, rfl⟩, _, _, ⟨hother, rfl⟩, _, _, ⟨-, rfl⟩, _, _, ⟨-, rfl⟩, account, _,
      ⟨hfound, rfl⟩, _, _, ⟨tx, s, -, rfl⟩, _, _, rfl, _, _, rfl, rfl, rfl⟩ := h
    exact ⟨hother, rfl, rfl, account, hfound⟩
  | _ => cases hrevokes

end Handling

namespace Service

variable {server : Service} {r : Request} {c : Command} {draws : Nat → Draw} {u : AccountId}
  {id : RequestId} {reply : Reply}

/-- **What a revocation leaves**: the sessions of one account have ended, and of the others one is
marked used, the caller's own. -/
theorem revoked (hs : server.store.AtRest) (hquiet : ∀ s, (draws 0).meanwhile s = s)
    (hrevokes : revokes? c = some u)
    (hsucceeded : (server.execute r c draws).1.response = .success id reply) :
    let after := (server.execute r c draws).2
    (∃ caller, r.session = some caller ∧ caller.principal ≠ u ∧
      after.sessions.live =
        (server.sessions.live.map fun x =>
          if x.key = caller then { x with lastSeen := r.now } else x).filter
            (·.key.principal != u)) ∧
      after.store.AtRest ∧
      after.store.table.rows = Write.replay (writesOf r (draws 0) c) server.store.table.rows ∧
      ∃ a ∈ server.store.table.rows, a.id = u := by
  rcases execute_at_rest hs hquiet r c with ⟨reply', d', hrun, he, hrest, hrows⟩ | ⟨_, _, -, he, -⟩
  · have hneeds : needsCaller c = true := by
      cases c <;> first | rfl | cases hrevokes
    rw [Handling.dispatch_of_needsCaller _ _ _ hneeds] at hrun
    obtain ⟨caller, d₁, hidentify, hdone⟩ := Handling.outcome_bind_eq_ok.1 hrun
    obtain ⟨hadmitted, rfl⟩ := Handling.identify_ok hidentify
    obtain ⟨hother, hsessions, hrevoked, account, haccount⟩ := Handling.revoked_ok hrevokes hdone
    rw [he]
    refine ⟨⟨caller.key, hadmitted.key, hother, ?_⟩, hrest, hrows, account,
      List.mem_of_find?_eq_some haccount, by simpa using List.find?_some haccount⟩
    have hlive : (server.sessions.get caller.key r.now).2.live = server.sessions.live.map _ :=
      Sessions.live_get hadmitted.live
    change (d'.sessions.revoke d'.effects.revoked).live = _
    rw [hsessions, hrevoked, ← hlive]
    rfl
  · rw [he] at hsucceeded
    cases hsucceeded

/-- Where a name is given once, whoever has it and the password is told of the ban. -/
theorem loginFault?_of_banned {a : Account} {l : Login} {ban : Ban}
    (hdistinct : Distinct server.store.table.rows) (ha : a ∈ server.store.table.rows)
    (hname : l.userName = a.name) (hpassword : a.credential.accepts l.password = true)
    (hban : a.activeBan? r.seconds = some ban)
    (hadmitted : (server.attempts.check r.host r.now).1 = .ok ()) :
    server.loginFault? r l = some (.banned ban) := by
  have hfound : server.store.begin.accountByName? l.userName = some a :=
    (find?_key_eq_some hdistinct.names).2 ⟨ha, hname.symm⟩
  simp [loginFault?, hadmitted, Handling.loginObjection?, hfound, hpassword, hban]

theorem loginFault?_of_nobody {l : Login}
    (hnobody : ∀ a ∈ server.store.table.rows, a.name ≠ l.userName)
    (hadmitted : (server.attempts.check r.host r.now).1 = .ok ()) :
    server.loginFault? r l = some Handling.rejected := by
  have hnone : server.store.begin.accountByName? l.userName = none :=
    List.find?_eq_none.2 fun a ha => by simpa using hnobody a ha
  simp [loginFault?, hadmitted, Handling.loginObjection?, hnone]

end Service

/-! ## Names -/

/-- Whether an account was created under a name. -/
def Executed.Creates (name : String) (e : Executed) : Prop :=
  ∃ new id reply, e.command = .userCreate new ∧ Text.trim new.name = name ∧
    e.execution.response = .success id reply

theorem Distinct.eq_of_name {rows : List Account} {a b : Account} (h : Distinct rows)
    (ha : a ∈ rows) (hb : b ∈ rows) (hname : a.name = b.name) : a = b := by
  have hfirst := (find?_key_eq_some h.names).2 ⟨ha, hname⟩
  have hsecond := (find?_key_eq_some h.names).2 ⟨hb, rfl⟩
  exact Option.some.inj (hfirst.symm.trans hsecond)

/-- A name that was given once is nobody's after a deletion. -/
theorem nobody_of_deleted {rows : List Account} {a : Account} (hdistinct : Distinct rows)
    (ha : a ∈ rows) : ∀ b ∈ (Write.delete a.id).rows rows, b.name ≠ a.name := by
  intro b hb hsame
  obtain ⟨hb, hid⟩ := List.mem_filter.1 hb
  obtain rfl := hdistinct.eq_of_name hb ha hsame
  simp at hid

/-- A name that is there after a command was there before, or it is that of a new account. -/
theorem name_of_replay {r : Request} {draw : Draw} {c : Command} {rows : List Account} {a : Account}
    (h : a ∈ Write.replay (writesOf r draw c) rows) :
    (∃ b ∈ rows, b.name = a.name) ∨ ∃ new, c = .userCreate new ∧ Text.trim new.name = a.name := by
  cases c with
  | userCreate new =>
    rcases List.mem_append.1 h with hold | hnew
    · exact .inl ⟨a, hold, rfl⟩
    · rw [List.mem_singleton.1 hnew]
      exact .inr ⟨new, rfl, rfl⟩
  | userDelete id => exact .inl ⟨a, (List.mem_filter.1 h).1, rfl⟩
  | userBan id reason expires =>
    obtain ⟨b, hb, rfl⟩ := List.mem_map.1 h
    exact .inl ⟨b, hb, by split <;> rfl⟩
  | userUnban id =>
    obtain ⟨b, hb, rfl⟩ := List.mem_map.1 h
    exact .inl ⟨b, hb, by split <;> rfl⟩
  | _ => exact .inl ⟨a, h, rfl⟩

namespace Service

variable {server : Service} {name : String}

/-- A name that nobody has is had by nobody until it is given to a new account. -/
theorem nobody_advanceAll {events : List Event} (hs : server.store.AtRest)
    (hquiet : ∀ e ∈ events, e.Quiet) (hnobody : ∀ a ∈ server.store.table.rows, a.name ≠ name)
    (hnever : ∀ e ∈ server.record events, ¬ e.Creates name) :
    ∀ a ∈ (server.advanceAll events).store.table.rows, a.name ≠ name := by
  induction events generalizing server with
  | nil => exact hnobody
  | cons e rest ih =>
    obtain ⟨hfirst, hrest⟩ := List.forall_mem_cons.1 hquiet
    have hnext := atRest_advance hs hfirst
    cases e with
    | sweep now => exact ih hnext hrest hnobody hnever
    | command r c draws =>
      obtain ⟨hnot, hlater⟩ := List.forall_mem_cons.1 hnever
      refine ih hnext hrest (fun a ha hname => ?_) hlater
      rcases execute_at_rest hs (hfirst 0) r c with
        ⟨reply, d', -, he, -, hrows⟩ | ⟨halt, d', -, he, hsame⟩
      · rw [advance, he, hrows] at ha
        rcases name_of_replay ha with ⟨b, hb, hsame⟩ | ⟨new, hnew, htrimmed⟩
        · exact hnobody b hb (hsame.trans hname)
        · exact hnot ⟨new, _, _, hnew, htrimmed.trans hname, by rw [he]; rfl⟩
      · rw [advance, he, hsame] at ha
        exact hnobody a ha hname

/-- **Revocation is final.** On a server that is given one command after the other, an account is
banned or deleted, and other commands follow. By no key that its sessions had will anybody be found
again: whoever presents one is told to log in, unless the command will not do anyhow, and nothing
happens. The sessions of others are as they were, but for the caller's own, which was used. Whoever
logs in to an account whose ban is active is told of that ban, as long as not too many have tried;
the ban that was given is stored. After a deletion nobody can log in under the name that the account
had until there is a new account of that name. -/
theorem revocation_is_final {σ : OpenService} {before rest : List Event} {r : Request} {c : Command}
    {draws : Nat → Draw} {u : AccountId} {id : RequestId} {reply : Reply}
    (hstart : OpenService.Begins σ)
    (hquiet : ∀ e ∈ before ++ .command r c draws :: rest, e.Quiet)
    (hrevokes : revokes? c = some u)
    (hsucceeded : ((σ.server.advanceAll before).execute r c draws).1.response = .success id reply)
    (hfresh : ∀ e ∈ rest, ∀ x ∈ (σ.server.advanceAll before).sessions.live,
      x.key.principal = u → ¬ e.Issues x.key.session) :
    let found := σ.server.advanceAll before
    let after := (found.execute r c draws).2
    let later := after.advanceAll rest
    (∀ x ∈ found.sessions.live, x.key.principal = u →
      later.sessions.find? x.key = none ∧
      ∀ r' c' draws', r'.session = some x.key → needsCaller c' = true →
        (later.execute r' c' draws').1.response = .refused (Failure.ofFault r'.requestId
          ((Handling.objectionTo? c').getD Handling.sessionExpired)).refusal ∧
        (later.execute r' c' draws').2 = later) ∧
    (∃ caller, r.session = some caller ∧ caller.principal ≠ u ∧
      after.sessions.live =
        (found.sessions.live.map fun x =>
          if x.key = caller then { x with lastSeen := r.now } else x).filter
            (·.key.principal != u)) ∧
    (∀ a ∈ later.store.table.rows, a.id = u → ∀ r' l draws' ban,
      l.userName = a.name → a.credential.accepts l.password = true →
      a.activeBan? r'.seconds = some ban → (later.attempts.check r'.host r'.now).1 = .ok () →
      (later.execute r' (.login l) draws').1.response =
        .refused (Failure.ofFault r'.requestId (.banned ban)).refusal) ∧
    (∀ reason expires, c = .userBan u reason expires →
      ∃ a ∈ after.store.table.rows, a.id = u ∧ a.ban = some ⟨Text.trim reason, expires⟩) ∧
    (c = .userDelete u → ∃ a ∈ found.store.table.rows, a.id = u ∧
      ((∀ e ∈ after.record rest, ¬ e.Creates a.name) → ∀ r' l draws', l.userName = a.name →
        (later.attempts.check r'.host r'.now).1 = .ok () →
        (later.execute r' (.login l) draws').1.response =
          .refused (Failure.ofFault r'.requestId Handling.rejected).refusal)) := by
  intro found after later
  obtain ⟨hquietBefore, hquietFrom⟩ := List.forall_mem_append.1 hquiet
  obtain ⟨hquietNow, hquietRest⟩ := List.forall_mem_cons.1 hquietFrom
  have hrest : found.store.AtRest := atRest_advanceAll hstart.atRest hquietBefore
  obtain ⟨⟨caller, hcaller, hother, hlive⟩, hafter, hrows, a, ha, rfl⟩ :=
    revoked hrest (hquietNow 0) hrevokes hsucceeded
  have hlater : later.store.AtRest := atRest_advanceAll hafter hquietRest
  refine ⟨fun x hx hprincipal => ?_, ⟨caller, hcaller, hother, hlive⟩, ?_, ?_, ?_⟩
  -- no key of the account is left by the command, and none comes back
  · have hgone : x.key ∉ after.sessions.live.map (·.key) := by
      intro hmem
      obtain ⟨y, hy, hkey⟩ := List.mem_map.1 hmem
      rw [hlive] at hy
      have hnot := (List.mem_filter.1 hy).2
      rw [hkey, hprincipal] at hnot
      simp at hnot
    have hstays : x.key ∉ later.sessions.live.map (·.key) :=
      gone_advanceAll hgone fun e he => hfresh e he x hx hprincipal
    refine ⟨Sessions.find?_of_gone hstays, fun r' c' draws' hkey hneeds => ?_⟩
    rw [execute_of_gone draws' hstays hkey hneeds]
    exact ⟨rfl, rfl⟩
  -- logging in while a ban is active
  · intro b hb _ r' l draws' ban hname hpassword hban hadmitted
    rw [execute_login_of_fault draws'
      (loginFault?_of_banned hlater.distinct hb hname hpassword hban hadmitted)]
    rfl
  -- the ban that was given
  · rintro reason expires rfl
    refine ⟨{ a with ban := some ⟨Text.trim reason, expires⟩ }, ?_, rfl, rfl⟩
    rw [hrows]
    exact List.mem_map.2 ⟨a, ha, if_pos rfl⟩
  -- logging in under the name of an account that was deleted
  · rintro rfl
    refine ⟨a, ha, rfl, fun hnever r' l draws' hname hadmitted => ?_⟩
    have hnobody : ∀ b ∈ after.store.table.rows, b.name ≠ a.name := by
      rw [hrows]
      exact nobody_of_deleted hrest.distinct ha
    have hstill := nobody_advanceAll hafter hquietRest hnobody hnever
    rw [← hname] at hstill
    rw [execute_login_of_fault draws' (loginFault?_of_nobody hstill hadmitted)]
    rfl

/-- Ada's ban is lifted, and she is banned again. -/
def adaIsBannedAgain : List Event :=
  [administratorDoes firstSession (.userUnban ada) 0,
    administratorDoes firstSession (.userBan ada "spam again" none) 0]

/-- The session that Ada had before her first ban is over, and her next login meets the second. -/
theorem ada_stays_out :
    let draws := fun _ => Draw.quiet ⟨⟨0⟩⟩ ⟨0⟩ .made
    let found := OpenService.sample.server.advanceAll adaLogsIn
    let banned := found.execute (OpenService.sampleRequest (some firstSession))
      (.userBan ada "spam" (some 100)) draws
    let later := banned.2.advanceAll adaIsBannedAgain
    found.sessions.live.map (·.key) = [firstSession, adasSession] ∧
      banned.1.response = .success default .done ∧
      (later.execute (OpenService.sampleRequest (some adasSession)) (.userGet ada)
        draws).1.response = .refused (Failure.ofFault default Handling.sessionExpired).refusal ∧
      (later.execute (OpenService.sampleRequest none) (.login ⟨"ada", "lovelace1815"⟩)
        draws).1.response =
          .refused (Failure.ofFault default (.banned ⟨"spam again", none⟩)).refusal := by
  intro draws found banned later
  have hkeys : found.sessions.live.map (·.key) = [firstSession, adasSession] := by decide +kernel
  obtain ⟨x, hx, hkey⟩ : ∃ x ∈ found.sessions.live, x.key = adasSession :=
    List.mem_map.1 (hkeys ▸ List.mem_cons_of_mem _ (List.mem_singleton_self _))
  have hsucceeded : banned.1.response = .success default .done := by decide +kernel
  have hquiet : ∀ e ∈ adaLogsIn ++ .command (OpenService.sampleRequest (some firstSession))
      (.userBan ada "spam" (some 100)) draws :: adaIsBannedAgain, e.Quiet := by
    simp [adaLogsIn, adaComes, adaIsBannedAgain, administratorDoes, Event.Quiet, Draw.quiet, draws]
  have hfresh : ∀ e ∈ adaIsBannedAgain, ∀ x ∈ found.sessions.live,
      x.key.principal = ada → ¬ e.Issues x.key.session := by
    intro e he x hx _ hissued
    have hzero : x.key.session = ⟨0⟩ := by
      simp only [adaIsBannedAgain, List.mem_cons, List.not_mem_nil, or_false] at he
      rcases he with rfl | rfl <;> exact hissued.choose_spec.symm
    have hold : x.key ∈ [firstSession, adasSession] := hkeys ▸ List.mem_map_of_mem hx
    simp only [List.mem_cons, List.not_mem_nil, or_false] at hold
    rcases hold with h | h <;> rw [h] at hzero <;> exact absurd hzero (by decide)
  have hstart : OpenService.Begins OpenService.sample := .administered ..
  obtain ⟨hgone, -, hbanned, -⟩ := revocation_is_final hstart hquiet rfl hsucceeded hfresh
  have haccount : (later.store.table.rows.find? (·.id == ada)).map (fun a =>
      (a.name, a.credential.accepts "lovelace1815", a.activeBan? 5)) =
        some ("ada", true, some ⟨"spam again", none⟩) := by decide +kernel
  obtain ⟨a, hfound, hshows⟩ := Option.map_eq_some_iff.1 haccount
  obtain ⟨hname, hshows⟩ := Prod.mk.inj hshows
  obtain ⟨hpassword, hban⟩ := Prod.mk.inj hshows
  have hid : a.id = ada := by simpa using List.find?_some hfound
  have hadmitted : (later.attempts.check "192.0.2.1" 5000).1 = .ok () := by decide +kernel
  -- Unfolded, the states are the same as written; unification would have evaluated them instead.
  dsimp only [later, banned, found] at hadmitted hfound ⊢
  refine ⟨hkeys, hsucceeded, ?_, ?_⟩
  · obtain ⟨-, hrefused⟩ := hgone x hx (congrArg SessionKey.principal hkey)
    have hpresented : (OpenService.sampleRequest (some adasSession)).session = some x.key := by
      rw [hkey]
      rfl
    exact (hrefused _ (.userGet ada) draws hpresented rfl).1
  · exact hbanned a (List.mem_of_find?_eq_some hfound) hid (OpenService.sampleRequest none)
      ⟨"ada", "lovelace1815"⟩ draws _ hname.symm hpassword hban hadmitted

end Service

end AcctAdmin.Server
