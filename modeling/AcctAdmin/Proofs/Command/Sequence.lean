import AcctAdmin.Proofs.Command.Effects
import AcctAdmin.Proofs.Command.Interleaving
import AcctAdmin.Proofs.Search.Kinds

/-!
# One command after the other

A server that is given one command at a time and sweeps now and then. A command is as many attempts
as it takes, and what every attempt keeps is kept by the command (`execute_induction`); what is no
matter of the store never loses a race and takes one attempt (`execute_of_not_conflict`).

Most commands have nothing to do with the count of login attempts, and little with the sessions:
they use or end their caller's, and a search turns a cursor in it. Any relation that bears this much
is kept by all of them (`Desk.Lasting`); those that have to find their caller say nothing of a
session besides (`Desk.Tacit`).
-/

set_option autoImplicit false

namespace AcctAdmin.Server

open AcctAdmin.Protocol

/-! ## What a command does at most -/

/-- Relations that hold of what a command finds and what it leaves as long as it goes no further
than to use its caller's session or to end it. -/
class Desk.Lasting (R : Desk → Desk → Prop) : Prop where
  trans : ∀ {d d' d''}, R d d' → R d' d'' → R d d''
  aside : ∀ {d d'}, d'.sessions = d.sessions → d'.attempts = d.attempts → R d d'
  used : ∀ d key now, R d { d with sessions := (d.sessions.get key now).2 }
  ended : ∀ d key, R d { d with sessions := (d.sessions.remove key).2 }

/-- The same, as long as nothing is said either of a session that has begun or was asked to end. -/
class Desk.Tacit (R : Desk → Desk → Prop) : Prop where
  trans : ∀ {d d' d''}, R d d' → R d' d'' → R d d''
  aside : ∀ {d d'}, d'.sessions = d.sessions → d'.attempts = d.attempts →
    d'.effects.session = d.effects.session → R d d'
  used : ∀ d key now, R d { d with sessions := (d.sessions.get key now).2 }
  ended : ∀ d key, R d { d with sessions := (d.sessions.remove key).2 }

instance (R : Desk → Desk → Prop) [Desk.Lasting R] : Desk.Tacit R where
  trans := Desk.Lasting.trans
  aside hsessions hattempts _ := Desk.Lasting.aside hsessions hattempts
  used := Desk.Lasting.used
  ended := Desk.Lasting.ended

instance (R : Desk → Desk → Prop) [Desk.Tacit R] : Std.Refl R :=
  ⟨fun _ => Desk.Tacit.aside rfl rfl rfl⟩

instance (R : Desk → Desk → Prop) [Desk.Tacit R] : Trans R R R := ⟨Desk.Tacit.trans⟩

/-- The kind of search that a command is about. -/
def searches? : Command → Option SearchKind
  | .searchBegin q => some q.kind
  | .searchTurn k _ => some k
  | _ => none

namespace Handling

variable {R : Desk → Desk → Prop} {d : Desk} {r : Request} {draw : Draw} {caller : Session}

section Tacit

variable [Desk.Tacit R]

theorem tacit_write (w : Transaction → Store → Except StorageError (Transaction × Store)) :
    Leads R d (write w) :=
  leads_write fun _ _ _ => Desk.Tacit.aside rfl rfl rfl

theorem tacit_note (time : UInt64) (owner : AccountId) (kind message : String) :
    Leads R d (note time owner kind message) :=
  leads_modify (Desk.Tacit.aside rfl rfl rfl)

theorem tacit_revoke (principal : AccountId) : Leads R d (revoke principal) :=
  leads_modify (Desk.Tacit.aside rfl rfl rfl)

theorem tacit_session (r : Request) : Leads R d (session r) := by
  refine leads_bind (leads_expect _ _) fun key d₁ _ => ?_
  refine leads_bind (leads_get_bind ?_) fun found d₂ _ => ?_
  · exact leads_set_bind (Desk.Tacit.used d₁ key r.now) (leads_pure _)
  refine leads_bind (leads_expect _ _) fun caller d₃ _ => leads_get_bind ?_
  cases sessionObjection? d₃.tx key.principal r.seconds with
  | none => exact leads_pure caller
  | some fault =>
    exact leads_bind (leads_modify (Desk.Tacit.ended d₃ key)) fun _ _ _ => leads_refuse fault

theorem tacit_identify (r : Request) (c : Command) : Leads R d (identify r c) := by
  unfold identify
  split
  · exact leads_bind (leads_forbid _ _) fun _ _ _ => tacit_session r
  · exact tacit_session r

theorem tacit_userCreate (new : NewAccount) : Leads R d (userCreate r draw caller new) := by
  refine leads_bind (leads_admin caller) fun _ _ _ => ?_
  refine leads_bind (leads_objectTo _) fun _ _ _ => ?_
  refine leads_bind (leads_hash _ (Desk.Tacit.aside rfl rfl rfl)) fun _ _ _ => ?_
  refine leads_bind (tacit_write _) fun _ _ _ => leads_bind (tacit_note ..) fun _ _ _ => ?_
  exact leads_bind (leads_modify (Desk.Tacit.aside rfl rfl rfl)) fun _ _ _ => leads_pure _

theorem tacit_userGet (id : AccountId) : Leads R d (userGet caller id) := by
  refine leads_bind (leads_forbid _ _) fun _ _ _ => ?_
  exact leads_bind (leads_existing id) fun _ _ _ => leads_pure _

theorem tacit_userDelete (id : AccountId) : Leads R d (userDelete r caller id) := by
  refine leads_bind (leads_admin caller) fun _ _ _ => ?_
  refine leads_bind (leads_forbid _ _) fun _ _ _ => ?_
  refine leads_bind (leads_remove fun _ _ _ _ => Desk.Tacit.aside rfl rfl rfl) fun _ _ _ => ?_
  refine leads_bind (leads_expect _ _) fun _ _ _ => leads_bind (tacit_note ..) fun _ _ _ => ?_
  exact leads_bind (tacit_revoke id) fun _ _ _ => leads_pure _

theorem tacit_userBan (id : AccountId) (reason : String) (expires : Option UInt64) :
    Leads R d (userBan r caller id reason expires) := by
  refine leads_bind (leads_admin caller) fun _ _ _ => ?_
  refine leads_bind (leads_forbid _ _) fun _ _ _ => leads_bind (leads_forbid _ _) fun _ _ _ => ?_
  refine leads_bind (leads_forbid _ _) fun _ _ _ => leads_bind (leads_existing id) fun _ _ _ => ?_
  refine leads_bind (tacit_write _) fun _ _ _ => leads_bind (tacit_note ..) fun _ _ _ => ?_
  exact leads_bind (tacit_revoke id) fun _ _ _ => leads_pure _

theorem tacit_userUnban (id : AccountId) : Leads R d (userUnban r caller id) := by
  refine leads_bind (leads_admin caller) fun _ _ _ => leads_bind (leads_existing id) fun _ _ _ => ?_
  refine leads_bind (tacit_write _) fun _ _ _ => ?_
  exact leads_bind (tacit_note ..) fun _ _ _ => leads_pure _

/-- Whether a relation bears that a cursor of some kind is put into a session. -/
def BearsCursor (R : Desk → Desk → Prop) (key : SessionKey) (k : SearchKind) : Prop :=
  ∀ d cursor, Leads R d (keepCursor k.slot key cursor)

variable {k : SearchKind}

theorem tacit_searchBegin (hcursor : BearsCursor R caller.key k) (q : k.Terms) (size : UInt32)
    (source : Desk → Source k.Row) : Leads R d (searchBegin caller k.slot q size source) := by
  refine leads_bind (leads_admin caller) fun _ _ _ => ?_
  refine leads_bind (hcursor _ none) fun _ _ _ => leads_get_bind ?_
  refine leads_bind (leads_ofStorage _) fun page _ _ => ?_
  exact leads_bind (hcursor _ _) fun _ _ _ => leads_pure page

theorem tacit_searchTurn (hcursor : BearsCursor R caller.key k) (name : String) (turn : Turn)
    (source : Desk → k.Terms → Source k.Row) :
    Leads R d (searchTurn caller name k.slot turn source) := by
  refine leads_bind (leads_admin caller) fun _ _ _ => ?_
  refine leads_bind (leads_expect _ _) fun cursor _ _ => leads_get_bind ?_
  exact leads_bind (hcursor _ _) fun _ _ _ => leads_ofStorage _

/-- **Whatever is tacit is kept by every command** that has to find its caller. -/
theorem tacit_carryOut (limits : PageLimits) {c : Command} (hneeds : needsCaller c = true)
    (hcursor : ∀ k, searches? c = some k → BearsCursor R caller.key k) :
    Leads R d (carryOut limits r draw caller c) := by
  cases c with
  | login l => cases hneeds
  | logout => cases hneeds
  | userCreate new => exact tacit_userCreate new
  | userGet id => exact tacit_userGet id
  | userDelete id => exact tacit_userDelete id
  | userBan id reason expires => exact tacit_userBan id reason expires
  | userUnban id => exact tacit_userUnban id
  | searchBegin query =>
    obtain ⟨q, hq⟩ := SearchKind.exists_query query
    rw [← hq, SearchKind.carryOut_searchBegin]
    exact leads_map (tacit_searchBegin (hcursor _ rfl) ..)
  | searchTurn k turn =>
    rw [SearchKind.carryOut_searchTurn]
    exact leads_map (tacit_searchTurn (hcursor k rfl) ..)

theorem tacit_dispatch (limits : PageLimits) {c : Command} (hneeds : needsCaller c = true)
    (hcursor : ∀ k key, searches? c = some k → r.session = some key → BearsCursor R key k) :
    Leads R d (dispatch limits r draw c) := by
  rw [dispatch_of_needsCaller limits r draw hneeds]
  refine leads_bind (tacit_identify r c) fun caller d₁ hrun => ?_
  exact tacit_carryOut limits hneeds fun k hk => hcursor k _ hk (identify_ok hrun).1.key

end Tacit

theorem lasts_logout [Desk.Lasting R] (r : Request) : Leads R d (logout r) := by
  refine leads_bind (leads_expect _ _) fun key d₁ _ => ?_
  refine leads_bind (leads_get_bind ?_) fun _ d₂ _ => ?_
  · exact leads_set_bind (Desk.Lasting.used d₁ key r.now) (leads_pure _)
  refine leads_bind (leads_modify (Desk.Lasting.ended d₂ key)) fun _ _ _ => ?_
  exact leads_bind (leads_modify (Desk.Lasting.aside rfl rfl)) fun _ _ _ => leads_pure _

/-- **Whatever lasts is kept by every command** but one that logs in. -/
theorem lasts_dispatch [Desk.Lasting R] (limits : PageLimits) {c : Command}
    (hlogin : c.kind.isLogin = false)
    (hcursor : ∀ k key, searches? c = some k → r.session = some key → BearsCursor R key k) :
    Leads R d (dispatch limits r draw c) := by
  cases hneeds : needsCaller c with
  | true => exact tacit_dispatch limits hneeds hcursor
  | false =>
    obtain rfl : c = .logout := by
      cases c with
      | login l => cases hlogin
      | logout => rfl
      | _ => cases hneeds
    exact lasts_logout r

end Handling

/-! ## Logging in -/

/-- The sessions without the one that a caller presents. -/
def Sessions.without (s : Sessions) : Option SessionKey → Sessions
  | none => s
  | some key => (s.remove key).2

/-- How a login ends that succeeds: another session begins in place of the caller's. -/
structure Desk.LogsIn (r : Request) (draw : Draw) (d d' : Desk) : Prop where
  verdict : (d.attempts.check r.host r.now).1 = .ok ()
  attempts : d'.attempts = (d.attempts.check r.host r.now).2
  session : ∃ account : Account,
    d'.sessions = (d.sessions.without r.session).create ⟨account.id, draw.session⟩ account.name
      account.admin r.now ∧
    d'.effects.session = some (.started ⟨account.id, draw.session⟩)
  revoked : d'.effects.revoked = d.effects.revoked

/-- How a login ends that does not: it was one too many, or somebody may not come in. -/
structure Desk.TurnsAway (r : Request) (d : Desk) (halt : Halt) (d' : Desk) : Prop where
  attempts : d'.attempts = (d.attempts.check r.host r.now).2
  limited : ∀ t, (d.attempts.check r.host r.now).1 = .error t →
    halt = .fault (.tooManyAttempts t)
  barred : (d.attempts.check r.host r.now).1 = .ok () →
    halt = .fault Handling.rejected ∨ ∃ ban, halt = .fault (.banned ban)
  sessions : d'.sessions = d.sessions

namespace Handling

variable {d : Desk} {r : Request} {draw : Draw}

theorem ends_countAttempt_eq {Q : Unit → Desk → Prop} {E : Halt → Desk → Prop}
    (hok : (d.attempts.check r.host r.now).1 = .ok () →
      Q () { d with attempts := (d.attempts.check r.host r.now).2 })
    (herror : ∀ t, (d.attempts.check r.host r.now).1 = .error t →
      E (.fault (.tooManyAttempts t)) { d with attempts := (d.attempts.check r.host r.now).2 }) :
    Ends Q E d (countAttempt r) := by
  refine ends_get_bind ?_
  generalize d.attempts.check r.host r.now = checked at *
  rcases checked with ⟨verdict, attempts⟩
  refine ends_set_bind ?_
  cases verdict with
  | error t => exact ends_refuse (herror t rfl)
  | ok u => exact ends_pure (hok rfl)

theorem outcome_beginSession (account : Account) :
    (beginSession r draw account).outcome d =
      (.ok ⟨⟩, { d with
        sessions := (d.sessions.without r.session).create ⟨account.id, draw.session⟩ account.name
          account.admin r.now
        effects := { d.effects with session := some (.started ⟨account.id, draw.session⟩) } }) := by
  unfold beginSession
  cases r.session <;> rfl

theorem ends_login_eq (l : Login) :
    Ends (fun _ => d.LogsIn r draw) (d.TurnsAway r) d (login r draw l) := by
  refine ends_bind (ends_countAttempt_eq (fun hok => ?_) fun t ht => ?_)
  · have hbarred {halt : Halt} {d' : Desk}
        (h : halt = .fault rejected ∨ ∃ ban, halt = .fault (.banned ban))
        (hd' : d' = { d with attempts := (d.attempts.check r.host r.now).2 }) :
        d.TurnsAway r halt d' := by
      subst hd'
      exact ⟨rfl, fun t ht => absurd (hok.symm.trans ht) (by simp), fun _ => h, rfl⟩
    refine ends_get_bind (ends_bind (ends_expect (fun account _ => ?_) fun _ =>
      hbarred (.inl rfl) rfl))
    refine ends_bind (ends_forbid (fun _ => ?_) fun _ => hbarred (.inl rfl) rfl)
    refine ends_bind (ends_objectTo (fun _ => ?_) fun fault hfault => ?_)
    · refine ends_bind (ends_modify (ends_bind (ends_of_ok (outcome_beginSession account) ?_)))
      exact ends_pure ⟨hok, rfl, ⟨account, rfl, rfl⟩, rfl⟩
    · obtain ⟨ban, -, rfl⟩ := Option.map_eq_some_iff.1 hfault
      exact hbarred (.inr ⟨ban, rfl⟩) rfl
  · refine ⟨rfl, fun t' ht' => ?_, fun hok => absurd (hok.symm.trans ht) (by simp), rfl⟩
    cases ht.symm.trans ht'
    rfl

end Handling

theorem Desk.TurnsAway.not_conflict {r : Request} {d d' : Desk} {halt : Halt}
    (h : d.TurnsAway r halt d') : isConflict (.error halt) = false := by
  cases hcheck : (d.attempts.check r.host r.now).1 with
  | error t => rw [h.limited t hcheck]; rfl
  | ok u =>
    rcases h.barred hcheck with rfl | ⟨ban, rfl⟩
    · rfl
    · rfl

/-! ## From an attempt to a command -/

namespace Service

variable {server : Service} {r : Request} {c : Command} {draws : Nat → Draw}

/-- What came of the work in one attempt. -/
def worked (server : Service) (r : Request) (c : Command) (draw : Draw) :
    Except Halt Reply × Desk :=
  (Handling.dispatch server.limits r draw c).outcome (server.desk server.store.begin)

theorem attempt_eq (server : Service) (r : Request) (c : Command) (draw : Draw) :
    server.attempt r c draw =
      ((server.worked r c draw).1, (server.worked r c draw).2.effects,
        server.close (server.worked r c draw)) := rfl

@[simp] theorem close_attempts (server : Service) (done : Except Halt Reply × Desk) :
    (server.close done).attempts = done.2.attempts := by
  rcases done with ⟨outcome, desk⟩
  cases outcome <;> rfl

/-- Closing an attempt may end sessions, and that is all it does to them. -/
theorem close_sessions (server : Service) (done : Except Halt Reply × Desk) :
    ∃ principals, (server.close done).sessions = done.2.sessions.revoke principals := by
  rcases done with ⟨outcome, desk⟩
  cases outcome with
  | error halt => exact ⟨[], rfl⟩
  | ok reply => exact ⟨desk.effects.revoked, rfl⟩

/-- What every attempt keeps is kept however often a command is tried. -/
theorem execute_induction {R : Service → Service → Prop} [Trans R R R]
    (hattempt : ∀ server n, R server (server.attempt r c (draws n)).2.2) :
    R server (server.execute r c draws).2 := by
  have hrun : ∀ left n server, R server (Service.run r c draws left n server).2.2 := by
    intro left
    induction left with
    | zero => exact fun n server => hattempt server n
    | succ left ih =>
      intro n server
      have hfirst := hattempt server n
      simp only [Service.run]
      split
      · exact Trans.trans hfirst (ih (n + 1) _)
      · exact hfirst
  exact hrun (maxAttempts - 1) 0 server

/-- What does not lose a race is not tried again. -/
theorem execute_of_not_conflict (h : isConflict (server.worked r c (draws 0)).1 = false) :
    server.execute r c draws =
      (.ofOutcome r (server.worked r c (draws 0)).2.effects (server.worked r c (draws 0)).1,
        server.close (server.worked r c (draws 0))) := by
  have hrun : Service.run r c draws (maxAttempts - 1) 0 server =
      server.attempt r c (draws 0) := by
    simp only [maxAttempts, Service.run, attempt_eq, h, Bool.false_eq_true, if_false]
  simp only [execute, hrun, attempt_eq]

/-- What ends in a known way and loses no race is answered after one attempt. -/
theorem execute_of_ends {Q : Reply → Desk → Prop} {E : Halt → Desk → Prop}
    (h : Handling.Ends Q E (server.desk server.store.begin)
      (Handling.dispatch server.limits r (draws 0) c))
    (hlost : ∀ halt d', E halt d' → isConflict (.error halt) = false) :
    (∃ reply d', Q reply d' ∧ server.execute r c draws =
      (.ofOutcome r d'.effects (.ok reply), server.close (.ok reply, d'))) ∨
    (∃ halt d', E halt d' ∧ server.execute r c draws =
      (.ofOutcome r d'.effects (.error halt), server.close (.error halt, d'))) := by
  have hexecute := @execute_of_not_conflict server r c draws
  cases hworked : server.worked r c (draws 0) with
  | mk outcome d' =>
    rw [hworked] at hexecute
    cases outcome with
    | ok reply => exact .inl ⟨reply, d', h.ok hworked, hexecute rfl⟩
    | error halt =>
      have hend := h.error hworked
      exact .inr ⟨halt, d', hend, hexecute (hlost halt d' hend)⟩

/-- A login is answered after one attempt. -/
theorem execute_login (server : Service) (r : Request) (l : Login) (draws : Nat → Draw) :
    (∃ reply d', (server.desk server.store.begin).LogsIn r (draws 0) d' ∧
      server.execute r (.login l) draws =
        (.ofOutcome r d'.effects (.ok reply), server.close (.ok reply, d'))) ∨
    (∃ halt d', (server.desk server.store.begin).TurnsAway r halt d' ∧
      server.execute r (.login l) draws =
        (.ofOutcome r d'.effects (.error halt), server.close (.error halt, d'))) :=
  execute_of_ends (Handling.ends_login_eq l) fun _ _ h => h.not_conflict

/-! ## Runs -/

/-- What happens to a server that is given one command at a time. -/
inductive Event where
  | command (r : Request) (c : Command) (draws : Nat → Draw)
  | sweep (now : Nat)

def Event.time : Event → Nat
  | .command r _ _ => r.now
  | .sweep now => now

def advance (server : Service) : Event → Service
  | .command r c draws => (server.execute r c draws).2
  | .sweep now => (server.sweep now).2

def advanceAll (server : Service) (events : List Event) : Service := events.foldl advance server

@[simp] theorem advanceAll_cons (server : Service) (e : Event) (rest : List Event) :
    server.advanceAll (e :: rest) = (server.advance e).advanceAll rest := rfl

/-! ## Runs to try things on -/

def firstSession : SessionKey := ⟨OpenService.sampleAdmin, ⟨11⟩⟩

def secondSession : SessionKey := ⟨OpenService.sampleAdmin, ⟨12⟩⟩

/-- What the administrator does who has logged in twice. -/
def administratorDoes (session : Option SessionKey) (c : Command) (fresh : Nat) : Event :=
  .command (OpenService.sampleRequest session) c fun _ => .quiet ⟨⟨fresh⟩⟩ ⟨fresh⟩ .made

def ada : AccountId := ⟨⟨2⟩⟩

def adasSession : SessionKey := ⟨ada, ⟨12⟩⟩

/-- Ada is given an account. -/
def adaComes : List Event :=
  [administratorDoes none (.login ⟨"root", "correct horse"⟩) 11,
    administratorDoes firstSession
      (.userCreate ⟨"ada", "ada@example.org", "Ada", "lovelace1815", false⟩) 2]

def adaLogsIn : List Event :=
  adaComes ++ [administratorDoes none (.login ⟨"ada", "lovelace1815"⟩) 12]

end Service

end AcctAdmin.Server
