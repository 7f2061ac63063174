import AcctAdmin.Proofs.Command.Handling
import AcctAdmin.Proofs.Transaction.Write

/-!
# What a command leaves alone

Working on a command changes nothing that is committed; it may take the writer's place. Of the
sessions, it may end some and use or turn some, and only logging in adds one, which belongs to an
account that the transaction sees. This holds however the command ends.
-/

set_option autoImplicit false

namespace AcctAdmin.Server

open AcctAdmin.Protocol

/-! ## Writes -/

/-- A write that is made leaves what is committed alone, makes of the accounts that the transaction
sees what it is to make of them, and takes the writer's place for its own transaction only. -/
theorem Write.attempt_ok {w : Write} {tx tx' : Transaction} {s s' : Store}
    (h : w.attempt tx s = .ok (tx', s')) :
    s' = { s with writing := s'.writing } ∧ tx'.table.rows = w.rows tx.table.rows ∧
      ((s.writing = true → tx.writing = true) → s'.writing = true → tx'.writing = true) := by
  cases heffect : w.hasEffect tx with
  | true =>
    rw [attempt_eq_modify s heffect] at h
    obtain ⟨held, hplace, rfl⟩ := Transaction.modify_ok h
    rcases Transaction.takePlace_ok hplace with ⟨-, rfl, rfl⟩ | ⟨-, -, -, rfl, rfl⟩
    · exact ⟨rfl, rfl, fun hplace => hplace⟩
    · exact ⟨rfl, rfl, fun _ _ => rfl⟩
  | false =>
    rcases attempt_of_not_hasEffect (s := s) heffect with hok | ⟨e, herror⟩
    · obtain ⟨rfl, rfl⟩ := Prod.mk.inj (Except.ok.inj (hok.symm.trans h))
      refine ⟨rfl, ?_, fun hplace => hplace⟩
      cases w with
      | insert new =>
        obtain ⟨e, he⟩ : ∃ e, Transaction.duplicate? new tx.table.rows = some e :=
          Option.isSome_iff_exists.1 (by simpa [hasEffect] using heffect)
        simp [attempt, Transaction.insert, he] at h
      | delete id =>
        have hgone : ∀ a ∈ tx.table.rows, a.id ≠ id := by
          simpa [hasEffect, Transaction.account?] using heffect
        exact (List.filter_eq_self.2 fun a ha => by simpa using hgone a ha).symm
      | setBan id ban =>
        have hgone : tx.account? id = none := by simpa [hasEffect] using heffect
        simp [attempt, Transaction.setBan, hgone] at h
    · rw [herror] at h
      exact absurd h (by simp)

/-- A write adds no notes. -/
theorem Write.attempt_notes {w : Write} {tx tx' : Transaction} {s s' : Store}
    (h : w.attempt tx s = .ok (tx', s')) : tx'.notes = tx.notes := by
  cases heffect : w.hasEffect tx with
  | true =>
    rw [attempt_eq_modify s heffect] at h
    obtain ⟨htx, -⟩ := Transaction.modify_frame h
    rw [htx]
  | false =>
    rcases attempt_of_not_hasEffect (s := s) heffect with hok | ⟨e, herror⟩
    · rw [hok] at h
      cases h
      rfl
    · rw [herror] at h
      cases h

/-! ## Sessions -/

namespace Sessions

variable {rows : List Account} {s s' s'' : Sessions}

/-- Every session of `s'` was there before, for the same account and with the same rights, or it
belongs to one of some accounts and has its rights. -/
def Follows (rows : List Account) (s s' : Sessions) : Prop :=
  ∀ x ∈ s'.live,
    (∃ y ∈ s.live, y.key.principal = x.key.principal ∧ y.admin = x.admin) ∨
    (∃ a ∈ rows, a.id = x.key.principal ∧ a.admin = x.admin)

theorem Follows.refl (rows : List Account) (s : Sessions) : s.Follows rows s :=
  fun x hx => .inl ⟨x, hx, rfl, rfl⟩

theorem Follows.trans (h : s.Follows rows s') (h' : s'.Follows rows s'') :
    s.Follows rows s'' := by
  intro x hx
  rcases h' x hx with ⟨y, hy, hprincipal, hadmin⟩ | hrow
  · rcases h y hy with ⟨z, hz, hprincipal', hadmin'⟩ | ⟨a, ha, hid, hadmin'⟩
    · exact .inl ⟨z, hz, hprincipal'.trans hprincipal, hadmin'.trans hadmin⟩
    · exact .inr ⟨a, ha, hid.trans hprincipal, hadmin'.trans hadmin⟩
  · exact .inr hrow

theorem follows_of_subset (h : s'.live ⊆ s.live) : s.Follows rows s' :=
  fun x hx => .inl ⟨x, h hx, rfl, rfl⟩

theorem follows_remove (s : Sessions) (key : SessionKey) : s.Follows rows (s.remove key).2 :=
  follows_of_subset List.filter_sublist.subset

theorem follows_removePrincipal (s : Sessions) (principal : AccountId) :
    s.Follows rows (s.removePrincipal principal).2 :=
  follows_of_subset List.filter_sublist.subset

theorem follows_sweep (s : Sessions) (now : Nat) (inUse : SessionKey → Bool) :
    s.Follows rows (s.sweep now inUse).2 :=
  follows_of_subset List.filter_sublist.subset

theorem follows_revoke (s : Sessions) (principals : List AccountId) :
    s.Follows rows (s.revoke principals) := by
  induction principals generalizing s with
  | nil => exact .refl rows s
  | cons p rest ih => exact (follows_removePrincipal s p).trans (ih _)

theorem follows_update {f : Session → Session} (s : Sessions) (key : SessionKey)
    (hkey : ∀ x, (f x).key = x.key) (hadmin : ∀ x, (f x).admin = x.admin) :
    s.Follows rows (s.update key f) := by
  intro x hx
  obtain ⟨y, hy, rfl⟩ := List.mem_map.1 hx
  refine .inl ⟨y, hy, ?_⟩
  split
  · rw [hkey, hadmin]
    exact ⟨rfl, rfl⟩
  · exact ⟨rfl, rfl⟩

theorem follows_get (s : Sessions) (key : SessionKey) (now : Nat) :
    s.Follows rows (s.get key now).2 := by
  unfold get
  split
  · exact .refl rows s
  · split
    · exact follows_remove s key
    · exact follows_update s key (fun _ => rfl) fun _ => rfl

theorem follows_create {a : Account} (s : Sessions) (ha : a ∈ rows) (session : Uuid)
    (now : Nat) : s.Follows rows (s.create ⟨a.id, session⟩ a.name a.admin now) := by
  intro x hx
  rcases List.mem_append.1 hx with hold | hnew
  · exact .inl ⟨x, List.filter_sublist.subset hold, rfl, rfl⟩
  · rw [List.mem_singleton.1 hnew]
    exact .inr ⟨a, ha, rfl, rfl⟩

/-- What a lookup gives is the session of that key, marked used, unless it had gone unused for too
long. -/
theorem get_eq_some {key : SessionKey} {now : Nat} {x : Session}
    (h : (s.get key now).1 = some x) :
    ∃ y ∈ s.live, s.isIdle now y = false ∧ y.key = key ∧ x = { y with lastSeen := now } := by
  unfold get at h
  split at h
  · exact absurd h (by simp)
  · rename_i y hfound
    split at h
    · exact absurd h (by simp)
    · rename_i hfresh
      refine ⟨y, List.mem_of_find?_eq_some hfound, by simpa using hfresh, ?_, ?_⟩
      · simpa using List.find?_some hfound
      · exact (Option.some.inj h).symm

end Sessions

/-! ## Commands -/

/-- What every command keeps while it is worked on, in a transaction that sees some accounts. -/
structure Desk.Follows (rows : List Account) (d d' : Desk) : Prop where
  store : d'.store = { d.store with writing := d'.store.writing }
  /-- The writer's place is not taken for anybody else. -/
  place : (d.store.writing = true → d.tx.writing = true) →
    d'.store.writing = true → d'.tx.writing = true
  sessions : d.sessions.Follows rows d'.sessions

/-- What a command keeps that changes no accounts: it does not touch the store, and of its
transaction only the notes change. -/
structure Desk.Reads (rows : List Account) (d d' : Desk) : Prop where
  store : d'.store = d.store
  tx : d'.tx = { d.tx with notes := d'.tx.notes }
  sessions : d.sessions.Follows rows d'.sessions

namespace Desk

variable {rows : List Account} {d d' : Desk}

instance : Std.Refl (Follows rows) := ⟨fun d => ⟨rfl, fun hplace => hplace, .refl rows d.sessions⟩⟩

instance : Trans (Follows rows) (Follows rows) (Follows rows) where
  trans h h' :=
    ⟨by rw [h'.store, h.store], fun hplace => h'.place (h.place hplace),
      h.sessions.trans h'.sessions⟩

instance : Std.Refl (Reads rows) := ⟨fun d => ⟨rfl, rfl, .refl rows d.sessions⟩⟩

instance : Trans (Reads rows) (Reads rows) (Reads rows) where
  trans h h' := ⟨h'.store.trans h.store, by rw [h'.tx, h.tx], h.sessions.trans h'.sessions⟩

theorem Reads.follows (h : Reads rows d d') : Follows rows d d' where
  store := by rw [h.store]
  place hplace := by
    rw [h.store, h.tx]
    exact hplace
  sessions := h.sessions

theorem Follows.committed (h : Follows rows d d') : d'.store.table = d.store.table := by
  rw [h.store]

theorem Reads.table (h : Reads rows d d') : d'.tx.table = d.tx.table := by
  rw [h.tx]

theorem reads_of_eq (hstore : d'.store = d.store)
    (htx : d'.tx = { d.tx with notes := d'.tx.notes }) (hsessions : d'.sessions = d.sessions) :
    Reads rows d d' :=
  ⟨hstore, htx, by rw [hsessions]; exact .refl rows d.sessions⟩

end Desk

namespace Handling

variable {α : Type} {rows : List Account} {d : Desk} {r : Request} {draw : Draw}
  {caller : Session}

theorem Leads.follows {m : Handling α} (h : Leads (Desk.Reads rows) d m) :
    Leads (Desk.Follows rows) d m := Desk.Reads.follows h

theorem leads_endSession (key : SessionKey) : Leads (Desk.Reads rows) d (endSession key) :=
  leads_modify ⟨rfl, rfl, Sessions.follows_remove _ _⟩

theorem leads_note (time : UInt64) (owner : AccountId) (kind message : String) :
    Leads (Desk.Reads rows) d (note time owner kind message) :=
  leads_modify (Desk.reads_of_eq rfl rfl rfl)

theorem leads_revoke (principal : AccountId) : Leads (Desk.Reads rows) d (revoke principal) :=
  leads_modify (Desk.reads_of_eq rfl rfl rfl)

theorem leads_sendLater (mail : Mail) : Leads (Desk.Reads rows) d (sendLater mail) :=
  leads_modify (Desk.reads_of_eq rfl rfl rfl)

theorem leads_setSessionChange (change : SessionChange) :
    Leads (Desk.Reads rows) d (setSessionChange change) :=
  leads_modify (Desk.reads_of_eq rfl rfl rfl)

theorem leads_keepCursor {Query : Type} (slot : Slot Query) (key : SessionKey)
    (cursor : Option (Cursor Query)) : Leads (Desk.Reads rows) d (keepCursor slot key cursor) :=
  leads_modify ⟨rfl, rfl, Sessions.follows_update _ _ (fun _ => rfl) fun _ => rfl⟩

/-- Hashing takes a while, in which nothing else is done here. -/
theorem leads_hash_quiet (hquiet : ∀ s, draw.meanwhile s = s) (password : String) :
    Leads (Desk.Reads rows) d (hash draw password) :=
  leads_hash password (Desk.reads_of_eq (hquiet d.store) rfl rfl)

theorem leads_attempt (w : Write) :
    Leads (Desk.Follows rows) d (write fun tx store => w.attempt tx store) :=
  leads_write fun _ _ h => by
    obtain ⟨hstore, -, hplace⟩ := Write.attempt_ok h
    exact ⟨hstore, hplace, .refl rows d.sessions⟩

theorem leads_remove_account (id : AccountId) : Leads (Desk.Follows rows) d (remove id) := by
  refine leads_remove fun removed tx s h => ?_
  have hattempt : (Write.delete id).attempt d.tx d.store = .ok (tx, s) := by
    simp only [Write.attempt, h, Except.map]
  obtain ⟨hstore, -, hplace⟩ := Write.attempt_ok hattempt
  exact ⟨hstore, hplace, .refl rows d.sessions⟩

/-! ### Who is asking -/

theorem leads_lookUp (key : SessionKey) (now : Nat) :
    Leads (Desk.Reads rows) d (lookUp key now) :=
  leads_get_bind (leads_set_bind ⟨rfl, rfl, Sessions.follows_get d.sessions key now⟩ (leads_pure _))

theorem leads_session (r : Request) : Leads (Desk.Reads rows) d (session r) := by
  refine leads_bind (leads_expect _ _) fun key d₁ _ => ?_
  refine leads_bind (leads_lookUp key r.now) fun found d₂ _ => ?_
  refine leads_bind (leads_expect _ _) fun caller d₃ _ => leads_get_bind ?_
  cases sessionObjection? d₃.tx key.principal r.seconds with
  | none => exact leads_pure caller
  | some fault => exact leads_bind (leads_endSession key) fun _ _ _ => leads_refuse fault

theorem leads_identify (r : Request) (c : Command) :
    Leads (Desk.Reads rows) d (identify r c) := by
  unfold identify
  split
  · exact leads_bind (leads_forbid _ _) fun _ _ _ => leads_session r
  · exact leads_session r

/-! ### Logging in and out -/

theorem outcome_countAttempt (r : Request) (d : Desk) :
    ∃ attempts, ((countAttempt r).outcome d).2 = { d with attempts := attempts } := by
  unfold countAttempt
  rw [outcome_get_bind]
  generalize d.attempts.check r.host r.now = checked
  rcases checked with ⟨verdict, attempts⟩
  rw [outcome_set_bind]
  cases verdict <;> exact ⟨attempts, rfl⟩

theorem leads_countAttempt (r : Request) : Leads (Desk.Reads rows) d (countAttempt r) := by
  obtain ⟨attempts, h⟩ := outcome_countAttempt r d
  unfold Leads
  rw [h]
  exact Desk.reads_of_eq rfl rfl rfl

/-- A session that begins has the rights of its account. -/
theorem leads_beginSession {account : Account} (h : account ∈ rows) :
    Leads (Desk.Reads rows) d (beginSession r draw account) := by
  have hprevious : Leads (Desk.Reads rows) d (r.session.forM endSession) := by
    cases r.session with
    | none => exact leads_pure _
    | some previous => exact leads_endSession previous
  refine leads_bind hprevious fun _ d₁ _ => ?_
  refine leads_bind (leads_modify ⟨rfl, rfl, Sessions.follows_create d₁.sessions h _ _⟩)
    fun _ _ _ => ?_
  exact leads_setSessionChange _

theorem leads_login (l : Login) :
    Leads (Desk.Reads d.tx.table.rows) d (login r draw l) := by
  refine leads_bind (leads_countAttempt r) fun _ d₁ hcount => leads_get_bind ?_
  refine leads_bind (leads_expect _ _) fun account d₂ haccount => ?_
  -- counting the attempt leaves the transaction alone, so the account is one that it saw at first
  have htx : d₁.tx = d.tx := by
    obtain ⟨attempts, h⟩ := outcome_countAttempt r d
    rw [hcount] at h
    obtain rfl : d₁ = { d with attempts := attempts } := h
    rfl
  have hmem : account ∈ d.tx.table.rows := by
    rw [← htx]
    exact List.mem_of_find?_eq_some (outcome_expect_eq_ok.1 haccount).1
  refine leads_bind (leads_forbid _ _) fun _ _ _ => ?_
  refine leads_bind (leads_objectTo _) fun _ _ _ => ?_
  refine leads_bind (leads_note ..) fun _ _ _ => ?_
  exact leads_bind (leads_beginSession hmem) fun _ _ _ => leads_pure _

theorem leads_logout (r : Request) : Leads (Desk.Reads rows) d (logout r) := by
  refine leads_bind (leads_expect _ _) fun key d₁ _ => ?_
  refine leads_bind (leads_lookUp key r.now) fun _ d₂ _ => ?_
  refine leads_bind (leads_endSession key) fun _ d₃ _ => ?_
  exact leads_bind (leads_setSessionChange .ended) fun _ _ _ => leads_pure _

/-! ### Accounts -/

theorem leads_userCreate (hquiet : ∀ s, draw.meanwhile s = s) (new : NewAccount) :
    Leads (Desk.Follows rows) d (userCreate r draw caller new) := by
  refine leads_bind (leads_admin caller) fun actor d₁ _ => ?_
  refine leads_bind (leads_objectTo _) fun _ d₂ _ => ?_
  refine leads_bind (leads_hash_quiet hquiet _).follows fun credential d₃ _ => ?_
  refine leads_bind (leads_attempt (.insert _)) fun _ d₄ _ => ?_
  refine leads_bind (leads_note ..).follows fun _ d₅ _ => ?_
  exact leads_bind (leads_sendLater _).follows fun _ _ _ => leads_pure _

theorem leads_userGet (id : AccountId) : Leads (Desk.Reads rows) d (userGet caller id) := by
  refine leads_bind (leads_forbid _ _) fun _ d₁ _ => ?_
  exact leads_bind (leads_existing id) fun _ _ _ => leads_pure _

theorem leads_userDelete (id : AccountId) :
    Leads (Desk.Follows rows) d (userDelete r caller id) := by
  refine leads_bind (leads_admin caller) fun actor d₁ _ => ?_
  refine leads_bind (leads_forbid _ _) fun _ d₂ _ => ?_
  refine leads_bind (leads_remove_account id) fun found d₃ _ => ?_
  refine leads_bind (leads_expect _ _) fun removed d₄ _ => ?_
  refine leads_bind (leads_note ..).follows fun _ d₅ _ => ?_
  exact leads_bind (leads_revoke id).follows fun _ _ _ => leads_pure _

theorem leads_userBan (id : AccountId) (reason : String) (expires : Option UInt64) :
    Leads (Desk.Follows rows) d (userBan r caller id reason expires) := by
  refine leads_bind (leads_admin caller) fun actor d₁ _ => ?_
  refine leads_bind (leads_forbid _ _) fun _ d₂ _ => ?_
  refine leads_bind (leads_forbid _ _) fun _ d₃ _ => ?_
  refine leads_bind (leads_forbid _ _) fun _ d₄ _ => ?_
  refine leads_bind (leads_existing id) fun account d₅ _ => ?_
  refine leads_bind (leads_attempt (.setBan id _)) fun _ d₆ _ => ?_
  refine leads_bind (leads_note ..).follows fun _ d₇ _ => ?_
  exact leads_bind (leads_revoke id).follows fun _ _ _ => leads_pure _

theorem leads_userUnban (id : AccountId) :
    Leads (Desk.Follows rows) d (userUnban r caller id) := by
  refine leads_bind (leads_admin caller) fun actor d₁ _ => ?_
  refine leads_bind (leads_existing id) fun account d₂ _ => ?_
  refine leads_bind (leads_attempt (.setBan id none)) fun _ d₃ _ => ?_
  exact leads_bind (leads_note ..).follows fun _ _ _ => leads_pure _

/-! ### Searches -/

theorem leads_searchBegin {Query Row : Type} (slot : Slot Query) (query : Query) (size : UInt32)
    (source : Desk → Source Row) :
    Leads (Desk.Reads rows) d (searchBegin caller slot query size source) := by
  refine leads_bind (leads_admin caller) fun _ d₁ _ => ?_
  refine leads_bind (leads_keepCursor slot caller.key none) fun _ d₂ _ => leads_get_bind ?_
  refine leads_bind (leads_ofStorage _) fun page d₃ _ => ?_
  exact leads_bind (leads_keepCursor slot caller.key _) fun _ _ _ => leads_pure page

theorem leads_searchTurn {Query Row : Type} (name : String) (slot : Slot Query) (turn : Turn)
    (source : Desk → Query → Source Row) :
    Leads (Desk.Reads rows) d (searchTurn caller name slot turn source) := by
  refine leads_bind (leads_admin caller) fun _ d₁ _ => ?_
  refine leads_bind (leads_expect _ _) fun cursor d₂ _ => leads_get_bind ?_
  exact leads_bind (leads_keepCursor slot caller.key _) fun _ _ _ => leads_ofStorage _

/-! ### All commands -/

/-- **Working on a command commits nothing** and invents no session, however it ends. -/
theorem leads_carryOut (limits : PageLimits) (hquiet : ∀ s, draw.meanwhile s = s) (c : Command) :
    Leads (Desk.Follows d.tx.table.rows) d (carryOut limits r draw caller c) := by
  cases c with
  | login l => exact (leads_login l).follows
  | logout => exact (leads_logout r).follows
  | userCreate new => exact leads_userCreate hquiet new
  | userGet id => exact (leads_userGet id).follows
  | userDelete id => exact leads_userDelete id
  | userBan id reason expires => exact leads_userBan id reason expires
  | userUnban id => exact leads_userUnban id
  | searchBegin search => cases search <;> exact (leads_map (leads_searchBegin ..)).follows
  | searchTurn kind turn => cases kind <;> exact (leads_map (leads_searchTurn ..)).follows

end Handling

end AcctAdmin.Server
