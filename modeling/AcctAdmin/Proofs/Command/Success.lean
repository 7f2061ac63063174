import AcctAdmin.Proofs.Command.Frame

/-!
# What a command has done that succeeded

Who gave it, what they had to show for it, and which writes it made. A command other than logging
in or out is given by somebody whose session was found, whose account is among those that the
transaction sees, and who is not banned. Whether that is an administrator is read from the session,
and only looking oneself up does without.

Nobody takes away their own means: a write made for a caller spares the caller's own account
(`Write.Spares`).
-/

set_option autoImplicit false

namespace AcctAdmin.Server

open AcctAdmin.Protocol AcctAdmin.Text

/-- Whether the caller of a command must have a session. -/
def needsCaller : Command → Bool
  | .login _ => false
  | .logout => false
  | _ => true

/-- The writes that a command makes if it succeeds. -/
def writesOf (r : Request) (draw : Draw) : Command → List Write
  | .userCreate new =>
    [.insert ⟨draw.account, trim new.name, trim new.email, trim new.realName, new.admin, r.seconds,
      .ofPassword new.password, none⟩]
  | .userDelete id => [.delete id]
  | .userBan id reason expires => [.setBan id (some ⟨trim reason, expires⟩)]
  | .userUnban id => [.setBan id none]
  | _ => []

/-- Whether a write leaves an account in place and does not ban it. -/
def Write.Spares (id : AccountId) : Write → Prop
  | .insert _ => True
  | .delete other => other ≠ id
  | .setBan other ban => other ≠ id ∨ ban = none

namespace Handling

variable {d d' : Desk} {r : Request} {draw : Draw} {caller : Session}
  {reply : Reply}

/-! ## Who is asking -/

theorem sessionObjection?_eq_none {tx : Transaction} {principal : AccountId} {now : UInt64} :
    sessionObjection? tx principal now = none ↔
      ∃ account, tx.account? principal = some account ∧ account.activeBan? now = none := by
  unfold sessionObjection?
  cases tx.account? principal <;> simp

/-- What a caller has to show: a key to a live session, and an account that is not banned. -/
structure Admitted (r : Request) (sessions : Sessions) (rows : List Account) (caller : Session) :
    Prop where
  key : r.session = some caller.key
  live : (sessions.get caller.key r.now).1 = some caller
  account : ∃ account, rows.find? (·.id == caller.key.principal) = some account ∧
    account.activeBan? r.seconds = none

theorem session_ok (h : (session r).outcome d = (.ok caller, d')) :
    Admitted r d.sessions d.tx.table.rows caller ∧
      d' = { d with sessions := (d.sessions.get caller.key r.now).2 } := by
  simp only [session, lookUp, outcome_bind_eq_ok, outcome_expect_eq_ok, outcome_get_bind,
    outcome_set_bind, outcome_pure_eq_ok] at h
  obtain ⟨key, _, ⟨hkey, rfl⟩, _, _, ⟨rfl, rfl⟩, _, _, ⟨hfound, rfl⟩, h⟩ := h
  -- an objection ends the session and is never a success
  cases hobjection : sessionObjection? d.tx key.principal r.seconds with
  | some fault =>
    rw [hobjection] at h
    obtain ⟨_, _, -, hrefuse⟩ := outcome_bind_eq_ok.1 h
    simp at hrefuse
  | none =>
    rw [hobjection] at h
    obtain ⟨rfl, rfl⟩ := outcome_pure_eq_ok.1 h
    obtain ⟨x, -, -, rfl, rfl⟩ := Sessions.get_eq_some hfound
    exact ⟨⟨hkey, hfound, sessionObjection?_eq_none.1 hobjection⟩, rfl⟩

theorem session_of_admitted (h : Admitted r d.sessions d.tx.table.rows caller) :
    (session r).outcome d =
      (.ok caller, { d with sessions := (d.sessions.get caller.key r.now).2 }) := by
  have hobjection : sessionObjection? d.tx caller.key.principal r.seconds = none :=
    sessionObjection?_eq_none.2 h.account
  refine outcome_bind_eq_ok.2 ⟨_, _, outcome_expect_eq_ok.2 ⟨h.key, rfl⟩, ?_⟩
  refine outcome_bind_eq_ok.2 ⟨_, _, (rfl : (lookUp caller.key r.now).outcome d = _), ?_⟩
  refine outcome_bind_eq_ok.2 ⟨_, _, outcome_expect_eq_ok.2 ⟨h.live, rfl⟩, ?_⟩
  rw [outcome_get_bind, hobjection]
  rfl

theorem identify_ok {c : Command} (h : (identify r c).outcome d = (.ok caller, d')) :
    Admitted r d.sessions d.tx.table.rows caller ∧
      d' = { d with sessions := (d.sessions.get caller.key r.now).2 } := by
  unfold identify at h
  split at h
  · obtain ⟨_, _, hforbid, h⟩ := outcome_bind_eq_ok.1 h
    obtain ⟨-, rfl⟩ := outcome_forbid_eq_ok.1 hforbid
    exact session_ok h
  · exact session_ok h

/-! ## What was written -/

/-- What is known of a command that was carried out for a caller. -/
structure CarriedOut (r : Request) (draw : Draw) (caller : Session) (c : Command) (d d' : Desk) :
    Prop where
  allowed : needsCaller c = true → caller.admin = true ∨ c = .userGet caller.key.principal
  writer : writesOf r draw c ≠ [] → caller.admin = true
  spares : ∀ w ∈ writesOf r draw c, w.Spares caller.key.principal
  rows : d'.tx.table.rows = Write.replay (writesOf r draw c) d.tx.table.rows

theorem CarriedOut.of_reads {c : Command}
    (hallowed : needsCaller c = true → caller.admin = true ∨ c = .userGet caller.key.principal)
    (hwrites : writesOf r draw c = []) (h : Desk.Reads d.tx.table.rows d d') :
    CarriedOut r draw caller c d d' where
  allowed := hallowed
  writer hne := absurd hwrites hne
  spares w hw := by
    rw [hwrites] at hw
    exact absurd hw List.not_mem_nil
  rows := by rw [hwrites, h.table, Write.replay_nil]

/-- A command that makes one write. What it does to the transaction after that leaves the accounts
as they are. -/
theorem CarriedOut.of_write {c : Command} {w : Write} {tx : Transaction} {s s' : Store}
    (hadmin : caller.admin = true) (hwrites : writesOf r draw c = [w])
    (hspares : w.Spares caller.key.principal) (h : w.attempt d.tx s = .ok (tx, s'))
    (htable : d'.tx.table = tx.table) : CarriedOut r draw caller c d d' where
  allowed _ := .inl hadmin
  writer _ := hadmin
  spares v hv := by
    rw [hwrites] at hv
    rw [List.mem_singleton.1 hv]
    exact hspares
  rows := by rw [hwrites, htable, (Write.attempt_ok h).2.1, Write.replay_singleton]

theorem userCreate_ok {new : NewAccount}
    (h : (userCreate r draw caller new).outcome d = (.ok reply, d')) :
    CarriedOut r draw caller (.userCreate new) d d' := by
  simp only [userCreate, note, sendLater, outcome_bind_eq_ok, outcome_admin_eq_ok,
    outcome_objectTo_eq_ok, outcome_hash_eq_ok, outcome_write_eq_ok, outcome_modify_eq_ok,
    outcome_pure_eq_ok] at h
  obtain ⟨_, _, ⟨hadmin, rfl, rfl⟩, _, _, ⟨-, rfl⟩, _, _, ⟨-, rfl, rfl⟩, _, _,
    ⟨tx, s, hinsert, rfl⟩, _, _, rfl, _, _, rfl, rfl, rfl⟩ := h
  exact .of_write hadmin rfl trivial hinsert rfl

theorem userGet_ok {id : AccountId} (h : (userGet caller id).outcome d = (.ok reply, d')) :
    CarriedOut r draw caller (.userGet id) d d' := by
  refine .of_reads (fun _ => ?_) rfl ((leads_userGet id).of_outcome h)
  obtain ⟨_, _, hforbid, -⟩ := outcome_bind_eq_ok.1 h
  obtain ⟨hallowed, -⟩ := outcome_forbid_eq_ok.1 hforbid
  cases hadmin : caller.admin with
  | true => exact .inl rfl
  | false =>
    refine .inr ?_
    rw [Decidable.not_not.1 fun hother => hallowed ⟨hadmin, hother⟩]

theorem userDelete_ok {id : AccountId}
    (h : (userDelete r caller id).outcome d = (.ok reply, d')) :
    CarriedOut r draw caller (.userDelete id) d d' := by
  simp only [userDelete, note, revoke, outcome_bind_eq_ok, outcome_admin_eq_ok,
    outcome_forbid_eq_ok, outcome_remove_eq_ok, outcome_expect_eq_ok, outcome_modify_eq_ok,
    outcome_pure_eq_ok] at h
  obtain ⟨_, _, ⟨hadmin, rfl, rfl⟩, _, _, ⟨hother, rfl⟩, _, _, ⟨tx, s, hdelete, rfl⟩, _, _,
    ⟨rfl, rfl⟩, _, _, rfl, _, _, rfl, rfl, rfl⟩ := h
  have hattempt : (Write.delete id).attempt d.tx d.store = .ok (tx, s) := by
    simp only [Write.attempt, hdelete, Except.map]
  exact .of_write hadmin rfl (fun hid => hother hid.symm) hattempt rfl

theorem userBan_ok {id : AccountId} {reason : String} {expires : Option UInt64}
    (h : (userBan r caller id reason expires).outcome d = (.ok reply, d')) :
    CarriedOut r draw caller (.userBan id reason expires) d d' := by
  simp only [userBan, note, revoke, outcome_bind_eq_ok, outcome_admin_eq_ok,
    outcome_forbid_eq_ok, outcome_existing_eq_ok, outcome_write_eq_ok, outcome_modify_eq_ok,
    outcome_pure_eq_ok] at h
  obtain ⟨_, _, ⟨hadmin, rfl, rfl⟩, _, _, ⟨hother, rfl⟩, _, _, ⟨-, rfl⟩, _, _, ⟨-, rfl⟩, _, _,
    ⟨-, rfl⟩, _, _, ⟨tx, s, hban, rfl⟩, _, _, rfl, _, _, rfl, rfl, rfl⟩ := h
  exact .of_write hadmin rfl (.inl fun hid => hother hid.symm) hban rfl

theorem userUnban_ok {id : AccountId}
    (h : (userUnban r caller id).outcome d = (.ok reply, d')) :
    CarriedOut r draw caller (.userUnban id) d d' := by
  simp only [userUnban, note, outcome_bind_eq_ok, outcome_admin_eq_ok, outcome_existing_eq_ok,
    outcome_write_eq_ok, outcome_modify_eq_ok, outcome_pure_eq_ok] at h
  obtain ⟨_, _, ⟨hadmin, rfl, rfl⟩, _, _, ⟨-, rfl⟩, _, _, ⟨tx, s, hban, rfl⟩, _, _, rfl, rfl,
    rfl⟩ := h
  exact .of_write hadmin rfl (.inr rfl) hban rfl

theorem searchBegin_ok {Query Row : Type} {slot : Slot Query} {query : Query} {size : UInt32}
    {source : Desk → Source Row} {page : Page Row}
    (h : (searchBegin caller slot query size source).outcome d = (.ok page, d')) :
    caller.admin = true ∧ Desk.Reads d.tx.table.rows d d' := by
  obtain ⟨_, _, hadmin, -⟩ := outcome_bind_eq_ok.1 h
  exact ⟨(outcome_admin_eq_ok.1 hadmin).1, (leads_searchBegin slot query size source).of_outcome h⟩

theorem searchTurn_ok {Query Row : Type} {name : String} {slot : Slot Query} {turn : Turn}
    {source : Desk → Query → Source Row} {page : Page Row}
    (h : (searchTurn caller name slot turn source).outcome d = (.ok page, d')) :
    caller.admin = true ∧ Desk.Reads d.tx.table.rows d d' := by
  obtain ⟨_, _, hadmin, -⟩ := outcome_bind_eq_ok.1 h
  exact ⟨(outcome_admin_eq_ok.1 hadmin).1, (leads_searchTurn name slot turn source).of_outcome h⟩

/-- **Nothing is done for a caller without rights**, a caller never takes their own means away, and
what was done to the accounts is what the command says. -/
theorem carryOut_ok {limits : PageLimits} {c : Command}
    (h : (carryOut limits r draw caller c).outcome d = (.ok reply, d')) :
    CarriedOut r draw caller c d d' := by
  have hsearch {c : Command} (hwrites : writesOf r draw c = [])
      (hread : caller.admin = true ∧ Desk.Reads d.tx.table.rows d d') :
      CarriedOut r draw caller c d d' := .of_reads (fun _ => .inl hread.1) hwrites hread.2
  -- logging in and out ask for no rights and write nothing; searches and the rest have their lemmas
  cases c with
  | login l => exact .of_reads (fun h => nomatch h) rfl ((leads_login l).of_outcome h)
  | logout => exact .of_reads (fun h => nomatch h) rfl ((leads_logout r).of_outcome h)
  | userCreate new => exact userCreate_ok h
  | userGet id => exact userGet_ok h
  | userDelete id => exact userDelete_ok h
  | userBan id reason expires => exact userBan_ok h
  | userUnban id => exact userUnban_ok h
  | searchBegin search =>
    cases search <;>
    · obtain ⟨page, hpage, -⟩ := outcome_map_eq_ok.1 h
      exact hsearch rfl (searchBegin_ok hpage)
  | searchTurn kind turn =>
    cases kind <;>
    · obtain ⟨page, hpage, -⟩ := outcome_map_eq_ok.1 h
      exact hsearch rfl (searchTurn_ok hpage)

/-- Logging in and out are carried out for nobody in particular. -/
theorem dispatch_of_not_needsCaller {c : Command} (limits : PageLimits) (r : Request) (draw : Draw)
    (caller : Session) (h : needsCaller c = false) :
    dispatch limits r draw c = carryOut limits r draw caller c := by
  cases c with
  | login l => rfl
  | logout => rfl
  | _ => exact absurd h (by simp [needsCaller])

theorem dispatch_of_needsCaller {c : Command} (limits : PageLimits) (r : Request) (draw : Draw)
    (h : needsCaller c = true) :
    dispatch limits r draw c = identify r c >>= fun caller => carryOut limits r draw caller c := by
  cases c with
  | login l => exact absurd h (by simp [needsCaller])
  | logout => exact absurd h (by simp [needsCaller])
  | _ => rfl

theorem leads_dispatch (limits : PageLimits) (hquiet : ∀ s, draw.meanwhile s = s) (c : Command) :
    Leads (Desk.Follows d.tx.table.rows) d (dispatch limits r draw c) := by
  cases hneeds : needsCaller c with
  | false =>
    rw [dispatch_of_not_needsCaller limits r draw default hneeds]
    exact leads_carryOut limits hquiet c
  | true =>
    rw [dispatch_of_needsCaller limits r draw hneeds]
    refine leads_bind (leads_identify r c).follows fun caller d₁ hrun => ?_
    have htable : d₁.tx.table = d.tx.table := by
      rw [(identify_ok hrun).2]
    rw [← htable]
    exact leads_carryOut limits hquiet c

end Handling

end AcctAdmin.Server
