import AcctAdmin.Proofs.Command.Revocation
import Mathlib.Logic.Function.Iterate

/-!
# Bans

An administrator who bans somebody else, for a reason that is more than blanks and not for a time
that has passed, has it done: the account is banned, its sessions are over, and the audit log says
who did it to whom, for how long and why (`execute_userBan`). Who is banned already can be banned
again, and of each time there is an event (`log_bans`).
-/

set_option autoImplicit false

namespace AcctAdmin.Server

open AcctAdmin.Protocol AcctAdmin.Text

/-- What is remembered of a ban. -/
def banNote (r : Request) (actor : AccountId) (name : String) (ban : Ban) : AuditNote :=
  ⟨r.seconds, actor, "USER_BANNED",
    "banned user " ++ name ++ " " ++ Handling.untilText ban.expires ++ ": " ++ ban.reason⟩

variable {r : Request} {caller : Session} {id : AccountId} {name reason : String}
  {expires : Option UInt64}

namespace Handling

theorem outcome_userBan {d : Desk} {account : Account} {tx : Transaction} {store : Store}
    (hadmin : caller.admin = true) (hother : caller.key.principal ≠ id)
    (hreason : trim reason ≠ "") (hahead : ¬ expires.any (· ≤ r.seconds) = true)
    (haccount : d.tx.account? id = some account)
    (hban : d.tx.setBan d.store id (some ⟨trim reason, expires⟩) = .ok (tx, store)) :
    (userBan r caller id reason expires).outcome d =
      (.ok .done, { d with
        tx := tx.note (banNote r caller.key.principal account.name ⟨trim reason, expires⟩)
        store := store
        effects := { d.effects with revoked := d.effects.revoked ++ [id] } }) := by
  have hnotBlank : ¬ (trim reason).isEmpty = true := fun h => hreason (String.isEmpty_iff.1 h)
  simp only [userBan, note, revoke, outcome_bind_eq_ok, outcome_admin_eq_ok, outcome_forbid_eq_ok,
    outcome_existing_eq_ok, outcome_write_eq_ok, outcome_modify_eq_ok, outcome_pure_eq_ok]
  exact ⟨_, _, ⟨hadmin, rfl, rfl⟩, (), _, ⟨hother, rfl⟩, (), _, ⟨hnotBlank, rfl⟩,
    (), _, ⟨hahead, rfl⟩, _, _, ⟨haccount, rfl⟩, (), _, ⟨tx, store, hban, rfl⟩, (), _, rfl,
    (), _, rfl, trivial, rfl⟩

end Handling

/-- Who has just been found is found again when the sessions of somebody else are over. -/
theorem Sessions.get_of_revoked {s : Sessions} {now : Nat} (h : s.Distinct)
    (hlive : (s.get caller.key now).1 = some caller) (hother : caller.key.principal ≠ id) :
    (((s.get caller.key now).2.removePrincipal id).2.get caller.key now).1 = some caller := by
  obtain ⟨y, -, hfresh, -, hcaller⟩ := get_eq_some hlive
  have htimeout : ((s.get caller.key now).2.removePrincipal id).2.idleTimeout = s.idleTimeout := by
    unfold get removePrincipal
    split
    · rfl
    · split <;> rfl
  have hfound : ((s.get caller.key now).2.removePrincipal id).2.find? caller.key = some caller := by
    rw [find?_removePrincipal h.get, if_neg hother.symm, find?_get h, if_pos rfl, hlive]
  have hseen : caller.lastSeen = now := by rw [hcaller]
  have hpatient : 0 < s.idleTimeout :=
    Nat.zero_lt_of_lt (Nat.lt_of_not_le (of_decide_eq_false hfresh))
  rw [get_eq, hfound, htimeout, look, Option.bind_some, hseen, Nat.sub_self, if_pos hpatient,
    ← hseen]

namespace Service

variable {server : Service} {ban : Ban}

/-- The server after a ban: the account is banned, its sessions are over, and there is an event
more. -/
def bannedBy (server : Service) (r : Request) (own : SessionKey) (id : AccountId) (name : String)
    (ban : Ban) : Service :=
  { server with
    store :=
      { table := ⟨server.store.version + 1,
          (Write.setBan id (some ban)).rows server.store.table.rows⟩
        version := server.store.version + 1
        log := server.store.log ++
          [(banNote r own.principal name ban).numbered (UInt64.ofNat (server.store.log.length + 1))]
        writing := false }
    sessions := ((server.sessions.get own r.now).2.removePrincipal id).2 }

/-- Whether a caller may ban an account: they are an administrator with a session, and it is not
their own account. -/
structure MayBan (server : Service) (r : Request) (caller : Session) (id : AccountId)
    (name : String) : Prop where
  atRest : server.store.AtRest
  distinct : server.sessions.Distinct
  admitted : Handling.Admitted r server.sessions server.store.table.rows caller
  admin : caller.admin = true
  other : caller.key.principal ≠ id
  named : (server.store.table.rows.find? (·.id == id)).map (·.name) = some name

/-- **A ban is carried out**, and it is remembered. -/
theorem execute_userBan (h : server.MayBan r caller id name) (hreason : trim reason ≠ "")
    (hahead : ¬ expires.any (· ≤ r.seconds) = true) (draws : Nat → Draw) :
    server.execute r (.userBan id reason expires) draws =
      (.ofOutcome r { Effects.none with revoked := [id] } (.ok .done),
        server.bannedBy r caller.key id name ⟨trim reason, expires⟩) := by
  obtain ⟨account, hfound, rfl⟩ := Option.map_eq_some_iff.1 h.named
  have haccount : server.store.begin.account? id = some account := hfound
  have hplace : server.store.begin.setBan server.store id (some ⟨trim reason, expires⟩) =
      .ok (⟨server.store.version, ⟨server.store.version + 1, (Write.setBan id
          (some ⟨trim reason, expires⟩)).rows server.store.table.rows⟩, server.store.log.length, [],
          true⟩, { server.store with writing := true }) := by
    rw [Transaction.setBan, haccount]
    simp [Transaction.modify, Transaction.takePlace, Store.begin, h.atRest.free, Write.rows]
  have hidentified : (Handling.dispatch server.limits r (draws 0)
      (.userBan id reason expires)).outcome (server.desk server.store.begin) = _ :=
    Handling.outcome_dispatch_of_admitted server.limits (draws 0) rfl rfl h.admitted
  have hrun := hidentified.trans
    (Handling.outcome_userBan h.admin h.other hreason hahead haccount hplace)
  rw [execute_of_outcome hrun rfl]
  refine Prod.ext rfl ?_
  have hedition := h.atRest.edition
  simp [close, settle, Transaction.commit, Transaction.note, Transaction.numberFrom, Store.begin,
    hedition, bannedBy, desk, Sessions.revoke, Effects.none]

/-- Bans leave the names and identifiers of accounts as they are. -/
theorem find?_setBan (rows : List Account) (ban : Option Ban) (other : AccountId) :
    ((Write.setBan id ban).rows rows).find? (·.id == other) =
      (rows.find? (·.id == other)).map fun a => if a.id = id then { a with ban := ban } else a := by
  have hsame : ((·.id == other) ∘ fun a : Account =>
      if a.id = id then { a with ban := ban } else a) = (·.id == other) := by
    funext a
    dsimp only [Function.comp]
    split <;> rfl
  rw [Write.rows, List.find?_map, hsame]

/-- Whoever has banned somebody may do it again. -/
theorem MayBan.bannedBy (h : server.MayBan r caller id name) (ban : Ban) :
    (server.bannedBy r caller.key id name ban).MayBan r caller id name where
  atRest := by
    have heffect : (Write.setBan id (some ban)).hasEffect server.store.begin = true := by
      obtain ⟨account, hfound, -⟩ := Option.map_eq_some_iff.1 h.named
      exact Option.isSome_iff_exists.2 ⟨account, hfound⟩
    exact ⟨rfl, rfl, h.atRest.distinct.write rfl heffect⟩
  distinct := h.distinct.get.filtered _
  admitted := by
    refine ⟨h.admitted.key, Sessions.get_of_revoked h.distinct h.admitted.live h.other, ?_⟩
    obtain ⟨account, hfound, hactive⟩ := h.admitted.account
    have hown : account.id = caller.key.principal := by simpa using List.find?_some hfound
    have hrows : (server.bannedBy r caller.key id name ban).store.table.rows.find? _ = _ :=
      find?_setBan server.store.table.rows (some ban) caller.key.principal
    rw [hrows, hfound, Option.map_some, hown, if_neg h.other]
    exact ⟨account, rfl, hactive⟩
  admin := h.admin
  other := h.other
  named := by
    have hrows : (server.bannedBy r caller.key id name ban).store.table.rows.find? _ = _ :=
      find?_setBan server.store.table.rows (some ban) id
    obtain ⟨account, hfound, hname⟩ := Option.map_eq_some_iff.1 h.named
    rw [hrows, hfound, Option.map_some, Option.map_some, ← hname]
    split <;> rfl

/-- Bans that are imposed one after the other. -/
theorem advanceAll_bans (h : server.MayBan r caller id name) (hreason : trim reason ≠ "")
    (hahead : ¬ expires.any (· ≤ r.seconds) = true) (draws : Nat → Draw) (n : Nat) :
    server.advanceAll (List.replicate n (.command r (.userBan id reason expires) draws)) =
      (fun s => s.bannedBy r caller.key id name ⟨trim reason, expires⟩)^[n] server := by
  induction n generalizing server with
  | zero => rfl
  | succ n ih =>
    rw [List.replicate_succ, advanceAll_cons, advance, execute_userBan h hreason hahead draws,
      Function.iterate_succ_apply]
    exact ih (h.bannedBy _)

/-- **Every ban is remembered**, with its reason. -/
theorem log_bans (server : Service) (r : Request) (own : SessionKey) (id : AccountId)
    (name : String) (ban : Ban) (n : Nat) :
    ((fun s => s.bannedBy r own id name ban)^[n] server).store.log =
      server.store.log ++ (List.range n).map fun i =>
        (banNote r own.principal name ban).numbered
          (UInt64.ofNat (server.store.log.length + i + 1)) := by
  induction n with
  | zero => exact (List.append_nil _).symm
  | succ n ih =>
    rw [Function.iterate_succ_apply', Service.bannedBy, ih, List.range_succ, List.map_append,
      ← List.append_assoc, List.length_append, List.length_map, List.length_range]
    rfl

end Service

end AcctAdmin.Server
