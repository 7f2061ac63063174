import AcctAdmin.Proofs.Command.Interleaving

/-!
# What every schedule of commands keeps

The rights of an account are settled when its identifier is given out, and everything that speaks of
them agrees: the committed accounts, the accounts that a transaction began on or is about to commit,
and the sessions. So it does no harm that a session remembers the rights of its account, and that a
transaction looks at accounts that are no longer the committed ones.

`OpenCommand.Sound` is what is known of a command at each stage of an attempt; `Inv` is that for all
commands, and the agreement.
-/

set_option autoImplicit false

namespace AcctAdmin.Server

open AcctAdmin.Protocol

/-! ## Agreement about rights -/

namespace Registry

variable {issued issued' : Registry} {rows : List Account} {s s' : Sessions}

/-- Accounts have the rights that their identifiers were given with. -/
def Knows (issued : Registry) (rows : List Account) : Prop :=
  ∀ a ∈ rows, issued a.id = some a.admin

/-- Sessions have the rights of their accounts. -/
def Vouches (issued : Registry) (s : Sessions) : Prop :=
  ∀ x ∈ s.live, issued x.key.principal = some x.admin

/-- What was given out stays. -/
def Grows (issued issued' : Registry) : Prop :=
  ∀ id admin, issued id = some admin → issued' id = some admin

theorem Knows.mono (hg : issued.Grows issued') (h : issued.Knows rows) : issued'.Knows rows :=
  fun a ha => hg a.id a.admin (h a ha)

theorem Vouches.mono (hg : issued.Grows issued') (h : issued.Vouches s) : issued'.Vouches s :=
  fun x hx => hg x.key.principal x.admin (h x hx)

theorem Grows.refl (issued : Registry) : issued.Grows issued := fun _ _ h => h

theorem grows_issue {account : AccountId} {rights : Option Bool}
    (h : (rights.isSome && (issued account).isSome) = false) :
    issued.Grows (issued.issue account rights) := by
  intro id admin hid
  unfold issue
  split
  · rename_i heq
    cases rights with
    | none => exact hid
    | some b =>
      rw [heq] at hid
      simp [hid] at h
  · exact hid

theorem issue_self {account : AccountId} {admin : Bool} :
    issued.issue account (some admin) account = some admin := by
  simp [issue]

/-- What working on a command makes of the sessions. -/
theorem Vouches.follows (h : issued.Vouches s) (hrows : issued.Knows rows)
    (hf : s.Follows rows s') : issued.Vouches s' := by
  intro x hx
  rcases hf x hx with ⟨y, hy, hprincipal, hadmin⟩ | ⟨a, ha, hid, hadmin⟩
  · rw [← hprincipal, ← hadmin]
    exact h y hy
  · rw [← hid, ← hadmin]
    exact hrows a ha

theorem Vouches.current {caller : Session} (h : issued.Vouches s)
    (hcaller : issued caller.key.principal = some caller.admin) :
    (s.current caller).key = caller.key ∧ (s.current caller).admin = caller.admin := by
  have hkey := s.current_key caller
  refine ⟨hkey, ?_⟩
  unfold Sessions.current at hkey ⊢
  cases hfound : s.find? caller.key with
  | none => rfl
  | some x =>
    rw [hfound] at hkey
    have hx := h x (List.mem_of_find?_eq_some hfound)
    rw [show x.key = caller.key from hkey, hcaller] at hx
    exact (Option.some.inj hx).symm

theorem Knows.write {w : Write} (h : issued.Knows rows)
    (hnew : ∀ a, w = .insert a → issued a.id = some a.admin) : issued.Knows (w.rows rows) := by
  intro a ha
  cases w with
  | insert new =>
    rcases List.mem_append.1 ha with hold | hlast
    · exact h a hold
    · rw [List.mem_singleton.1 hlast]
      exact hnew new rfl
  | delete id => exact h a (List.mem_filter.1 ha).1
  | setBan id ban =>
    obtain ⟨b, hb, rfl⟩ := List.mem_map.1 ha
    split
    · exact h b hb
    · exact h b hb

theorem Knows.replay {writes : List Write} (h : issued.Knows rows)
    (hnew : ∀ a, .insert a ∈ writes → issued a.id = some a.admin) :
    issued.Knows (Write.replay writes rows) := by
  induction writes generalizing rows with
  | nil => exact h
  | cons w rest ih =>
    refine ih (h.write fun a ha => hnew a ?_) fun a ha => hnew a (List.mem_cons_of_mem w ha)
    rw [ha]
    exact List.mem_cons_self

/-- A server on which nothing disagrees. -/
structure Covers (issued : Registry) (server : Service) : Prop where
  accounts : issued.Knows server.store.table.rows
  sessions : issued.Vouches server.sessions

theorem Covers.mono {server : Service} (hg : issued.Grows issued') (h : issued.Covers server) :
    issued'.Covers server :=
  ⟨h.accounts.mono hg, h.sessions.mono hg⟩

theorem Covers.adopt {server : Service} {tx : Transaction} {d' : Desk} (h : issued.Covers server)
    (htx : issued.Knows tx.table.rows) (hf : Desk.Follows tx.table.rows (server.desk tx) d') :
    issued.Covers (server.adopt d') where
  accounts := by
    show issued.Knows d'.store.table.rows
    rw [hf.committed]
    exact h.accounts
  sessions := h.sessions.follows htx hf.sessions

end Registry

/-! ## What is known of a command -/

namespace OpenCommand

/-- What a caller has to show for a command to be carried out for them: the key of a session that
was live, and an account among those that the attempt began on which was not banned. Unless they
look themselves up, that account has the rights of an administrator. The session remembers them
rightly. -/
def Authorized (o : OpenCommand) : Prop :=
  ∃ key session account,
    o.request.session = some key ∧
    session ∈ o.seen.live ∧ session.key = key ∧ o.seen.isIdle o.request.now session = false ∧
    o.ground.find? (·.id == key.principal) = some account ∧
    account.activeBan? o.request.seconds = none ∧
    session.admin = account.admin ∧
    (o.command = .userGet key.principal ∨ account.admin = true)

/-- Where the accounts that an attempt is about to commit come from: it made writes, if any, for an
administrator whose account they spare. -/
def Makes (o : OpenCommand) (rows : List Account) : Prop :=
  ∃ writes, rows = Write.replay writes o.ground ∧
    (writes = [] ∨ ∃ a ∈ o.ground, a.admin = true ∧ a.activeBan? o.request.seconds = none ∧
      ∀ w ∈ writes, w.Spares a.id)

/-- What is known of a command at each stage. -/
def StageSound (issued : Registry) (o : OpenCommand) : Stage → Prop
  | .opened tx => tx.table.rows = o.ground
  | .identified tx caller =>
    tx.table.rows = o.ground ∧ Handling.Admitted o.request o.seen o.ground caller ∧
      issued caller.key.principal = some caller.admin
  | .worked (.ok _) tx _ =>
    issued.Knows tx.table.rows ∧ o.Makes tx.table.rows ∧
      (needsCaller o.command = true → o.Authorized)
  | .closed (.ok _) _ => needsCaller o.command = true → o.Authorized
  | .answered (.ok _) _ => needsCaller o.command = true → o.Authorized
  | .worked (.error _) _ _ => True
  | .closed (.error _) _ => True
  | .answered (.error _) _ => True

structure Sound (issued : Registry) (o : OpenCommand) : Prop where
  ground : issued.Knows o.ground
  stage : o.StageSound issued o.stage

variable {issued issued' : Registry} {o o' : OpenCommand} {server server' : Service}
  {draw : Draw} {tx : Transaction}

theorem Sound.mono (hg : issued.Grows issued') (h : o.Sound issued) : o.Sound issued' := by
  refine ⟨h.ground.mono hg, ?_⟩
  have hstage := h.stage
  cases hst : o.stage with
  | opened tx => rw [hst] at hstage; exact hstage
  | identified tx caller =>
    rw [hst] at hstage
    exact ⟨hstage.1, hstage.2.1, hg _ _ hstage.2.2⟩
  | worked outcome tx effects =>
    rw [hst] at hstage
    cases outcome with
    | ok reply => exact ⟨hstage.1.mono hg, hstage.2⟩
    | error halt => trivial
  | closed outcome effects =>
    rw [hst] at hstage
    cases outcome with
    | ok reply => exact hstage
    | error halt => trivial
  | answered outcome effects =>
    rw [hst] at hstage
    cases outcome with
    | ok reply => exact hstage
    | error halt => trivial

/-- The account of a caller who was admitted. The session has its rights. -/
theorem account_of_admitted {caller : Session} (hground : issued.Knows o.ground)
    (hadmitted : Handling.Admitted o.request o.seen o.ground caller)
    (hcaller : issued caller.key.principal = some caller.admin) :
    ∃ account, o.ground.find? (·.id == caller.key.principal) = some account ∧
      account ∈ o.ground ∧ account.id = caller.key.principal ∧
      account.activeBan? o.request.seconds = none ∧ caller.admin = account.admin := by
  obtain ⟨account, hfound, hban⟩ := hadmitted.account
  have hmem := List.mem_of_find?_eq_some hfound
  have hid : account.id = caller.key.principal := by simpa using List.find?_some hfound
  have hknown := hground account hmem
  rw [hid, hcaller] at hknown
  exact ⟨account, hfound, hmem, hid, hban, Option.some.inj hknown⟩

/-! ## What working on a command makes of it -/

section Work

variable {caller current : Session} {d d' : Desk} (hground : issued.Knows o.ground)
  (hadmitted : Handling.Admitted o.request o.seen o.ground caller)
  (hcaller : issued caller.key.principal = some caller.admin)
  (hcurrent : current.key = caller.key ∧ current.admin = caller.admin)
  (hdone : Handling.CarriedOut o.request draw current o.command d d')

include hground hadmitted hcaller hcurrent hdone

theorem authorized_of_carriedOut (hneeds : needsCaller o.command = true) : o.Authorized := by
  obtain ⟨account, hfound, -, -, hban, hagree⟩ := account_of_admitted hground hadmitted hcaller
  obtain ⟨session, hsession, hfresh, hkey, hused⟩ := Sessions.get_eq_some hadmitted.live
  have hrights : session.admin = account.admin := by
    rw [← hagree, hused]
  refine ⟨caller.key, session, account, hadmitted.key, hsession, hkey, hfresh, hfound, hban,
    hrights, ?_⟩
  rcases hdone.allowed hneeds with hadmin | hself
  · right
    rw [← hagree, ← hcurrent.2]
    exact hadmin
  · left
    rw [← hcurrent.1]
    exact hself

theorem makes_of_carriedOut (hrows : d.tx.table.rows = o.ground) : o.Makes d'.tx.table.rows := by
  refine ⟨writesOf o.request draw o.command, by rw [hdone.rows, hrows], ?_⟩
  by_cases hnone : writesOf o.request draw o.command = []
  · exact .inl hnone
  · obtain ⟨account, -, hmem, hid, hban, hagree⟩ := account_of_admitted hground hadmitted hcaller
    refine .inr ⟨account, hmem, ?_, hban, fun w hw => ?_⟩
    · rw [← hagree, ← hcurrent.2]
      exact hdone.writer hnone
    · rw [hid, ← hcurrent.1]
      exact hdone.spares w hw

end Work

/-! ## One step -/

structure Kept (issued : Registry) (o : OpenCommand) (server : Service) : Prop where
  sound : o.Sound issued
  covers : issued.Covers server

theorem Kept.mono (hg : issued.Grows issued') (h : Kept issued o server) : Kept issued' o server :=
  ⟨h.sound.mono hg, h.covers.mono hg⟩

theorem knows_of_ground (h : Kept issued o server) (htx : tx.table.rows = o.ground) :
    issued.Knows tx.table.rows := by
  rw [htx]
  exact h.sound.ground

/-- A caller who was found has the rights that their session remembers. -/
theorem stage_identified {caller : Session} {desk : Desk} (h : Kept issued o server)
    (htx : tx.table.rows = o.ground)
    (hrun : (Handling.identify o.request o.command).outcome (server.desk tx) = (.ok caller, desk)) :
    desk.tx.table.rows = o.ground ∧
      Handling.Admitted o.request server.sessions o.ground caller ∧
      issued caller.key.principal = some caller.admin := by
  obtain ⟨hadmitted, hdesk⟩ := Handling.identify_ok hrun
  obtain ⟨x, hx, -, hkey, hused⟩ := Sessions.get_eq_some hadmitted.live
  refine ⟨?_, ?_, ?_⟩
  · rw [hdesk]
    exact htx
  · rw [← htx]
    exact hadmitted
  · have hvouched := h.covers.sessions x hx
    rw [hkey] at hvouched
    rw [hvouched, hused]

/-- A command that needs no caller changes no accounts. -/
theorem stage_worked_of_open {caller : Session} {d d' : Desk}
    (hneeds : needsCaller o.command = false)
    (hknown : issued.Knows d.tx.table.rows) (hrows : d.tx.table.rows = o.ground)
    (hdone : Handling.CarriedOut o.request draw caller o.command d d') :
    issued.Knows d'.tx.table.rows ∧ o.Makes d'.tx.table.rows ∧
      (needsCaller o.command = true → o.Authorized) := by
  have hnone : writesOf o.request draw o.command = [] := by
    cases hcommand : o.command <;> simp_all [needsCaller, writesOf]
  have hsame : d'.tx.table.rows = d.tx.table.rows := by
    rw [hdone.rows, hnone, Write.replay_nil]
  refine ⟨?_, ⟨[], ?_, .inl rfl⟩, fun hn => ?_⟩
  · rw [hsame]
    exact hknown
  · rw [hsame, hrows, Write.replay_nil]
  · rw [hneeds] at hn
    cases hn

/-- What a command writes is known, if its identifier was given with the rights of the account that
it adds. -/
theorem knows_of_carriedOut {caller : Session} {d d' : Desk} (hknown : issued.Knows d.tx.table.rows)
    (hadds : ∀ new, o.command = .userCreate new → issued draw.account = some new.admin)
    (hdone : Handling.CarriedOut o.request draw caller o.command d d') :
    issued.Knows d'.tx.table.rows := by
  rw [hdone.rows]
  refine hknown.replay fun a ha => ?_
  cases hcommand : o.command with
  | userCreate new =>
    rw [hcommand] at ha
    cases List.mem_singleton.1 ha
    exact hadds new hcommand
  | _ => simp [hcommand, writesOf] at ha

/-- **One step keeps everything**: a command goes from one stage to the next with what is known of
it, and on the server nothing comes to disagree. -/
theorem kept_next (h : Kept issued o server) (hg : issued.Grows issued')
    (hadds : ∀ admin, o.adds? = some admin → issued' draw.account = some admin)
    (hquiet : ∀ s, draw.meanwhile s = s) (hs : o.next server draw = some (o', server')) :
    Kept issued' o' server' := by
  have hstage := h.sound.stage
  have hground := h.sound.ground
  cases advances_of_next hs with
  | @identified tx caller desk hst hrun =>
    rw [hst] at hstage
    have hdesk : Desk.Reads tx.table.rows (server.desk tx) desk :=
      (Handling.leads_identify _ _).of_outcome hrun
    have hfound := stage_identified h hstage hrun
    refine Kept.mono hg ⟨⟨hground, hfound⟩, ?_⟩
    exact h.covers.adopt (knows_of_ground h hstage) hdesk.follows
  | @unidentified tx halt desk hst hrun =>
    rw [hst] at hstage
    have hdesk : Desk.Reads tx.table.rows (server.desk tx) desk :=
      (Handling.leads_identify _ _).of_outcome hrun
    refine Kept.mono hg ⟨⟨hground, trivial⟩, ?_⟩
    exact h.covers.adopt (knows_of_ground h hstage) hdesk.follows
  | @worked tx caller outcome desk hst hrun =>
    have htx : tx.table.rows = o.ground := by
      rcases hst with ⟨hst, -⟩ | ⟨found, hst, -⟩
      · rw [hst] at hstage
        exact hstage
      · rw [hst] at hstage
        exact hstage.1
    have hknown := knows_of_ground h htx
    have hdesk := (Handling.leads_carryOut server.limits hquiet o.command).of_outcome hrun
    refine ⟨⟨hground.mono hg, ?_⟩, (h.covers.adopt hknown hdesk).mono hg⟩
    cases outcome with
    | error halt => trivial
    | ok reply =>
      have hdone := Handling.carryOut_ok hrun
      -- without a caller nothing is written; with one, all comes from what was found of them
      rcases hst with ⟨-, hneeds⟩ | ⟨found, hst, rfl⟩
      · exact stage_worked_of_open hneeds (hknown.mono hg) htx hdone
      · rw [hst] at hstage
        obtain ⟨-, hadmitted, hfound⟩ := hstage
        have hcurrent := h.covers.sessions.current hfound
        refine ⟨knows_of_carriedOut (hknown.mono hg) (fun new hnew => ?_) hdone,
          makes_of_carriedOut hground hadmitted hfound hcurrent hdone htx,
          authorized_of_carriedOut hground hadmitted hfound hcurrent hdone⟩
        exact hadds new.admin (by simp [adds?, hst, hnew])
  | @committed reply tx effects hst =>
    rw [hst] at hstage
    obtain ⟨hknown, -, hauthorized⟩ := hstage
    refine Kept.mono hg ⟨⟨hground, hauthorized⟩, ?_, h.covers.sessions⟩
    show issued.Knows (tx.commit server.store).table.rows
    -- what is committed is what was, or what the transaction sees, and both are known
    rcases tx.commit_table (s := server.store) with hsame | hnew
    · rw [hsame]
      exact h.covers.accounts
    · rw [hnew]
      exact hknown
  | dropped hst => exact Kept.mono hg ⟨⟨hground, trivial⟩, h.covers.accounts, h.covers.sessions⟩
  | again hst =>
    -- the next attempt begins on what is committed now
    exact Kept.mono hg ⟨⟨h.covers.accounts, rfl⟩, h.covers⟩
  | @answered outcome effects hst =>
    rw [hst] at hstage
    cases outcome with
    | error halt => exact Kept.mono hg ⟨⟨hground, trivial⟩, h.covers⟩
    | ok reply =>
      refine Kept.mono hg ⟨⟨hground, hstage⟩, h.covers.accounts, ?_⟩
      exact h.covers.sessions.follows h.covers.accounts (Sessions.follows_revoke _ _)

end OpenCommand

/-! ## Every schedule -/

namespace OpenService

variable {σ σ' : OpenService} {n : Nat}

/-- What every schedule keeps. -/
structure Inv (σ : OpenService) : Prop where
  covers : σ.issued.Covers σ.server
  sound : ∀ n o, σ.commands n = some o → o.Sound σ.issued

theorem inv_start (idleTimeout : Nat) (attempts : Attempts) (limits : PageLimits) :
    Inv (start idleTimeout attempts limits) where
  covers := ⟨fun _ h => (nomatch h), fun _ h => (nomatch h)⟩
  sound _ _ h := nomatch h

theorem rows_bootstrapped (idleTimeout : Nat) (attempts : Attempts) (limits : PageLimits)
    (admin : FirstAdmin) (now : Nat) (account : AccountId) (session : Uuid) :
    (bootstrapped idleTimeout attempts limits admin now account session).server.store.table.rows =
      [⟨account, admin.name, admin.email, admin.realName, true, UInt64.ofNat (now / 1000),
        .ofPassword admin.password, none⟩] := rfl

theorem inv_bootstrapped (idleTimeout : Nat) (attempts : Attempts) (limits : PageLimits)
    (admin : FirstAdmin) (now : Nat) (account : AccountId) (session : Uuid) :
    Inv (bootstrapped idleTimeout attempts limits admin now account session) where
  covers := by
    refine ⟨fun a ha => ?_, fun _ h => nomatch h⟩
    rw [rows_bootstrapped] at ha
    cases List.mem_singleton.1 ha
    exact Registry.issue_self
  sound _ _ h := nomatch h

theorem Begins.inv (h : Begins σ) : Inv σ := by
  cases h with
  | empty => exact inv_start ..
  | administered => exact inv_bootstrapped ..

theorem inv_step {a : ServiceStep} (h : Inv σ) (hs : σ.step a = some σ') : Inv σ' := by
  cases a with
  | arrive n r c =>
    obtain ⟨-, rfl⟩ := step_arrive hs
    refine ⟨h.covers, fun m o hm => ?_⟩
    rcases put_commands hm with ⟨-, rfl⟩ | ⟨-, hold⟩
    · exact ⟨h.covers.accounts, rfl⟩
    · exact h.sound m o hold
  | advance n account session hashing =>
    obtain ⟨o, o', server, hn, hfresh, hnext, rfl⟩ := step_advance hs
    have hg := Registry.grows_issue hfresh
    have hadds : ∀ admin, o.adds? = some admin →
        (σ.issued.issue account o.adds?) account = some admin := by
      intro admin hadmin
      rw [hadmin]
      exact Registry.issue_self
    have hkept := OpenCommand.kept_next ⟨h.sound n o hn, h.covers⟩ hg hadds (fun _ => rfl) hnext
    refine ⟨hkept.covers, fun m u hm => ?_⟩
    rcases put_commands hm with ⟨-, rfl⟩ | ⟨-, hold⟩
    · exact hkept.sound
    · exact (h.sound m u hold).mono hg
  | sweep now inUse =>
    cases Option.some.inj hs
    refine ⟨⟨h.covers.accounts, ?_⟩, h.sound⟩
    exact h.covers.sessions.follows h.covers.accounts (Sessions.follows_sweep _ _ _)

/-- What holds at first and is kept by every step holds after every schedule. -/
theorem run_induction {P : OpenService → Prop} {schedule : List ServiceStep} (hstart : P σ)
    (hstep : ∀ σ a σ', a ∈ schedule → P σ → σ.step a = some σ' → P σ')
    (h : σ.run schedule = some σ') : P σ' :=
  foldlM_induction hstart hstep h

theorem inv_run {schedule : List ServiceStep} (hstart : Inv σ) (h : σ.run schedule = some σ') :
    Inv σ' :=
  run_induction hstart (fun _ _ _ _ hinv hs => inv_step hinv hs) h

end OpenService

end AcctAdmin.Server
