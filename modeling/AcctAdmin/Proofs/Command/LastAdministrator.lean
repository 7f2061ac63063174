import AcctAdmin.Proofs.Command.Invariant

/-!
# Nobody is locked out

A server that begins with an administrator always has one who can log in. No command takes this away
by itself, because whoever gives it is such an administrator and spares their own account; and what
is committed never mixes what several commands made. So the argument needs no more than the accounts
that an attempt began on: what it commits is as good as these were.

Bans only lapse with time. An account that is not banned when a command is given is not banned
later either, unless somebody bans it.
-/

set_option autoImplicit false

namespace AcctAdmin.Server

open AcctAdmin.Protocol

/-- Whether there is an administrator who is not banned at a time. -/
def Usable (rows : List Account) (t : UInt64) : Prop :=
  ∃ a ∈ rows, a.admin = true ∧ a.activeBan? t = none

theorem activeBan?_eq_none {a : Account} {t : UInt64} :
    a.activeBan? t = none ↔ ∀ ban, a.ban = some ban → ban.activeAt t = false := by
  unfold Account.activeBan?
  cases a.ban <;> simp [Option.filter]

theorem activeAt_of_le {ban : Ban} {t t' : UInt64} (hle : t ≤ t') (h : ban.activeAt t = false) :
    ban.activeAt t' = false := by
  unfold Ban.activeAt at h ⊢
  cases hexpires : ban.expires with
  | none => simp [hexpires] at h
  | some expires =>
    simp only [hexpires, decide_eq_false_iff_not, UInt64.not_lt] at h ⊢
    exact UInt64.le_trans h hle

theorem activeBan?_of_le {a : Account} {t t' : UInt64} (hle : t ≤ t') (h : a.activeBan? t = none) :
    a.activeBan? t' = none := by
  rw [activeBan?_eq_none] at h ⊢
  intro ban hban
  exact activeAt_of_le hle (h ban hban)

namespace Write

variable {w : Write} {writes : List Write} {rows : List Account} {a : Account} {t : UInt64}

/-- An account that a write spares is there after it, with its rights and no new ban. -/
theorem Spares.keeps (h : w.Spares a.id) (ha : a ∈ rows) (hban : a.activeBan? t = none) :
    ∃ b ∈ w.rows rows, b.id = a.id ∧ b.admin = a.admin ∧ b.activeBan? t = none := by
  cases w with
  | insert new => exact ⟨a, List.mem_append_left _ ha, rfl, rfl, hban⟩
  | delete id =>
    refine ⟨a, List.mem_filter.2 ⟨ha, ?_⟩, rfl, rfl, hban⟩
    simpa using Ne.symm h
  | setBan id ban =>
    refine ⟨_, List.mem_map.2 ⟨a, ha, rfl⟩, ?_⟩
    rcases h with hother | rfl
    · rw [if_neg (Ne.symm hother)]
      exact ⟨rfl, rfl, hban⟩
    · split
      · exact ⟨rfl, rfl, activeBan?_eq_none.2 fun _ h => nomatch h⟩
      · exact ⟨rfl, rfl, hban⟩

theorem usable_replay (hspares : ∀ w ∈ writes, w.Spares a.id) (ha : a ∈ rows)
    (hadmin : a.admin = true) (hban : a.activeBan? t = none) : Usable (replay writes rows) t := by
  -- the account may be another one after each write, but keeps its identifier
  induction writes generalizing a rows with
  | nil => exact ⟨a, ha, hadmin, hban⟩
  | cons w rest ih =>
    obtain ⟨b, hb, hid, hsame, hfree⟩ := (hspares w List.mem_cons_self).keeps ha hban
    refine ih (fun v hv => ?_) hb (hsame.trans hadmin) hfree
    rw [hid]
    exact hspares v (List.mem_cons_of_mem w hv)

end Write

namespace OpenCommand

variable {o o' : OpenCommand} {server server' : Service} {draw : Draw} {rows : List Account}
  {t : UInt64}

/-- What an attempt commits has an administrator, if what it began on has one. -/
theorem Makes.usable (h : o.Makes rows) (hground : Usable o.ground t)
    (ht : o.request.seconds ≤ t) : Usable rows t := by
  obtain ⟨writes, rfl, rfl | ⟨a, ha, hadmin, hban, hspares⟩⟩ := h
  · exact hground
  · exact Write.usable_replay hspares ha hadmin (activeBan?_of_le ht hban)

/-! ## What one step commits -/

/-- What a step does to what is committed, and to what the command began on. -/
structure Effect (o : OpenCommand) (server : Service) (o' : OpenCommand) (server' : Service) :
    Prop where
  request : o'.request = o.request
  committed : o.committed = true → o'.committed = true
  ground : o'.ground = o.ground ∨ o'.ground = server.store.table.rows
  table : server'.store.table = server.store.table ∨
    ∃ reply tx effects, o.stage = .worked (.ok reply) tx effects ∧ o'.committed = true ∧
      server'.store.table = tx.table

theorem effect_next (hquiet : ∀ s, draw.meanwhile s = s)
    (hs : o.next server draw = some (o', server')) : Effect o server o' server' := by
  cases advances_of_next hs with
  | @identified tx caller desk hst hrun =>
    have hdesk : Desk.Reads tx.table.rows (server.desk tx) desk :=
      (Handling.leads_identify _ _).of_outcome hrun
    have hopen : ¬ o.committed = true := by simp [committed, hst]
    exact ⟨rfl, fun h => absurd h hopen, .inl rfl, .inl hdesk.follows.committed⟩
  | @unidentified tx halt desk hst hrun =>
    have hdesk : Desk.Reads tx.table.rows (server.desk tx) desk :=
      (Handling.leads_identify _ _).of_outcome hrun
    have hopen : ¬ o.committed = true := by simp [committed, hst]
    exact ⟨rfl, fun h => absurd h hopen, .inl rfl, .inl hdesk.follows.committed⟩
  | worked hst hrun =>
    have hdesk := (Handling.leads_carryOut server.limits hquiet o.command).of_outcome hrun
    have hopen : ¬ o.committed = true := by
      rcases hst with ⟨hst, -⟩ | ⟨found, hst, -⟩ <;> simp [committed, hst]
    exact ⟨rfl, fun h => absurd h hopen, .inl rfl, .inl hdesk.committed⟩
  | @committed reply tx effects hst =>
    refine ⟨rfl, fun _ => rfl, .inl rfl, ?_⟩
    rcases tx.commit_table (s := server.store) with hsame | hnew
    · exact .inl hsame
    · exact .inr ⟨reply, tx, effects, hst, rfl, hnew⟩
  | dropped hst =>
    have hopen : ¬ o.committed = true := by simp [committed, hst]
    exact ⟨rfl, fun h => absurd h hopen, .inl rfl, .inl rfl⟩
  | again hst =>
    -- what has committed is not tried again
    have hopen : ¬ o.committed = true := by simp [committed, hst]
    exact ⟨rfl, fun h => absurd h hopen, .inr rfl, .inl rfl⟩
  | @answered outcome effects hst =>
    cases outcome with
    | ok reply => exact ⟨rfl, fun _ => rfl, .inl rfl, .inl rfl⟩
    | error halt =>
      have hopen : ¬ o.committed = true := by simp [committed, hst]
      exact ⟨rfl, fun h => absurd h hopen, .inl rfl, .inl rfl⟩

end OpenCommand

/-! ## Every schedule -/

namespace OpenService

variable {σ σ' : OpenService} {t : UInt64}

/-- Whether no command that has committed was given after a time. -/
def Settled (σ : OpenService) (t : UInt64) : Prop :=
  ∀ n o, σ.commands n = some o → o.committed = true → o.request.seconds ≤ t

/-- Whether there is a usable administrator in the committed accounts, and was one in all that
attempts began on, as far as times are concerned that commands have reached. -/
structure Administered (σ : OpenService) : Prop where
  inv : Inv σ
  committed : ∀ t, σ.Settled t → Usable σ.server.store.table.rows t
  grounds : ∀ t, σ.Settled t → ∀ n o, σ.commands n = some o → Usable o.ground t

theorem administered_bootstrapped (idleTimeout : Nat) (attempts : Attempts) (limits : PageLimits)
    (admin : FirstAdmin) (now : Nat) (account : AccountId) (session : Uuid) :
    Administered (bootstrapped idleTimeout attempts limits admin now account session) where
  inv := inv_bootstrapped ..
  committed t _ := by
    rw [rows_bootstrapped]
    exact ⟨_, List.mem_singleton.2 rfl, rfl, rfl⟩
  grounds _ _ _ _ h := nomatch h

theorem Settled.of_put {o o' : OpenCommand} {n : Nat} (ht : (σ.put n o').Settled t)
    (hn : σ.commands n = some o) (hrequest : o'.request = o.request)
    (hcommitted : o.committed = true → o'.committed = true) : σ.Settled t := by
  intro m u hm hu
  by_cases hmn : m = n
  · rw [hmn, hn] at hm
    cases hm
    rw [← hrequest]
    exact ht n o' (by simp [put]) (hcommitted hu)
  · exact ht m u (by simp [put, hmn, hm]) hu

theorem administered_step {a : ServiceStep} (h : Administered σ) (hs : σ.step a = some σ') :
    Administered σ' := by
  have hinv := inv_step h.inv hs
  cases a with
  | arrive n r c =>
    obtain ⟨hnone, rfl⟩ := step_arrive hs
    have hbefore : ∀ t, (σ.put n (.arrive r c σ.server)).Settled t → σ.Settled t := by
      intro t ht m u hm hu
      have hmn : m ≠ n := fun heq => by simp [heq, hnone] at hm
      exact ht m u (by simp [put, hmn, hm]) hu
    refine ⟨hinv, fun t ht => h.committed t (hbefore t ht), fun t ht m u hm => ?_⟩
    rcases put_commands hm with ⟨-, rfl⟩ | ⟨-, hold⟩
    · exact h.committed t (hbefore t ht)
    · exact h.grounds t (hbefore t ht) m u hold
  | advance n account session hashing =>
    obtain ⟨o, o', server, hn, hfresh, hnext, rfl⟩ := step_advance hs
    have heffect := OpenCommand.effect_next (fun _ => rfl) hnext
    have hbefore : ∀ t, OpenService.Settled _ t → σ.Settled t :=
      fun t ht => Settled.of_put ht hn heffect.request heffect.committed
    refine ⟨hinv, fun t ht => ?_, fun t ht m u hm => ?_⟩
    · rcases heffect.table with hsame | ⟨reply, tx, effects, hst, hdone, hnew⟩
      · show Usable server.store.table.rows t
        rw [hsame]
        exact h.committed t (hbefore t ht)
      · have hstage := (h.inv.sound n o hn).stage
        rw [hst] at hstage
        -- the command that commits was given by now
        have hnow : o.request.seconds ≤ t := by
          rw [← heffect.request]
          exact ht n o' (by simp [put]) hdone
        show Usable server.store.table.rows t
        rw [hnew]
        exact hstage.2.1.usable (h.grounds t (hbefore t ht) n o hn) hnow
    · rcases put_commands hm with ⟨-, rfl⟩ | ⟨-, hold⟩
      · rcases heffect.ground with hsame | hnew
        · rw [hsame]
          exact h.grounds t (hbefore t ht) n o hn
        · rw [hnew]
          exact h.committed t (hbefore t ht)
      · exact h.grounds t (hbefore t ht) m u hold
  | sweep now inUse =>
    cases Option.some.inj hs
    exact ⟨hinv, h.committed, h.grounds⟩

/-- **Nobody is locked out.** A server that began with its first administrator has one who is not
banned, in whatever order the steps of any commands are taken, at any time that is not before that
of a command whose transaction has committed. -/
theorem administrator_remains {idleTimeout : Nat} {attempts : Attempts} {limits : PageLimits}
    {admin : FirstAdmin} {now : Nat} {account : AccountId} {session : Uuid}
    {schedule : List ServiceStep}
    (hrun : (bootstrapped idleTimeout attempts limits admin now account session).run schedule =
      some σ)
    (ht : σ.Settled t) :
    ∃ a ∈ σ.server.store.table.rows, a.admin = true ∧ a.activeBan? t = none :=
  (run_induction (administered_bootstrapped ..) (fun _ _ _ _ h hs => administered_step h hs)
    hrun).committed t ht

/-- Two administrators delete each other at once. The one who comes late finds that their own
account is gone. -/
def rivals : List ServiceStep :=
  let ada : AccountId := ⟨⟨2⟩⟩
  let adasKey : SessionKey := ⟨ada, ⟨20⟩⟩
  let advance n := ServiceStep.advance n ada ⟨20⟩ .made
  sampleLogin ++
    [.arrive 1 (sampleRequest (some sampleKey))
        (.userCreate ⟨"ada", "ada@example.org", "Ada", "lovelace1815", true⟩),
      advance 1, advance 1, advance 1, advance 1,
      .arrive 2 (sampleRequest none) (.login ⟨"ada", "lovelace1815"⟩),
      advance 2, advance 2, advance 2,
      .arrive 3 (sampleRequest (some sampleKey)) (.userDelete ada),
      .arrive 4 (sampleRequest (some adasKey)) (.userDelete sampleAdmin),
      advance 3, advance 4, advance 3, advance 3, advance 4, advance 4, advance 4, advance 4,
      advance 4, advance 4, advance 3]

def arrivesBy (t : UInt64) : ServiceStep → Bool
  | .arrive _ r _ => r.seconds ≤ t
  | _ => true

theorem settled_of_arrivesBy {schedule : List ServiceStep} (hstart : ∀ n, σ.commands n = none)
    (hby : schedule.all (arrivesBy t) = true) (hrun : σ.run schedule = some σ') : σ'.Settled t := by
  have hall : ∀ n o, σ'.commands n = some o → o.request.seconds ≤ t := by
    refine run_induction (P := fun σ => ∀ n o, σ.commands n = some o → o.request.seconds ≤ t)
      (fun n o hn => by simp [hstart] at hn) ?_ hrun
    intro σ a σ' ha h hs m u hm
    have ha := List.all_eq_true.1 hby a ha
    cases a with
    | arrive n r c =>
      obtain ⟨-, rfl⟩ := step_arrive hs
      rcases put_commands hm with ⟨-, rfl⟩ | ⟨-, hold⟩
      · show r.seconds ≤ t
        simpa [arrivesBy] using ha
      · exact h m u hold
    | advance n account session hashing =>
      obtain ⟨o, o', server, hn, -, hnext, rfl⟩ := step_advance hs
      rcases put_commands hm with ⟨-, rfl⟩ | ⟨-, hold⟩
      · rw [(OpenCommand.effect_next (fun _ => rfl) hnext).request]
        exact h n o hn
      · exact h m u hold
    | sweep now inUse =>
      cases Option.some.inj hs
      exact h m u hm
  exact fun n o hn _ => hall n o hn

theorem rivals_leave_one :
    ∃ σ, sample.run rivals = some σ ∧ σ.Settled 5 ∧
      σ.server.store.table.rows.map (·.name) = ["root"] ∧
      ∃ a ∈ σ.server.store.table.rows, a.admin = true ∧ a.activeBan? 5 = none := by
  have hrun : ∃ σ, sample.run rivals = some σ ∧
      σ.server.store.table.rows.map (·.name) = ["root"] := ⟨_, rfl, rfl⟩
  obtain ⟨σ, hσ, hnames⟩ := hrun
  have hsettled : σ.Settled 5 := settled_of_arrivesBy (fun _ => rfl) (by decide) hσ
  exact ⟨σ, hσ, hsettled, hnames, administrator_remains hσ hsettled⟩

end OpenService

end AcctAdmin.Server
