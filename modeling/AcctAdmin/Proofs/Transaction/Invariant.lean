import AcctAdmin.Proofs.Transaction.Interleaving

/-!
# What every schedule keeps

The invariant of a store with open transactions, one lemma for each kind of step, and the induction
over schedules. The two properties that carry the results are that the version tells the committed
accounts (`Sound.current`) and that whoever has the writer's place keeps everybody else from
committing a change (`Inv.holder`, with `Transaction.mayCommit`).
-/

set_option autoImplicit false

namespace AcctAdmin.Server

/-! ## One transaction -/

/-- How an open transaction stands to the store. -/
structure OpenTransaction.Sound (t : OpenTransaction) (s : Store) : Prop where
  base_le : t.tx.base ≤ s.version
  /-- As long as the version is the one it began on, so are the accounts. -/
  current : t.tx.base = s.version → t.ground = s.table
  /-- Without the writer's place it has written nothing. -/
  reading : t.tx.writing = false → t.tx.table = t.ground ∧ t.writes = []
  /-- With it, it is up to date, and its table is that of the beginning with its writes made, under
  the edition that comes next. -/
  writing : t.tx.writing = true →
    t.tx.base = s.version ∧ s.writing = true ∧ t.writes ≠ [] ∧
      t.tx.table = ⟨s.version + 1, Write.replay t.writes t.ground.rows⟩

namespace OpenTransaction.Sound

variable {t : OpenTransaction} {s s' : Store} {tx' : Transaction} {w : Write}

theorem begin (s : Store) : Sound ⟨s.begin, s.table, []⟩ s where
  base_le := Nat.le_refl _
  current _ := rfl
  reading _ := ⟨rfl, rfl⟩
  writing h := absurd h (by simp [Store.begin])

/-- The writer's place changes hands without any transaction noticing that has not got it. -/
theorem of_same_table (h : t.Sound s) (ht : s'.table = s.table) (hv : s'.version = s.version)
    (hw : t.tx.writing = true → s'.writing = true) : t.Sound s' where
  base_le := hv ▸ h.base_le
  current hb := by rw [ht]; exact h.current (hv ▸ hb)
  reading := h.reading
  writing htw := by
    obtain ⟨hb, -, hne, htable⟩ := h.writing htw
    exact ⟨by rw [hv]; exact hb, hw htw, hne, by rw [hv]; exact htable⟩

theorem of_next_version (h : t.Sound s) (hv : s'.version = s.version + 1)
    (hw : t.tx.writing = false) : t.Sound s' where
  base_le := by
    rw [hv]
    exact Nat.le_succ_of_le h.base_le
  current hb := by
    rw [hv] at hb
    exact absurd hb (Nat.ne_of_lt (Nat.lt_succ_of_le h.base_le))
  reading := h.reading
  writing htw := absurd htw (by simp [hw])

theorem note (h : t.Sound s) (n : AuditNote) : Sound { t with tx := t.tx.note n } s :=
  ⟨h.base_le, h.current, h.reading, h.writing⟩

theorem modify (h : t.Sound s) (hok : t.tx.modify s w.rows = .ok (tx', s')) :
    s' = { s with writing := true } ∧ tx'.writing = true ∧
      (t.tx.writing = false → s.writing = false) ∧
      Sound { t with tx := tx', writes := t.writes ++ [w] } s' := by
  obtain ⟨held, hplace, rfl⟩ := Transaction.modify_ok hok
  rcases Transaction.takePlace_ok hplace with ⟨hw, rfl, rfl⟩ | ⟨hw, hfree, hb, rfl, rfl⟩
  · obtain ⟨hb, hs, -, htable⟩ := h.writing hw
    refine ⟨?_, hw, fun hnot => absurd hw (by simp [hnot]), ?_⟩
    · cases s'
      simp_all
    · refine ⟨h.base_le, h.current, fun hnot => absurd hw (by simp_all), fun _ => ?_⟩
      exact ⟨hb, hs, by simp, by simp [htable]⟩
  · obtain ⟨htable, hnone⟩ := h.reading hw
    refine ⟨rfl, rfl, fun _ => hfree, ?_⟩
    refine ⟨h.base_le, h.current, fun hnot => absurd hnot (by simp), fun _ => ?_⟩
    exact ⟨hb, rfl, by simp, by simp [htable, hnone]⟩

/-- **What a transaction publishes** is the committed accounts changed by its own writes, if it made
any. -/
theorem table_of_writing (h : t.Sound s) (hw : t.tx.writing = true) :
    t.ground = s.table ∧ t.tx.table.rows = Write.replay t.writes s.table.rows := by
  obtain ⟨hb, -, -, htable⟩ := h.writing hw
  have hground := h.current hb
  exact ⟨hground, by rw [htable, hground]⟩

theorem writing_iff (h : t.Sound s) : t.tx.writing = true ↔ t.writes ≠ [] := by
  constructor
  · exact fun hw => (h.writing hw).2.2.1
  · intro hne
    cases hw : t.tx.writing with
    | true => rfl
    | false => exact absurd (h.reading hw).2 hne

theorem not_writing (h : t.Sound s) (hnone : t.writes = []) : t.tx.writing = false := by
  rw [← Bool.not_eq_true, h.writing_iff]
  exact fun hne => hne hnone

end OpenTransaction.Sound

/-! ## All of them -/

namespace OpenStore

/-- Whether a table is the committed one or one that an open transaction began on. -/
def IsAround (σ : OpenStore) (table : Table) : Prop :=
  table = σ.store.table ∨ ∃ n t, σ.opened n = some t ∧ table = t.ground

/-- Editions name tables: of those that are around, no two share one, and none is from the
future. -/
structure Editions (around : Table → Prop) (version : Nat) : Prop where
  le : ∀ a, around a → a.edition ≤ version
  inj : ∀ a b, around a → around b → a.edition = b.edition → a = b

theorem Editions.mono {P Q : Table → Prop} {v v' : Nat} (h : Editions P v)
    (hsub : ∀ a, Q a → P a) (hv : v ≤ v') : Editions Q v' :=
  ⟨fun a ha => Nat.le_trans (h.le a (hsub a ha)) hv,
    fun a b ha hb => h.inj a b (hsub a ha) (hsub b hb)⟩

theorem Editions.add {P Q : Table → Prop} {v : Nat} (h : Editions P v) (new : Table)
    (hnew : new.edition = v + 1) (hsub : ∀ a, Q a → a = new ∨ P a) : Editions Q (v + 1) := by
  have hold : ∀ a, P a → a.edition ≠ v + 1 := fun a ha he => by
    have := h.le a ha
    omega
  refine ⟨fun a ha => ?_, fun a b ha hb he => ?_⟩
  · rcases hsub a ha with rfl | hp
    · omega
    · have := h.le a hp
      omega
  · rcases hsub a ha with rfl | hpa <;> rcases hsub b hb with rfl | hpb
    · rfl
    · exact absurd (he ▸ hnew) (hold b hpb)
    · exact absurd (he ▸ hnew) (hold a hpa)
    · exact h.inj a b hpa hpb he

structure Inv (σ : OpenStore) : Prop where
  sound : ∀ n t, σ.opened n = some t → t.Sound σ.store
  /-- One transaction at most has the writer's place. -/
  holder : ∀ n m t u, σ.opened n = some t → σ.opened m = some u →
    t.tx.writing = true → u.tx.writing = true → n = m
  /-- The place is never taken by nobody. -/
  held : σ.store.writing = true → ∃ n t, σ.opened n = some t ∧ t.tx.writing = true
  editions : Editions σ.IsAround σ.store.version

variable {σ σ' : OpenStore} {n : Nat}

/-- Whoever has the writer's place has taken it from everybody else. -/
theorem Inv.taken {t u : OpenTransaction} {m : Nat} (h : Inv σ) (hn : σ.opened n = some t)
    (hu : σ.opened m = some u) (hm : m ≠ n) (huw : u.tx.writing = true) :
    σ.store.writing = true ∧ t.tx.writing = false := by
  refine ⟨((h.sound m u hu).writing huw).2.1, ?_⟩
  cases htw : t.tx.writing with
  | true => exact absurd (h.holder m n u t hu hn huw htw) hm
  | false => rfl

theorem inv_start : Inv start where
  sound n t h := absurd h (by simp [start])
  holder n m t u h := absurd h (by simp [start])
  held h := absurd h (by simp [start, Store.empty])
  editions := by
    have hzero : ∀ a, start.IsAround a → a = ⟨0, []⟩ := by
      rintro a (rfl | ⟨n, t, h, -⟩)
      · rfl
      · exact absurd h (by simp [start])
    exact ⟨fun a ha => by simp [hzero a ha], fun a b ha hb _ => by rw [hzero a ha, hzero b hb]⟩

theorem inv_begin (h : Inv σ) (hs : σ.step (.begin n) = some σ') : Inv σ' := by
  obtain ⟨hn, rfl⟩ := step_begin hs
  refine ⟨fun m t ht => ?_, fun m k t u ht hu htw huw => ?_, fun hw => ?_, ?_⟩
  · rcases put_some ht with ⟨-, rfl⟩ | ⟨-, hold⟩
    · exact .begin σ.store
    · exact h.sound m t hold
  · rcases put_some ht with ⟨-, rfl⟩ | ⟨-, ht⟩
    · exact absurd htw (by simp [Store.begin])
    · rcases put_some hu with ⟨-, rfl⟩ | ⟨-, hu⟩
      · exact absurd huw (by simp [Store.begin])
      · exact h.holder m k t u ht hu htw huw
  · obtain ⟨m, t, ht, htw⟩ := h.held hw
    have hmn : m ≠ n := fun he => by simp [he, hn] at ht
    exact ⟨m, t, by simpa [hmn] using ht, htw⟩
  · refine h.editions.mono (fun a ha => ?_) (Nat.le_refl _)
    rcases ha with rfl | ⟨m, t, ht, rfl⟩
    · exact .inl rfl
    · rcases put_some ht with ⟨-, rfl⟩ | ⟨-, hold⟩
      · exact .inl rfl
      · exact .inr ⟨m, t, hold, rfl⟩

/-- A transaction that changes without touching the committed accounts keeps the invariant, if it
stays sound and the writer's place is where the transactions say it is. -/
theorem Inv.put {t t' : OpenTransaction} {s : Store} (h : Inv σ) (hn : σ.opened n = some t)
    (htable : s.table = σ.store.table) (hversion : s.version = σ.store.version)
    (hground : t'.ground = t.ground) (hsound : t'.Sound s)
    (hplace : ∀ m u, m ≠ n → σ.opened m = some u → u.tx.writing = true →
      s.writing = true ∧ t'.tx.writing = false)
    (hheld : s.writing = true → t'.tx.writing = true ∨ σ.store.writing = true)
    (hkeep : t.tx.writing = true → t'.tx.writing = true) :
    Inv ({ σ with store := s }.put n (some t')) := by
  refine ⟨fun m u hu => ?_, fun m k u v hu hv huw hvw => ?_, fun hw => ?_, ?_⟩
  · rcases put_some hu with ⟨-, rfl⟩ | ⟨hm, hu⟩
    · exact hsound
    · exact (h.sound m u hu).of_same_table htable hversion fun huw => (hplace m u hm hu huw).1
  · rcases put_some hu with ⟨hm, rfl⟩ | ⟨hm, holdu⟩ <;>
      rcases put_some hv with ⟨hk, rfl⟩ | ⟨hk, holdv⟩
    · rw [hm, hk]
    · exact absurd huw (by simp [(hplace k v hk holdv hvw).2])
    · exact absurd hvw (by simp [(hplace m u hm holdu huw).2])
    · exact h.holder m k u v holdu holdv huw hvw
  · rcases hheld hw with ht' | hs
    · exact ⟨n, t', by simp, ht'⟩
    · obtain ⟨m, u, hu, huw⟩ := h.held hs
      by_cases hm : m = n
      · subst hm
        obtain rfl := Option.some.inj (hn.symm.trans hu)
        exact ⟨m, t', by simp, hkeep huw⟩
      · exact ⟨m, u, by simpa [hm] using hu, huw⟩
  · refine h.editions.mono (fun a ha => ?_) (Nat.le_of_eq hversion.symm)
    rcases ha with rfl | ⟨m, u, hu, rfl⟩
    · exact .inl htable
    · rcases put_some hu with ⟨-, rfl⟩ | ⟨-, hold⟩
      · exact .inr ⟨n, t, hn, hground⟩
      · exact .inr ⟨m, u, hold, rfl⟩

theorem inv_write {w : Write} (h : Inv σ) (hs : σ.step (.write n w) = some σ') : Inv σ' := by
  rcases step_write hs with rfl | ⟨t, tx, store, hn, -, hok, rfl⟩
  · exact h
  · obtain ⟨rfl, hw, hfree, hsound⟩ := (h.sound n t hn).modify hok
    refine h.put hn rfl rfl rfl hsound (fun m u hm hu huw => ?_) (fun _ => .inl hw) (fun _ => hw)
    -- somebody else with the place: then it was not free, and not this transaction's either
    obtain ⟨htaken, htw⟩ := h.taken hn hu hm huw
    exact absurd htaken (by simp [hfree htw])

theorem inv_note {note : AuditNote} (h : Inv σ) (hs : σ.step (.note n note) = some σ') :
    Inv σ' := by
  obtain ⟨t, hn, rfl⟩ := step_note hs
  refine h.put hn rfl rfl rfl ((h.sound n t hn).note note) (fun m u hm hu huw => ?_) .inr id
  have htaken := h.taken hn hu hm huw
  exact htaken

/-- Taking a transaction away keeps the invariant, if the others stay sound, the writer's place goes
with it, and the table that is now committed is an old one or the next. -/
theorem Inv.remove {t : OpenTransaction} {s : Store} {committed : List OpenTransaction}
    (h : Inv σ) (hn : σ.opened n = some t)
    (hsound : ∀ m u, m ≠ n → σ.opened m = some u → u.Sound s)
    (hwriting : s.writing = (σ.store.writing && !t.tx.writing))
    (heditions : Editions (fun a => a = s.table ∨ σ.IsAround a) s.version) :
    Inv ({ σ with store := s, committed := committed }.put n none) := by
  refine ⟨fun m u hu => ?_, fun m k u v hu hv huw hvw => ?_, fun hw => ?_, ?_⟩
  · obtain ⟨hm, hold⟩ := put_none hu
    exact hsound m u hm hold
  · exact h.holder m k u v (put_none hu).2 (put_none hv).2 huw hvw
  · simp only [put_store, hwriting, Bool.and_eq_true, Bool.not_eq_true'] at hw
    obtain ⟨m, u, hu, huw⟩ := h.held hw.1
    have hm : m ≠ n := by
      rintro rfl
      obtain rfl := Option.some.inj (hn.symm.trans hu)
      exact absurd huw (by simp [hw.2])
    exact ⟨m, u, by simpa [hm] using hu, huw⟩
  · refine heditions.mono (fun a ha => ?_) (Nat.le_refl _)
    rcases ha with rfl | ⟨m, u, hu, rfl⟩
    · exact .inl rfl
    · exact .inr (.inr ⟨m, u, (put_none hu).2, rfl⟩)

theorem inv_commit (h : Inv σ) (hs : σ.step (.commit n) = some σ') : Inv σ' := by
  obtain ⟨t, hn, hmay, rfl⟩ := step_commit hs
  have hsound := h.sound n t hn
  have hwriting : (t.tx.commit σ.store).writing = (σ.store.writing && !t.tx.writing) := by
    rw [Transaction.commit_eq]
  cases hpub : t.tx.publishes σ.store with
  | false =>
    obtain ⟨htable, hversion⟩ := Transaction.commit_of_not_publishes hpub
    refine h.remove hn (fun m u hm hu => ?_) hwriting ?_
    · refine (h.sound m u hu).of_same_table htable hversion fun huw => ?_
      obtain ⟨htaken, htw⟩ := h.taken hn hu hm huw
      rw [hwriting, htaken, htw]
      rfl
    · refine h.editions.mono (fun a ha => ?_) (Nat.le_of_eq hversion.symm)
      rcases ha with rfl | ha
      · exact .inl htable
      · exact ha
  | true =>
    obtain ⟨htable, hversion⟩ := Transaction.commit_of_publishes hpub
    refine h.remove hn (fun m u hm hu => ?_) hwriting ?_
    · refine (h.sound m u hu).of_next_version hversion ?_
      -- a change is committed in the writer's place, so nobody else is in it
      cases huw : u.tx.writing with
      | false => rfl
      | true =>
        obtain ⟨htaken, htw⟩ := h.taken hn hu hm huw
        simp [Transaction.mayCommit, htaken, htw, Transaction.publishes] at hmay hpub
        exact absurd hmay hpub.1
    · rw [hversion]
      cases htw : t.tx.writing with
      | true =>
        obtain ⟨-, -, -, hnew⟩ := hsound.writing htw
        refine h.editions.add t.tx.table (by rw [hnew]) fun a ha => ?_
        rcases ha with rfl | ha
        · exact .inl htable
        · exact .inr ha
      | false =>
        -- a commit without the place brings a table back that is around already
        refine h.editions.mono (fun a ha => ?_) (Nat.le_succ _)
        rcases ha with rfl | ha
        · exact .inr ⟨n, t, hn, htable.trans (hsound.reading htw).1⟩
        · exact ha

theorem inv_drop (h : Inv σ) (hs : σ.step (.drop n) = some σ') : Inv σ' := by
  obtain ⟨t, hn, rfl⟩ := step_drop hs
  refine h.remove hn (fun m u hm hu => ?_) rfl ?_
  · refine (h.sound m u hu).of_same_table rfl rfl fun huw => ?_
    obtain ⟨htaken, htw⟩ := h.taken hn hu hm huw
    simp [Transaction.drop, htaken, htw]
  · refine h.editions.mono (fun a ha => ?_) (Nat.le_refl _)
    rcases ha with rfl | ha
    · exact .inl rfl
    · exact ha

theorem inv_step {a : StoreStep} (h : Inv σ) (hs : σ.step a = some σ') : Inv σ' := by
  cases a with
  | begin n => exact inv_begin h hs
  | write n w => exact inv_write h hs
  | note n note => exact inv_note h hs
  | commit n => exact inv_commit h hs
  | drop n => exact inv_drop h hs

/-- What holds at the start and is kept by every step holds after every schedule. -/
theorem run_induction {P : List StoreStep → OpenStore → Prop} (hstart : P [] start)
    (hstep : ∀ earlier σ a σ', run earlier = some σ → P earlier σ → σ.step a = some σ' →
      P (earlier ++ [a]) σ') {schedule : List StoreStep} (h : run schedule = some σ) :
    P schedule σ := by
  suffices hall : ∀ (rest earlier : List StoreStep) (τ : OpenStore), run earlier = some τ →
      P earlier τ → rest.foldlM step τ = some σ → P (earlier ++ rest) σ from
    hall schedule [] start rfl hstart h
  -- by induction on the rest of the schedule, from wherever the steps before it have led
  intro rest
  induction rest with
  | nil =>
    intro earlier τ _ hτ hrun
    rw [List.foldlM_nil] at hrun
    obtain rfl := Option.some.inj hrun
    rw [List.append_nil]
    exact hτ
  | cons a rest ih =>
    intro earlier τ hearlier hτ hrun
    rw [List.foldlM_cons] at hrun
    obtain ⟨τ', hone, hrest⟩ := Option.bind_eq_some_iff.1 hrun
    have hτ' := hstep earlier τ a τ' hearlier hτ hone
    have hnext : run (earlier ++ [a]) = some τ' := by rw [run_snoc, hearlier]; exact hone
    have := ih (earlier ++ [a]) τ' hnext hτ' hrest
    rwa [List.append_assoc] at this

theorem inv_run {schedule : List StoreStep} (h : run schedule = some σ) : Inv σ :=
  run_induction inv_start (fun _ _ _ _ _ hinv hs => inv_step hinv hs) h

/-! ## What a step does to what is committed -/

variable {t : OpenTransaction}

theorem commit_step_eq (hs : σ.step (.commit n) = some σ') (hn : σ.opened n = some t) :
    σ'.store = t.tx.commit σ.store ∧ σ'.committed = σ.committed ++ [t] := by
  obtain ⟨u, hu, -, rfl⟩ := step_commit hs
  obtain rfl := Option.some.inj (hn.symm.trans hu)
  exact ⟨rfl, rfl⟩

/-- A transaction that wrote publishes its table. -/
theorem publishes_of_writes (h : Inv σ) (hn : σ.opened n = some t) (hne : t.writes ≠ []) :
    t.tx.publishes σ.store = true := by
  have hsound := h.sound n t hn
  have hw := hsound.writing_iff.2 hne
  obtain ⟨-, -, -, htable⟩ := hsound.writing hw
  -- its table has the edition that comes next, and the committed one cannot have it
  have hle := h.editions.le σ.store.table (.inl rfl)
  have hother : σ.store.table.edition ≠ t.tx.table.edition := by
    rw [htable]
    exact Nat.ne_of_lt (Nat.lt_succ_of_le hle)
  simp [Transaction.publishes, hw, hother]

/-- One that did not publishes the table it began on if it has notes and that table is no longer
the committed one. -/
theorem publishes_iff_of_no_writes (h : Inv σ) (hn : σ.opened n = some t) (hnone : t.writes = []) :
    t.tx.publishes σ.store = true ↔ t.tx.notes ≠ [] ∧ t.ground ≠ σ.store.table := by
  have hsound := h.sound n t hn
  have hw := hsound.not_writing hnone
  have hedition : σ.store.table.edition = t.ground.edition ↔ t.ground = σ.store.table :=
    ⟨fun he => (h.editions.inj _ _ (.inl rfl) (.inr ⟨n, t, hn, rfl⟩) he).symm, fun he => by rw [he]⟩
  simp [Transaction.publishes, hw, (hsound.reading hw).1, hedition]

/-- The commit of a transaction that wrote applies its writes to what is committed. -/
theorem commit_of_writes (h : Inv σ) (hs : σ.step (.commit n) = some σ')
    (hn : σ.opened n = some t) (hne : t.writes ≠ []) :
    σ'.store.table.rows = Write.replay t.writes σ.store.table.rows := by
  have hsound := h.sound n t hn
  obtain ⟨htable, -⟩ := Transaction.commit_of_publishes (publishes_of_writes h hn hne)
  rw [(commit_step_eq hs hn).1, htable]
  exact (hsound.table_of_writing (hsound.writing_iff.2 hne)).2

/-- The commit of one that did not leaves accounts and version alone, if it is not stale. -/
theorem commit_of_not_stale (h : Inv σ) (hs : σ.step (.commit n) = some σ')
    (hn : σ.opened n = some t) (hnone : t.writes = [])
    (hfresh : t.tx.notes = [] ∨ t.ground = σ.store.table) :
    σ'.store.table = σ.store.table ∧ σ'.store.version = σ.store.version := by
  have hpub : t.tx.publishes σ.store = false := by
    rw [← Bool.not_eq_true, publishes_iff_of_no_writes h hn hnone]
    exact fun ⟨hnotes, hground⟩ => hfresh.elim hnotes hground
  rw [(commit_step_eq hs hn).1]
  exact Transaction.commit_of_not_publishes hpub

/-- A stale commit undoes every change since its transaction began. -/
theorem commit_of_stale (h : Inv σ) (hs : σ.step (.commit n) = some σ')
    (hn : σ.opened n = some t) (hnone : t.writes = []) (hnotes : t.tx.notes ≠ [])
    (hground : t.ground ≠ σ.store.table) :
    σ'.store.table = t.ground ∧ σ'.store.version = σ.store.version + 1 := by
  have hpub := (publishes_iff_of_no_writes h hn hnone).2 ⟨hnotes, hground⟩
  have hsound := h.sound n t hn
  have hw := hsound.not_writing hnone
  obtain ⟨htable, hversion⟩ := Transaction.commit_of_publishes hpub
  rw [(commit_step_eq hs hn).1]
  exact ⟨htable.trans (hsound.reading hw).1, hversion⟩

/-- Nothing but a commit changes what is committed. -/
theorem step_of_not_commit {a : StoreStep} (h : Inv σ) (hs : σ.step a = some σ')
    (hnot : ∀ n, a ≠ .commit n) :
    σ'.store.table = σ.store.table ∧ σ'.committed = σ.committed := by
  cases a with
  | begin n =>
    obtain ⟨-, rfl⟩ := step_begin hs
    exact ⟨rfl, rfl⟩
  | write n w =>
    rcases step_write hs with rfl | ⟨t, tx, store, hn, -, hok, rfl⟩
    · exact ⟨rfl, rfl⟩
    · obtain ⟨rfl, -⟩ := (h.sound n t hn).modify hok
      exact ⟨rfl, rfl⟩
  | note n note =>
    obtain ⟨t, -, rfl⟩ := step_note hs
    exact ⟨rfl, rfl⟩
  | commit n => exact absurd rfl (hnot n)
  | drop n =>
    obtain ⟨t, -, rfl⟩ := step_drop hs
    exact ⟨rfl, rfl⟩

end OpenStore

end AcctAdmin.Server
