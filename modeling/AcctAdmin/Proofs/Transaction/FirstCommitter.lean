import AcctAdmin.Proofs.Transaction.Invariant

/-!
# The first committer wins

What the writer's place is good for: whoever has it writes on top of what is committed, and whoever
comes to it after somebody else's change is turned away. Both rest on the version number alone, and
hold whatever the commits in between were for.
-/

set_option autoImplicit false

namespace AcctAdmin.Server

namespace OpenStore

variable {σ : OpenStore} {n : Nat} {t : OpenTransaction} {schedule : List StoreStep}

theorem Inv.writing_iff (h : Inv σ) :
    σ.store.writing = true ↔ ∃ n t, σ.opened n = some t ∧ t.tx.writing = true := by
  constructor
  · exact h.held
  · rintro ⟨n, t, hn, hw⟩
    exact ((h.sound n t hn).writing hw).2.1

theorem commit_step_of_writing (hn : σ.opened n = some t) (hw : t.tx.writing = true) :
    ∃ σ', σ.step (.commit n) = some σ' := by
  simp [step, hn, Transaction.mayCommit, hw]

/-- A late write is turned away, at once or when the place is free, and nothing comes of it. -/
theorem write_of_late {w : Write} (h : Inv σ) (hn : σ.opened n = some t)
    (heffect : w.hasEffect t.tx = true) (hlate : t.tx.base ≠ σ.store.version) :
    w.attempt t.tx σ.store = .error .conflict ∧
      σ.step (.write n w) = if σ.store.writing then none else some σ := by
  have hw : t.tx.writing = false := by
    cases hw : t.tx.writing with
    | false => rfl
    | true => exact absurd ((h.sound n t hn).writing hw).1 hlate
  have hrefused : w.attempt t.tx σ.store = .error .conflict := by
    rw [Write.attempt_eq_modify σ.store heffect]
    exact Transaction.modify_of_late hw hlate
  refine ⟨hrefused, ?_⟩
  cases hs : σ.store.writing <;>
    simp [step, hn, heffect, hrefused, Transaction.mayWrite, hw, hs]

/-- **The first committer wins.** One open transaction at most has the writer's place. From its
first write on, a transaction has it, what is committed is what it began on, and what it publishes
is that with its own writes made. A write that comes after somebody else's change is refused with
the code of a serialization failure and leaves everything as it was, at once or after waiting for
the place. -/
theorem first_committer_wins (h : run schedule = some σ) :
    (σ.store.writing = true ↔ ∃ n t, σ.opened n = some t ∧ t.tx.writing = true) ∧
    (∀ n m t u, σ.opened n = some t → σ.opened m = some u →
      t.tx.writing = true → u.tx.writing = true → n = m) ∧
    (∀ n t, σ.opened n = some t → t.writes ≠ [] →
      t.tx.writing = true ∧ σ.store.table = t.ground ∧
        t.tx.table.rows = Write.replay t.writes σ.store.table.rows ∧
        ∃ σ', σ.step (.commit n) = some σ' ∧ σ'.store.table = t.tx.table) ∧
    (∀ n t w, σ.opened n = some t → w.hasEffect t.tx = true → t.tx.base ≠ σ.store.version →
      (∃ e, w.attempt t.tx σ.store = .error e ∧ e.code = "40001") ∧
        σ.step (.write n w) = if σ.store.writing then none else some σ) := by
  have hinv := inv_run h
  refine ⟨hinv.writing_iff, hinv.holder, fun n t hn hne => ?_, fun n t w hn heffect hlate => ?_⟩
  · have hsound := hinv.sound n t hn
    have hw := hsound.writing_iff.2 hne
    obtain ⟨hground, hrows⟩ := hsound.table_of_writing hw
    obtain ⟨σ', hs⟩ := commit_step_of_writing hn hw
    obtain ⟨htable, -⟩ := Transaction.commit_of_publishes (publishes_of_writes hinv hn hne)
    refine ⟨hw, hground.symm, hrows, σ', hs, ?_⟩
    rw [(commit_step_eq hs hn).1]
    exact htable
  · obtain ⟨hrefused, hstep⟩ := write_of_late hinv hn heffect hlate
    exact ⟨⟨.conflict, hrefused, rfl⟩, hstep⟩

/-- Two transactions begin, one creates an account and commits, and the other would do the same. -/
theorem second_committer_loses :
    ∃ σ t, run [.begin 0, .begin 1, .write 1 (.insert default), .commit 1] = some σ ∧
      σ.opened 0 = some t ∧ (Write.insert default).hasEffect t.tx = true ∧
      t.tx.base ≠ σ.store.version ∧
      (∃ e, (Write.insert default).attempt t.tx σ.store = .error e ∧ e.code = "40001") ∧
      σ.step (.write 0 (.insert default)) = some σ := by
  have hrun : ∃ σ t, run [.begin 0, .begin 1, .write 1 (.insert default), .commit 1] = some σ ∧
      σ.opened 0 = some t ∧ (Write.insert default).hasEffect t.tx = true ∧
      t.tx.base ≠ σ.store.version ∧ σ.store.writing = false :=
    ⟨_, _, rfl, rfl, rfl, by decide, rfl⟩
  obtain ⟨σ, t, hσ, ht, heffect, hlate, hfree⟩ := hrun
  obtain ⟨hcode, hstep⟩ := (first_committer_wins hσ).2.2.2 0 t _ ht heffect hlate
  exact ⟨σ, t, hσ, ht, heffect, hlate, hcode, by rw [hstep, hfree]; rfl⟩

end OpenStore

end AcctAdmin.Server
