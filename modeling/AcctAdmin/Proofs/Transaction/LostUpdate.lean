import AcctAdmin.Proofs.Transaction.Invariant

/-!
# Lost updates

Whether the committed accounts are what the committed writes make of an empty table. They are, as
long as no transaction that only has notes to commit began before the last change of the accounts.
A commit compares the transaction's table with the committed one, not with the one the transaction
began on: so such a transaction, which has no table of its own, puts the one it began on back in
place, and every change committed since is lost.

`keepsUpdates_iff_neverStale` says that this is the only way to lose one.
-/

set_option autoImplicit false

namespace AcctAdmin.Server

namespace OpenStore

/-- The writes of the transactions that committed, in the order of the commits. -/
def committedWrites (σ : OpenStore) : List Write := σ.committed.flatMap (·.writes)

/-- The schedule passes through a state. -/
def Visits (schedule : List StoreStep) (σ : OpenStore) : Prop :=
  ∃ earlier, earlier <+: schedule ∧ run earlier = some σ

/-- The schedule takes a step from one state to the next. -/
def Takes (schedule : List StoreStep) (σ : OpenStore) (a : StoreStep) (σ' : OpenStore) : Prop :=
  ∃ earlier, earlier ++ [a] <+: schedule ∧ run earlier = some σ ∧ σ.step a = some σ'

/-- No update is lost: the committed accounts are at all times what the committed writes make of an
empty table, and the commit of a transaction that wrote nothing leaves them alone. -/
structure KeepsUpdates (schedule : List StoreStep) : Prop where
  rows : ∀ σ, Visits schedule σ → σ.store.table.rows = Write.replay σ.committedWrites []
  frame : ∀ σ n t σ', Takes schedule σ (.commit n) σ' → σ.opened n = some t → t.writes = [] →
    σ'.store.table = σ.store.table ∧ σ'.store.version = σ.store.version

/-- Whenever a transaction that wrote nothing commits notes, the accounts it began on are still the
committed ones. -/
def NeverStale (schedule : List StoreStep) : Prop :=
  ∀ σ n t σ', Takes schedule σ (.commit n) σ' → σ.opened n = some t → t.writes = [] →
    t.tx.notes = [] ∨ t.ground = σ.store.table

variable {σ σ' : OpenStore} {n : Nat} {t : OpenTransaction} {schedule : List StoreStep}

/-! ## Whole schedules -/

theorem Takes.inv {a : StoreStep} (h : Takes schedule σ a σ') : Inv σ := by
  obtain ⟨_, -, hrun, -⟩ := h
  exact inv_run hrun

theorem Takes.step_eq {a : StoreStep} (h : Takes schedule σ a σ') : σ.step a = some σ' := by
  obtain ⟨_, -, -, hs⟩ := h
  exact hs

theorem rows_eq_replay_step {a : StoreStep} (hnever : NeverStale schedule)
    (htakes : Takes schedule σ a σ')
    (hrows : σ.store.table.rows = Write.replay σ.committedWrites []) :
    σ'.store.table.rows = Write.replay σ'.committedWrites [] := by
  have hinv := htakes.inv
  have hs := htakes.step_eq
  by_cases hcommit : ∃ n, a = .commit n
  · obtain ⟨n, rfl⟩ := hcommit
    obtain ⟨t, hn, -, -⟩ := step_commit hs
    have hwrites : σ'.committedWrites = σ.committedWrites ++ t.writes := by
      simp [committedWrites, (commit_step_eq hs hn).2]
    rw [hwrites, Write.replay_append, ← hrows]
    by_cases hne : t.writes = []
    · obtain ⟨htable, -⟩ :=
        commit_of_not_stale hinv hs hn hne (hnever σ n t σ' htakes hn hne)
      rw [hne, Write.replay_nil, htable]
    · exact commit_of_writes hinv hs hn hne
  · obtain ⟨htable, hsame⟩ := step_of_not_commit hinv hs fun n hn => hcommit ⟨n, hn⟩
    rw [htable, committedWrites, hsame]
    exact hrows

theorem rows_eq_replay_of_neverStale (hnever : NeverStale schedule) (hvisits : Visits schedule σ) :
    σ.store.table.rows = Write.replay σ.committedWrites [] := by
  obtain ⟨earlier, hle, hrun⟩ := hvisits
  refine run_induction (P := fun earlier σ => earlier <+: schedule →
    σ.store.table.rows = Write.replay σ.committedWrites []) (fun _ => rfl) ?_ hrun hle
  intro earlier σ a σ' hrun hrows hs hle
  exact rows_eq_replay_step hnever ⟨earlier, hle, hrun, hs⟩
    (hrows ((List.prefix_append earlier [a]).trans hle))

/-- **Updates are kept exactly by the schedules without stale commits.** What a stale commit does is
to bring the accounts back that its transaction began on. -/
theorem keepsUpdates_iff_neverStale (schedule : List StoreStep) :
    (KeepsUpdates schedule ↔ NeverStale schedule) ∧
    ∀ σ n t σ', Takes schedule σ (.commit n) σ' → σ.opened n = some t → t.writes = [] →
      t.tx.notes ≠ [] → t.ground ≠ σ.store.table →
      σ'.store.table = t.ground ∧ σ'.store.version = σ.store.version + 1 := by
  have hstale : ∀ σ n t σ', Takes schedule σ (.commit n) σ' → σ.opened n = some t →
      t.writes = [] → t.tx.notes ≠ [] → t.ground ≠ σ.store.table →
      σ'.store.table = t.ground ∧ σ'.store.version = σ.store.version + 1 :=
    fun σ n t σ' htakes hn hnone hnotes hground =>
      commit_of_stale htakes.inv htakes.step_eq hn hnone hnotes hground
  refine ⟨⟨fun hkeeps => ?_, fun hnever => ⟨fun σ hvisits => ?_, ?_⟩⟩, hstale⟩
  · intro σ n t σ' htakes hn hnone
    by_cases hnotes : t.tx.notes = []
    · exact .inl hnotes
    · refine .inr (Decidable.byContradiction fun hground => ?_)
      -- a stale commit would have raised the version, which the frame says it did not
      have hraised := (hstale σ n t σ' htakes hn hnone hnotes hground).2
      have hsame := (hkeeps.frame σ n t σ' htakes hn hnone).2
      omega
  · exact rows_eq_replay_of_neverStale hnever hvisits
  · intro σ n t σ' htakes hn hnone
    exact commit_of_not_stale htakes.inv htakes.step_eq hn hnone (hnever σ n t σ' htakes hn hnone)

/-! ## A lost account -/

def ada : Account :=
  ⟨⟨.ofNat 1⟩, "ada", "ada@example.org", "Ada", false, 101, .unusable, none⟩

/-- One transaction begins, another creates an account and commits, and then the first commits a
note. -/
def lossySchedule : List StoreStep :=
  [.begin 0, .begin 1, .write 1 (.insert ada), .commit 1,
    .note 0 ⟨1, ⟨.ofNat 2⟩, "LOGIN", "grace logged in"⟩, .commit 0]

theorem lossySchedule_loses_account :
    (∃ σ, run lossySchedule = some σ ∧ σ.store.table.rows = [] ∧ σ.store.version = 2 ∧
      Write.replay σ.committedWrites [] = [ada]) ∧
    ¬ KeepsUpdates lossySchedule := by
  have hrun : ∃ σ, run lossySchedule = some σ ∧ σ.store.table.rows = [] ∧ σ.store.version = 2 ∧
      Write.replay σ.committedWrites [] = [ada] := ⟨_, rfl, rfl, rfl, rfl⟩
  refine ⟨hrun, fun hkeeps => ?_⟩
  obtain ⟨σ, hσ, hempty, -, hada⟩ := hrun
  have hrows := hkeeps.rows σ ⟨lossySchedule, List.prefix_refl _, hσ⟩
  rw [hempty, hada] at hrows
  exact absurd hrows (by simp)

end OpenStore

end AcctAdmin.Server
