import AcctAdmin.Proofs.Transaction.Invariant
import AcctAdmin.Server.Lookup
import Mathlib.Data.List.Induction

/-!
# Transactions do not see each other

What a transaction reads is settled by what was committed when it began and by the writes it made.
The two halves of that are kept in different ways. The accounts are a table of the transaction's
own, which nobody else can reach. The audit log is shared, but it only ever grows, and the
transaction looks no further than the length that the log had at the beginning.
-/

set_option autoImplicit false

namespace AcctAdmin.Server

/-- All that can be asked in a transaction. -/
structure Sight where
  account? : AccountId → Option Account
  accountByName? : String → Option Account
  accountCount : Nat
  accounts : AccountQuery → Source AccountSummary
  accountsByEmail : EmailQuery → Source AccountSummary
  events : AuditQuery → Source AuditEvent

/-- What a transaction sees in a store. -/
def Transaction.sight (tx : Transaction) (s : Store) : Sight :=
  ⟨tx.account?, tx.accountByName?, tx.accountCount, tx.accounts, tx.accountsByEmail, tx.events s⟩

/-- A transaction that has the store to itself, after some writes. -/
def Store.lone (s : Store) (writes : List Write) : Transaction :=
  { s.begin with table := ⟨s.table.edition, Write.replay writes s.table.rows⟩ }

/-- The accounts and the part of the log that a transaction has are all it can see. -/
theorem Transaction.sight_eq {tx tx' : Transaction} {s s' : Store}
    (hrows : tx.table.rows = tx'.table.rows) (hlog : tx.visibleLog s = tx'.visibleLog s') :
    tx.sight s = tx'.sight s' := by
  have haccount : tx.account? = tx'.account? := by
    funext id
    unfold account?
    rw [hrows]
  have hname : tx.accountByName? = tx'.accountByName? := by
    funext name
    unfold accountByName?
    rw [hrows]
  have hcount : tx.accountCount = tx'.accountCount := by
    unfold accountCount
    rw [hrows]
  have haccounts : tx.accounts = tx'.accounts := by
    funext q
    unfold accounts
    rw [hrows]
  have hemail : tx.accountsByEmail = tx'.accountsByEmail := by
    funext q
    unfold accountsByEmail
    rw [hrows]
  have hevents : tx.events s = tx'.events s' := by
    funext q
    unfold events
    rw [hlog]
  unfold sight
  rw [haccount, hname, hcount, haccounts, hemail, hevents]

/-- The transaction that takes a step. -/
def StoreStep.owner : StoreStep → Nat
  | .begin n => n
  | .write n _ => n
  | .note n _ => n
  | .commit n => n
  | .drop n => n

namespace OpenStore

variable {σ σ' : OpenStore} {n : Nat} {t : OpenTransaction} {a : StoreStep}

/-! ## One step -/

/-- No step takes anything back from the audit log. -/
theorem log_prefix_of_step (hs : σ.step a = some σ') : σ.store.log <+: σ'.store.log := by
  cases a with
  | begin n =>
    obtain ⟨-, rfl⟩ := step_begin hs
    exact List.prefix_refl _
  | write n w =>
    rcases step_write hs with rfl | ⟨t, tx, store, -, -, hok, rfl⟩
    · exact List.prefix_refl _
    · obtain ⟨-, hstore⟩ := Transaction.modify_frame hok
      have hlog : store.log = σ.store.log := by rw [hstore]
      exact ⟨[], (List.append_nil _).trans hlog.symm⟩
  | note n note =>
    obtain ⟨t, -, rfl⟩ := step_note hs
    exact List.prefix_refl _
  | commit n =>
    obtain ⟨t, -, -, rfl⟩ := step_commit hs
    show σ.store.log <+: (t.tx.commit σ.store).log
    rw [Transaction.commit_eq]
    exact List.prefix_append _ _
  | drop n =>
    obtain ⟨t, -, rfl⟩ := step_drop hs
    exact List.prefix_refl _

/-- The steps of other transactions do not reach a transaction. -/
theorem opened_of_other_step (hs : σ.step a = some σ') (hother : n ≠ a.owner) :
    σ'.opened n = σ.opened n := by
  cases a with
  | begin m =>
    obtain ⟨-, rfl⟩ := step_begin hs
    exact if_neg hother
  | write m w =>
    rcases step_write hs with rfl | ⟨u, tx, store, -, -, -, rfl⟩
    · rfl
    · exact if_neg hother
  | note m note =>
    obtain ⟨u, -, rfl⟩ := step_note hs
    exact if_neg hother
  | commit m =>
    obtain ⟨u, -, -, rfl⟩ := step_commit hs
    exact if_neg hother
  | drop m =>
    obtain ⟨u, -, rfl⟩ := step_drop hs
    exact if_neg hother

/-- What any step makes of an open transaction that it does not end: nothing that the transaction
could see, unless it is a write of the transaction's own that goes through. -/
theorem step_of_opened (hn : σ.opened n = some t) (hs : σ.step a = some σ')
    (hcommit : a ≠ .commit n) (hdrop : a ≠ .drop n) :
    ∃ t', σ'.opened n = some t' ∧ t'.tx.logLength = t.tx.logLength ∧
      ((t'.writes = t.writes ∧ t'.tx.table.rows = t.tx.table.rows) ∨
        ∃ w done, a = .write n w ∧ w.attempt t.tx σ.store = .ok done ∧
          t'.writes = t.writes ++ [w] ∧ t'.tx.table.rows = w.rows t.tx.table.rows) := by
  by_cases hother : n = a.owner
  · subst hother
    cases a with
    | begin m =>
      obtain ⟨hnone, -⟩ := step_begin hs
      exact absurd (hn.symm.trans hnone) (by simp)
    | write m w =>
      rcases step_write hs with rfl | ⟨u, tx, store, hm, heffect, hok, rfl⟩
      · exact ⟨t, hn, rfl, .inl ⟨rfl, rfl⟩⟩
      · obtain rfl := Option.some.inj (hn.symm.trans hm)
        obtain ⟨htx, -⟩ := Transaction.modify_frame hok
        refine ⟨_, if_pos rfl, ?_, .inr ⟨w, (tx, store), rfl, ?_, rfl, ?_⟩⟩
        · rw [htx]
        · rw [Write.attempt_eq_modify σ.store heffect]
          exact hok
        · rw [htx]
    | note m note =>
      obtain ⟨u, hm, rfl⟩ := step_note hs
      obtain rfl := Option.some.inj (hn.symm.trans hm)
      exact ⟨_, if_pos rfl, rfl, .inl ⟨rfl, rfl⟩⟩
    | commit m => exact absurd rfl hcommit
    | drop m => exact absurd rfl hdrop
  · exact ⟨t, (opened_of_other_step hs hother).trans hn, rfl, .inl ⟨rfl, rfl⟩⟩

/-! ## From the beginning on -/

/-- How an open transaction stands to the store that it began on. -/
structure Isolated (s₀ : Store) (σ : OpenStore) (t : OpenTransaction) : Prop where
  rows : t.tx.table.rows = Write.replay t.writes s₀.table.rows
  length : t.tx.logLength = s₀.log.length
  log : s₀.log <+: σ.store.log

theorem Isolated.visibleLog {s₀ : Store} (h : Isolated s₀ σ t) :
    t.tx.visibleLog σ.store = s₀.log := by
  unfold Transaction.visibleLog
  rw [h.length]
  exact (List.prefix_iff_eq_take.1 h.log).symm

theorem Isolated.sight {s₀ : Store} (h : Isolated s₀ σ t) :
    t.tx.sight σ.store = (s₀.lone t.writes).sight s₀ := by
  refine Transaction.sight_eq h.rows ?_
  rw [h.visibleLog]
  exact List.take_length.symm

theorem Isolated.step {s₀ : Store} (h : Isolated s₀ σ t) (hn : σ.opened n = some t)
    (hs : σ.step a = some σ') (hcommit : a ≠ .commit n) (hdrop : a ≠ .drop n) :
    ∃ t', σ'.opened n = some t' ∧ Isolated s₀ σ' t' := by
  obtain ⟨t', hn', hlength, hrows⟩ := step_of_opened hn hs hcommit hdrop
  refine ⟨t', hn', ?_, hlength.trans h.length, h.log.trans (log_prefix_of_step hs)⟩
  rcases hrows with ⟨hwrites, hrows⟩ | ⟨w, done, -, -, hwrites, hrows⟩
  · rw [hwrites, hrows]
    exact h.rows
  · rw [hwrites, hrows, h.rows, Write.replay_append, Write.replay_singleton]

variable {earlier later : List StoreStep} {σ₀ : OpenStore}

theorem isolated_run (hbefore : run earlier = some σ₀)
    (hopen : ∀ a ∈ later, a ≠ .commit n ∧ a ≠ .drop n)
    (hrun : run (earlier ++ .begin n :: later) = some σ) :
    ∃ t, σ.opened n = some t ∧ Isolated σ₀.store σ t := by
  -- by induction on the steps since the beginning, the last one taken off first
  induction later using List.reverseRecOn generalizing σ with
  | nil =>
    rw [run_snoc, hbefore] at hrun
    obtain ⟨-, rfl⟩ := step_begin hrun
    exact ⟨_, if_pos rfl, rfl, rfl, List.prefix_refl _⟩
  | append_singleton later a ih =>
    rw [← List.cons_append, ← List.append_assoc, run_snoc] at hrun
    obtain ⟨σ₁, hrun₁, hs⟩ := Option.bind_eq_some_iff.1 hrun
    obtain ⟨t, hn, h⟩ := ih (fun b hb => hopen b (List.mem_append_left _ hb)) hrun₁
    obtain ⟨hcommit, hdrop⟩ := hopen a (List.mem_append_right _ List.mem_cons_self)
    exact h.step hn hs hcommit hdrop

/-- **Snapshot isolation.** Whatever a transaction that is still open reads, it reads as if it had
had the store to itself since it began and had made the writes of its own that went through. No
other step changes what it reads: not those of other transactions, nor its own refused writes, nor
what it has noted for the audit log. The part of the log that it looks at is always there, and is
the log it began on. -/
theorem reads_as_if_alone (hbefore : run earlier = some σ₀)
    (hopen : ∀ a ∈ later, a ≠ .commit n ∧ a ≠ .drop n)
    (hrun : run (earlier ++ .begin n :: later) = some σ) :
    ∃ t, σ.opened n = some t ∧
      t.tx.sight σ.store = (σ₀.store.lone t.writes).sight σ₀.store ∧
      t.tx.logLength ≤ σ.store.log.length ∧ t.tx.visibleLog σ.store = σ₀.store.log ∧
      ∀ a σ', σ.step a = some σ' → a ≠ .commit n → a ≠ .drop n →
        (∀ w, a = .write n w → ∃ e, w.attempt t.tx σ.store = .error e) →
        ∃ t', σ'.opened n = some t' ∧ t'.writes = t.writes ∧
          t'.tx.sight σ'.store = t.tx.sight σ.store := by
  obtain ⟨t, hn, h⟩ := isolated_run hbefore hopen hrun
  refine ⟨t, hn, h.sight, ?_, h.visibleLog, fun a σ' hs hcommit hdrop hrefused => ?_⟩
  · rw [h.length]
    exact h.log.length_le
  · obtain ⟨t', hn', -, hrows⟩ := step_of_opened hn hs hcommit hdrop
    obtain ⟨u, hu, h'⟩ := h.step hn hs hcommit hdrop
    obtain rfl := Option.some.inj (hn'.symm.trans hu)
    rcases hrows with ⟨hwrites, -⟩ | ⟨w, done, hw, hdone, -⟩
    · refine ⟨t', hn', hwrites, ?_⟩
      rw [h.sight, h'.sight, hwrites]
    · obtain ⟨e, he⟩ := hrefused w hw
      rw [he] at hdone
      cases hdone

def deletedMeanwhile : List StoreStep :=
  [.begin 2, .write 2 (.delete default), .note 2 default, .note 1 default, .commit 2]

/-- A transaction goes on seeing an account that was deleted, and does not see who did it. -/
theorem deletedMeanwhile_is_not_seen :
    ∃ σ₀ σ t, run [.begin 0, .write 0 (.insert default), .note 0 default, .commit 0] = some σ₀ ∧
      (∀ a ∈ deletedMeanwhile, a ≠ .commit 1 ∧ a ≠ .drop 1) ∧
      run ([.begin 0, .write 0 (.insert default), .note 0 default, .commit 0] ++
        .begin 1 :: deletedMeanwhile) = some σ ∧
      σ.opened 1 = some t ∧ σ.store.table.rows = [] ∧ σ.store.log.length = 2 ∧
      t.tx.sight σ.store = (σ₀.store.lone t.writes).sight σ₀.store ∧
      t.tx.accountCount = 1 ∧ (t.tx.visibleLog σ.store).length = 1 := by
  have hopen : ∀ a ∈ deletedMeanwhile, a ≠ .commit 1 ∧ a ≠ .drop 1 := by
    simp [deletedMeanwhile]
  have hrun : ∃ σ₀ σ t,
      run [.begin 0, .write 0 (.insert default), .note 0 default, .commit 0] = some σ₀ ∧
      run ([.begin 0, .write 0 (.insert default), .note 0 default, .commit 0] ++
        .begin 1 :: deletedMeanwhile) = some σ ∧
      σ.opened 1 = some t ∧ σ.store.table.rows = [] ∧ σ.store.log.length = 2 ∧
      σ₀.store.log.length = 1 ∧ t.tx.accountCount = 1 :=
    ⟨_, _, _, rfl, rfl, rfl, rfl, rfl, rfl, rfl⟩
  obtain ⟨σ₀, σ, t, hbefore, hσ, ht, hrows, hlog, hlog₀, hcount⟩ := hrun
  obtain ⟨u, hu, hsight, -, hvisible, -⟩ := reads_as_if_alone hbefore hopen hσ
  obtain rfl := Option.some.inj (ht.symm.trans hu)
  refine ⟨σ₀, σ, t, hbefore, hopen, hσ, ht, hrows, hlog, hsight, hcount, ?_⟩
  rw [hvisible]
  exact hlog₀

end OpenStore

end AcctAdmin.Server
