import AcctAdmin.Proofs.Transaction.Write

/-!
# Transactions interleaved

Any number of transactions on one store. A schedule is a list of steps, each of which one
transaction takes; what a step does is what the operations of the store do, and a step that would
have to wait for the writer's place is not taken. Beside the state that the program has, an open
transaction remembers the accounts it began on and the writes it made, and the store remembers the
transactions that committed. Nothing the program does depends on these.

`OpenStore.Inv` is what every schedule keeps. Its heart is `Sound.current`: the version number
tells which accounts are committed, so a transaction whose number is still the current one sees
what is committed.
-/

set_option autoImplicit false

namespace AcctAdmin.Server

/-- An open transaction and its history. -/
structure OpenTransaction where
  tx : Transaction
  /-- The accounts that were committed when it began. -/
  ground : Table
  /-- The writes it made, the first one first. -/
  writes : List Write

structure OpenStore where
  store : Store
  opened : Nat → Option OpenTransaction
  /-- The transactions that committed, as they were then, in the order of their commits. -/
  committed : List OpenTransaction

inductive StoreStep where
  | begin (n : Nat)
  | write (n : Nat) (w : Write)
  | note (n : Nat) (note : AuditNote)
  | commit (n : Nat)
  | drop (n : Nat)

namespace OpenStore

def put (σ : OpenStore) (n : Nat) (t : Option OpenTransaction) : OpenStore :=
  { σ with opened := fun m => if m = n then t else σ.opened m }

@[simp] theorem put_store (σ : OpenStore) (n : Nat) (t : Option OpenTransaction) :
    (σ.put n t).store = σ.store := rfl

@[simp] theorem put_committed (σ : OpenStore) (n : Nat) (t : Option OpenTransaction) :
    (σ.put n t).committed = σ.committed := rfl

@[simp] theorem put_opened (σ : OpenStore) (n m : Nat) (t : Option OpenTransaction) :
    (σ.put n t).opened m = if m = n then t else σ.opened m := rfl

theorem put_self {σ : OpenStore} {n : Nat} {t : OpenTransaction} (h : σ.opened n = some t) :
    σ.put n (some t) = σ := by
  cases σ with
  | mk store opened committed =>
    simp only [put, OpenStore.mk.injEq, true_and, and_true]
    funext m
    split
    · rename_i hm
      rw [hm]
      exact h.symm
    · rfl

def start : OpenStore := ⟨.empty, fun _ => none, []⟩

/-- Takes a step, unless it has to wait or there is no such transaction. A write that is refused
changes nothing. -/
def step (σ : OpenStore) : StoreStep → Option OpenStore
  | .begin n =>
    match σ.opened n with
    | some _ => none
    | none => some (σ.put n (some ⟨σ.store.begin, σ.store.table, []⟩))
  | .write n w =>
    match σ.opened n with
    | none => none
    | some t =>
      if w.hasEffect t.tx && !t.tx.mayWrite σ.store then none
      else
        match w.attempt t.tx σ.store with
        | .error _ => some σ
        | .ok (tx, store) =>
          let made := if w.hasEffect t.tx then [w] else []
          some ({ σ with store := store }.put n
            (some { t with tx := tx, writes := t.writes ++ made }))
  | .note n note =>
    match σ.opened n with
    | none => none
    | some t => some (σ.put n (some { t with tx := t.tx.note note }))
  | .commit n =>
    match σ.opened n with
    | none => none
    | some t =>
      if t.tx.mayCommit σ.store then
        some ({ σ with store := t.tx.commit σ.store, committed := σ.committed ++ [t] }.put n none)
      else none
  | .drop n =>
    match σ.opened n with
    | none => none
    | some t => some ({ σ with store := t.tx.drop σ.store }.put n none)

def run (schedule : List StoreStep) : Option OpenStore := schedule.foldlM step start

theorem run_snoc (schedule : List StoreStep) (a : StoreStep) :
    run (schedule ++ [a]) = (run schedule).bind (·.step a) := by
  simp only [run, List.foldlM_append, List.foldlM_cons, List.foldlM_nil, bind_pure]
  rfl

/-! ## What a step can be -/

variable {σ σ' : OpenStore} {n : Nat}

/-- A transaction is the one that was put there, or one that was there before. -/
theorem put_some {m : Nat} {t u : OpenTransaction} (h : (σ.put n (some t)).opened m = some u) :
    (m = n ∧ u = t) ∨ (m ≠ n ∧ σ.opened m = some u) := by
  by_cases hm : m = n
  · simp only [put, hm, if_true, Option.some.injEq] at h
    exact .inl ⟨hm, h.symm⟩
  · simp only [put, hm, if_false] at h
    exact .inr ⟨hm, h⟩

theorem put_none {m : Nat} {u : OpenTransaction} (h : (σ.put n none).opened m = some u) :
    m ≠ n ∧ σ.opened m = some u := by
  by_cases hm : m = n
  · simp [put, hm] at h
  · simp only [put, hm, if_false] at h
    exact ⟨hm, h⟩

theorem step_begin (h : σ.step (.begin n) = some σ') :
    σ.opened n = none ∧ σ' = σ.put n (some ⟨σ.store.begin, σ.store.table, []⟩) := by
  simp only [step] at h
  split at h
  · exact absurd h (by simp)
  · rename_i hn
    exact ⟨hn, (Option.some.inj h).symm⟩

/-- A write changes nothing, or it is made in the writer's place. -/
theorem step_write {w : Write} (h : σ.step (.write n w) = some σ') :
    σ' = σ ∨ ∃ t tx store, σ.opened n = some t ∧ w.hasEffect t.tx = true ∧
      t.tx.modify σ.store w.rows = .ok (tx, store) ∧
      σ' = { σ with store := store }.put n
        (some { t with tx := tx, writes := t.writes ++ [w] }) := by
  simp only [step] at h
  split at h
  · exact absurd h (by simp)
  · rename_i t ht
    split at h
    · exact absurd h (by simp)
    · cases heff : w.hasEffect t.tx with
      | true =>
        rw [Write.attempt_eq_modify σ.store heff] at h
        split at h
        · exact .inl (Option.some.inj h).symm
        · rename_i tx store hok
          simp only [heff, if_true] at h
          exact .inr ⟨t, tx, store, ht, heff, hok, (Option.some.inj h).symm⟩
      | false =>
        refine .inl ?_
        rcases Write.attempt_of_not_hasEffect (s := σ.store) heff with hok | ⟨e, he⟩
        · rw [hok] at h
          simp only [heff, Bool.false_eq_true, if_false, List.append_nil, Option.some.injEq] at h
          rw [← h]
          exact put_self ht
        · rw [he] at h
          exact (Option.some.inj h).symm

theorem step_note {note : AuditNote} (h : σ.step (.note n note) = some σ') :
    ∃ t, σ.opened n = some t ∧ σ' = σ.put n (some { t with tx := t.tx.note note }) := by
  simp only [step] at h
  split at h
  · exact absurd h (by simp)
  · rename_i t ht
    exact ⟨t, ht, (Option.some.inj h).symm⟩

theorem step_commit (h : σ.step (.commit n) = some σ') :
    ∃ t, σ.opened n = some t ∧ t.tx.mayCommit σ.store = true ∧
      σ' = { σ with store := t.tx.commit σ.store, committed := σ.committed ++ [t] }.put n none := by
  simp only [step] at h
  split at h
  · exact absurd h (by simp)
  · rename_i t ht
    split at h
    · rename_i hmay
      exact ⟨t, ht, hmay, (Option.some.inj h).symm⟩
    · exact absurd h (by simp)

theorem step_drop (h : σ.step (.drop n) = some σ') :
    ∃ t, σ.opened n = some t ∧ σ' = { σ with store := t.tx.drop σ.store }.put n none := by
  simp only [step] at h
  split at h
  · exact absurd h (by simp)
  · rename_i t ht
    exact ⟨t, ht, (Option.some.inj h).symm⟩

end OpenStore

end AcctAdmin.Server
