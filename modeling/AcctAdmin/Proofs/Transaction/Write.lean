import AcctAdmin.Server.Store

/-!
# Writes as data

The three ways to change the accounts, as values: what a write makes of a list of accounts, when
there is something for it to change, and what becomes of it in a transaction. The last depends on
the writer's place alone, in the same way for all three, so that everything about insertion,
deletion and bans in the modules that follow goes through `attempt_eq_modify`.
-/

set_option autoImplicit false

namespace AcctAdmin.Server

inductive Write where
  | insert (account : Account)
  | delete (id : AccountId)
  | setBan (id : AccountId) (ban : Option Ban)
deriving DecidableEq, Inhabited

namespace Write

def rows : Write → List Account → List Account
  | .insert new => (· ++ [new])
  | .delete id => (·.filter (·.id != id))
  | .setBan id ban => (·.map fun a => if a.id = id then { a with ban := ban } else a)

/-- The accounts after some writes, the first one first. -/
def replay (writes : List Write) (accounts : List Account) : List Account :=
  writes.foldl (fun accounts w => w.rows accounts) accounts

/-- Whether the write would change the accounts that a transaction sees: nothing stands in the
way of a new account, and an account that is to go or to be banned is there. -/
def hasEffect (w : Write) (tx : Transaction) : Bool :=
  match w with
  | .insert new => (Transaction.duplicate? new tx.table.rows).isNone
  | .delete id => (tx.account? id).isSome
  | .setBan id _ => (tx.account? id).isSome

def attempt (w : Write) (tx : Transaction) (s : Store) :
    Except StorageError (Transaction × Store) :=
  match w with
  | .insert new => tx.insert s new
  | .delete id => (tx.delete s id).map (·.2)
  | .setBan id ban => tx.setBan s id ban

@[simp] theorem replay_nil (accounts : List Account) : replay [] accounts = accounts := rfl

@[simp] theorem replay_append (first second : List Write) (accounts : List Account) :
    replay (first ++ second) accounts = replay second (replay first accounts) :=
  List.foldl_append

@[simp] theorem replay_singleton (w : Write) (accounts : List Account) :
    replay [w] accounts = w.rows accounts := rfl

/-! ## What becomes of a write -/

/-- A write that has something to change is a change of the rows behind the writer's place. -/
theorem attempt_eq_modify {w : Write} {tx : Transaction} (s : Store) (h : w.hasEffect tx = true) :
    w.attempt tx s = tx.modify s w.rows := by
  cases w with
  | insert new =>
    have hfree : Transaction.duplicate? new tx.table.rows = none := by simpa [hasEffect] using h
    simp only [attempt, Transaction.insert, hfree]
    rfl
  | delete id =>
    obtain ⟨old, hold⟩ := Option.isSome_iff_exists.1 h
    simp only [attempt, Transaction.delete, hold]
    show Except.map _ _ = tx.modify s (fun rows => rows.filter (·.id != id))
    cases tx.modify s (fun rows => rows.filter (·.id != id)) <;> rfl
  | setBan id ban =>
    obtain ⟨old, hold⟩ := Option.isSome_iff_exists.1 h
    simp only [attempt, Transaction.setBan, hold]
    rfl

/-- A write with nothing to change is refused, or it is the deletion of an account that is not
there, and changes nothing. -/
theorem attempt_of_not_hasEffect {w : Write} {tx : Transaction} {s : Store}
    (h : w.hasEffect tx = false) :
    w.attempt tx s = .ok (tx, s) ∨ ∃ e, w.attempt tx s = .error e := by
  cases w with
  | insert new =>
    obtain ⟨e, he⟩ : ∃ e, Transaction.duplicate? new tx.table.rows = some e :=
      Option.isSome_iff_exists.1 (by simpa [hasEffect] using h)
    exact .inr ⟨e, by simp [attempt, Transaction.insert, he]⟩
  | delete id =>
    have hgone : tx.account? id = none := by simpa [hasEffect] using h
    exact .inl (by simp [attempt, Transaction.delete, hgone, Except.map])
  | setBan id ban =>
    have hgone : tx.account? id = none := by simpa [hasEffect] using h
    exact .inr ⟨.missingAccount id, by simp only [attempt, Transaction.setBan, hgone]⟩

end Write

/-! ## The writer's place -/

namespace Transaction

variable {tx tx' : Transaction} {s s' : Store}

/-- Taking the writer's place changes nothing for a transaction that has it. Otherwise it goes to
a transaction that is up to date while nobody has it, and its table becomes one of its own. -/
theorem takePlace_ok (h : tx.takePlace s = .ok (tx', s')) :
    (tx.writing = true ∧ tx' = tx ∧ s' = s) ∨
    (tx.writing = false ∧ s.writing = false ∧ tx.base = s.version ∧
      tx' = { tx with writing := true, table := { tx.table with edition := s.version + 1 } } ∧
      s' = { s with writing := true }) := by
  unfold takePlace at h
  split at h
  · rename_i hw
    obtain ⟨rfl, rfl⟩ := Prod.mk.inj (Except.ok.inj h)
    exact .inl ⟨hw, rfl, rfl⟩
  · rename_i hw
    split at h
    · exact absurd h (by simp)
    · rename_i hfree
      obtain ⟨rfl, rfl⟩ := Prod.mk.inj (Except.ok.inj h)
      simp only [not_or, Bool.not_eq_true, Decidable.not_not] at hfree
      exact .inr ⟨by simpa using hw, hfree.1, hfree.2.symm, rfl, rfl⟩

/-- **Whoever comes late loses**: a transaction without the place, begun before the last change of
the accounts, does not get it. -/
theorem takePlace_of_late (hw : tx.writing = false) (hb : tx.base ≠ s.version) :
    tx.takePlace s = .error .conflict := by
  simp [takePlace, hw, Ne.symm hb]

theorem modify_ok {f : List Account → List Account} (h : tx.modify s f = .ok (tx', s')) :
    ∃ held, tx.takePlace s = .ok (held, s') ∧
      tx' = { held with table := { held.table with rows := f held.table.rows } } := by
  unfold modify at h
  split at h
  · exact absurd h (by simp)
  · rename_i held s₁ hplace
    obtain ⟨rfl, rfl⟩ := Prod.mk.inj (Except.ok.inj h)
    exact ⟨held, hplace, rfl⟩

theorem modify_of_late {f : List Account → List Account} (hw : tx.writing = false)
    (hb : tx.base ≠ s.version) : tx.modify s f = .error .conflict := by
  simp [modify, takePlace_of_late hw hb]

/-- A change of the rows leaves everything else alone but the writer's place and the edition. -/
theorem modify_frame {f : List Account → List Account} (h : tx.modify s f = .ok (tx', s')) :
    tx' = { tx with
      writing := tx'.writing, table := ⟨tx'.table.edition, f tx.table.rows⟩ } ∧
    s' = { s with writing := s'.writing } := by
  obtain ⟨held, hplace, rfl⟩ := modify_ok h
  rcases takePlace_ok hplace with ⟨-, rfl, rfl⟩ | ⟨-, -, -, rfl, rfl⟩
  · exact ⟨rfl, rfl⟩
  · exact ⟨rfl, rfl⟩

/-- The one way in which a change of the rows is refused. -/
theorem modify_error {f : List Account → List Account} {e : StorageError}
    (h : tx.modify s f = .error e) : e = .conflict := by
  unfold modify takePlace at h
  by_cases hw : tx.writing = true
  · simp [hw] at h
  · by_cases hlate : s.writing = true ∨ s.version ≠ tx.base
    · simp only [hw, hlate, if_true] at h
      exact (Except.error.inj h).symm
    · simp [hw, hlate] at h

end Transaction

/-! ## What a commit publishes -/

namespace Transaction

/-- Whether a commit puts another table in the place of the committed one. -/
def publishes (tx : Transaction) (s : Store) : Bool :=
  (tx.writing || !tx.notes.isEmpty) && s.table.edition != tx.table.edition

variable {tx : Transaction} {s : Store}

/-- All that a commit does. One with nothing to publish comes to the same: no notes, no place. -/
theorem commit_eq : tx.commit s =
    { table := if tx.publishes s then tx.table else s.table
      version := if tx.publishes s then s.version + 1 else s.version
      log := s.log ++ numberFrom s.log.length tx.notes
      writing := s.writing && !tx.writing } := by
  unfold commit publishes
  cases hw : tx.writing <;> cases hn : tx.notes <;>
    by_cases he : s.table.edition = tx.table.edition <;>
    simp [he, numberFrom]

theorem commit_of_not_publishes (h : tx.publishes s = false) :
    (tx.commit s).table = s.table ∧ (tx.commit s).version = s.version := by
  simp [commit_eq, h]

theorem commit_of_publishes (h : tx.publishes s = true) :
    (tx.commit s).table = tx.table ∧ (tx.commit s).version = s.version + 1 := by
  simp [commit_eq, h]

/-- What is committed after a commit is what was committed before, or what the transaction sees. -/
theorem commit_table : (tx.commit s).table = s.table ∨ (tx.commit s).table = tx.table := by
  cases h : tx.publishes s with
  | true => exact .inr (commit_of_publishes h).1
  | false => exact .inl (commit_of_not_publishes h).1

end Transaction

end AcctAdmin.Server
