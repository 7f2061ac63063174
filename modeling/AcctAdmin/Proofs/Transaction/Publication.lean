import AcctAdmin.Proofs.Transaction.Isolation

/-!
# Commits in two steps

A commit puts its notes on the shared log, and only then publishes the new length of the log
together with the table. Other transactions may begin, read and end in between. Here the commit is
taken apart in that way, and the schedules of the finer steps are compared with those in which a
commit is one step, taken when it is published.

What makes the two agree is the writer's place. A commit that has begun and is not published has
it, so nobody else can change the accounts or add to the log until it is done. Transactions that
begin in between see what is published, and go on seeing no more (`reads_what_was_published`).
-/

set_option autoImplicit false

namespace AcctAdmin.Server

namespace Transaction

variable {tx : Transaction} {s : Store}

/-! ## The two halves of a commit -/

/-- Whether there is nothing to publish. -/
def isIdle (tx : Transaction) : Bool := !tx.writing && tx.notes.isEmpty

/-- The first half: takes the writer's place, or has it, and puts the notes on the log. -/
def append (tx : Transaction) (s : Store) : Store :=
  { s with log := s.log ++ numberFrom s.log.length tx.notes, writing := true }

/-- The second half: puts the table in place, unless it is the committed one, and gives the
writer's place up. -/
def publish (tx : Transaction) (s : Store) : Store :=
  if s.table.edition = tx.table.edition then { s with writing := false }
  else { s with table := tx.table, version := s.version + 1, writing := false }

theorem isIdle_eq_false : tx.isIdle = false ↔ tx.writing = true ∨ tx.notes ≠ [] := by
  cases hw : tx.writing <;> simp [isIdle, hw]

/-- A commit is its two halves, one after the other. -/
theorem publish_append (hidle : tx.isIdle = false) (hmay : tx.mayCommit s = true) :
    tx.publish (tx.append s) = tx.commit s := by
  have hplace : (s.writing && !tx.writing) = false := by
    cases hw : tx.writing with
    | true => simp
    | false =>
      have hnotes : tx.notes ≠ [] := by simpa [hw] using isIdle_eq_false.1 hidle
      simpa [mayCommit, hw, hnotes] using hmay
  simp only [isIdle] at hidle
  simp only [publish, append, commit, hidle, hplace, Bool.false_eq_true, if_false]
  rfl

theorem log_publish (tx : Transaction) (s : Store) : (tx.publish s).log = s.log := by
  unfold publish
  split <;> rfl

theorem commit_of_idle (hidle : tx.isIdle = true) : tx.commit s = s := by
  simp only [isIdle] at hidle
  simp only [commit, hidle, if_true]

theorem mayCommit_of_idle (hidle : tx.isIdle = true) : tx.mayCommit s = true := by
  simp only [isIdle, Bool.and_eq_true] at hidle
  simp [mayCommit, hidle.2]

theorem drop_of_not_writing (hw : tx.writing = false) : tx.drop s = s := by
  simp [drop, hw]

end Transaction

/-! ## The finer steps -/

/-- A store that may be in the middle of a commit. -/
structure SplitStore where
  /-- The store as it stands, the log with all that was ever put on it. -/
  shared : OpenStore
  /-- How much of the log is published. -/
  covered : Nat
  /-- The transaction whose notes are on the log and not published. -/
  publishing : Option Nat

inductive SplitStep where
  | begin (n : Nat)
  | write (n : Nat) (w : Write)
  | note (n : Nat) (note : AuditNote)
  /-- The first half of a commit, or all of it if there is nothing to publish. -/
  | commit (n : Nat)
  | publish (n : Nat)
  | drop (n : Nat)

namespace SplitStore

def start : SplitStore := ⟨.start, 0, none⟩

/-- A step that is the same in both systems. A transaction in the middle of its commit takes no
other step. -/
def plain (σ : SplitStore) (n : Nat) (a : StoreStep) : Option SplitStore :=
  if σ.publishing = some n then none
  else (σ.shared.step a).map fun shared => { σ with shared := shared }

def step (σ : SplitStore) : SplitStep → Option SplitStore
  | .begin n =>
    match σ.shared.opened n with
    | some _ => none
    | none =>
      let tx := { σ.shared.store.begin with logLength := σ.covered }
      some { σ with shared := σ.shared.put n (some ⟨tx, σ.shared.store.table, []⟩) }
  | .write n w => σ.plain n (.write n w)
  | .note n note => σ.plain n (.note n note)
  | .drop n => σ.plain n (.drop n)
  | .commit n =>
    match σ.shared.opened n with
    | none => none
    | some t =>
      if t.tx.isIdle then σ.plain n (.commit n)
      else if σ.publishing = some n ∨ t.tx.mayCommit σ.shared.store = false then none
      else
        some { σ with
          shared := { σ.shared with store := t.tx.append σ.shared.store }
          publishing := some n }
  | .publish n =>
    match σ.shared.opened n with
    | none => none
    | some t =>
      if σ.publishing = some n then
        let store := t.tx.publish σ.shared.store
        some ⟨{ σ.shared with store := store, committed := σ.shared.committed ++ [t] }.put n none,
          store.log.length, none⟩
      else none

def run (schedule : List SplitStep) : Option SplitStore := schedule.foldlM step start

theorem run_append (first second : List SplitStep) :
    run (first ++ second) = (run first).bind fun σ => second.foldlM step σ := by
  simp only [run, List.foldlM_append]
  rfl

theorem run_snoc (schedule : List SplitStep) (a : SplitStep) :
    run (schedule ++ [a]) = (run schedule).bind (·.step a) := by
  simp only [run_append, List.foldlM_cons, List.foldlM_nil, bind_pure]

/-! ## What a step can be -/

variable {σ σ' : SplitStore} {τ : OpenStore} {n : Nat}

theorem step_begin (h : σ.step (.begin n) = some σ') :
    σ.shared.opened n = none ∧
      σ' = { σ with
        shared := σ.shared.put n (some
          ⟨{ σ.shared.store.begin with logLength := σ.covered }, σ.shared.store.table, []⟩) } := by
  simp only [step] at h
  split at h
  · exact absurd h (by simp)
  · rename_i hn
    exact ⟨hn, (Option.some.inj h).symm⟩

theorem plain_eq_some {a : StoreStep} (h : σ.plain n a = some σ') :
    σ.publishing ≠ some n ∧
      ∃ shared, σ.shared.step a = some shared ∧ σ' = { σ with shared := shared } := by
  unfold plain at h
  split at h
  · exact absurd h (by simp)
  · rename_i hother
    obtain ⟨shared, hs, rfl⟩ := Option.map_eq_some_iff.1 h
    exact ⟨hother, shared, hs, rfl⟩

theorem step_commit (h : σ.step (.commit n) = some σ') :
    ∃ t, σ.shared.opened n = some t ∧
      ((t.tx.isIdle = true ∧ σ.plain n (.commit n) = some σ') ∨
        (t.tx.isIdle = false ∧ σ.publishing ≠ some n ∧ t.tx.mayCommit σ.shared.store = true ∧
          σ' = { σ with
            shared := { σ.shared with store := t.tx.append σ.shared.store }
            publishing := some n })) := by
  simp only [step] at h
  split at h
  · exact absurd h (by simp)
  · rename_i t ht
    refine ⟨t, ht, ?_⟩
    cases hidle : t.tx.isIdle with
    | true =>
      rw [hidle] at h
      exact .inl ⟨rfl, h⟩
    | false =>
      rw [hidle] at h
      simp only [Bool.false_eq_true, if_false] at h
      split at h
      · exact absurd h (by simp)
      · rename_i hmay
        simp only [not_or, Bool.not_eq_false] at hmay
        exact .inr ⟨rfl, hmay.1, hmay.2, (Option.some.inj h).symm⟩

theorem step_publish (h : σ.step (.publish n) = some σ') :
    ∃ t, σ.shared.opened n = some t ∧ σ.publishing = some n ∧
      σ' = ⟨{ σ.shared with
          store := t.tx.publish σ.shared.store
          committed := σ.shared.committed ++ [t] }.put n none,
        (t.tx.publish σ.shared.store).log.length, none⟩ := by
  simp only [step] at h
  split at h
  · exact absurd h (by simp)
  · rename_i t ht
    split at h
    · rename_i hpub
      exact ⟨t, ht, hpub, (Option.some.inj h).symm⟩
    · exact absurd h (by simp)

/-! ## Both systems side by side -/

/-- A store of the finer steps and one in which the commit under way has not happened yet. -/
inductive Shadows : SplitStore → OpenStore → Prop where
  | quiet (τ : OpenStore) : Shadows ⟨τ, τ.store.log.length, none⟩ τ
  | busy {τ : OpenStore} {n : Nat} {t : OpenTransaction} (hn : τ.opened n = some t)
      (hidle : t.tx.isIdle = false) (hmay : t.tx.mayCommit τ.store = true) :
      Shadows ⟨{ τ with store := t.tx.append τ.store }, τ.store.log.length, some n⟩ τ

theorem Shadows.covered_le (h : Shadows σ τ) : σ.covered ≤ σ.shared.store.log.length := by
  cases h with
  | quiet => exact Nat.le_refl _
  | busy => simp [Transaction.append]

theorem Shadows.covered_eq (h : Shadows σ τ) (hnone : σ.publishing = none) :
    σ.covered = σ.shared.store.log.length := by
  cases h with
  | quiet => rfl
  | busy => exact absurd hnone (by simp)

/-- Whoever is in the middle of a commit keeps everybody else from the writer's place. -/
theorem not_writing_of_busy {t u : OpenTransaction} {m : Nat} (hinv : OpenStore.Inv τ)
    (hn : τ.opened n = some t) (hidle : t.tx.isIdle = false) (hmay : t.tx.mayCommit τ.store = true)
    (hm : τ.opened m = some u) (hother : m ≠ n) : u.tx.writing = false := by
  cases huw : u.tx.writing with
  | false => rfl
  | true =>
    obtain ⟨htaken, htw⟩ := hinv.taken hn hm hother huw
    have hnotes : t.tx.notes ≠ [] := by simpa [htw] using Transaction.isIdle_eq_false.1 hidle
    exact absurd hmay (by simp [Transaction.mayCommit, htaken, htw, hnotes])

/-- In the middle of a commit another transaction can be put anywhere or taken away. -/
theorem Shadows.put {t : OpenTransaction} {m : Nat} (hm : τ.opened m = some t)
    (hidle : t.tx.isIdle = false) (hmay : t.tx.mayCommit τ.store = true) (hother : m ≠ n)
    (u : Option OpenTransaction) :
    Shadows ⟨{ τ with store := t.tx.append τ.store }.put n u, τ.store.log.length, some m⟩
      (τ.put n u) :=
  .busy (τ := τ.put n u) ((if_neg hother).trans hm) hidle hmay

theorem shadows_begin (h : Shadows σ τ) (hs : σ.step (.begin n) = some σ') :
    ∃ τ', Shadows σ' τ' ∧ τ.step (.begin n) = some τ' := by
  obtain ⟨hnone, rfl⟩ := step_begin hs
  have hclosed : τ.opened n = none := by
    cases h with
    | quiet => exact hnone
    | busy => exact hnone
  have hbegin : τ.step (.begin n) = some (τ.put n (some ⟨τ.store.begin, τ.store.table, []⟩)) := by
    simp [OpenStore.step, hclosed]
  refine ⟨_, ?_, hbegin⟩
  cases h with
  | quiet => exact .quiet _
  | @busy _ m t hm hidle hmay =>
    have hother : m ≠ n := by
      rintro rfl
      exact absurd (hm.symm.trans hclosed) (by simp)
    exact .put hm hidle hmay hother _

/-- Only a commit with something to publish puts anything on the log. -/
theorem log_of_plain {a : StoreStep} {τ' : OpenStore} (hs : τ.step a = some τ')
    (ha : (∃ w, a = .write n w) ∨ (∃ x, a = .note n x) ∨ a = .drop n ∨
      a = .commit n ∧ ∀ t, τ.opened n = some t → t.tx.isIdle = true) :
    τ'.store.log = τ.store.log := by
  rcases ha with ⟨w, rfl⟩ | ⟨x, rfl⟩ | rfl | ⟨rfl, hidle⟩
  · rcases OpenStore.step_write hs with rfl | ⟨t, tx, store, -, -, hok, rfl⟩
    · rfl
    · show store.log = _
      rw [(Transaction.modify_frame hok).2]
  · obtain ⟨t, -, rfl⟩ := OpenStore.step_note hs
    rfl
  · obtain ⟨t, -, rfl⟩ := OpenStore.step_drop hs
    rfl
  · obtain ⟨t, ht, -, rfl⟩ := OpenStore.step_commit hs
    show (t.tx.commit τ.store).log = _
    rw [Transaction.commit_of_idle (hidle t ht)]

/-- A step of a transaction that neither has the writer's place nor gets it goes the same way
whatever else is on the log. -/
theorem shadows_plain {a : StoreStep} (hinv : OpenStore.Inv τ) (h : Shadows σ τ)
    (hs : σ.plain n a = some σ')
    (ha : (∃ w, a = .write n w) ∨ (∃ x, a = .note n x) ∨ a = .drop n ∨
      a = .commit n ∧ ∀ t, σ.shared.opened n = some t → t.tx.isIdle = true) :
    ∃ τ', Shadows σ' τ' ∧ (τ' = τ ∨ τ.step a = some τ') := by
  obtain ⟨hother, shared, hstep, rfl⟩ := plain_eq_some hs
  cases h with
  | quiet =>
    refine ⟨shared, ?_, .inr hstep⟩
    have hlog : shared.store.log = τ.store.log := log_of_plain hstep ha
    show Shadows ⟨shared, τ.store.log.length, none⟩ shared
    rw [← hlog]
    exact .quiet shared
  | @busy _ m t hm hidle hmay =>
    have hmn : m ≠ n := fun he => hother (by rw [he])
    rcases ha with ⟨w, rfl⟩ | ⟨x, rfl⟩ | rfl | ⟨rfl, hnothing⟩
    · rcases OpenStore.step_write hstep with rfl | ⟨u, tx, store, hu, -, hok, rfl⟩
      · exact ⟨τ, .busy hm hidle hmay, .inl rfl⟩
      · -- the place is taken, so nobody else's write goes through
        obtain ⟨held, hplace, -⟩ := Transaction.modify_ok hok
        have huw := not_writing_of_busy hinv hm hidle hmay hu (Ne.symm hmn)
        rcases Transaction.takePlace_ok hplace with ⟨hw, -⟩ | ⟨-, hfree, -⟩
        · exact absurd hw (by simp [huw])
        · exact absurd hfree (by simp [Transaction.append])
    · obtain ⟨u, hu, rfl⟩ := OpenStore.step_note hstep
      refine ⟨τ.put n (some { u with tx := u.tx.note x }), ?_, .inr ?_⟩
      · exact .put hm hidle hmay hmn _
      · have hu' : τ.opened n = some u := hu
        simp [OpenStore.step, hu']
    · obtain ⟨u, hu, rfl⟩ := OpenStore.step_drop hstep
      have hu' : τ.opened n = some u := hu
      have huw := not_writing_of_busy hinv hm hidle hmay hu' (Ne.symm hmn)
      refine ⟨τ.put n none, ?_, .inr ?_⟩
      · simp only [Transaction.drop_of_not_writing huw]
        exact .put hm hidle hmay hmn _
      · simp [OpenStore.step, hu', Transaction.drop_of_not_writing huw]
    · obtain ⟨u, hu, -, rfl⟩ := OpenStore.step_commit hstep
      have hu' : τ.opened n = some u := hu
      have hui := hnothing u hu
      refine ⟨{ τ with committed := τ.committed ++ [u] }.put n none, ?_, .inr ?_⟩
      · simp only [Transaction.commit_of_idle hui]
        exact .put (τ := { τ with committed := τ.committed ++ [u] }) hm hidle hmay hmn _
      · simp [OpenStore.step, hu', Transaction.commit_of_idle hui,
          Transaction.mayCommit_of_idle hui]

/-- One commit at a time: while one is under way, any other would have to wait. -/
theorem quiet_of_mayCommit {t : OpenTransaction} (hinv : OpenStore.Inv τ) (h : Shadows σ τ)
    (ht : σ.shared.opened n = some t) (hidle : t.tx.isIdle = false)
    (hother : σ.publishing ≠ some n) (hmay : t.tx.mayCommit σ.shared.store = true) :
    σ = ⟨τ, τ.store.log.length, none⟩ := by
  cases h with
  | quiet => rfl
  | @busy _ m u hm huidle humay =>
    have hnm : n ≠ m := fun he => hother (by rw [he])
    have htw := not_writing_of_busy hinv hm huidle humay ht hnm
    have hnotes : t.tx.notes ≠ [] := by simpa [htw] using Transaction.isIdle_eq_false.1 hidle
    exact absurd hmay (by simp [Transaction.mayCommit, Transaction.append, htw, hnotes])

theorem shadows_commit (hinv : OpenStore.Inv τ) (h : Shadows σ τ)
    (hs : σ.step (.commit n) = some σ') :
    ∃ τ', Shadows σ' τ' ∧ (τ' = τ ∨ τ.step (.commit n) = some τ') := by
  obtain ⟨t, ht, ⟨hidle, hplain⟩ | ⟨hidle, hother, hmay, rfl⟩⟩ := step_commit hs
  · refine shadows_plain hinv h hplain (.inr (.inr (.inr ⟨rfl, fun u hu => ?_⟩)))
    obtain rfl := Option.some.inj (ht.symm.trans hu)
    exact hidle
  · obtain rfl := quiet_of_mayCommit hinv h ht hidle hother hmay
    exact ⟨τ, .busy ht hidle hmay, .inl rfl⟩

theorem shadows_publish (h : Shadows σ τ) (hs : σ.step (.publish n) = some σ') :
    ∃ τ', Shadows σ' τ' ∧ τ.step (.commit n) = some τ' := by
  obtain ⟨t, ht, hpub, rfl⟩ := step_publish hs
  cases h with
  | quiet => exact absurd hpub (by simp)
  | @busy _ m u hm hidle hmay =>
    obtain rfl := Option.some.inj hpub
    obtain rfl := Option.some.inj (hm.symm.trans ht)
    simp only [Transaction.publish_append hidle hmay]
    exact ⟨_, .quiet _, by simp [OpenStore.step, hm, hmay]⟩

theorem shadows_step {a : SplitStep} (hinv : OpenStore.Inv τ) (h : Shadows σ τ)
    (hs : σ.step a = some σ') :
    ∃ τ', Shadows σ' τ' ∧ (τ' = τ ∨ ∃ whole, τ.step whole = some τ') := by
  cases a with
  | begin n =>
    obtain ⟨τ', h', hτ⟩ := shadows_begin h hs
    exact ⟨τ', h', .inr ⟨_, hτ⟩⟩
  | write n w =>
    obtain ⟨τ', h', hτ⟩ := shadows_plain hinv h hs (.inl ⟨w, rfl⟩)
    exact ⟨τ', h', hτ.imp_right fun hτ => ⟨_, hτ⟩⟩
  | note n x =>
    obtain ⟨τ', h', hτ⟩ := shadows_plain hinv h hs (.inr (.inl ⟨x, rfl⟩))
    exact ⟨τ', h', hτ.imp_right fun hτ => ⟨_, hτ⟩⟩
  | commit n =>
    obtain ⟨τ', h', hτ⟩ := shadows_commit hinv h hs
    exact ⟨τ', h', hτ.imp_right fun hτ => ⟨_, hτ⟩⟩
  | publish n =>
    obtain ⟨τ', h', hτ⟩ := shadows_publish h hs
    exact ⟨τ', h', .inr ⟨_, hτ⟩⟩
  | drop n =>
    obtain ⟨τ', h', hτ⟩ := shadows_plain hinv h hs (.inr (.inr (.inl rfl)))
    exact ⟨τ', h', hτ.imp_right fun hτ => ⟨_, hτ⟩⟩

/-- **A commit in two steps is as good as one.** Wherever the finer steps lead, steps that commit
at once lead as well, but for the notes of a commit that is not published. -/
theorem shadows_run {schedule : List SplitStep} (h : run schedule = some σ) :
    ∃ whole τ, OpenStore.run whole = some τ ∧ Shadows σ τ := by
  -- by induction on the schedule, the last step taken off first
  induction schedule using List.reverseRecOn generalizing σ with
  | nil =>
    obtain rfl := Option.some.inj h
    exact ⟨[], .start, rfl, .quiet _⟩
  | append_singleton schedule a ih =>
    rw [run_snoc] at h
    obtain ⟨σ₁, hrun, hs⟩ := Option.bind_eq_some_iff.1 h
    obtain ⟨whole, τ, hwhole, hτ⟩ := ih hrun
    obtain ⟨τ', h', rfl | ⟨b, hb⟩⟩ := shadows_step (OpenStore.inv_run hwhole) hτ hs
    · exact ⟨whole, τ', hwhole, h'⟩
    · exact ⟨whole ++ [b], τ', by rw [OpenStore.run_snoc, hwhole]; exact hb, h'⟩

/-! ### The other way round -/

theorem plain_of_step {a : StoreStep} {τ' : OpenStore} (hs : τ.step a = some τ')
    (ha : (∃ w, a = .write n w) ∨ (∃ x, a = .note n x) ∨ a = .drop n ∨
      a = .commit n ∧ ∀ t, τ.opened n = some t → t.tx.isIdle = true) :
    plain ⟨τ, τ.store.log.length, none⟩ n a = some ⟨τ', τ'.store.log.length, none⟩ := by
  rw [log_of_plain hs ha, plain, if_neg (by simp), hs, Option.map_some]

theorem foldlM_one (σ : SplitStore) (a : SplitStep) : [a].foldlM step σ = σ.step a := by
  simp only [List.foldlM_cons, List.foldlM_nil, bind_pure]

/-- What commits at once can as well do so in two steps, with nobody in between. -/
theorem split_step {a : StoreStep} {τ' : OpenStore} (hs : τ.step a = some τ') :
    ∃ finer : List SplitStep,
      finer.foldlM step ⟨τ, τ.store.log.length, none⟩ =
        some ⟨τ', τ'.store.log.length, none⟩ := by
  cases a with
  | begin n =>
    obtain ⟨hn, rfl⟩ := OpenStore.step_begin hs
    refine ⟨[.begin n], ?_⟩
    simp only [foldlM_one, step, hn]
    rfl
  | write n w =>
    have hplain := plain_of_step hs (.inl ⟨w, rfl⟩)
    exact ⟨[.write n w], (foldlM_one _ _).trans hplain⟩
  | note n x =>
    have hplain := plain_of_step hs (.inr (.inl ⟨x, rfl⟩))
    exact ⟨[.note n x], (foldlM_one _ _).trans hplain⟩
  | drop n =>
    have hplain := plain_of_step hs (.inr (.inr (.inl rfl)))
    exact ⟨[.drop n], (foldlM_one _ _).trans hplain⟩
  | commit n =>
    obtain ⟨t, ht, hmay, rfl⟩ := OpenStore.step_commit hs
    cases hidle : t.tx.isIdle with
    | true =>
      have hplain := plain_of_step hs (.inr (.inr (.inr ⟨rfl, fun u hu => by
        rwa [← Option.some.inj (ht.symm.trans hu)]⟩)))
      refine ⟨[.commit n], ?_⟩
      simp only [foldlM_one, step, ht, hidle, if_true]
      exact hplain
    | false =>
      refine ⟨[.commit n, .publish n], ?_⟩
      simp [step, ht, hidle, hmay, Transaction.publish_append hidle hmay]

theorem split_run {whole : List StoreStep} (h : OpenStore.run whole = some τ) :
    ∃ schedule, run schedule = some ⟨τ, τ.store.log.length, none⟩ := by
  induction whole using List.reverseRecOn generalizing τ with
  | nil =>
    obtain rfl := Option.some.inj h
    exact ⟨[], rfl⟩
  | append_singleton whole a ih =>
    rw [OpenStore.run_snoc] at h
    obtain ⟨τ₁, hrun, hs⟩ := Option.bind_eq_some_iff.1 h
    obtain ⟨schedule, hschedule⟩ := ih hrun
    obtain ⟨finer, hfiner⟩ := split_step hs
    exact ⟨schedule ++ finer, by rw [run_append, hschedule]; exact hfiner⟩

/-! ## What is read in between -/

/-- The store as far as it is published. -/
def published (σ : SplitStore) : Store :=
  { σ.shared.store with log := σ.shared.store.log.take σ.covered }

variable {a : SplitStep} {s₀ : Store} {t : OpenTransaction}

/-- What is published is never taken back. -/
theorem covered_le_of_step (h : Shadows σ τ) (hs : σ.step a = some σ') :
    σ.covered ≤ σ'.covered := by
  have hplain {m : Nat} {b : StoreStep} (h : σ.plain m b = some σ') : σ.covered ≤ σ'.covered := by
    obtain ⟨-, shared, -, rfl⟩ := plain_eq_some h
    exact Nat.le_refl _
  cases a with
  | begin m =>
    obtain ⟨-, rfl⟩ := step_begin hs
    exact Nat.le_refl _
  | write m w => exact hplain hs
  | note m x => exact hplain hs
  | drop m => exact hplain hs
  | commit m =>
    obtain ⟨u, -, ⟨-, hidle⟩ | ⟨-, -, -, rfl⟩⟩ := step_commit hs
    · exact hplain hidle
    · exact Nat.le_refl _
  | publish m =>
    obtain ⟨u, -, -, rfl⟩ := step_publish hs
    show σ.covered ≤ (u.tx.publish σ.shared.store).log.length
    rw [Transaction.log_publish]
    exact h.covered_le

/-- No finer step reaches a transaction that it does not end, be it the half of a commit. -/
theorem isolated_step (h : OpenStore.Isolated s₀ σ.shared t) (hn : σ.shared.opened n = some t)
    (hs : σ.step a = some σ')
    (hopen : a ≠ .commit n ∧ a ≠ .publish n ∧ a ≠ .drop n) :
    ∃ t', σ'.shared.opened n = some t' ∧ OpenStore.Isolated s₀ σ'.shared t' := by
  have hplain {m : Nat} {b : StoreStep} (hs : σ.plain m b = some σ')
      (hcommit : b ≠ .commit n) (hdrop : b ≠ .drop n) :
      ∃ t', σ'.shared.opened n = some t' ∧ OpenStore.Isolated s₀ σ'.shared t' := by
    obtain ⟨-, shared, hstep, rfl⟩ := plain_eq_some hs
    exact h.step hn hstep hcommit hdrop
  obtain ⟨hcommit, hpublish, hdrop⟩ := hopen
  cases a with
  | begin m =>
    obtain ⟨hclosed, rfl⟩ := step_begin hs
    have hother : n ≠ m := by
      rintro rfl
      exact absurd (hn.symm.trans hclosed) (by simp)
    exact ⟨t, (if_neg hother).trans hn, h.rows, h.length, h.log⟩
  | write m w => exact hplain hs nofun nofun
  | note m x => exact hplain hs nofun nofun
  | drop m =>
    exact hplain hs nofun fun hsame => hdrop (by cases hsame; rfl)
  | commit m =>
    obtain ⟨u, -, ⟨-, hidle⟩ | ⟨-, -, -, rfl⟩⟩ := step_commit hs
    · exact hplain hidle (fun hsame => hcommit (by cases hsame; rfl)) nofun
    · exact ⟨t, hn, h.rows, h.length, h.log.trans (List.prefix_append ..)⟩
  | publish m =>
    obtain ⟨u, -, -, rfl⟩ := step_publish hs
    have hother : n ≠ m := fun hsame => hpublish (by rw [hsame])
    refine ⟨t, (if_neg hother).trans hn, h.rows, h.length, ?_⟩
    show s₀.log <+: (u.tx.publish σ.shared.store).log
    rw [Transaction.log_publish]
    exact h.log

variable {earlier later : List SplitStep} {σ₀ : SplitStore}

theorem isolated_run (hbefore : run earlier = some σ₀)
    (hopen : ∀ a ∈ later, a ≠ .commit n ∧ a ≠ .publish n ∧ a ≠ .drop n)
    (hrun : run (earlier ++ .begin n :: later) = some σ) :
    σ₀.covered ≤ σ.covered ∧
      ∃ t, σ.shared.opened n = some t ∧ OpenStore.Isolated σ₀.published σ.shared t := by
  -- by induction on the steps since the beginning, the last one taken off first
  induction later using List.reverseRecOn generalizing σ with
  | nil =>
    rw [run_snoc, hbefore] at hrun
    obtain ⟨-, rfl⟩ := step_begin hrun
    obtain ⟨-, τ, -, hτ⟩ := shadows_run hbefore
    have hlength : σ₀.covered = σ₀.published.log.length :=
      (List.length_take_of_le hτ.covered_le).symm
    exact ⟨Nat.le_refl _, _, if_pos rfl, rfl, hlength, List.take_prefix ..⟩
  | append_singleton later a ih =>
    rw [← List.cons_append, ← List.append_assoc, run_snoc] at hrun
    obtain ⟨σ₁, hrun₁, hs⟩ := Option.bind_eq_some_iff.1 hrun
    obtain ⟨hcovered, t, hn, h⟩ := ih (fun b hb => hopen b (List.mem_append_left _ hb)) hrun₁
    obtain ⟨-, τ, -, hτ⟩ := shadows_run hrun₁
    exact ⟨Nat.le_trans hcovered (covered_le_of_step hτ hs),
      isolated_step h hn hs (hopen a (List.mem_append_right _ List.mem_cons_self))⟩

/-- **Snapshot isolation holds between the halves of a commit too.** A transaction that is still
open reads what was published when it began, with the writes of its own that went through. The part
of the log that it looks at is as long as what was published then, which is no longer than what is
published now, which is no longer than the log; and it shows the same records, however much of the
log is not published yet. -/
theorem reads_what_was_published (hbefore : run earlier = some σ₀)
    (hopen : ∀ a ∈ later, a ≠ .commit n ∧ a ≠ .publish n ∧ a ≠ .drop n)
    (hrun : run (earlier ++ .begin n :: later) = some σ) :
    ∃ t, σ.shared.opened n = some t ∧
      t.tx.sight σ.shared.store = (σ₀.published.lone t.writes).sight σ₀.published ∧
      t.tx.logLength = σ₀.covered ∧ σ₀.covered ≤ σ.covered ∧
      σ.covered ≤ σ.shared.store.log.length ∧
      t.tx.visibleLog σ.shared.store = σ₀.published.log := by
  obtain ⟨hcovered, t, hn, h⟩ := isolated_run hbefore hopen hrun
  obtain ⟨-, τ₀, -, hτ₀⟩ := shadows_run hbefore
  obtain ⟨-, τ, -, hτ⟩ := shadows_run hrun
  have hlength : σ₀.published.log.length = σ₀.covered := List.length_take_of_le hτ₀.covered_le
  exact ⟨t, hn, h.sight, h.length.trans hlength, hcovered, hτ.covered_le, h.visibleLog⟩

/-- Somebody who begins while a note is on the log and not published does not see it, not even when
it is published. -/
example :
    ∃ σ t, run [.begin 0, .note 0 default, .commit 0, .begin 1, .publish 0] = some σ ∧
      σ.shared.opened 1 = some t ∧ σ.covered = 1 ∧ t.tx.visibleLog σ.shared.store = [] :=
  ⟨_, _, rfl, rfl, rfl, rfl⟩

end SplitStore

end AcctAdmin.Server
