import AcctAdmin.Proofs.Transaction.Publication

/-!
# The audit log

What stands on the audit log is settled by the steps of the schedule alone: the notes of the
transactions that came to their commit, one block after the other in the order of the commits, with
the numbers from 1 on. The steps are the finer ones, in which a commit is not over when its notes
are on the log, so the log is accounted for in the middle of a commit too.
-/

set_option autoImplicit false

namespace AcctAdmin.Server

namespace Transaction

/-! ## Numbering -/

@[simp] theorem length_numberFrom (count : Nat) (notes : List AuditNote) :
    (numberFrom count notes).length = notes.length := by
  induction notes generalizing count with
  | nil => rfl
  | cons n rest ih => simp [numberFrom, ih]

theorem numberFrom_append (count : Nat) (first second : List AuditNote) :
    numberFrom count (first ++ second) =
      numberFrom count first ++ numberFrom (count + first.length) second := by
  induction first generalizing count with
  | nil => rfl
  | cons n rest ih =>
    rw [List.cons_append, numberFrom, numberFrom, ih, List.cons_append, List.length_cons,
      Nat.add_assoc, Nat.add_comm 1]

theorem id_of_numberFrom {count i : Nat} {notes : List AuditNote} {e : AuditEvent}
    (h : (numberFrom count notes)[i]? = some e) : e.id = UInt64.ofNat (count + i + 1) := by
  induction notes generalizing count i with
  | nil => exact absurd h (by simp [numberFrom])
  | cons n rest ih =>
    cases i with
    | zero =>
      obtain rfl := Option.some.inj h
      rfl
    | succ i =>
      have hid : e.id = UInt64.ofNat (count + 1 + i + 1) := ih h
      rwa [Nat.add_assoc count 1 i, Nat.add_comm 1 i] at hid

/-- As long as the numbers fit in 64 bits they are those that follow one another, each once. -/
theorem ids_of_numberFrom {count : Nat} {notes : List AuditNote}
    (h : count + notes.length < UInt64.size) :
    (numberFrom count notes).map (·.id.toNat) = List.range' (count + 1) notes.length := by
  induction notes generalizing count with
  | nil => rfl
  | cons n rest ih =>
    rw [List.length_cons] at h
    have hid : (n.numbered (UInt64.ofNat (count + 1))).id.toNat = count + 1 :=
      UInt64.toNat_ofNat_of_lt (by omega)
    rw [numberFrom, List.map_cons, hid, ih (by omega), List.length_cons, List.range'_succ]

end Transaction

/-! ## What a schedule puts on the log -/

/-- The transaction that takes a step. -/
def SplitStep.owner : SplitStep → Nat
  | .begin n => n
  | .write n _ => n
  | .note n _ => n
  | .commit n => n
  | .publish n => n
  | .drop n => n

/-- What the steps taken so far say about the log. -/
structure Tally where
  /-- The notes that a transaction has made and not brought to a commit. -/
  made : Nat → List AuditNote
  /-- The notes that were brought to a commit, one block for each. -/
  blocks : List (List AuditNote)

namespace Tally

def add (l : Tally) : SplitStep → Tally
  | .begin n => { l with made := Function.update l.made n [] }
  | .note n note => { l with made := Function.update l.made n (l.made n ++ [note]) }
  | .commit n => ⟨Function.update l.made n [], l.blocks ++ [l.made n]⟩
  | .drop n => { l with made := Function.update l.made n [] }
  | .write _ _ => l
  | .publish _ => l

def of (schedule : List SplitStep) : Tally := schedule.foldl add ⟨fun _ => [], []⟩

theorem of_append (first second : List SplitStep) :
    of (first ++ second) = second.foldl add (of first) := List.foldl_append

theorem of_snoc (schedule : List SplitStep) (a : SplitStep) :
    of (schedule ++ [a]) = (of schedule).add a := of_append schedule [a]

/-- The same tally but for what one transaction has made. -/
structure SameBut (n : Nat) (l l' : Tally) : Prop where
  made : ∀ m, m ≠ n → l.made m = l'.made m
  blocks : l.blocks = l'.blocks

variable {n : Nat} {l l' : Tally} {a : SplitStep}

theorem SameBut.eq (h : SameBut n l l') (hn : l.made n = l'.made n) : l = l' := by
  obtain ⟨made, blocks⟩ := l
  obtain ⟨made', blocks'⟩ := l'
  obtain rfl : blocks = blocks' := h.blocks
  obtain rfl : made = made' := by
    funext m
    by_cases hm : m = n
    · rw [hm]
      exact hn
    · exact h.made m hm
  rfl

theorem SameBut.add_other (h : SameBut n l l') (hother : a.owner ≠ n) :
    SameBut n (l.add a) (l'.add a) := by
  cases a with
  | begin k =>
    refine ⟨fun m hm => ?_, h.blocks⟩
    simp only [add, Function.update_apply, h.made m hm]
  | write k w => exact h
  | note k note =>
    refine ⟨fun m hm => ?_, h.blocks⟩
    simp only [add, Function.update_apply, h.made m hm, h.made k hother]
  | commit k =>
    refine ⟨fun m hm => ?_, ?_⟩
    · simp only [add, Function.update_apply, h.made m hm]
    · simp only [add, h.blocks, h.made k hother]
  | publish k => exact h
  | drop k =>
    refine ⟨fun m hm => ?_, h.blocks⟩
    simp only [add, Function.update_apply, h.made m hm]

theorem SameBut.add_own (h : SameBut n l l') (hown : a.owner = n) (hcommit : a ≠ .commit n) :
    SameBut n (l.add a) l' := by
  cases a with
  | begin k =>
    obtain rfl : k = n := hown
    exact ⟨fun m hm => (Function.update_of_ne hm _ _).trans (h.made m hm), h.blocks⟩
  | write k w => exact h
  | note k note =>
    obtain rfl : k = n := hown
    exact ⟨fun m hm => (Function.update_of_ne hm _ _).trans (h.made m hm), h.blocks⟩
  | commit k => exact absurd (congrArg _ hown) hcommit
  | publish k => exact h
  | drop k =>
    obtain rfl : k = n := hown
    exact ⟨fun m hm => (Function.update_of_ne hm _ _).trans (h.made m hm), h.blocks⟩

/-- Steps of one transaction leave no trace until it commits. -/
theorem SameBut.foldl {steps : List SplitStep} (h : SameBut n l l')
    (hcommit : ∀ a ∈ steps, a ≠ .commit n) :
    SameBut n (steps.foldl add l) ((steps.filter (·.owner ≠ n)).foldl add l') := by
  induction steps generalizing l l' with
  | nil => exact h
  | cons a rest ih =>
    have hrest : ∀ b ∈ rest, b ≠ .commit n := fun b hb => hcommit b (List.mem_cons_of_mem _ hb)
    by_cases hown : a.owner = n
    · rw [List.filter_cons_of_neg (by simpa using hown)]
      exact ih (h.add_own hown (hcommit a List.mem_cons_self)) hrest
    · rw [List.filter_cons_of_pos (by simpa using hown)]
      exact ih (h.add_other hown) hrest

theorem made_foldl {steps : List SplitStep} (hothers : ∀ a ∈ steps, a.owner ≠ n) :
    (steps.foldl add l).made n = l.made n := by
  induction steps generalizing l with
  | nil => rfl
  | cons a rest ih =>
    have hother := hothers a List.mem_cons_self
    have hadd : (l.add a).made n = l.made n := by
      cases a with
      | begin k => exact Function.update_of_ne (Ne.symm hother) _ _
      | write k w => rfl
      | note k note => exact Function.update_of_ne (Ne.symm hother) _ _
      | commit k => exact Function.update_of_ne (Ne.symm hother) _ _
      | publish k => rfl
      | drop k => exact Function.update_of_ne (Ne.symm hother) _ _
    rw [List.foldl_cons, ih fun b hb => hothers b (List.mem_cons_of_mem _ hb), hadd]

/-- A transaction that is dropped might as well never have been. -/
theorem of_dropped {before middle : List SplitStep} (hnothing : (of before).made n = [])
    (hcommit : ∀ a ∈ middle, a ≠ .commit n) (after : List SplitStep) :
    of (before ++ .begin n :: middle ++ .drop n :: after) =
      of (before ++ middle.filter (·.owner ≠ n) ++ after) := by
  suffices h : of (before ++ (.begin n :: middle ++ [.drop n])) =
      of (before ++ middle.filter (·.owner ≠ n)) by
    rw [of_append _ after, ← h, ← of_append]
    simp
  have hsteps : ∀ a ∈ SplitStep.begin n :: middle ++ [SplitStep.drop n], a ≠ .commit n := by
    intro a ha
    rcases List.mem_append.1 ha with ha | ha
    · rcases List.mem_cons.1 ha with rfl | ha
      · simp
      · exact hcommit a ha
    · rw [List.mem_singleton.1 ha]
      simp
  have hsame := SameBut.foldl (l := of before) ⟨fun _ _ => rfl, rfl⟩ hsteps
  have hfilter : (SplitStep.begin n :: middle ++ [SplitStep.drop n]).filter (·.owner ≠ n) =
      middle.filter (·.owner ≠ n) := by
    simp [SplitStep.owner]
  rw [hfilter] at hsame
  have hown : ((middle.filter (·.owner ≠ n)).foldl add (of before)).made n = [] := by
    rw [made_foldl (by simp), hnothing]
  have hdropped :
      ((SplitStep.begin n :: middle ++ [SplitStep.drop n]).foldl add (of before)).made n = [] := by
    rw [List.foldl_append]
    exact Function.update_self _ _ _
  rw [of_append, of_append]
  exact hsame.eq (hdropped.trans hown.symm)

end Tally

namespace SplitStore

open Transaction

variable {σ σ' : SplitStore} {τ : OpenStore} {l : Tally} {a : SplitStep} {n : Nat}
  {schedule : List SplitStep}

/-! ## The tally is right -/

/-- A tally that says what the store has. -/
structure Tallied (σ : SplitStore) (l : Tally) : Prop where
  opened : ∀ n t, σ.shared.opened n = some t → σ.publishing ≠ some n → l.made n = t.tx.notes
  closed : ∀ n, σ.shared.opened n = none → l.made n = []
  busy : ∀ n, σ.publishing = some n → l.made n = []
  log : σ.shared.store.log = numberFrom 0 l.blocks.flatten

theorem tallied_start : Tallied start ⟨fun _ => [], []⟩ where
  opened n t h := absurd h (by simp [start, OpenStore.start])
  closed _ _ := rfl
  busy n h := absurd h (by simp [start])
  log := rfl

theorem Tallied.begin (h : Tallied σ l) (hs : σ.step (.begin n) = some σ') :
    Tallied σ' (l.add (.begin n)) := by
  obtain ⟨hn, rfl⟩ := step_begin hs
  have hsame : Function.update l.made n [] = l.made := by
    rw [← h.closed n hn, Function.update_eq_self]
  refine ⟨fun m t ht hpub => ?_, fun m hm => ?_, fun m hm => ?_, h.log⟩
  · rcases OpenStore.put_some ht with ⟨rfl, rfl⟩ | ⟨hmn, hold⟩
    · exact Function.update_self _ _ _
    · exact (Function.update_of_ne hmn _ _).trans (h.opened m t hold hpub)
  · by_cases hmn : m = n
    · exact absurd hm (by simp [hmn])
    · exact (Function.update_of_ne hmn _ _).trans (h.closed m (by simpa [hmn] using hm))
  · show Function.update l.made n [] m = []
    rw [hsame]
    exact h.busy m hm

theorem Tallied.write {w : Write} (h : Tallied σ l) (hs : σ.step (.write n w) = some σ') :
    Tallied σ' l := by
  obtain ⟨-, shared, hstep, rfl⟩ := plain_eq_some hs
  rcases OpenStore.step_write hstep with rfl | ⟨t, tx, store, ht, -, hok, rfl⟩
  · exact h
  · obtain ⟨htx, hstore⟩ := Transaction.modify_frame hok
    refine ⟨fun m u hu hpub => ?_, fun m hm => ?_, h.busy, ?_⟩
    · rcases OpenStore.put_some hu with ⟨rfl, rfl⟩ | ⟨-, hold⟩
      · rw [h.opened m t ht hpub, htx]
      · exact h.opened m u hold hpub
    · by_cases hmn : m = n
      · exact absurd hm (by simp [hmn])
      · exact h.closed m (by simpa [hmn] using hm)
    · show store.log = _
      rw [hstore]
      exact h.log

theorem Tallied.note {note : AuditNote} (h : Tallied σ l) (hs : σ.step (.note n note) = some σ') :
    Tallied σ' (l.add (.note n note)) := by
  obtain ⟨hpubn, shared, hstep, rfl⟩ := plain_eq_some hs
  obtain ⟨t, ht, rfl⟩ := OpenStore.step_note hstep
  refine ⟨fun m u hu hpub => ?_, fun m hm => ?_, fun m hm => ?_, h.log⟩
  · rcases OpenStore.put_some hu with ⟨rfl, rfl⟩ | ⟨hmn, hold⟩
    · exact (Function.update_self _ _ _).trans (by rw [h.opened m t ht hpub]; rfl)
    · exact (Function.update_of_ne hmn _ _).trans (h.opened m u hold hpub)
  · by_cases hmn : m = n
    · exact absurd hm (by simp [hmn])
    · exact (Function.update_of_ne hmn _ _).trans (h.closed m (by simpa [hmn] using hm))
  · have hmn : m ≠ n := fun he => hpubn (he ▸ hm)
    exact (Function.update_of_ne hmn _ _).trans (h.busy m hm)

/-- A transaction that is gone has nothing on the tally but what it committed. -/
theorem Tallied.remove {shared : OpenStore} {covered : Nat} {publishing : Option Nat}
    {blocks : List (List AuditNote)} (h : Tallied σ l)
    (hopened : shared.opened = (σ.shared.put n none).opened)
    (hpub : publishing = σ.publishing ∨ σ.publishing = some n ∧ publishing = none)
    (hlog : shared.store.log = numberFrom 0 blocks.flatten) :
    Tallied ⟨shared, covered, publishing⟩ ⟨Function.update l.made n [], blocks⟩ := by
  have hclear : ∀ m, l.made m = [] → Function.update l.made n [] m = [] := by
    intro m hm
    rw [Function.update_apply, hm, ite_self]
  refine ⟨fun m u hu hm => ?_, fun m hm => ?_, fun m hm => ?_, hlog⟩
  · obtain ⟨hmn, hold⟩ := OpenStore.put_none (n := n) (hopened ▸ hu)
    refine (Function.update_of_ne hmn _ _).trans (h.opened m u hold fun hbusy => ?_)
    rcases hpub with rfl | ⟨hn, -⟩
    · exact hm hbusy
    · exact hmn (Option.some.inj (hbusy.symm.trans hn))
  · by_cases hmn : m = n
    · exact hmn ▸ Function.update_self _ _ _
    · have hm' : (σ.shared.put n none).opened m = none := hopened ▸ hm
      exact hclear m (h.closed m (by simpa [hmn] using hm'))
  · rcases hpub with rfl | ⟨-, hnone⟩
    · exact hclear m (h.busy m hm)
    · exact absurd (hm.symm.trans hnone) (by simp)

theorem Tallied.drop (h : Tallied σ l) (hs : σ.step (.drop n) = some σ') :
    Tallied σ' (l.add (.drop n)) := by
  obtain ⟨-, shared, hstep, rfl⟩ := plain_eq_some hs
  obtain ⟨t, -, rfl⟩ := OpenStore.step_drop hstep
  exact h.remove rfl (.inl rfl) h.log

theorem Tallied.commit (hinv : OpenStore.Inv τ) (hτ : Shadows σ τ) (h : Tallied σ l)
    (hs : σ.step (.commit n) = some σ') : Tallied σ' (l.add (.commit n)) := by
  obtain ⟨t, ht, ⟨hidle, hplain⟩ | ⟨hidle, hother, hmay, rfl⟩⟩ := step_commit hs
  · obtain ⟨hpub, shared, hstep, rfl⟩ := plain_eq_some hplain
    obtain ⟨u, hu, -, rfl⟩ := OpenStore.step_commit hstep
    obtain rfl := Option.some.inj (ht.symm.trans hu)
    refine h.remove rfl (.inl rfl) ?_
    -- nothing to publish: its block is empty
    have hempty : l.made n = [] := by
      rw [h.opened n t ht hpub]
      by_contra hne
      exact absurd hidle (by simp [isIdle_eq_false.2 (.inr hne)])
    show (t.tx.commit σ.shared.store).log = _
    rw [commit_of_idle hidle, hempty, List.flatten_append, List.flatten_singleton, List.append_nil]
    exact h.log
  · obtain rfl := quiet_of_mayCommit hinv hτ ht hidle hother hmay
    have hmade := h.opened n t ht hother
    refine ⟨fun m u hu hpub => ?_, fun m hm => ?_, fun m hm => ?_, ?_⟩
    · have hmn : m ≠ n := fun he => hpub (by rw [he])
      exact (Function.update_of_ne hmn _ _).trans (h.opened m u hu (by simp))
    · have hmn : m ≠ n := by
        rintro rfl
        exact absurd (ht.symm.trans hm) (by simp)
      exact (Function.update_of_ne hmn _ _).trans (h.closed m hm)
    · obtain rfl := Option.some.inj hm
      exact Function.update_self _ _ _
    · have hlog : τ.store.log = numberFrom 0 l.blocks.flatten := h.log
      show (t.tx.append τ.store).log = numberFrom 0 (l.blocks ++ [l.made n]).flatten
      rw [List.flatten_append, List.flatten_singleton, numberFrom_append, ← hlog, hmade,
        Nat.zero_add, ← length_numberFrom 0, ← hlog]
      rfl

theorem Tallied.publish (h : Tallied σ l) (hs : σ.step (.publish n) = some σ') :
    Tallied σ' l := by
  obtain ⟨t, ht, hpub, rfl⟩ := step_publish hs
  have hsame : Function.update l.made n [] = l.made := by
    rw [← h.busy n hpub, Function.update_eq_self]
  suffices hgone : Tallied _ ⟨Function.update l.made n [], l.blocks⟩ by
    rwa [hsame] at hgone
  exact h.remove (n := n) rfl (.inr ⟨hpub, rfl⟩) ((log_publish _ _).trans h.log)

theorem tallied_step (hinv : OpenStore.Inv τ) (hτ : Shadows σ τ) (h : Tallied σ l)
    (hs : σ.step a = some σ') : Tallied σ' (l.add a) := by
  cases a with
  | begin n => exact h.begin hs
  | write n w => exact h.write hs
  | note n note => exact h.note hs
  | commit n => exact h.commit hinv hτ hs
  | publish n => exact h.publish hs
  | drop n => exact h.drop hs

theorem tallied_run (h : run schedule = some σ) : Tallied σ (Tally.of schedule) := by
  induction schedule using List.reverseRecOn generalizing σ with
  | nil =>
    obtain rfl := Option.some.inj h
    exact tallied_start
  | append_singleton schedule a ih =>
    rw [run_snoc] at h
    obtain ⟨σ₁, hrun, hs⟩ := Option.bind_eq_some_iff.1 h
    obtain ⟨whole, τ, hwhole, hτ⟩ := shadows_run hrun
    rw [Tally.of_snoc]
    exact tallied_step (OpenStore.inv_run hwhole) hτ (ih hrun) hs

/-! ## The log only grows -/

/-- Nothing is taken from the log, and no part of it is hidden again. -/
structure Grows (σ σ' : SplitStore) : Prop where
  log : σ.shared.store.log <+: σ'.shared.store.log
  covered : σ.covered ≤ σ'.covered

theorem Grows.refl (σ : SplitStore) : Grows σ σ := ⟨List.prefix_refl _, Nat.le_refl _⟩

theorem Grows.trans {σ'' : SplitStore} (h : Grows σ σ') (h' : Grows σ' σ'') : Grows σ σ'' :=
  ⟨h.log.trans h'.log, Nat.le_trans h.covered h'.covered⟩

theorem grows_plain {b : StoreStep} (hs : σ.plain n b = some σ') : Grows σ σ' := by
  obtain ⟨-, shared, hstep, rfl⟩ := plain_eq_some hs
  exact ⟨OpenStore.log_prefix_of_step hstep, Nat.le_refl _⟩

theorem grows_step (hτ : Shadows σ τ) (hs : σ.step a = some σ') : Grows σ σ' := by
  cases a with
  | begin n =>
    obtain ⟨-, rfl⟩ := step_begin hs
    exact ⟨List.prefix_refl _, Nat.le_refl _⟩
  | write n w => exact grows_plain hs
  | note n note => exact grows_plain hs
  | commit n =>
    obtain ⟨t, -, ⟨-, hplain⟩ | ⟨-, -, -, rfl⟩⟩ := step_commit hs
    · exact grows_plain hplain
    · exact ⟨List.prefix_append _ _, Nat.le_refl _⟩
  | publish n =>
    obtain ⟨t, -, -, rfl⟩ := step_publish hs
    have hlog := log_publish t.tx σ.shared.store
    refine ⟨?_, ?_⟩
    · exact ⟨[], (List.append_nil _).trans hlog.symm⟩
    · show σ.covered ≤ (t.tx.publish σ.shared.store).log.length
      rw [hlog]
      exact hτ.covered_le
  | drop n => exact grows_plain hs

theorem grows_run {later : List SplitStep} (h : run schedule = some σ)
    (h' : run (schedule ++ later) = some σ') : Grows σ σ' := by
  induction later using List.reverseRecOn generalizing σ' with
  | nil =>
    rw [List.append_nil, h] at h'
    obtain rfl := Option.some.inj h'
    exact .refl σ
  | append_singleton later a ih =>
    rw [← List.append_assoc, run_snoc] at h'
    obtain ⟨σ₁, hrun, hs⟩ := Option.bind_eq_some_iff.1 h'
    obtain ⟨whole, τ, -, hτ⟩ := shadows_run hrun
    exact (ih hrun).trans (grows_step hτ hs)

/-! ## What a transaction sees -/

/-- An open transaction that is not in the middle of its commit and sees the first `length` entries
of the log. -/
def Looks (σ : SplitStore) (n length : Nat) : Prop :=
  σ.publishing ≠ some n ∧ ∃ t, σ.shared.opened n = some t ∧ t.tx.logLength = length

theorem looks_begin (hτ : Shadows σ τ) (hs : σ.step (.begin n) = some σ') :
    Looks σ' n σ.covered := by
  obtain ⟨hn, rfl⟩ := step_begin hs
  refine ⟨fun hpub => ?_, _, if_pos rfl, rfl⟩
  cases hτ with
  | quiet => exact absurd hpub (by simp)
  | @busy _ m t hm =>
    obtain rfl := Option.some.inj hpub
    exact absurd (hm.symm.trans hn) (by simp)

theorem looks_plain {b : StoreStep} {m length : Nat} (h : Looks σ n length)
    (hs : σ.plain m b = some σ') (hcommit : b ≠ .commit n) (hdrop : b ≠ .drop n) :
    Looks σ' n length := by
  obtain ⟨hpub, t, ht, hlength⟩ := h
  obtain ⟨-, shared, hstep, rfl⟩ := plain_eq_some hs
  obtain ⟨t', ht', hlength', -⟩ := OpenStore.step_of_opened ht hstep hcommit hdrop
  exact ⟨hpub, t', ht', hlength'.trans hlength⟩

theorem looks_step {length : Nat} (h : Looks σ n length) (hs : σ.step a = some σ')
    (hcommit : a ≠ .commit n) (hdrop : a ≠ .drop n) : Looks σ' n length := by
  cases a with
  | begin m =>
    obtain ⟨hm, rfl⟩ := step_begin hs
    obtain ⟨hpub, t, ht, hlength⟩ := h
    have hnm : n ≠ m := by
      rintro rfl
      exact absurd (ht.symm.trans hm) (by simp)
    exact ⟨hpub, t, (if_neg hnm).trans ht, hlength⟩
  | write m w => exact looks_plain h hs (by simp) (by simp)
  | note m note => exact looks_plain h hs (by simp) (by simp)
  | commit m =>
    have hmn : m ≠ n := fun he => hcommit (by rw [he])
    obtain ⟨u, -, ⟨-, hplain⟩ | ⟨-, -, -, rfl⟩⟩ := step_commit hs
    · exact looks_plain h hplain (by simpa using hmn) (by simp)
    · exact ⟨by simpa using hmn, h.2⟩
  | publish m =>
    obtain ⟨u, -, hpubm, rfl⟩ := step_publish hs
    obtain ⟨hpub, t, ht, hlength⟩ := h
    have hnm : n ≠ m := fun he => hpub (he ▸ hpubm)
    exact ⟨by simp, t, (if_neg hnm).trans ht, hlength⟩
  | drop m =>
    have hmn : m ≠ n := fun he => hdrop (by rw [he])
    exact looks_plain h hs (by simp) (by simpa using hmn)

theorem looks_run {length : Nat} {later : List SplitStep} (h : Looks σ n length)
    (hs : later.foldlM step σ = some σ') (hopen : ∀ a ∈ later, a ≠ .commit n ∧ a ≠ .drop n) :
    Looks σ' n length := by
  induction later generalizing σ with
  | nil =>
    obtain rfl := Option.some.inj hs
    exact h
  | cons a rest ih =>
    rw [List.foldlM_cons] at hs
    obtain ⟨σ₁, hone, hrest⟩ := Option.bind_eq_some_iff.1 hs
    obtain ⟨hcommit, hdrop⟩ := hopen a List.mem_cons_self
    exact ih (looks_step h hone hcommit hdrop) hrest
      fun b hb => hopen b (List.mem_cons_of_mem _ hb)

/-! ## The log as a whole -/

theorem sees_published {earlier between later : List SplitStep} {m : Nat}
    (h : run (earlier ++ .publish m :: between ++ .begin n :: later) = some σ)
    (hopen : ∀ a ∈ later, a ≠ .commit n ∧ a ≠ .drop n) :
    ∃ t, σ.shared.opened n = some t ∧
      numberFrom 0 (Tally.of (earlier ++ [.publish m])).blocks.flatten <+:
        t.tx.visibleLog σ.shared.store := by
  have hsplit : earlier ++ .publish m :: between ++ .begin n :: later =
      (earlier ++ [.publish m] ++ between) ++ (.begin n :: later) := by simp
  rw [hsplit] at h
  have hrun := h
  rw [run_append] at hrun
  obtain ⟨σ₂, h₂, hrest⟩ := Option.bind_eq_some_iff.1 hrun
  obtain ⟨σ₁, h₁, -⟩ := Option.bind_eq_some_iff.1 ((run_append _ _).symm.trans h₂)
  rw [List.foldlM_cons] at hrest
  obtain ⟨σ₃, hbegin, hlater⟩ := Option.bind_eq_some_iff.1 hrest
  obtain ⟨_, _, _, hτ₁⟩ := shadows_run h₁
  obtain ⟨_, _, _, hτ₂⟩ := shadows_run h₂
  obtain ⟨-, t, ht, hlength⟩ := looks_run (looks_begin hτ₂ hbegin) hlater hopen
  -- the publication covers the whole log, and what is covered stays so until the transaction begins
  have hnone : σ₁.publishing = none := by
    rw [run_snoc] at h₁
    obtain ⟨σ₀, -, hpublish⟩ := Option.bind_eq_some_iff.1 h₁
    obtain ⟨u, -, -, rfl⟩ := step_publish hpublish
    rfl
  have hcovered : σ₁.shared.store.log.length ≤ t.tx.logLength := by
    rw [hlength, ← hτ₁.covered_eq hnone]
    exact (grows_run h₁ h₂).covered
  refine ⟨t, ht, ?_⟩
  have hpre : σ₁.shared.store.log <+: σ.shared.store.log :=
    (grows_run h₁ h₂).log.trans (grows_run h₂ h).log
  rw [← (tallied_run h₁).log]
  exact List.prefix_take_iff.2 ⟨hpre, hcovered⟩

/-- **The audit log is what was committed.** At any time, the middle of a commit included, the log
holds the notes of the transactions that came to their commit, one block after the other in the
order of the commits, under the numbers 1, 2, 3 and so on, each once as long as 64 bits are enough.
A transaction that is dropped leaves the log as if it had never been. What is on the log stays
there as it is, and whoever begins after a commit was published sees all that was committed by
then. -/
theorem log_is_what_was_committed (h : run schedule = some σ) :
    σ.shared.store.log = numberFrom 0 (Tally.of schedule).blocks.flatten ∧
    (∀ i e, σ.shared.store.log[i]? = some e → e.id = UInt64.ofNat (i + 1)) ∧
    (σ.shared.store.log.length < UInt64.size →
      σ.shared.store.log.map (·.id.toNat) = List.range' 1 σ.shared.store.log.length) ∧
    (∀ earlier n middle later, schedule = earlier ++ .begin n :: middle ++ .drop n :: later →
      (∀ a ∈ middle, a ≠ .commit n) →
      σ.shared.store.log =
        numberFrom 0 (Tally.of (earlier ++ middle.filter (·.owner ≠ n) ++ later)).blocks.flatten) ∧
    (∀ later σ', run (schedule ++ later) = some σ' →
      σ.shared.store.log <+: σ'.shared.store.log) ∧
    (∀ earlier m between n later,
      schedule = earlier ++ .publish m :: between ++ .begin n :: later →
      (∀ a ∈ later, a ≠ .commit n ∧ a ≠ .drop n) →
      ∃ t, σ.shared.opened n = some t ∧
        numberFrom 0 (Tally.of (earlier ++ [.publish m])).blocks.flatten <+:
          t.tx.visibleLog σ.shared.store) := by
  have hlog := (tallied_run h).log
  refine ⟨hlog, fun i e he => ?_, fun hfits => ?_, ?_, fun later σ' h' => (grows_run h h').log, ?_⟩
  · rw [hlog] at he
    simpa using id_of_numberFrom he
  · have hlength : σ.shared.store.log.length = (Tally.of schedule).blocks.flatten.length := by
      rw [hlog, length_numberFrom]
    rw [hlength] at hfits ⊢
    rw [hlog]
    exact ids_of_numberFrom (by simpa using hfits)
  · rintro earlier n middle later rfl hcommit
    rw [hlog, Tally.of_dropped ?_ hcommit]
    have hsplit : earlier ++ .begin n :: middle ++ .drop n :: later =
        (earlier ++ [.begin n]) ++ (middle ++ .drop n :: later) := by simp
    rw [hsplit, run_append, run_snoc] at h
    obtain ⟨σ₁, hbegun, -⟩ := Option.bind_eq_some_iff.1 h
    obtain ⟨σ₀, h₀, hbegin⟩ := Option.bind_eq_some_iff.1 hbegun
    exact (tallied_run h₀).closed n (step_begin hbegin).1
  · rintro earlier m between n later rfl hopen
    exact sees_published h hopen

/-- Three transactions with a note each: the second commits before the first, and the third is
dropped in the middle of the first one's commit. -/
def overlapping : List SplitStep :=
  [.begin 0, .begin 1, .begin 2, .note 0 ⟨1, default, "LOGIN", "ada"⟩,
    .note 1 ⟨2, default, "LOGIN", "grace"⟩, .note 2 ⟨3, default, "LOGIN", "alan"⟩,
    .commit 1, .publish 1, .commit 0, .drop 2, .publish 0, .begin 3]

theorem overlapping_is_accounted_for :
    ∃ σ t, run overlapping = some σ ∧ σ.shared.store.log.length < UInt64.size ∧
      σ.shared.store.log.map (·.message) = ["grace", "ada"] ∧
      σ.shared.store.log.map (·.id.toNat) = [1, 2] ∧
      σ.shared.opened 3 = some t ∧
      numberFrom 0 (Tally.of (overlapping.take 11)).blocks.flatten <+:
        t.tx.visibleLog σ.shared.store := by
  obtain ⟨σ, hrun, hlength, hmessages⟩ : ∃ σ, run overlapping = some σ ∧
      σ.shared.store.log.length = 2 ∧ σ.shared.store.log.map (·.message) = ["grace", "ada"] :=
    ⟨_, rfl, rfl, rfl⟩
  have hfits : σ.shared.store.log.length < UInt64.size := by
    rw [hlength]
    decide
  obtain ⟨-, -, hids, -, -, hsees⟩ := log_is_what_was_committed hrun
  obtain ⟨t, ht, hpre⟩ := hsees (overlapping.take 10) 0 [] 3 [] rfl (by simp)
  refine ⟨σ, t, hrun, hfits, hmessages, ?_, ht, hpre⟩
  rw [hids hfits, hlength]
  rfl

end SplitStore

end AcctAdmin.Server
