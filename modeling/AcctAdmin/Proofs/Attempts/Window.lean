import AcctAdmin.Proofs.Lists
import AcctAdmin.Server.Attempts
import Mathlib.Data.List.Pairwise
import Mathlib.Data.List.TakeWhile

/-!
# The sliding window

What a host is told is settled by the times at which its attempts were let through, of which those
within the window count (`ruling`). The count keeps fewer times than that: old ones are dropped when
the host comes again, and all of them when the host has been quiet for long. What is dropped does
not count at any later time either (`Keeps`), so that nothing else that happens has a say in an
answer.
-/

set_option autoImplicit false

namespace AcctAdmin.Server.Attempts

/-! ## Runs -/

/-- What happens to a count of attempts: a host tries to log in, or quiet hosts are forgotten. -/
inductive Event where
  | check (host : String) (now : Nat)
  | prune (now : Nat)
deriving DecidableEq

def Event.time : Event → Nat
  | .check _ now => now
  | .prune now => now

/-- What a host is told. -/
def verdict (a : Attempts) (host : String) (now : Nat) : Except TooManyAttempts Unit :=
  (a.check host now).1

def step (a : Attempts) : Event → Attempts
  | .check host now => (a.check host now).2
  | .prune now => a.prune now

def run (a : Attempts) (events : List Event) : Attempts := events.foldl step a

/-- The time of an event, if it is an attempt of the host that is let through. -/
def admits? (a : Attempts) (host : String) : Event → Option Nat
  | .check other now =>
    if other = host then
      match a.verdict host now with
      | .ok () => some now
      | .error _ => none
    else none
  | .prune _ => none

/-- The times at which attempts of a host were let through, in order. -/
def admitted (a : Attempts) (host : String) : List Event → List Nat
  | [] => []
  | e :: rest => (a.admits? host e).toList ++ (a.step e).admitted host rest

/-! ## What the answers are to be -/

/-- The attempts that count at a time: they lie back less than the window. -/
def counting (window now : Nat) (past : List Nat) : List Nat :=
  past.filter fun hit => now - hit < window

/-- What is to be said to a host whose attempts were let through at some times. -/
def ruling (allowed window : Nat) (past : List Nat) (host : String) (now : Nat) :
    Except TooManyAttempts Unit :=
  let counted := counting window now past
  if allowed ≤ counted.length then
    .error ⟨host, window - (now - counted.head?.getD now)⟩
  else .ok ()

variable {a b : Attempts} {host : String} {past : List Nat} {now later : Nat} {e : Event}

theorem length_filter_le {p q : Nat → Prop} [DecidablePred p] [DecidablePred q]
    (h : ∀ hit ∈ past, p hit → q hit) :
    (past.filter fun hit => p hit).length ≤ (past.filter fun hit => q hit).length := by
  rw [← List.countP_eq_length_filter, ← List.countP_eq_length_filter]
  exact List.countP_mono_left (by simpa using h)

theorem counting_append (window now : Nat) (past more : List Nat) :
    counting window now (past ++ more) = counting window now past ++ counting window now more :=
  List.filter_append ..

/-- In order of time, what no longer counts lies in front. -/
theorem dropWhile_eq_counting {window : Nat} (h : past.Pairwise (· ≤ ·)) :
    (past.dropWhile fun hit => window ≤ now - hit) = counting window now past := by
  induction past with
  | nil => rfl
  | cons hit rest ih =>
    obtain ⟨hfirst, hrest⟩ := List.pairwise_cons.1 h
    by_cases hold : window ≤ now - hit
    · rw [List.dropWhile_cons_of_pos (by simpa using hold), ih hrest, counting, counting,
        List.filter_cons_of_neg (by simpa using hold)]
    · have hall : ∀ x ∈ hit :: rest, now - x < window := by
        intro x hx
        rcases List.mem_cons.1 hx with rfl | hx
        · omega
        · have := hfirst x hx
          omega
      rw [List.dropWhile_cons_of_neg (by simpa using hold), counting,
        List.filter_eq_self.2 (by simpa using hall)]

/-! ## What is kept of a host's past -/

/-- The times that are kept for a host. -/
def kept (a : Attempts) (host : String) : List Nat := (a.hits.lookup host).getD []

/-- What is kept of a host's past at a time: all but times that no longer count. -/
structure Keeps (a : Attempts) (host : String) (past : List Nat) (now : Nat) : Prop where
  hosts : (a.hits.map (·.1)).Nodup
  ordered : (past ++ [now]).Pairwise (· ≤ ·)
  kept : ∃ gone, past = gone ++ a.kept host ∧ ∀ hit ∈ gone, a.window ≤ now - hit

theorem Keeps.sorted (h : a.Keeps host past now) : past.Pairwise (· ≤ ·) :=
  (List.pairwise_append.1 h.ordered).1

theorem Keeps.le (h : a.Keeps host past now) {hit : Nat} (hmem : hit ∈ past) : hit ≤ now :=
  (List.pairwise_append.1 h.ordered).2.2 hit hmem now List.mem_cons_self

theorem nodup_setHits (h : (a.hits.map (·.1)).Nodup) (hits : List Nat) :
    ((a.setHits host hits).hits.map (·.1)).Nodup := by
  refine List.nodup_cons.2 ⟨?_, h.sublist (List.filter_sublist.map _)⟩
  intro hmem
  obtain ⟨x, hx, rfl⟩ := List.mem_map.1 hmem
  simpa using (List.mem_filter.1 hx).2

theorem kept_setHits_self (hits : List Nat) : (a.setHits host hits).kept host = hits := by
  simp [kept, setHits]

theorem kept_setHits_of_ne {other : String} (h : (a.hits.map (·.1)).Nodup) (hne : other ≠ host)
    (hits : List Nat) : (a.setHits other hits).kept host = a.kept host := by
  have hother : (other == host) = false := by simpa using hne
  simp only [kept, setHits, lookup_eq_find?, List.find?_cons, hother, find?_key_filter h]
  cases hfound : a.hits.find? (·.1 == host) with
  | none => rfl
  | some x =>
    have hx : x.1 = host := by simpa using List.find?_some hfound
    have hkeep : (x.1 != other) = true := by simpa [hx] using hne.symm
    simp [Option.filter, hkeep]

/-- A host is forgotten only if none of its attempts counts any more: it is if the latest does
not. -/
theorem kept_prune (h : (a.hits.map (·.1)).Nodup) (hsorted : (a.kept host).Pairwise (· ≤ ·))
    (now : Nat) :
    (a.prune now).kept host = a.kept host ∨
      (a.prune now).kept host = [] ∧ ∀ hit ∈ a.kept host, a.window ≤ now - hit := by
  simp only [kept, prune, lookup_eq_find?, find?_key_filter h] at hsorted ⊢
  generalize a.hits.find? (·.1 == host) = found at hsorted ⊢
  cases found with
  | none => exact .inl rfl
  | some x =>
    obtain ⟨_, hits⟩ := x
    by_cases hempty : hits = []
    · subst hempty
      exact .inl (by simp [Option.filter])
    · have hlast := List.getLast?_eq_some_getLast hempty
      by_cases hfresh : now - hits.getLast hempty < a.window
      · exact .inl (by simp [Option.filter, hlast, hfresh])
      · refine .inr ⟨by simp [Option.filter, hlast, hfresh], fun hit hmem => ?_⟩
        have := List.Pairwise.rel_getLast hsorted hmem
        simp only [Option.map_some, Option.getD_some] at this
        omega

theorem ordered_kept (h : a.Keeps host past now) : (a.kept host).Pairwise (· ≤ ·) := by
  obtain ⟨gone, hpast, -⟩ := h.kept
  have hsorted := h.sorted
  rw [hpast] at hsorted
  exact (List.pairwise_append.1 hsorted).2.1

theorem recent_eq (h : a.Keeps host past now) (hle : now ≤ later) :
    a.recent host later = counting a.window later past := by
  obtain ⟨gone, hpast, hgone⟩ := h.kept
  have hnone : counting a.window later gone = [] := by
    refine List.filter_eq_nil_iff.2 fun hit hmem => ?_
    have := hgone hit hmem
    simp only [decide_eq_true_eq]
    omega
  rw [hpast, counting_append, hnone, List.nil_append]
  exact dropWhile_eq_counting (ordered_kept h)

theorem verdict_eq (h : a.Keeps host past now) (hle : now ≤ later) :
    a.verdict host later = ruling a.allowed a.window past host later := by
  rw [verdict, check, ruling, recent_eq h hle]
  split <;> rfl

/-! ## One step -/

theorem split_counting (window now : Nat) (h : past.Pairwise (· ≤ ·)) :
    ∃ gone, past = gone ++ counting window now past ∧ ∀ hit ∈ gone, window ≤ now - hit := by
  refine ⟨past.takeWhile fun hit => window ≤ now - hit, ?_, fun hit hmem => ?_⟩
  · rw [← dropWhile_eq_counting h, List.takeWhile_append_dropWhile]
  · simpa using List.mem_takeWhile_imp hmem

theorem check_eq (h : a.Keeps host past now) (hle : now ≤ later) :
    (a.check host later).2 =
      a.setHits host (counting a.window later past ++
        (a.admits? host (.check host later)).toList) := by
  have hrecent := recent_eq h hle
  simp only [admits?, if_true, verdict, check, hrecent]
  split <;> simp

@[simp] theorem window_step : (a.step e).window = a.window := by
  cases e with
  | check host now =>
    simp only [step, check]
    split <;> rfl
  | prune now => rfl

@[simp] theorem allowed_step : (a.step e).allowed = a.allowed := by
  cases e with
  | check host now =>
    simp only [step, check]
    split <;> rfl
  | prune now => rfl

theorem admits?_eq_some {hit : Nat} (h : a.admits? host e = some hit) :
    e = .check host hit ∧ a.verdict host hit = .ok () := by
  cases e with
  | prune now => cases h
  | check other now =>
    simp only [admits?] at h
    split at h
    · rename_i hsame
      split at h
      · rename_i hok
        obtain rfl := Option.some.inj h
        exact ⟨by rw [hsame], hok⟩
      · cases h
    · cases h

/-- What is let through is let through at the time of its event, so that order is kept. -/
theorem ordered_step (h : a.Keeps host past now) (hle : now ≤ e.time) :
    ((past ++ (a.admits? host e).toList) ++ [e.time]).Pairwise (· ≤ ·) := by
  have hbefore : ∀ hit ∈ past, hit ≤ e.time := by
    intro hit hmem
    exact Nat.le_trans (h.le hmem) hle
  cases hadmits : a.admits? host e with
  | none => simpa [List.pairwise_append, h.sorted] using hbefore
  | some hit =>
    obtain ⟨rfl, -⟩ := admits?_eq_some hadmits
    simpa [List.pairwise_append, h.sorted, Event.time] using hbefore

theorem keeps_check (h : a.Keeps host past now) (hle : now ≤ later) :
    (a.step (.check host later)).Keeps host
      (past ++ (a.admits? host (.check host later)).toList) later := by
  have hordered :
      ((past ++ (a.admits? host (.check host later)).toList) ++ [later]).Pairwise (· ≤ ·) :=
    ordered_step (e := .check host later) h hle
  obtain ⟨gone, hsplit, hgone⟩ := split_counting a.window later h.sorted
  have hstep : a.step (.check host later) = _ := check_eq h hle
  refine ⟨?_, hordered, gone, ?_, by simpa using hgone⟩
  · rw [hstep]
    exact nodup_setHits h.hosts _
  · rw [hstep, kept_setHits_self, ← List.append_assoc, ← hsplit]

/-- What is kept of a host may stay as it is, since what is gone will not count again. -/
theorem keeps_of_same (h : a.Keeps host past now) (hle : now ≤ e.time)
    (hhosts : ((a.step e).hits.map (·.1)).Nodup) (hnone : a.admits? host e = none)
    (hsame : (a.step e).kept host = a.kept host) :
    (a.step e).Keeps host (past ++ (a.admits? host e).toList) e.time := by
  obtain ⟨gone, hpast, hgone⟩ := h.kept
  refine ⟨hhosts, ordered_step h hle, gone, ?_, fun hit hmem => ?_⟩
  · rw [hnone, hsame, ← hpast]
    exact List.append_nil past
  · have := hgone hit hmem
    rw [window_step]
    omega

theorem keeps_check_other {other : String} (h : a.Keeps host past now) (hle : now ≤ later)
    (hne : other ≠ host) :
    (a.step (.check other later)).Keeps host
      (past ++ (a.admits? host (.check other later)).toList) later := by
  refine keeps_of_same (e := .check other later) h hle ?_ (if_neg hne) ?_
  · simp only [step, check]
    split <;> exact nodup_setHits h.hosts _
  · simp only [step, check]
    split <;> exact kept_setHits_of_ne h.hosts hne _

theorem keeps_prune (h : a.Keeps host past now) (hle : now ≤ later) :
    (a.step (.prune later)).Keeps host
      (past ++ (a.admits? host (.prune later)).toList) later := by
  have hhosts : ((a.prune later).hits.map (·.1)).Nodup :=
    h.hosts.sublist (List.filter_sublist.map _)
  rcases kept_prune h.hosts (ordered_kept h) later with hsame | ⟨hnone, hold⟩
  · exact keeps_of_same (e := .prune later) h hle hhosts rfl hsame
  · refine ⟨hhosts, ordered_step (e := .prune later) h hle, past, ?_, ?_⟩
    · rw [step, hnone]
      rfl
    · obtain ⟨gone, hpast, hgone⟩ := h.kept
      intro hit hmem
      rw [hpast] at hmem
      rw [window_step]
      rcases List.mem_append.1 hmem with hmem | hmem
      · have := hgone hit hmem
        omega
      · exact hold hit hmem

/-- **One step keeps what counts** of a host's past, whoever the step is about. -/
theorem Keeps.step (h : a.Keeps host past now) (hle : now ≤ e.time) :
    (a.step e).Keeps host (past ++ (a.admits? host e).toList) e.time := by
  cases e with
  | check other later =>
    by_cases hother : other = host
    · subst hother
      exact keeps_check h hle
    · exact keeps_check_other h hle hother
  | prune later => exact keeps_prune h hle

/-! ## Whole runs -/

section Runs

variable {start stop allowed window : Nat} {events : List Event}

theorem Keeps.mono (h : a.Keeps host past now) (hle : now ≤ later) :
    a.Keeps host past later := by
  obtain ⟨gone, hsplit, hgone⟩ := h.kept
  refine ⟨h.hosts, ?_, gone, hsplit, fun hit hmem => ?_⟩
  · refine List.pairwise_append.2 ⟨h.sorted, List.pairwise_singleton .., ?_⟩
    intro hit hmem x hx
    rw [List.mem_singleton.1 hx]
    exact Nat.le_trans (h.le hmem) hle
  · have := hgone hit hmem
    omega

@[simp] theorem window_empty : (empty allowed window).window = window := rfl

@[simp] theorem allowed_empty : (empty allowed window).allowed = allowed := rfl

theorem keeps_empty (allowed window : Nat) (host : String) :
    (empty allowed window).Keeps host [] 0 where
  hosts := List.nodup_nil
  ordered := List.pairwise_singleton ..
  kept := ⟨[], rfl, nofun⟩

@[simp] theorem window_run : (a.run events).window = a.window := by
  induction events generalizing a with
  | nil => rfl
  | cons e rest ih => exact ih.trans window_step

@[simp] theorem allowed_run : (a.run events).allowed = a.allowed := by
  induction events generalizing a with
  | nil => rfl
  | cons e rest ih => exact ih.trans allowed_step

theorem keeps_run (h : a.Keeps host past start)
    (hchrono : Chronological start (events.map Event.time) stop) :
    (a.run events).Keeps host (past ++ a.admitted host events) stop := by
  induction events generalizing a past start with
  | nil =>
    rw [admitted, List.append_nil]
    exact h.mono hchrono.le
  | cons e rest ih =>
    obtain ⟨hle, hrest⟩ := Chronological.cons hchrono
    have := ih (h.step hle) hrest
    rwa [List.append_assoc] at this

theorem verdict_eq_ok_iff (h : a.Keeps host past now) (hle : now ≤ later) :
    a.verdict host later = .ok () ↔ (counting a.window later past).length < a.allowed := by
  rw [verdict_eq h hle, ruling]
  by_cases hfull : a.allowed ≤ (counting a.window later past).length
  · simp [hfull]
  · simp [hfull, Nat.lt_of_not_le hfull]

/-! ## Never too many -/

/-- Attempts that were let through within one window, from some time on. -/
def within (window first : Nat) (past : List Nat) : List Nat :=
  past.filter fun hit => first ≤ hit ∧ hit < first + window

theorem few_step (h : a.Keeps host past now) (hle : now ≤ e.time)
    (hfew : ∀ first, (within a.window first past).length ≤ a.allowed) (first : Nat) :
    (within a.window first (past ++ (a.admits? host e).toList)).length ≤ a.allowed := by
  cases hadmits : a.admits? host e with
  | none => simpa using hfew first
  | some hit =>
    obtain ⟨rfl, hok⟩ := admits?_eq_some hadmits
    have hroom : (counting a.window hit past).length < a.allowed :=
      (verdict_eq_ok_iff h hle).1 hok
    have hsum : (within a.window first (past ++ [hit])).length =
        (within a.window first past).length + (within a.window first [hit]).length := by
      rw [within, List.filter_append, List.length_append]
      rfl
    rw [Option.toList_some, hsum]
    by_cases hin : first ≤ hit ∧ hit < first + a.window
    · -- those that came before it in this window count when it comes
      have hmore : (within a.window first past).length ≤ (counting a.window hit past).length := by
        refine length_filter_le fun x _ hx => ?_
        omega
      have hone : (within a.window first [hit]).length = 1 := by simp [within, hin]
      omega
    · have hnone : (within a.window first [hit]).length = 0 := by
        simpa [within] using hin
      have := hfew first
      omega

theorem few_run (h : a.Keeps host past start)
    (hchrono : Chronological start (events.map Event.time) stop)
    (hfew : ∀ first, (within a.window first past).length ≤ a.allowed) (first : Nat) :
    (within a.window first (past ++ a.admitted host events)).length ≤ a.allowed := by
  induction events generalizing a past start with
  | nil => simpa [admitted] using hfew first
  | cons e rest ih =>
    obtain ⟨hle, hrest⟩ := Chronological.cons hchrono
    have := ih (h.step hle) hrest (by simpa using few_step h hle hfew)
    simpa [admitted] using this

/-! ## Nothing else has a say -/

theorem admits?_congr (h : a.Keeps host past now) (h' : b.Keeps host past now)
    (hallowed : a.allowed = b.allowed) (hwindow : a.window = b.window) (hle : now ≤ e.time) :
    a.admits? host e = b.admits? host e := by
  cases e with
  | check other later =>
    have hsame : a.verdict host later = b.verdict host later := by
      rw [verdict_eq h (show now ≤ later from hle), verdict_eq h' (show now ≤ later from hle),
        hallowed, hwindow]
    simp only [admits?, hsame]
  | prune later => rfl

theorem run_append (a : Attempts) (before after : List Event) :
    a.run (before ++ after) = (a.run before).run after := List.foldl_append ..

theorem admitted_append (a : Attempts) (host : String) (before after : List Event) :
    a.admitted host (before ++ after) =
      a.admitted host before ++ (a.run before).admitted host after := by
  induction before generalizing a with
  | nil => rfl
  | cons e rest ih =>
    rw [List.cons_append, admitted, ih, admitted, List.append_assoc]
    rfl

/-- What is let through from some time on is settled by what was let through before. -/
theorem admitted_congr (h : a.Keeps host past start) (h' : b.Keeps host past start)
    (hallowed : a.allowed = b.allowed) (hwindow : a.window = b.window)
    (hchrono : Chronological start (events.map Event.time) stop) :
    a.admitted host events = b.admitted host events := by
  induction events generalizing a b past start with
  | nil => rfl
  | cons e rest ih =>
    obtain ⟨hle, hrest⟩ := Chronological.cons hchrono
    have hsame := admits?_congr h h' hallowed hwindow hle
    have hkeeps := h'.step hle
    rw [← hsame] at hkeeps
    rw [admitted, admitted, hsame,
      ih (h.step hle) hkeeps (by simpa using hallowed) (by simpa using hwindow) hrest]

/-- An event that is no attempt of the host that was let through may as well not have been. -/
theorem verdict_of_removed {before after : List Event} (h : a.Keeps host past start)
    (hchrono : Chronological start ((before ++ e :: after).map Event.time) stop)
    (hnone : (a.run before).admits? host e = none) :
    (a.run (before ++ after)).verdict host stop =
      (a.run (before ++ e :: after)).verdict host stop := by
  obtain ⟨hbefore, hafter, hshort⟩ :
      Chronological start (before.map Event.time) e.time ∧
        Chronological e.time (after.map Event.time) stop ∧
        Chronological start ((before ++ after).map Event.time) stop := by
    rw [List.map_append, List.map_cons] at hchrono
    simpa using hchrono.split
  have hkeeps := keeps_run h hbefore
  have hstepped := hkeeps.step (Nat.le_refl e.time)
  rw [hnone, Option.toList_none, List.append_nil] at hstepped
  have hsame : ((a.run before).step e).admitted host after = (a.run before).admitted host after :=
    admitted_congr hstepped hkeeps allowed_step window_step hafter
  have hpast : a.admitted host (before ++ e :: after) = a.admitted host (before ++ after) := by
    rw [admitted_append, admitted_append, admitted, hnone, hsame]
    rfl
  rw [verdict_eq (keeps_run h hshort) (Nat.le_refl stop),
    verdict_eq (keeps_run h hchrono) (Nat.le_refl stop), hpast]
  simp

/-! ## How long to wait -/

/-- A host is refused for the sake of the oldest attempt that counts. -/
theorem refused_eq {t : TooManyAttempts} (h : a.Keeps host past now) (hallowed : 0 < a.allowed)
    (hrefused : a.verdict host now = .error t) :
    ∃ oldest rest, counting a.window now past = oldest :: rest ∧ a.allowed ≤ rest.length + 1 ∧
      oldest ≤ now ∧ now - oldest < a.window ∧ t = ⟨host, a.window - (now - oldest)⟩ := by
  rw [verdict_eq h (Nat.le_refl now), ruling] at hrefused
  split at hrefused
  · rename_i hfull
    cases hcounted : counting a.window now past with
    | nil =>
      rw [hcounted] at hfull
      exact absurd hfull (Nat.not_le_of_lt hallowed)
    | cons oldest rest =>
      rw [hcounted] at hrefused hfull
      have hmem : oldest ∈ counting a.window now past := by simp [hcounted]
      obtain ⟨hpast, hin⟩ := List.mem_filter.1 hmem
      refine ⟨oldest, rest, rfl, hfull, ?_, by simpa using hin, (Except.error.inj hrefused).symm⟩
      exact h.le hpast
  · cases hrefused

/-- As long as so many attempts count, and they count until the oldest is a window old, the host is
refused. -/
theorem refused_meanwhile {oldest : Nat} (h : a.Keeps host past start)
    (hfull : a.allowed ≤ (past.filter (oldest ≤ ·)).length)
    (hchrono : Chronological start (events.map Event.time) stop)
    (hbefore : ∀ again, .check host again ∈ events → again < oldest + a.window) :
    a.admitted host events = [] := by
  induction events generalizing a past start with
  | nil => rfl
  | cons e rest ih =>
    obtain ⟨hle, hrest⟩ := Chronological.cons hchrono
    have hnone : a.admits? host e = none := by
      cases hadmits : a.admits? host e with
      | none => rfl
      | some hit =>
        obtain ⟨rfl, hok⟩ := admits?_eq_some hadmits
        have hle : start ≤ hit := hle
        have hsoon := hbefore hit List.mem_cons_self
        have hroom := (verdict_eq_ok_iff h hle).1 hok
        have hstill : (past.filter (oldest ≤ ·)).length ≤ (counting a.window hit past).length := by
          refine length_filter_le fun x hx hin => ?_
          have := h.le hx
          omega
        omega
    have hkeeps := h.step hle
    rw [hnone] at hkeeps
    have hlater : (a.step e).admitted host rest = [] := by
      refine ih hkeeps (by simpa using hfull) hrest fun again hmem => ?_
      rw [window_step]
      exact hbefore again (List.mem_cons_of_mem _ hmem)
    rw [admitted, hnone, hlater]
    rfl

/-- Once the oldest of the attempts that counted is a window old, there is room again. -/
theorem room_afterwards {oldest : Nat} {rest : List Nat} (hle : oldest ≤ now)
    (hin : now - oldest < window) (hcounted : counting window now past = oldest :: rest) :
    (counting window (oldest + window) past).length ≤ rest.length := by
  have hsub : counting window (oldest + window) past =
      counting window (oldest + window) (counting window now past) := by
    rw [counting, counting, counting, List.filter_filter]
    refine List.filter_congr fun x _ => ?_
    rw [← Bool.decide_and, decide_eq_decide]
    omega
  rw [hsub, hcounted, counting, List.filter_cons_of_neg (by simp)]
  exact List.length_filter_le ..

/-- The attempts that count are the oldest of them and what came later. -/
theorem counted_le_since {oldest : Nat} {rest : List Nat} (h : past.Pairwise (· ≤ ·))
    (hcounted : counting window now past = oldest :: rest) :
    rest.length + 1 ≤ (past.filter (oldest ≤ ·)).length := by
  have hsorted : (oldest :: rest).Pairwise (· ≤ ·) := by
    rw [← hcounted]
    exact h.filter _
  rw [← List.length_cons, ← hcounted]
  refine length_filter_le fun x hx hcounts => ?_
  have hmem : x ∈ counting window now past := List.mem_filter.2 ⟨hx, by simpa using hcounts⟩
  rw [hcounted] at hmem
  rcases List.mem_cons.1 hmem with rfl | hmem
  · exact Nat.le_refl x
  · exact (List.pairwise_cons.1 hsorted).1 x hmem

/-- What counts lies within one window, which ends now. -/
theorem counted_le_allowed (h : a.Keeps host past now)
    (hfew : ∀ first, (within a.window first past).length ≤ a.allowed) :
    (counting a.window now past).length ≤ a.allowed := by
  refine Nat.le_trans (length_filter_le fun x hx hcounts => ?_) (hfew (now + 1 - a.window))
  have := h.le hx
  omega

/-- A host that is refused is refused until the time it is told, and let through then. -/
theorem retry_is_exact {t : TooManyAttempts} (h : a.Keeps host past now)
    (hallowed : 0 < a.allowed)
    (hfew : ∀ first, (within a.window first past).length ≤ a.allowed)
    (hrefused : a.verdict host now = .error t)
    (hchrono : Chronological now (events.map Event.time) (now + t.retryAfter))
    (hbefore : ∀ again, .check host again ∈ events → again < now + t.retryAfter) :
    (a.step (.check host now)).admitted host events = [] ∧
      ((a.step (.check host now)).run events).verdict host (now + t.retryAfter) = .ok () := by
  obtain ⟨oldest, rest, hcounted, hfull, hpast, hin, rfl⟩ := refused_eq h hallowed hrefused
  have huntil : now + (a.window - (now - oldest)) = oldest + a.window := by omega
  rw [huntil] at hchrono hbefore ⊢
  have hkeeps := h.step (e := .check host now) (Nat.le_refl now)
  have hnone : a.admits? host (.check host now) = none := by
    simp only [admits?, if_true, hrefused]
  rw [hnone, Option.toList_none, List.append_nil] at hkeeps
  have hsince := counted_le_since h.sorted hcounted
  have hstill : a.allowed ≤ (past.filter (oldest ≤ ·)).length := by omega
  have hrefuses := refused_meanwhile hkeeps (by simpa using hstill) hchrono (by simpa using hbefore)
  refine ⟨hrefuses, ?_⟩
  have hdone := keeps_run hkeeps hchrono
  rw [hrefuses, List.append_nil] at hdone
  rw [verdict_eq_ok_iff hdone (Nat.le_refl _)]
  have hmany := counted_le_allowed h hfew
  rw [hcounted, List.length_cons] at hmany
  have hroom := room_afterwards hpast hin hcounted
  simp only [window_run, window_step, allowed_run, allowed_step]
  omega

/-- **The window is exact.** A host is let through if and only if fewer of its attempts than allowed
were let through less than a window ago, so that no stretch of time as long as the window holds more
of them. An event that is no attempt of the host that was let through may as well not have been. A
host that is refused is told how long: until then it is refused whenever it comes, and then it is
let through. -/
theorem window_is_exact (hallowed : 0 < allowed)
    (hchrono : Chronological 0 (events.map Event.time) now) :
    let a := (empty allowed window).run events
    let past := (empty allowed window).admitted host events
    (a.verdict host now = .ok () ↔ (past.filter fun hit => now - hit < window).length < allowed) ∧
    (∀ first, (past.filter fun hit => first ≤ hit ∧ hit < first + window).length ≤ allowed) ∧
    (∀ before e after, events = before ++ e :: after →
      ((empty allowed window).run before).admits? host e = none →
      ((empty allowed window).run (before ++ after)).verdict host now = a.verdict host now) ∧
    (∀ t, a.verdict host now = .error t →
      t.host = host ∧ 0 < t.retryAfter ∧ t.retryAfter ≤ window ∧
      ∀ later, Chronological now (later.map Event.time) (now + t.retryAfter) →
        (∀ again, .check host again ∈ later → again < now + t.retryAfter) →
        (a.step (.check host now)).admitted host later = [] ∧
        ((a.step (.check host now)).run later).verdict host (now + t.retryAfter) = .ok ()) := by
  intro a past
  have hkeeps := keeps_run (keeps_empty allowed window host) hchrono
  have hfew := few_run (keeps_empty allowed window host) hchrono fun first => Nat.zero_le _
  rw [List.nil_append] at hkeeps
  have hwindow : a.window = window := window_run
  have hpositive : 0 < a.allowed := by simpa [a] using hallowed
  refine ⟨?_, hfew, ?_, ?_⟩
  · rw [verdict_eq_ok_iff hkeeps (Nat.le_refl now)]
    simp [counting, empty, past]
  · rintro before e after rfl hnone
    exact verdict_of_removed (keeps_empty allowed window host) hchrono hnone
  · intro t hrefused
    obtain ⟨oldest, rest, -, -, hle, hin, ht⟩ := refused_eq hkeeps hpositive hrefused
    refine ⟨by rw [ht], by rw [ht]; exact Nat.sub_pos_of_lt hin, ?_, ?_⟩
    · rw [ht, hwindow]
      exact Nat.sub_le ..
    · intro later hlater hbefore
      exact retry_is_exact hkeeps hpositive (by simpa [a] using hfew) hrefused hlater hbefore

/-- Of two attempts at once and a third, the third is told to wait until the two are forgotten. -/
theorem window_is_exact_after_two :
    0 < 2 ∧
      Chronological 0
        ([.check "10.0.0.1" 0, .check "10.0.0.1" 0, .prune 5000].map Event.time) 10000 ∧
      ((empty 2 60000).run [.check "10.0.0.1" 0, .check "10.0.0.1" 0, .prune 5000]).verdict
        "10.0.0.1" 10000 = .error ⟨"10.0.0.1", 50000⟩ ∧
      ((((empty 2 60000).run [.check "10.0.0.1" 0, .check "10.0.0.1" 0, .prune 5000]).step
        (.check "10.0.0.1" 10000)).run [.check "10.0.0.1" 59999, .check "10.0.0.2" 60000]).verdict
          "10.0.0.1" 60000 = .ok () := by
  have hchrono :
      Chronological 0
        ([.check "10.0.0.1" 0, .check "10.0.0.1" 0, .prune 5000].map Event.time) 10000 := by decide
  have hrefused :
      ((empty 2 60000).run [.check "10.0.0.1" 0, .check "10.0.0.1" 0, .prune 5000]).verdict
        "10.0.0.1" 10000 = .error ⟨"10.0.0.1", 50000⟩ := by decide
  obtain ⟨-, -, -, hretry⟩ :=
    @window_is_exact "10.0.0.1" 10000 2 60000 _ (by decide) hchrono
  obtain ⟨-, -, -, hafter⟩ := hretry _ hrefused
  refine ⟨by decide, hchrono, hrefused, (hafter _ (by decide) ?_).2⟩
  intro again hmem
  have : again = 59999 := by simpa using hmem
  simp [this]

end Runs

end AcctAdmin.Server.Attempts
