import AcctAdmin.Proofs.Lists
import AcctAdmin.Proofs.Sessions.Lookup
import Mathlib.Data.List.Chain
import Mathlib.Data.List.Nodup

/-!
# How long a session lives

A session that has gone unused for too long is ended when it is looked up, or swept out before that;
a sweep passes over the sessions that are in use. Which of these happens first makes no difference:
what a lookup finds follows from what was done to the session itself, and a session that is swept
out would not have been found again (`Agrees`).
-/

set_option autoImplicit false

namespace AcctAdmin.Server.Sessions

/-! ## Runs -/

/-- How a sweep finds a session: nobody works on it, somebody does, or somebody did and broke
off. -/
inductive Lock where
  | free
  | held
  | abandoned
deriving DecidableEq

/-- What happens to sessions. -/
inductive Event where
  | create (key : SessionKey) (userName : String) (admin : Bool) (now : Nat)
  | get (key : SessionKey) (now : Nat)
  | remove (key : SessionKey)
  | removePrincipal (principal : AccountId)
  | sweep (now : Nat) (locks : SessionKey → Lock)

/-- A session that was broken off in is not in use any more. -/
def step (s : Sessions) : Event → Sessions
  | .create key userName admin now => s.create key userName admin now
  | .get key now => (s.get key now).2
  | .remove key => (s.remove key).2
  | .removePrincipal principal => (s.removePrincipal principal).2
  | .sweep now locks => (s.sweep now fun key => locks key == .held).2

def run (s : Sessions) (events : List Event) : Sessions := events.foldl step s

/-- The time of a lookup, if it is one of this session and finds it. -/
def finds? (s : Sessions) (key : SessionKey) : Event → Option Nat
  | .get other now => if other = key ∧ (s.get key now).1.isSome then some now else none
  | _ => none

/-- The times at which a session was looked up and found, in order. -/
def lookups (s : Sessions) (key : SessionKey) : List Event → List Nat
  | [] => []
  | e :: rest => (s.finds? key e).toList ++ (s.step e).lookups key rest

namespace Event

def time? : Event → Option Nat
  | .create _ _ _ now => some now
  | .get _ now => some now
  | .remove _ => none
  | .removePrincipal _ => none
  | .sweep now _ => some now

/-- The session that is begun. -/
def created? : Event → Option SessionKey
  | .create key _ _ _ => some key
  | _ => none

/-- Whether a session is ended for good: by itself, or with all sessions of its account. -/
def ends (key : SessionKey) : Event → Bool
  | .remove other => other == key
  | .removePrincipal principal => principal == key.principal
  | _ => false

/-- Whether something is done to this very session. -/
def concerns (key : SessionKey) : Event → Bool
  | .create other _ _ _ => other == key
  | .get other _ => other == key
  | .remove other => other == key
  | .removePrincipal principal => principal == key.principal
  | .sweep _ _ => false

end Event

variable {s s' : Sessions} {key : SessionKey} {x found : Session} {known : Option Session}
  {e : Event} {events : List Event} {start stop now later : Nat}

/-! ## One step -/

@[simp] theorem idleTimeout_step : (s.step e).idleTimeout = s.idleTimeout := by
  cases e with
  | get key now =>
    simp only [step, Sessions.get]
    split
    · rfl
    · split <;> rfl
  | _ => rfl

theorem Distinct.step (h : s.Distinct) : (s.step e).Distinct := by
  cases e with
  | create => exact h.create ..
  | get => exact h.get
  | remove => exact h.filtered _
  | removePrincipal => exact h.filtered _
  | sweep => exact h.filtered _

theorem find?_sweep (h : s.Distinct) (inUse : SessionKey → Bool) :
    (s.sweep now inUse).2.find? key =
      (s.find? key).filter fun x => inUse x.key || !s.isIdle now x :=
  find?_filtered h _

/-- What is not there stays away until it is begun. -/
theorem find?_step_eq_none (h : s.Distinct) (hnone : s.find? key = none)
    (hnew : e.created? ≠ some key) : (s.step e).find? key = none := by
  cases e with
  | create other userName admin now =>
    have hother : other ≠ key := fun h => hnew (congrArg some h)
    rw [step, find?_create h, if_neg hother, hnone]
  | get other now =>
    rw [step, find?_get h, get_eq, hnone]
    exact ite_self _
  | remove other =>
    rw [step, find?_remove h, hnone]
    exact ite_self _
  | removePrincipal principal =>
    rw [step, find?_removePrincipal h, hnone]
    exact ite_self _
  | sweep now locks =>
    rw [step, find?_sweep h, hnone]
    rfl

theorem find?_step_of_ends (h : s.Distinct) (hends : e.ends key = true) :
    (s.step e).find? key = none := by
  cases e with
  | remove other => rw [step, find?_remove h, if_pos (by simpa [Event.ends] using hends)]
  | removePrincipal principal =>
    rw [step, find?_removePrincipal h, if_pos (by simpa [Event.ends] using hends)]
  | _ => cases hends

theorem finds?_eq_some (h : s.finds? key e = some now) :
    e = .get key now ∧ ∃ y, (s.get key now).1 = some y := by
  cases e with
  | get other later =>
    simp only [finds?] at h
    split at h
    · rename_i hsame
      obtain rfl := Option.some.inj h
      exact ⟨by rw [hsame.1], Option.isSome_iff_exists.1 hsame.2⟩
    · cases h
  | _ => cases h

/-! ## What may be forgotten -/

/-- What is to be remembered of one session. Nothing but what is done to it changes that, and a
lookup in vain does not either. -/
def remember (timeout : Nat) (key : SessionKey) (known : Option Session) :
    Event → Option Session
  | .create other userName admin now =>
    if other = key then some ⟨other, userName, admin, .none, now⟩ else known
  | .get other now => if other = key then (look timeout known now).or known else known
  | .remove other => if other = key then none else known
  | .removePrincipal principal => if principal = key.principal then none else known
  | .sweep _ _ => known

/-- Whether sessions hold what is to be remembered of one of them, or have forgotten it after it had
gone unused for too long. -/
structure Agrees (s : Sessions) (key : SessionKey) (known : Option Session) (now : Nat) :
    Prop where
  distinct : s.Distinct
  found : s.find? key = known ∨
    s.find? key = none ∧ ∃ x, known = some x ∧ s.idleTimeout ≤ now - x.lastSeen

theorem Agrees.mono (h : s.Agrees key known now) (hle : now ≤ later) :
    s.Agrees key known later := by
  refine ⟨h.distinct, h.found.imp_right ?_⟩
  rintro ⟨hnone, x, hx, hidle⟩
  exact ⟨hnone, x, hx, by omega⟩

/-- Whether it was forgotten already cannot be told by a lookup. -/
theorem Agrees.get (h : s.Agrees key known now) (hle : now ≤ later) :
    (s.get key later).1 = look s.idleTimeout known later := by
  rw [get_eq]
  rcases h.found with hsame | ⟨hnone, x, rfl, hidle⟩
  · rw [hsame]
  · have hstill : ¬ later - x.lastSeen < s.idleTimeout := by omega
    rw [hnone]
    simp [look, hstill]

/-- A step that is about some sessions, and settles what they are, leaves the others alone. -/
theorem Agrees.settled {own : Prop} [Decidable own] {settled : Option Session}
    (h : s.Agrees key known now) (hle : now ≤ later)
    (hstep : (s.step e).find? key = if own then settled else s.find? key) :
    (s.step e).Agrees key (if own then settled else known) later where
  distinct := h.distinct.step
  found := by
    rw [hstep, idleTimeout_step]
    by_cases hown : own
    · rw [if_pos hown, if_pos hown]
      exact .inl rfl
    · rw [if_neg hown, if_neg hown]
      exact (h.mono hle).found

/-- What a lookup in vain forgets has gone unused for too long. -/
theorem Agrees.looked (h : s.Agrees key known now) (hle : now ≤ later) :
    (s.step (.get key later)).Agrees key ((look s.idleTimeout known later).or known) later where
  distinct := h.distinct.step
  found := by
    rw [idleTimeout_step, step, find?_get h.distinct, if_pos rfl, h.get hle]
    cases known with
    | none => exact .inl rfl
    | some x =>
      by_cases hfresh : later - x.lastSeen < s.idleTimeout
      · exact .inl (by simp [look, hfresh])
      · exact .inr ⟨by simp [look, hfresh], x, by simp [look, hfresh], Nat.le_of_not_lt hfresh⟩

/-- What is swept out has gone unused for too long. -/
theorem Agrees.swept (h : s.Agrees key known now) (hle : now ≤ later)
    (locks : SessionKey → Lock) :
    (s.step (.sweep later locks)).Agrees key known later where
  distinct := h.distinct.step
  found := by
    rw [idleTimeout_step, step, find?_sweep h.distinct]
    rcases (h.mono hle).found with hsame | ⟨hnone, hidle⟩
    · rw [hsame]
      cases known with
      | none => exact .inl rfl
      | some x =>
        by_cases hidle : s.idleTimeout ≤ later - x.lastSeen
        · cases hlock : locks x.key == Lock.held with
          | true => exact .inl (by simp [Option.filter, hlock])
          | false => exact .inr ⟨by simp [Option.filter, hlock, isIdle, hidle], x, rfl, hidle⟩
        · exact .inl (by simp [Option.filter, isIdle, Nat.lt_of_not_le hidle])
    · exact .inr ⟨by rw [hnone]; rfl, hidle⟩

/-- The time of an event; one without a time is at the time before it. -/
def Event.timeAfter (now : Nat) (e : Event) : Nat := e.time?.getD now

/-- **One step keeps** what is to be remembered, or has forgotten what would not be found again. -/
theorem Agrees.step (h : s.Agrees key known now) (hle : now ≤ e.timeAfter now) :
    (s.step e).Agrees key (remember s.idleTimeout key known e) (e.timeAfter now) := by
  cases e with
  | create other userName admin later =>
    exact h.settled hle (find?_create h.distinct userName admin)
  | get other later =>
    by_cases hother : other = key
    · subst hother
      rw [remember, if_pos rfl]
      exact h.looked hle
    · rw [remember, if_neg hother]
      refine ⟨h.distinct.step, ?_⟩
      rw [Sessions.step, find?_get h.distinct, if_neg hother]
      rw [← Sessions.step, idleTimeout_step]
      exact (h.mono hle).found
  | remove other => exact h.settled hle (find?_remove h.distinct)
  | removePrincipal principal => exact h.settled hle (find?_removePrincipal h.distinct principal)
  | sweep later locks => exact h.swept hle locks

/-! ## Whole runs -/

theorem chronological_cons
    (h : Chronological start ((e :: events).filterMap Event.time?) stop) :
    start ≤ e.timeAfter start ∧
      Chronological (e.timeAfter start) (events.filterMap Event.time?) stop := by
  cases htime : e.time? with
  | none =>
    rw [List.filterMap_cons_none htime] at h
    simpa [Event.timeAfter, htime] using h
  | some time =>
    rw [List.filterMap_cons_some htime] at h
    simpa [Event.timeAfter, htime] using h.cons

@[simp] theorem idleTimeout_run : (s.run events).idleTimeout = s.idleTimeout := by
  induction events generalizing s with
  | nil => rfl
  | cons e rest ih => exact ih.trans idleTimeout_step

theorem Distinct.run (h : s.Distinct) : (s.run events).Distinct := by
  induction events generalizing s with
  | nil => exact h
  | cons e rest ih => exact ih h.step

theorem run_append (s : Sessions) (before after : List Event) :
    s.run (before ++ after) = (s.run before).run after := List.foldl_append ..

theorem lookups_append (s : Sessions) (key : SessionKey) (before after : List Event) :
    s.lookups key (before ++ after) =
      s.lookups key before ++ (s.run before).lookups key after := by
  induction before generalizing s with
  | nil => rfl
  | cons e rest ih =>
    rw [List.cons_append, lookups, ih, lookups, List.append_assoc]
    rfl

@[simp] theorem run_cons (s : Sessions) (e : Event) (rest : List Event) :
    s.run (e :: rest) = (s.step e).run rest := rfl

theorem not_begun_cons (h : key ∉ (e :: events).filterMap Event.created?) :
    e.created? ≠ some key ∧ key ∉ events.filterMap Event.created? := by
  constructor
  · intro hcreated
    exact h (List.mem_filterMap.2 ⟨e, List.mem_cons_self, hcreated⟩)
  · intro hmem
    obtain ⟨e', he', hcreated⟩ := List.mem_filterMap.1 hmem
    exact h (List.mem_filterMap.2 ⟨e', List.mem_cons_of_mem _ he', hcreated⟩)

/-- A session that is not there is not found until it is begun. -/
theorem absent_run (h : s.Distinct) (hnone : s.find? key = none)
    (hnew : key ∉ events.filterMap Event.created?) :
    (s.run events).find? key = none ∧ s.lookups key events = [] := by
  induction events generalizing s with
  | nil => exact ⟨hnone, rfl⟩
  | cons e rest ih =>
    obtain ⟨hfirst, hrest⟩ := not_begun_cons hnew
    obtain ⟨hrun, hlookups⟩ := ih h.step (find?_step_eq_none h hnone hfirst) hrest
    have hvain : s.finds? key e = none := by
      cases hfinds : s.finds? key e with
      | none => rfl
      | some now =>
        obtain ⟨-, y, hy⟩ := finds?_eq_some hfinds
        rw [get_eq, hnone] at hy
        cases hy
    refine ⟨hrun, ?_⟩
    rw [lookups, hvain, hlookups]
    rfl

/-! ## From one lookup to the next -/

theorem look_eq_some {timeout : Nat} :
    look timeout (some x) now = some found ↔
      now - x.lastSeen < timeout ∧ { x with lastSeen := now } = found := by
  by_cases hfresh : now - x.lastSeen < timeout
  · simp [look, hfresh]
  · simp [look, hfresh]

/-- A lookup in vain changes nothing about what is to be remembered, nor does anything else but
a beginning or an end. -/
theorem remember_of_not_finds (h : s.Agrees key (some x) now) (hle : now ≤ e.timeAfter now)
    (hvain : s.finds? key e = none) (hends : e.ends key = false) (hnew : e.created? ≠ some key) :
    remember s.idleTimeout key (some x) e = some x := by
  cases e with
  | create other userName admin later => exact if_neg fun h => hnew (congrArg some h)
  | get other later =>
    by_cases hother : other = key
    · subst hother
      have hlook : look s.idleTimeout (some x) later = none := by
        rw [← h.get (show now ≤ later from hle)]
        simpa [finds?] using hvain
      rw [remember, if_pos rfl, hlook]
      rfl
    · exact if_neg hother
  | remove other => exact if_neg (by simpa [Event.ends] using hends)
  | removePrincipal principal => exact if_neg (by simpa [Event.ends] using hends)
  | sweep => rfl

/-- A session that is neither ended nor begun anew is found if and only if it has been looked up in
time, again and again. -/
theorem get_run (h : s.Agrees key (some x) start)
    (hchrono : Chronological start (events.filterMap Event.time?) stop)
    (hends : ∀ e ∈ events, e.ends key = false) (hnew : key ∉ events.filterMap Event.created?) :
    ((s.run events).get key stop).1 = some found ↔
      (x.lastSeen :: s.lookups key events ++ [stop]).IsChain (fun a b => b - a < s.idleTimeout) ∧
        { x with lastSeen := stop } = found := by
  induction events generalizing s x start with
  | nil =>
    show (s.get key stop).1 = some found ↔ _
    rw [h.get hchrono.le, look_eq_some]
    simp [lookups]
  | cons e rest ih =>
    obtain ⟨hle, hrest⟩ := chronological_cons hchrono
    have hrestEnds : ∀ e' ∈ rest, e'.ends key = false :=
      fun e' he' => hends e' (List.mem_cons_of_mem _ he')
    obtain ⟨hfirst, hrestNew⟩ := not_begun_cons hnew
    have hstep := h.step hle
    cases hfinds : s.finds? key e with
    | none =>
      rw [remember_of_not_finds h hle hfinds (hends e List.mem_cons_self) hfirst] at hstep
      have := ih hstep hrest hrestEnds hrestNew
      rw [idleTimeout_step] at this
      simpa [lookups, hfinds] using this
    | some later =>
      obtain ⟨rfl, y, hy⟩ := finds?_eq_some hfinds
      rw [h.get (show start ≤ later from hle)] at hy
      obtain ⟨hfresh, rfl⟩ := look_eq_some.1 hy
      rw [remember, if_pos rfl, hy, Option.some_or] at hstep
      have := ih hstep hrest hrestEnds hrestNew
      rw [idleTimeout_step] at this
      simpa [lookups, hfinds, hfresh] using this

@[simp] theorem idleTimeout_empty (timeout : Nat) : (empty timeout).idleTimeout = timeout := rfl

theorem distinct_empty (timeout : Nat) : (empty timeout).Distinct := List.nodup_nil

/-- A session that is begun for the first time has not been looked up before. -/
theorem agrees_begun (timeout created : Nat) {before : List Event} (userName : String)
    (admin : Bool) (hnew : key ∉ before.filterMap Event.created?) :
    let e := Event.create key userName admin created
    (((empty timeout).run before).step e).Agrees key
        (some ⟨key, userName, admin, .none, created⟩) created ∧
      ∀ since, (empty timeout).lookups key (before ++ e :: since) =
        (((empty timeout).run before).step e).lookups key since := by
  have hdistinct : ((empty timeout).run before).Distinct := (distinct_empty timeout).run
  refine ⟨⟨hdistinct.step, .inl ?_⟩, fun since => ?_⟩
  · rw [step, find?_create hdistinct, if_pos rfl]
  · rw [lookups_append, (absent_run (distinct_empty timeout) rfl hnew).2]
    rfl

theorem get_of_absent (h : s.find? key = none) : (s.get key now).1 = none := by
  rw [get_eq, h]
  rfl

/-- A session that was ended is not found any more. -/
theorem ended_run (h : s.Distinct) (hnew : key ∉ events.filterMap Event.created?)
    (hended : ∃ e ∈ events, e.ends key = true) (now : Nat) :
    ((s.run events).get key now).1 = none := by
  obtain ⟨e, he, hends⟩ := hended
  obtain ⟨before, after, rfl⟩ := List.append_of_mem he
  rw [run_append, run_cons]
  rw [List.filterMap_append, List.mem_append, not_or] at hnew
  have hdistinct : (s.run before).Distinct := h.run
  exact get_of_absent (absent_run hdistinct.step (find?_step_of_ends hdistinct hends)
    (not_begun_cons hnew.2).2).1

/-- What is found of a session that was begun. -/
theorem get_begun {timeout created : Nat} {before since : List Event} {userName : String}
    {admin : Bool}
    (hevents : events = before ++ .create key userName admin created :: since)
    (hfresh : (events.filterMap Event.created?).Nodup)
    (hchrono : Chronological 0 (events.filterMap Event.time?) now) :
    (((empty timeout).run events).get key now).1 = some found ↔
      (∀ e ∈ since, e.ends key = false) ∧
        (created :: (empty timeout).lookups key events ++ [now]).IsChain
          (fun earlier later => later - earlier < timeout) ∧
        found = ⟨key, userName, admin, .none, now⟩ := by
  subst hevents
  have hcreated : (Event.create key userName admin created).created? = some key := rfl
  have htime : (Event.create key userName admin created).time? = some created := rfl
  rw [List.filterMap_append, List.filterMap_cons_some hcreated, List.nodup_middle,
    List.nodup_cons, List.mem_append, not_or] at hfresh
  rw [List.filterMap_append, List.filterMap_cons_some htime] at hchrono
  obtain ⟨⟨hbefore, hsince⟩, -⟩ := hfresh
  obtain ⟨hagrees, hlookups⟩ := agrees_begun timeout created userName admin hbefore
  by_cases hended : ∃ e ∈ since, e.ends key = true
  · have hgone := ended_run hagrees.distinct hsince hended now
    obtain ⟨e, he, hends⟩ := hended
    rw [run_append, run_cons, hgone]
    constructor
    · nofun
    · rintro ⟨hnever, -⟩
      rw [hnever e he] at hends
      cases hends
  · have hends : ∀ e ∈ since, e.ends key = false := by
      intro e he
      exact Bool.eq_false_iff.2 fun h => hended ⟨e, he, h⟩
    rw [run_append, run_cons, hlookups, get_run hagrees hchrono.split.2.1 hends hsince]
    constructor
    · rintro ⟨hchain, rfl⟩
      exact ⟨hends, by simpa using hchain, rfl⟩
    · rintro ⟨-, hchain, rfl⟩
      exact ⟨by simpa using hchain, rfl⟩

/-! ## What is done to others -/

theorem remember_of_not_concerns {timeout : Nat} (h : e.concerns key = false) :
    remember timeout key known e = known := by
  cases e with
  | sweep => rfl
  | _ => exact if_neg (by simpa [Event.concerns] using h)

/-- Sessions to which nothing was done but what concerns this one agree about it with those to which
everything was done. -/
theorem agrees_filter (h : s.Agrees key known start) (h' : s'.Agrees key known start)
    (htimeout : s'.idleTimeout = s.idleTimeout)
    (hchrono : Chronological start (events.filterMap Event.time?) stop) :
    ∃ known', (s.run events).Agrees key known' stop ∧
      (s'.run (events.filter (·.concerns key))).Agrees key known' stop := by
  induction events generalizing s s' known start with
  | nil => exact ⟨known, h.mono hchrono.le, h'.mono hchrono.le⟩
  | cons e rest ih =>
    obtain ⟨hle, hrest⟩ := chronological_cons hchrono
    have hstep := h.step hle
    cases hconcerns : e.concerns key with
    | true =>
      have hstep' := h'.step hle
      rw [htimeout] at hstep'
      rw [List.filter_cons_of_pos hconcerns]
      exact ih hstep hstep' (by simpa using htimeout) hrest
    | false =>
      rw [remember_of_not_concerns hconcerns] at hstep
      rw [List.filter_cons_of_neg (by simp [hconcerns])]
      exact ih hstep (h'.mono hle) (by simpa using htimeout) hrest

/-- **A session lives as long as it is used.** It is found if and only if it was begun, was not
ended since, and was never left unused for as long as the timeout: not from its beginning to its
first lookup, nor from one lookup that found it to the next. Of all that happened, only what was
done to this session has a say; so it makes no difference what was swept out when, and which
sessions were in use or broken off in at the time. -/
theorem lookup_is_exact {timeout : Nat}
    (hfresh : (events.filterMap Event.created?).Nodup)
    (hchrono : Chronological 0 (events.filterMap Event.time?) now) :
    let s := (empty timeout).run events
    (∀ found, (s.get key now).1 = some found ↔
      ∃ before userName admin created since,
        events = before ++ .create key userName admin created :: since ∧
        (∀ e ∈ since, e.ends key = false) ∧
        (created :: (empty timeout).lookups key events ++ [now]).IsChain
          (fun earlier later => later - earlier < timeout) ∧
        found = ⟨key, userName, admin, .none, now⟩) ∧
    (s.get key now).1 =
      (((empty timeout).run (events.filter (·.concerns key))).get key now).1 := by
  intro s
  have hempty : (empty timeout).Agrees key none 0 := ⟨distinct_empty timeout, .inl rfl⟩
  constructor
  · intro found
    constructor
    · intro hfound
      by_cases hbegun : key ∈ events.filterMap Event.created?
      · obtain ⟨e, he, hcreated⟩ := List.mem_filterMap.1 hbegun
        obtain ⟨before, since, hevents⟩ := List.append_of_mem he
        cases e with
        | create other userName admin created =>
          obtain rfl := Option.some.inj hcreated
          exact ⟨before, userName, admin, created, since, hevents,
            (get_begun hevents hfresh hchrono).1 hfound⟩
        | _ => cases hcreated
      · have habsent := (absent_run (distinct_empty timeout) rfl hbegun).1
        rw [get_of_absent habsent] at hfound
        cases hfound
    · rintro ⟨before, userName, admin, created, since, hevents, hlives⟩
      exact (get_begun hevents hfresh hchrono).2 hlives
  · obtain ⟨known, hall, hown⟩ := agrees_filter hempty hempty rfl hchrono
    rw [hall.get (Nat.le_refl now), hown.get (Nat.le_refl now), idleTimeout_run, idleTimeout_run]

/-- A session that was used in time is found after a sweep, though somebody broke off in it. One
that was not is lost, though the sweep passes over it. -/
theorem lookup_is_exact_after_sweep :
    let grace : SessionKey := ⟨⟨Uuid.ofNat 1⟩, Uuid.ofNat 10⟩
    let ada : SessionKey := ⟨⟨Uuid.ofNat 2⟩, Uuid.ofNat 20⟩
    let locks : SessionKey → Lock := fun key => if key = ada then .held else .abandoned
    let events : List Event :=
      [.create ada "ada" false 0, .create grace "grace" true 10, .get grace 50, .sweep 100 locks]
    (events.filterMap Event.created?).Nodup ∧
      Chronological 0 (events.filterMap Event.time?) 109 ∧
      (((empty 60).run events).get grace 109).1 = some ⟨grace, "grace", true, .none, 109⟩ ∧
      (((empty 60).run events).get ada 109).1 = none := by
  intro grace ada locks events
  have hfresh : (events.filterMap Event.created?).Nodup := by decide
  have hchrono : Chronological 0 (events.filterMap Event.time?) 109 := by decide
  refine ⟨hfresh, hchrono, ?_, ?_⟩
  · have hlookups : (empty 60).lookups grace events = [50] := by decide
    refine ((lookup_is_exact hfresh hchrono).1 _).2 ⟨[.create ada "ada" false 0], "grace", true, 10,
      [.get grace 50, .sweep 100 locks], rfl, ?_, ?_, rfl⟩
    · simp [Event.ends]
    · rw [hlookups]
      decide
  · rw [(lookup_is_exact hfresh hchrono).2]
    decide

end AcctAdmin.Server.Sessions
