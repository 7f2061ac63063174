import AcctAdmin.Proofs.Attempts.Window
import AcctAdmin.Proofs.Command.Sequence
import AcctAdmin.Proofs.Text.Numeral

/-!
# How long a host is told to wait

A host that has used up its attempts is told after how many seconds to try again. The count knows
how long the host must wait to the millisecond (`Attempts.verdict_after_refusal`), but what the host
is told is cut to whole seconds. A host that comes back when it was told to may therefore be refused
once more, though one that adds a second never is.
-/

set_option autoImplicit false

namespace AcctAdmin.Server

open AcctAdmin.Protocol AcctAdmin.Text

/-! ## The count -/

namespace Attempts

variable {a : Attempts} {host : String} {past : List Nat} {now later : Nat} {events : List Event}

theorem admitted_of_away (haway : ∀ again, .check host again ∉ events) :
    a.admitted host events = [] := by
  induction events generalizing a with
  | nil => rfl
  | cons e rest ih =>
    have hnone : a.admits? host e = none := by
      cases hadmits : a.admits? host e with
      | none => rfl
      | some hit =>
        obtain ⟨rfl, -⟩ := admits?_eq_some hadmits
        exact absurd List.mem_cons_self (haway hit)
    rw [admitted, hnone, ih fun again hmem => haway again (List.mem_cons_of_mem _ hmem)]
    rfl

theorem wait_le_window {t : TooManyAttempts} (h : a.Keeps host past now) (hallowed : 0 < a.allowed)
    (hrefused : a.verdict host now = .error t) : 0 < t.retryAfter ∧ t.retryAfter ≤ a.window := by
  obtain ⟨oldest, rest, -, -, -, hin, rfl⟩ := refused_eq h hallowed hrefused
  exact ⟨Nat.sub_pos_of_lt hin, Nat.sub_le ..⟩

/-- A host that is refused and stays away is let through from the time on that the count has for it,
and not before. -/
theorem verdict_after_refusal {t : TooManyAttempts} (h : a.Keeps host past now)
    (hallowed : 0 < a.allowed)
    (hfew : ∀ first, (within a.window first past).length ≤ a.allowed)
    (hrefused : a.verdict host now = .error t)
    (hchrono : Chronological now (events.map Event.time) later)
    (haway : ∀ again, .check host again ∉ events) :
    ((a.step (.check host now)).run events).verdict host later = .ok () ↔
      now + t.retryAfter ≤ later := by
  obtain ⟨oldest, rest, hcounted, hfull, hpast, hin, rfl⟩ := refused_eq h hallowed hrefused
  have hnone : a.admits? host (.check host now) = none := by
    simp only [admits?, if_true, hrefused]
  have hkeeps := keeps_run (h.step (e := .check host now) (Nat.le_refl now)) hchrono
  rw [hnone, admitted_of_away haway, Option.toList_none, List.append_nil, List.append_nil] at hkeeps
  rw [verdict_eq_ok_iff hkeeps (Nat.le_refl later)]
  simp only [window_run, window_step, allowed_run, allowed_step]
  constructor
  · -- until then all that counted still does
    intro hroom
    by_contra hsoon
    have hsince := counted_le_since h.sorted hcounted
    have hstill : (past.filter (oldest ≤ ·)).length ≤ (counting a.window later past).length := by
      refine length_filter_le fun x hx hle => ?_
      have := h.le hx
      omega
    omega
  · intro hlate
    have hroom := room_afterwards hpast hin hcounted
    have hmany := counted_le_allowed h hfew
    rw [hcounted, List.length_cons] at hmany
    have hless : (counting a.window later past).length ≤
        (counting a.window (oldest + a.window) past).length := by
      refine length_filter_le fun x _ hx => ?_
      omega
    omega

end Attempts

/-! ## What a server does to its count -/

namespace Service

variable {server : Service} {r : Request} {c : Command} {draws : Nat → Draw}

/-- What happens to the count of attempts when something happens to the server. -/
def Event.counted : Event → Option Attempts.Event
  | .command r c _ => if c.kind.isLogin then some (.check r.host r.now) else none
  | .sweep now => some (.prune now)

instance : Desk.Lasting fun d d' => d'.attempts = d.attempts where
  trans h h' := h'.trans h
  aside _ h := h
  used _ _ _ := rfl
  ended _ _ := rfl

theorem attempts_execute_login (l : Login) :
    (server.execute r (.login l) draws).2.attempts = (server.attempts.check r.host r.now).2 := by
  rcases execute_login server r l draws with ⟨reply, d', hlogs, h⟩ | ⟨halt, d', hturns, h⟩
  · rw [h, close_attempts, hlogs.attempts]
    rfl
  · rw [h, close_attempts, hturns.attempts]
    rfl

theorem attempts_execute (hlogin : c.kind.isLogin = false) :
    (server.execute r c draws).2.attempts = server.attempts := by
  refine execute_induction (R := fun server after => after.attempts = server.attempts) ?_
  intro server n
  rw [attempt_eq, close_attempts]
  exact Handling.lasts_dispatch (R := fun d d' => d'.attempts = d.attempts) server.limits hlogin
    fun _ _ _ _ _ _ => rfl

theorem attempts_advance (server : Service) (e : Event) :
    (server.advance e).attempts = server.attempts.run e.counted.toList := by
  cases e with
  | sweep now => rfl
  | command r c draws =>
    cases hlogin : c.kind.isLogin with
    | false =>
      simp only [Event.counted, hlogin]
      exact attempts_execute hlogin
    | true =>
      cases c with
      | login l => exact attempts_execute_login l
      | _ => cases hlogin

/-- Commands and sweeps are a run of the count. -/
theorem attempts_advanceAll (server : Service) (events : List Event) :
    (server.advanceAll events).attempts =
      server.attempts.run (events.filterMap Event.counted) := by
  induction events generalizing server with
  | nil => rfl
  | cons e rest ih =>
    rw [advanceAll_cons, ih, attempts_advance, ← Attempts.run_append, List.filterMap_cons]
    cases e.counted <;> rfl

theorem time_counted {e : Event} {a : Attempts.Event} (h : e.counted = some a) :
    a.time = e.time := by
  cases e with
  | sweep now =>
    cases h
    rfl
  | command r c draws =>
    simp only [Event.counted] at h
    split at h
    · cases h
      rfl
    · cases h

theorem counted_eq_check {e : Event} {host : String} {now : Nat}
    (h : e.counted = some (.check host now)) :
    ∃ r c draws, e = .command r c draws ∧ c.kind.isLogin = true ∧ r.host = host := by
  cases e with
  | sweep now => cases h
  | command r c draws =>
    simp only [Event.counted] at h
    split at h
    · rename_i hlogin
      exact ⟨r, c, draws, rfl, hlogin, by cases h; rfl⟩
    · cases h

theorem chronological_counted {start stop : Nat} {events : List Event}
    (h : Chronological start (events.map Event.time) stop) :
    Chronological start ((events.filterMap Event.counted).map Attempts.Event.time) stop := by
  refine h.sublist ?_
  clear h
  induction events with
  | nil => exact .slnil
  | cons e rest ih =>
    rw [List.filterMap_cons, List.map_cons]
    cases hcounted : e.counted with
    | none => exact ih.cons _
    | some a =>
      rw [List.map_cons, time_counted hcounted]
      exact ih.cons_cons _

end Service

/-! ## What a host is told -/

/-- What somebody is told whose command was refused. -/
def Execution.refusal? (e : Execution) : Option Refusal :=
  match e.response with
  | .refused refusal => some refusal
  | .success _ _ => none

/-- Whether somebody is told that there were too many attempts to log in. -/
def Execution.Limited (e : Execution) : Prop :=
  e.refusal?.map (·.code) = some .rateLimitExceeded

instance : DecidablePred Execution.Limited :=
  fun e => inferInstanceAs (Decidable (e.refusal?.map (·.code) = some .rateLimitExceeded))

/-- Whether somebody is told to try again after so many seconds. -/
def Execution.Postpones (e : Execution) (seconds : Nat) : Prop :=
  ∃ refusal, e.refusal? = some refusal ∧
    refusal.attributes.get? "retry_after_seconds" = some (decimal seconds) ∧
    refusal.remedy = some ("Wait " ++ decimal seconds ++ " seconds before trying again.")

theorem Execution.Postpones.unique {e : Execution} {m n : Nat} (hm : e.Postpones m)
    (hn : e.Postpones n) : m = n := by
  obtain ⟨refusal, hrefusal, hattribute, -⟩ := hm
  obtain ⟨_, hsame, hother, -⟩ := hn
  obtain rfl := Option.some.inj (hrefusal.symm.trans hsame)
  exact decimal_injective (Option.some.inj (hattribute.symm.trans hother))

/-- The seconds that are told of a wait: the whole ones in it, and one at least. -/
def toldSeconds (wait : Nat) : Nat := max 1 (wait / 1000)

namespace Service

variable {server : Service} {r again : Request} {l l' : Login} {draws draws' : Nat → Draw}

theorem limited_execute_login :
    (server.execute r (.login l) draws).1.Limited ↔
      ∃ t, server.attempts.verdict r.host r.now = .error t := by
  rcases execute_login server r l draws with ⟨reply, d', hlogs, h⟩ | ⟨halt, d', hturns, h⟩
  · have hok : server.attempts.verdict r.host r.now = .ok () := hlogs.verdict
    rw [h, hok]
    simp [Execution.Limited, Execution.refusal?, Execution.ofOutcome]
  · cases hverdict : server.attempts.verdict r.host r.now with
    | error t =>
      rw [h, hturns.limited t hverdict]
      exact iff_of_true rfl ⟨t, rfl⟩
    | ok u =>
      refine iff_of_false (fun hlimited => ?_) (by simp)
      rw [h] at hlimited
      rcases hturns.barred hverdict with rfl | ⟨⟨reason, expires⟩, rfl⟩
      · cases hlimited
      · cases expires <;> cases hlimited

theorem postpones_execute_login {t : TooManyAttempts}
    (h : server.attempts.verdict r.host r.now = .error t) :
    (server.execute r (.login l) draws).1.Postpones (toldSeconds t.retryAfter) := by
  rcases execute_login server r l draws with ⟨reply, d', hlogs, -⟩ | ⟨halt, d', hturns, hexecute⟩
  · cases h.symm.trans hlogs.verdict
  · rw [hexecute, hturns.limited t h]
    exact ⟨_, rfl, (Attributes.get?_insert ..).trans (if_pos rfl), rfl⟩

/-- What the count has kept of a host's logins on a server that began with none. -/
theorem keeps_advanceAll {allowed window : Nat} {events : List Event} {now : Nat}
    (hempty : server.attempts = .empty allowed window)
    (hchrono : Chronological 0 (events.map Event.time) now) (host : String) :
    let a := (server.advanceAll events).attempts
    a.allowed = allowed ∧ a.window = window ∧ ∃ past, a.Keeps host past now ∧
      ∀ first, (Attempts.within a.window first past).length ≤ a.allowed := by
  intro a
  have ha : a = (Attempts.empty allowed window).run (events.filterMap Event.counted) := by
    rw [← hempty, ← attempts_advanceAll]
  have hcounted := chronological_counted hchrono
  have hfew := Attempts.few_run (Attempts.keeps_empty allowed window host) hcounted
    fun first => Nat.zero_le _
  refine ⟨by simp [ha], by simp [ha], _, ?_, by simpa [ha] using hfew⟩
  rw [ha]
  exact Attempts.keeps_run (Attempts.keeps_empty allowed window host) hcounted

/-- Whether a host is refused again that was refused and stayed away. -/
theorem limited_after_refusal {t : TooManyAttempts} {past : List Nat} {between : List Event}
    (h : server.attempts.Keeps r.host past r.now) (hallowed : 0 < server.attempts.allowed)
    (hfew : ∀ first,
      (Attempts.within server.attempts.window first past).length ≤ server.attempts.allowed)
    (hrefused : server.attempts.verdict r.host r.now = .error t)
    (hchrono : Chronological r.now (between.map Event.time) again.now)
    (haway : ∀ other c draws, .command other c draws ∈ between → c.kind.isLogin = true →
      other.host ≠ r.host)
    (hhost : again.host = r.host) :
    (((server.advance (.command r (.login l) draws)).advanceAll between).execute again (.login l')
      draws').1.Limited ↔ again.now < r.now + t.retryAfter := by
  have hnone : ∀ now, .check r.host now ∉ between.filterMap Event.counted := by
    intro now hmem
    obtain ⟨e, he, hcounted⟩ := List.mem_filterMap.1 hmem
    obtain ⟨other, c, draws, rfl, hlogin, hother⟩ := counted_eq_check hcounted
    exact haway other c draws he hlogin hother
  have hverdict := Attempts.verdict_after_refusal h hallowed hfew hrefused
    (chronological_counted hchrono) hnone
  have hattempts : ((server.advance (.command r (.login l) draws)).advanceAll between).attempts =
      (server.attempts.step (.check r.host r.now)).run (between.filterMap Event.counted) := by
    rw [attempts_advanceAll, attempts_advance]
    rfl
  rw [limited_execute_login, hattempts, hhost]
  cases hagain : ((server.attempts.step (.check r.host r.now)).run
      (between.filterMap Event.counted)).verdict r.host again.now with
  | ok u =>
    have := hverdict.1 hagain
    simp only [reduceCtorEq, exists_false, false_iff]
    omega
  | error t' =>
    rw [hagain] at hverdict
    simp only [reduceCtorEq, false_iff] at hverdict
    exact iff_of_true ⟨t', rfl⟩ (by omega)

/-- **The wait that is told is the wait that is left, cut to whole seconds.** A host that is refused
and stays away is refused until the wait is over and no longer. What it is told is that wait as long
as it is no more than a second or a whole number of them; otherwise a host that comes back after the
time it was told is refused again, and one that waits a second longer is let through. -/
theorem told_wait_is_cut {allowed window : Nat} {before : List Event}
    (hempty : server.attempts = .empty allowed window) (hallowed : 0 < allowed)
    (hbefore : Chronological 0 (before.map Event.time) r.now)
    (hlimited : ((server.advanceAll before).execute r (.login l) draws).1.Limited) :
    ∃ wait, 0 < wait ∧ wait ≤ window ∧
      ((server.advanceAll before).execute r (.login l) draws).1.Postpones (toldSeconds wait) ∧
      ∀ between again l' draws', Chronological r.now (between.map Event.time) again.now →
        (∀ other c draws, .command other c draws ∈ between → c.kind.isLogin = true →
          other.host ≠ r.host) →
        again.host = r.host →
        let answer := (((server.advanceAll before).advance (.command r (.login l) draws)).advanceAll
          between).execute again (.login l') draws'
        (answer.1.Limited ↔ again.now < r.now + wait) ∧
        (again.now = r.now + 1000 * toldSeconds wait →
          (answer.1.Limited ↔ 1000 < wait ∧ wait % 1000 ≠ 0)) ∧
        (again.now = r.now + 1000 * (toldSeconds wait + 1) → ¬ answer.1.Limited) := by
  obtain ⟨t, ht⟩ := limited_execute_login.1 hlimited
  obtain ⟨hsame, hwindow, past, hkeeps, hfew⟩ := keeps_advanceAll hempty hbefore r.host
  have hpositive : 0 < (server.advanceAll before).attempts.allowed := by
    rwa [hsame]
  obtain ⟨hleft, hwithin⟩ := Attempts.wait_le_window hkeeps hpositive ht
  rw [hwindow] at hwithin
  refine ⟨t.retryAfter, hleft, hwithin, postpones_execute_login ht, ?_⟩
  intro between again l' draws' hbetween haway hhost answer
  have hanswer : answer.1.Limited ↔ again.now < r.now + t.retryAfter :=
    limited_after_refusal hkeeps hpositive hfew ht hbetween haway hhost
  refine ⟨hanswer, fun hnow => ?_, fun hnow => ?_⟩
  · rw [hanswer, hnow, toldSeconds]
    omega
  · rw [hanswer, hnow, toldSeconds]
    omega

/-! ## A login in the first second -/

/-- A server that lets a host log in once a minute. -/
def onceAMinute : Service :=
  { OpenService.sample.server with attempts := .empty 1 60000 }

def rootLogin : Login := ⟨"root", "correct horse"⟩

def rootAt (now : Nat) : Request := ⟨default, "192.0.2.1", none, now⟩

def freshSession (n : Nat) : Nat → Draw := fun _ => .quiet default ⟨n⟩ .made

def rootComes (now : Nat) : Event := .command (rootAt now) (.login rootLogin) (freshSession now)

/-- The server after a login at once, and how one goes that comes a tenth of a second later. -/
def oneTooMany : Execution :=
  ((onceAMinute.advanceAll [rootComes 0]).execute (rootAt 100) (.login rootLogin)
    (freshSession 100)).1

theorem limited_oneTooMany : oneTooMany.Limited := by decide +kernel

theorem postpones_oneTooMany : oneTooMany.Postpones 59 :=
  ⟨_, rfl, by decide +kernel, by decide +kernel⟩

/-- The wait that is left is 59.9 seconds. Who comes back after the 59 that are told is refused. -/
theorem told_wait_falls_short :
    oneTooMany.Limited ∧ oneTooMany.Postpones 59 ∧
      (((onceAMinute.advanceAll [rootComes 0, rootComes 100]).execute (rootAt (100 + 1000 * 59))
        (.login rootLogin) (freshSession 59100)).1.Limited) :=
  ⟨limited_oneTooMany, postpones_oneTooMany, by decide +kernel⟩

/-- A second later nobody is. -/
theorem told_wait_is_cut_once_a_minute :
    oneTooMany.Limited ∧
      ¬ (((onceAMinute.advanceAll [rootComes 0]).advance (rootComes 100)).execute
        (rootAt (100 + 1000 * (59 + 1))) (.login rootLogin) (freshSession 60100)).1.Limited := by
  have hlimited : ((onceAMinute.advanceAll [rootComes 0]).execute (rootAt 100) (.login rootLogin)
      (freshSession 100)).1.Limited := limited_oneTooMany
  obtain ⟨wait, -, -, hpostpones, hagain⟩ :=
    told_wait_is_cut (by rfl) (by decide) (by decide) hlimited
  have hseconds : toldSeconds wait = 59 := hpostpones.unique postpones_oneTooMany
  obtain ⟨-, -, hlater⟩ := hagain [] (rootAt (100 + 1000 * (59 + 1))) rootLogin
    (freshSession 60100) (by decide) nofun rfl
  rw [hseconds] at hlater
  exact ⟨limited_oneTooMany, hlater rfl⟩

end Service

end AcctAdmin.Server
