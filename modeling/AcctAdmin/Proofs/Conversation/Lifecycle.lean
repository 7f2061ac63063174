import AcctAdmin.Proofs.Conversation.Enrichment

/-!
# What becomes of lines

A conversation asks for a line only when it has none, and every line that it is given it closes
once: when it is closed itself, or when it is let go. So that lines can be told apart they are
numbered as they are opened (`Carrier.numbered`), which makes no difference to a conversation. A
journal of what is done with lines is in order if a line is opened only while none is open, and used
and closed only while it is the one (`Orderly`); every call keeps the journal in order, and all else
is read off that.
-/

set_option autoImplicit false

namespace AcctAdmin.Client

open AcctAdmin.Protocol

variable {World Line : Type}

/-! ## Journals -/

/-- What is done with lines. They are numbered as they are opened. -/
inductive LineEvent where
  /-- A line was asked for, and there was none to be had. -/
  | missed
  | opened (n : Nat)
  | sent (n : Nat) (c : Command)
  | closed (n : Nat)
deriving DecidableEq

namespace LineEvent

/-- The line that something is done with. -/
def line? : LineEvent → Option Nat
  | .missed => none
  | .opened n | .sent n _ | .closed n => some n

/-- Whether a line was asked for. -/
def asks : LineEvent → Bool
  | .missed | .opened _ => true
  | .sent .. | .closed _ => false

def opens : LineEvent → Bool
  | .opened _ => true
  | .missed | .sent .. | .closed _ => false

def closes : LineEvent → Bool
  | .closed _ => true
  | .missed | .opened _ | .sent .. => false

end LineEvent

/-- How many lines were opened. -/
def openings (journal : List LineEvent) : Nat := journal.countP (·.opens)

/-- How many times a line was closed. -/
def closings (journal : List LineEvent) : Nat := journal.countP (·.closes)

@[simp]
theorem openings_concat (journal : List LineEvent) (e : LineEvent) :
    openings (journal ++ [e]) = openings journal + if e.opens then 1 else 0 := by
  simp [openings, List.countP_singleton]

@[simp]
theorem closings_concat (journal : List LineEvent) (e : LineEvent) :
    closings (journal ++ [e]) = closings journal + if e.closes then 1 else 0 := by
  simp [closings, List.countP_singleton]

/-- The same carrier, with numbered lines and a journal. -/
def Carrier.numbered (carrier : Carrier World Line) :
    Carrier (World × List LineEvent) (Nat × Line) where
  connect timeout w :=
    match carrier.connect timeout w.1 with
    | (.error e, world) => (.error e, world, w.2 ++ [.missed])
    | (.ok line, world) => (.ok (openings w.2, line), world, w.2 ++ [.opened (openings w.2)])
  generation line := carrier.generation line.2
  send line c timeout w :=
    let (result, after, world) := carrier.send line.2 c timeout w.1
    (result, (line.1, after), world, w.2 ++ [.sent line.1 c])
  close line w := (carrier.close line.2 w.1, w.2 ++ [.closed line.1])

theorem numbered_enriches (carrier : Carrier World Line) :
    carrier.numbered.Enriches carrier Prod.fst Prod.snd where
  connect timeout w := by
    simp only [Carrier.numbered]
    rcases carrier.connect timeout w.1 with ⟨opened, world⟩
    cases opened <;> rfl
  send _ _ _ _ := rfl
  close _ _ := rfl

/-- Whether lines were opened one after the other, and each used and closed only while it was open.
The one that is open at last is told beside the journal. -/
inductive Orderly : List LineEvent → Option Nat → Prop where
  | start : Orderly [] none
  | missed {journal : List LineEvent} (h : Orderly journal none) :
    Orderly (journal ++ [.missed]) none
  | opened {journal : List LineEvent} (h : Orderly journal none) :
    Orderly (journal ++ [.opened (openings journal)]) (some (openings journal))
  | sent {journal : List LineEvent} {n : Nat} (c : Command) (h : Orderly journal (some n)) :
    Orderly (journal ++ [.sent n c]) (some n)
  | closed {journal : List LineEvent} {n : Nat} (h : Orderly journal (some n)) :
    Orderly (journal ++ [.closed n]) none

namespace Orderly

variable {journal : List LineEvent} {bound : Option Nat}

theorem openings_eq (h : Orderly journal bound) :
    openings journal = closings journal + if bound.isSome then 1 else 0 := by
  induction h with
  | start => rfl
  | missed _ ih => simpa [LineEvent.opens, LineEvent.closes] using ih
  | opened _ ih => simpa [LineEvent.opens, LineEvent.closes] using ih
  | sent c _ ih => simpa [LineEvent.opens, LineEvent.closes] using ih
  | closed _ ih => simpa [LineEvent.opens, LineEvent.closes] using ih

/-- The line that is open is the latest. -/
theorem latest {n : Nat} (h : Orderly journal (some n)) : openings journal = n + 1 := by
  generalize hbound : some n = bound at h
  induction h with
  | start => cases hbound
  | missed _ _ => cases hbound
  | opened _ _ =>
    cases hbound
    simp [LineEvent.opens]
  | sent c _ ih => simpa [LineEvent.opens] using ih hbound
  | closed _ _ => cases hbound

/-- Each number is given to one line. -/
theorem count_opened (h : Orderly journal bound) (n : Nat) :
    journal.count (.opened n) = if n < openings journal then 1 else 0 := by
  induction h with
  | start => rfl
  | missed _ ih => simpa [LineEvent.opens] using ih
  | opened _ ih =>
    rw [List.count_append, ih, List.count_singleton]
    grind [openings_concat, LineEvent.opens]
  | sent c _ ih => simpa [LineEvent.opens] using ih
  | closed _ ih => simpa [LineEvent.opens] using ih

/-- Every line has been closed once, or is the one that is open. -/
theorem count_closed (h : Orderly journal bound) (n : Nat) :
    journal.count (.closed n) = if n < openings journal ∧ bound ≠ some n then 1 else 0 := by
  induction h with
  | start => rfl
  | missed _ ih => simpa [LineEvent.opens] using ih
  | opened _ ih =>
    rw [List.count_append, ih, List.count_singleton]
    grind [openings_concat, LineEvent.opens]
  | sent c _ ih => simpa [LineEvent.opens] using ih
  | closed h ih =>
    have hlatest := h.latest
    rw [List.count_append, ih, List.count_singleton]
    grind [openings_concat, LineEvent.opens]

/-- A line that was closed is done with. -/
theorem pairwise (h : Orderly journal bound) :
    journal.Pairwise fun x y => ∀ n, x = .closed n → y.line? ≠ some n := by
  -- what comes next is done with the line that is open, or with a new one
  have hnext : ∀ {journal : List LineEvent} {bound : Option Nat} {e : LineEvent},
      Orderly journal bound →
      (∀ n, e.line? = some n → openings journal ≤ n ∨ bound = some n) →
      (journal.Pairwise fun x y => ∀ n, x = .closed n → y.line? ≠ some n) →
      (journal ++ [e]).Pairwise fun x y => ∀ n, x = .closed n → y.line? ≠ some n := by
    intro journal bound e h he ih
    refine List.pairwise_append.2 ⟨ih, List.pairwise_singleton _ _, ?_⟩
    rintro x hx y hy n rfl hline
    rw [List.mem_singleton.1 hy] at hline
    have hcount := h.count_closed n
    have hpositive := List.count_pos_iff.2 hx
    rcases he n hline with hnew | hopen
    · rw [if_neg fun hold => absurd hold.1 (Nat.not_lt.2 hnew)] at hcount
      omega
    · rw [if_neg fun hold => hold.2 hopen] at hcount
      omega
  induction h with
  | start => exact .nil
  | missed h ih => exact hnext h (fun _ hline => by cases hline) ih
  | opened h ih => exact hnext h (fun _ hline => .inl (Option.some.inj hline).le) ih
  | sent c h ih => exact hnext h (fun _ hline => .inr hline) ih
  | closed h ih => exact hnext h (fun _ hline => .inr hline) ih

end Orderly

/-! ## What calls do to a journal -/

/-- Whether a journal was continued with events of one sort, and in order. The lines that are open
before and after are told as well. -/
def Continues (sort : LineEvent → Prop) (bound : Option Nat) (journal : List LineEvent)
    (bound' : Option Nat) (journal' : List LineEvent) : Prop :=
  ∃ events, journal' = journal ++ events ∧ (∀ e ∈ events, sort e) ∧
    (Orderly journal bound → Orderly journal' bound')

namespace Continues

variable {sort sort' : LineEvent → Prop} {bound bound' bound'' : Option Nat}
  {journal journal' journal'' : List LineEvent}

theorem refl : Continues sort bound journal bound journal :=
  ⟨[], (List.append_nil _).symm, fun _ he => absurd he List.not_mem_nil, id⟩

theorem single {e : LineEvent} (hsort : sort e)
    (h : Orderly journal bound → Orderly (journal ++ [e]) bound') :
    Continues sort bound journal bound' (journal ++ [e]) :=
  ⟨[e], rfl, fun _ he => List.mem_singleton.1 he ▸ hsort, h⟩

theorem trans (h : Continues sort bound journal bound' journal')
    (h' : Continues sort bound' journal' bound'' journal'') :
    Continues sort bound journal bound'' journal'' := by
  obtain ⟨events, rfl, hsort, horderly⟩ := h
  obtain ⟨events', rfl, hsort', horderly'⟩ := h'
  refine ⟨events ++ events', List.append_assoc .., ?_, horderly' ∘ horderly⟩
  exact fun e he => (List.mem_append.1 he).elim (hsort e) (hsort' e)

theorem mono (himp : ∀ e, sort e → sort' e) (h : Continues sort bound journal bound' journal') :
    Continues sort' bound journal bound' journal' := by
  obtain ⟨events, rfl, hsort, horderly⟩ := h
  exact ⟨events, rfl, fun e he => himp e (hsort e he), horderly⟩

end Continues

/-- Whether something was sent, and nothing else. -/
def LineEvent.IsSending (e : LineEvent) : Prop := ∃ n c, e = .sent n c

namespace Conversation

/-- The number of the line that a conversation has. -/
def open? (t : Conversation (Nat × Line)) : Option Nat := t.line?.map Prod.fst

variable {carrier : Carrier World Line} {t after : Conversation (Nat × Line)} {l l' : Nat × Line}
  {login : Login} {timeout : Duration} {c : Command} {w w' : World × List LineEvent}

theorem open?_eq_of_line? (h : t.line? = some l) : t.open? = some l.1 := by
  rw [open?, h, Option.map_some]

theorem continues_send {result : Except Error Response}
    (h : carrier.numbered.send l c timeout w = (result, l', w')) :
    Continues LineEvent.IsSending (some l.1) w.2 (some l'.1) w'.2 := by
  simp only [Carrier.numbered, Prod.mk.injEq] at h
  obtain ⟨-, rfl, rfl⟩ := h
  exact .single ⟨_, _, rfl⟩ (.sent c)

/-- Whatever comes back, a login keeps the line that it went over. -/
theorem line?_afterLogin {before : Line → Standing Line} {line : Line}
    (hbefore : (⟨before line, timeout⟩ : Conversation Line).line? = some line)
    (result : Except Error Response) :
    (⟨afterLogin login before line result, timeout⟩ : Conversation Line).line? = some line := by
  unfold afterLogin
  cases result.bind (Outcome.ofResponse (.login login)) with
  | error e => exact hbefore
  | ok outcome => cases outcome <;> rfl

theorem continues_loginOver {before : Nat × Line → Standing (Nat × Line)}
    (hbefore : ∀ l, (⟨before l, timeout⟩ : Conversation _).line? = some l)
    {result : Except Error AccountSummary}
    (h : loginOver carrier.numbered timeout l login before w = (result, after, w')) :
    Continues LineEvent.IsSending (some l.1) w.2 after.open? w'.2 := by
  rcases hsend : carrier.numbered.send l (.login login) timeout w with ⟨back, l', w''⟩
  rw [loginOver_of_send before hsend] at h
  cases h
  rw [open?_eq_of_line? (line?_afterLogin (hbefore l') back)]
  exact continues_send hsend

theorem continues_attempt (left : Nat) {result : Except Error (Answer c)}
    (h : attempt carrier.numbered c left ⟨.joined l login, timeout⟩ w = (result, after, w')) :
    Continues LineEvent.IsSending (some l.1) w.2 after.open? w'.2 := by
  induction left, l, w using attempt_induction carrier.numbered c login timeout with
  | settled left l w back l' w' hsend hfinal =>
    rw [attempt_settled hsend hfinal] at h
    cases h
    exact continues_send hsend
  | lost left l w back l' w' answer l'' w'' e hsend hmend hlogin he =>
    rw [attempt_lost left hsend hmend hlogin he] at h
    cases h
    rw [open?_eq_of_line? (line?_afterLogin rfl answer)]
    exact (continues_send hsend).trans (continues_send hlogin)
  | again left l w back l' w' answer l'' w'' user hsend hmend hlogin haccepted ih =>
    rw [attempt_again left hsend hmend hlogin haccepted] at h
    exact ((continues_send hsend).trans (continues_send hlogin)).trans (ih h)

theorem continues_execute {result : Except Error (Answer c)}
    (h : t.execute carrier.numbered c w = (result, after, w')) :
    Continues LineEvent.IsSending t.open? w.2 after.open? w'.2 := by
  rcases t with ⟨standing, timeout⟩
  cases standing with
  | joined l login => exact continues_attempt maxRelogins h
  | apart bound =>
    cases h
    exact .refl

theorem continues_connect {opened : Except Error (Nat × Line)}
    (h : carrier.numbered.connect timeout w = (opened, w')) :
    Continues (·.closes = false) none w.2 (opened.toOption.map Prod.fst) w'.2 := by
  simp only [Carrier.numbered] at h
  rcases hconnect : carrier.connect timeout w.1 with ⟨_ | line, world⟩ <;> rw [hconnect] at h
  · cases h
    exact .single rfl .missed
  · cases h
    exact .single rfl .opened

theorem continues_login {result : Except Error AccountSummary}
    (h : t.login carrier.numbered login w = (result, after, w')) :
    Continues (fun e => e.closes = false ∧ (e.asks = true → t.line? = none)) t.open? w.2
      after.open? w'.2 := by
  have hsending : ∀ e : LineEvent, e.IsSending →
      e.closes = false ∧ (e.asks = true → t.line? = none) := by
    rintro e ⟨n, c, rfl⟩
    exact ⟨rfl, nofun⟩
  rcases t with ⟨standing, timeout⟩
  cases standing with
  | joined l last => exact (continues_loginOver (fun _ => rfl) h).mono hsending
  | apart bound =>
    cases bound with
    | some l => exact (continues_loginOver (fun _ => rfl) h).mono hsending
    | none =>
      rcases hconnect : carrier.numbered.connect timeout w with ⟨opened, w''⟩
      simp only [Conversation.login, hconnect] at h
      have hconnected := (continues_connect hconnect).mono fun e he =>
        show e.closes = false ∧ (e.asks = true → none = (none : Option (Nat × Line))) from
          ⟨he, fun _ => rfl⟩
      cases opened with
      | error e =>
        cases h
        exact hconnected
      | ok l => exact hconnected.trans ((continues_loginOver (fun _ => rfl) h).mono hsending)

theorem continues_drop (carrier : Carrier World Line) (t : Conversation (Nat × Line))
    (w : World × List LineEvent) :
    Continues (·.asks = false) t.open? w.2 none (t.drop carrier.numbered w).2 := by
  unfold drop open?
  cases t.line? with
  | none => exact .refl
  | some l => exact .single rfl .closed

/-- No call does with lines what is not its own to do. -/
theorem continues_perform {call : Call} {error : Option Error}
    (h : call.perform carrier.numbered t w = (error, after, w')) :
    Continues (fun e => (e.asks = true → t.line? = none) ∧ (e.closes = true → call = .close))
      t.open? w.2 after.open? w'.2 := by
  have hsending : ∀ e : LineEvent, e.IsSending →
      (e.asks = true → t.line? = none) ∧ (e.closes = true → call = .close) := by
    rintro e ⟨n, c, rfl⟩
    exact ⟨nofun, nofun⟩
  cases call with
  | login login =>
    rcases hlogin : t.login carrier.numbered login w with ⟨result, t', w''⟩
    simp only [Call.perform, hlogin] at h
    cases h
    exact (continues_login hlogin).mono fun e he => ⟨he.2, fun hcloses => by simp [he.1] at hcloses⟩
  | execute c =>
    rcases hexecute : t.execute carrier.numbered c w with ⟨result, t', w''⟩
    simp only [Call.perform, hexecute] at h
    cases h
    exact (continues_execute hexecute).mono hsending
  | executeOptional c =>
    rcases hexecute : t.execute carrier.numbered c w with ⟨result, t', w''⟩
    simp only [Call.perform, executeOptional, hexecute] at h
    cases result <;> cases h <;> exact (continues_execute hexecute).mono hsending
  | close =>
    simp only [Call.perform, close_eq] at h
    cases h
    exact (continues_drop carrier t w).mono fun e he => ⟨fun hasks => by simp [he] at hasks,
      fun _ => rfl⟩

theorem orderly_performAll {calls : List Call} {errors : List (Option Error)}
    (h : performAll carrier.numbered calls t w = (errors, after, w')) (hw : Orderly w.2 t.open?) :
    Orderly w'.2 after.open? := by
  induction calls using List.reverseRecOn generalizing errors after w' with
  | nil =>
    cases h
    exact hw
  | append_singleton calls call ih =>
    rcases hdone : performAll carrier.numbered calls t w with ⟨errors', t', w''⟩
    rcases hperform : call.perform carrier.numbered t' w'' with ⟨error, last, world⟩
    simp only [performAll_concat, hdone, hperform, Prod.mk.injEq] at h
    obtain ⟨-, rfl, rfl⟩ := h
    obtain ⟨-, -, -, horderly⟩ := continues_perform hperform
    exact horderly (ih hdone)

/-- **Every line is closed once, and nothing is done with it afterwards.** Lines are numbered and
all that is done with them is written down, of which a conversation takes no notice. Whatever it was
asked to do, the journal is in order: one line more was opened than closed if it has a line, and as
many if it has none. What it is asked to do next has it ask for a line only if it has none, and
close one only if it is told to close. When it is let go as well, each line was opened once and
closed once. -/
theorem every_line_is_closed_once {carrier : Carrier World Line} {calls : List Call}
    {timeout : Duration} {start world : World} {errors : List (Option Error)}
    {t : Conversation (Nat × Line)} {journal : List LineEvent}
    (h : performAll carrier.numbered calls (.start timeout) (start, []) =
      (errors, t, world, journal)) :
    performAll carrier calls (.start timeout) start = (errors, t.map Prod.snd, world) ∧
      Orderly journal (t.line?.map Prod.fst) ∧
      openings journal = closings journal + (if t.line?.isSome then 1 else 0) ∧
      (∀ (call : Call) error after world' later,
        call.perform carrier.numbered t (world, journal) = (error, after, world', later) →
        ∃ events, later = journal ++ events ∧
          (∀ e ∈ events, e.asks = true → t.line? = none) ∧
          ∀ e ∈ events, e.closes = true → call = .close) ∧
      ∃ ended whole, t.drop carrier.numbered (world, journal) = (ended, whole) ∧
        (t.map Prod.snd).drop carrier world = ended ∧
        (∀ n, whole.count (.opened n) = if n < openings whole then 1 else 0) ∧
        (∀ n, whole.count (.closed n) = whole.count (.opened n)) ∧
        whole.Pairwise fun x y => ∀ n, x = .closed n → y.line? ≠ some n := by
  have hplain := performAll_enriched (numbered_enriches carrier) calls (.start timeout) (start, [])
  have horderly : Orderly journal t.open? := orderly_performAll h .start
  rw [h] at hplain
  refine ⟨hplain, horderly, ?_, ?_, ?_⟩
  · have hbalance := horderly.openings_eq
    rwa [open?, Option.isSome_map] at hbalance
  · intro call error after world' later hcall
    obtain ⟨events, hevents, hsort, -⟩ := continues_perform hcall
    exact ⟨events, hevents, fun e he => (hsort e he).1, fun e he => (hsort e he).2⟩
  · rcases hdrop : t.drop carrier.numbered (world, journal) with ⟨ended, whole⟩
    obtain ⟨-, -, -, hdropped⟩ := continues_drop carrier t (world, journal)
    have hended := drop_enriched (numbered_enriches carrier) t (world, journal)
    rw [hdrop] at hdropped hended
    have hwhole : Orderly whole none := hdropped horderly
    refine ⟨ended, whole, rfl, hended, hwhole.count_opened, ?_, hwhole.pairwise⟩
    intro n
    rw [hwhole.count_closed, hwhole.count_opened]
    simp

/-- What is said while a session is lost for good, and found again over another line. -/
def lostSession : List (Except Error Response) :=
  [loggedIn, unauthenticated, unauthenticated, unauthenticated, loggedIn]

/-- Two lines are opened, the first of which outlives the session and is closed when the
conversation is, and the second when the conversation is let go. -/
theorem two_lines_are_closed_once :
    ∃ errors t world journal,
      performAll scripted.numbered
        [.login default, .execute .logout, .login default, .close, .login default]
        (.start standardTimeout) (lostSession, []) = (errors, t, world, journal) ∧
      journal = [.opened 0, .sent 0 (.login default), .sent 0 .logout, .sent 0 (.login default),
        .sent 0 (.login default), .closed 0, .opened 1, .sent 1 (.login default)] ∧
      Orderly journal (some 1) ∧
      ∃ ended whole, t.drop scripted.numbered (world, journal) = (ended, whole) ∧
        ∀ n < 2, whole.count (.closed n) = 1 := by
  rcases hrun : performAll scripted.numbered
    [.login default, .execute .logout, .login default, .close, .login default]
    (.start standardTimeout) (lostSession, []) with ⟨errors, t, world, journal⟩
  obtain ⟨-, horderly, -, -, ended, whole, hdrop, -, hopened, hclosed, -⟩ :=
    every_line_is_closed_once hrun
  cases hrun
  cases hdrop
  refine ⟨_, _, _, _, rfl, rfl, horderly, _, _, rfl, ?_⟩
  intro n hn
  rw [hclosed, hopened]
  exact if_pos hn

end Conversation

end AcctAdmin.Client
