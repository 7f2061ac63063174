import AcctAdmin.Proofs.Conversation.Standing

/-!
# Carriers with something more to them

A carrier may keep more about the world and about its lines than another one and still be the same
to a conversation (`Carrier.Enriches`). A conversation never looks at what a line is, so that it
does the same over either of them: this is shown of one exchange, of the loop, and of every series
of calls (`performAll_enriched`).
-/

set_option autoImplicit false

namespace AcctAdmin.Client

open AcctAdmin.Protocol

variable {World Line World' Line' : Type}

section Mapping

variable (f : Line' → Line)

def Standing.map : Standing Line' → Standing Line
  | .apart bound => .apart (bound.map f)
  | .joined line login => .joined (f line) login

def Conversation.map (t : Conversation Line') : Conversation Line := ⟨t.standing.map f, t.timeout⟩

theorem Conversation.line?_map (t : Conversation Line') : (t.map f).line? = t.line?.map f := by
  rcases t with ⟨standing, timeout⟩
  cases standing <;> rfl

end Mapping

/-- Whether a carrier is another one with something more to its world and its lines. -/
structure Carrier.Enriches (rich : Carrier World' Line') (carrier : Carrier World Line)
    (world : World' → World) (line : Line' → Line) : Prop where
  connect : ∀ timeout w, carrier.connect timeout (world w) =
    ((rich.connect timeout w).1.map line, world (rich.connect timeout w).2)
  send : ∀ l c timeout w, carrier.send (line l) c timeout (world w) =
    ((rich.send l c timeout w).1, line (rich.send l c timeout w).2.1,
      world (rich.send l c timeout w).2.2)
  close : ∀ l w, carrier.close (line l) (world w) = world (rich.close l w)

/-! ### What a conversation makes of them -/

namespace Conversation

variable {rich : Carrier World' Line'} {carrier : Carrier World Line} {world : World' → World}
  {line : Line' → Line}

/-- The end of a step, without what is more to the world and to the lines. -/
def plainly {α : Type} (world : World' → World) (line : Line' → Line)
    (done : α × Conversation Line' × World') : α × Conversation Line × World :=
  (done.1, done.2.1.map line, world done.2.2)

theorem exchange_enriched (h : rich.Enriches carrier world line) (l : Line') (c : Command)
    (timeout : Duration) (w : World') :
    carrier.exchange (line l) c timeout (world w) =
      ((rich.exchange l c timeout w).1, line (rich.exchange l c timeout w).2.1,
        world (rich.exchange l c timeout w).2.2) := by
  have hsend := h.send l c timeout w
  rcases hrich : rich.send l c timeout w with ⟨result, l', w'⟩
  rw [hrich] at hsend
  rw [exchange_of_send hsend, exchange_of_send hrich]

theorem loginOver_enriched (h : rich.Enriches carrier world line) (timeout : Duration) (l : Line')
    (login : Login) {before : Line' → Standing Line'} {before' : Line → Standing Line}
    (hbefore : ∀ l, before' (line l) = (before l).map line) (w : World') :
    loginOver carrier timeout (line l) login before' (world w) =
      plainly world line (loginOver rich timeout l login before w) := by
  have hexchange := exchange_enriched h l (.login login) timeout w
  unfold loginOver
  rcases hrich : rich.exchange l (.login login) timeout w with ⟨outcome, l', w'⟩
  rw [hrich] at hexchange
  rw [hexchange]
  cases outcome with
  | error e => simp only [plainly, map, hbefore]
  | ok came =>
    cases came with
    | reply user => rfl
    | refused r => rfl

theorem login_enriched (h : rich.Enriches carrier world line) (t : Conversation Line')
    (login : Login) (w : World') :
    (t.map line).login carrier login (world w) = plainly world line (t.login rich login w) := by
  rcases t with ⟨standing, timeout⟩
  cases standing with
  | joined l last => exact loginOver_enriched h timeout l login (fun _ => rfl) w
  | apart bound =>
    cases bound with
    | some l => exact loginOver_enriched h timeout l login (fun _ => rfl) w
    | none =>
      have hconnect := h.connect timeout w
      rcases hrich : rich.connect timeout w with ⟨opened, w'⟩
      rw [hrich] at hconnect
      simp only [map, Standing.map, Option.map_none, Conversation.login, hconnect, hrich]
      cases opened with
      | error e => rfl
      | ok l => exact loginOver_enriched h timeout l login (fun _ => rfl) w'

/-- One turn of the loop, if the same is known of all that follow. -/
theorem attempt_enriched_of (h : rich.Enriches carrier world line) (c : Command) {left : Nat}
    (hrest : ∀ less, left = less + 1 → ∀ t w, attempt carrier c less (t.map line) (world w) =
      plainly world line (attempt rich c less t w))
    (t : Conversation Line') (w : World') :
    attempt carrier c left (t.map line) (world w) =
      plainly world line (attempt rich c left t w) := by
  rcases t with ⟨standing, timeout⟩
  rw [attempt.eq_def, attempt.eq_def rich]
  cases standing with
  | apart bound => rfl
  | joined l last =>
    have hexchange := exchange_enriched h l c timeout w
    rcases hrich : rich.exchange l c timeout w with ⟨outcome, l', w'⟩
    rw [hrich] at hexchange
    simp only [map, Standing.map, hexchange, hrich]
    cases outcome with
    | error e => rfl
    | ok came =>
      cases came with
      | reply payload => rfl
      | refused r =>
        cases hmend : isMendable c r with
        | false => simp [plainly, map, Standing.map, hmend]
        | true =>
          simp only [hmend, if_true]
          cases left with
          | zero => rfl
          | succ less =>
            have hlogin : loginOver carrier timeout (line l') last (.joined · last) (world w') =
                plainly world line (loginOver rich timeout l' last (.joined · last) w') :=
              loginOver_enriched h timeout l' last (fun _ => rfl) w'
            simp only [hlogin]
            rcases loginOver rich timeout l' last (.joined · last) w' with ⟨answer, t', w''⟩
            cases answer with
            | error e => rfl
            | ok user => exact hrest less rfl t' w''

theorem attempt_enriched (h : rich.Enriches carrier world line) (c : Command) (left : Nat)
    (t : Conversation Line') (w : World') :
    attempt carrier c left (t.map line) (world w) =
      plainly world line (attempt rich c left t w) := by
  induction left generalizing t w with
  | zero => exact attempt_enriched_of h c (fun _ hless => by cases hless) t w
  | succ left ih =>
    refine attempt_enriched_of h c ?_ t w
    intro less hless
    cases hless
    exact ih

theorem executeOptional_enriched (h : rich.Enriches carrier world line) (c : Command)
    (t : Conversation Line') (w : World') :
    (t.map line).executeOptional carrier c (world w) =
      plainly world line (t.executeOptional rich c w) := by
  have hexecute : (t.map line).execute carrier c (world w) = plainly world line _ :=
    attempt_enriched h c maxRelogins t w
  unfold executeOptional
  rw [hexecute, execute]
  rcases attempt rich c maxRelogins t w with ⟨result, t', w'⟩
  cases result <;> rfl

theorem drop_enriched (h : rich.Enriches carrier world line) (t : Conversation Line')
    (w : World') : (t.map line).drop carrier (world w) = world (t.drop rich w) := by
  unfold drop
  rw [line?_map]
  cases t.line? with
  | none => rfl
  | some l => exact h.close l w

/-- To close a conversation is to let its line go, and to have a fresh one. -/
theorem close_eq (carrier : Carrier World Line) (t : Conversation Line) (w : World) :
    t.close carrier w = (.start t.timeout, t.drop carrier w) := by
  unfold close drop
  cases t.line? <;> rfl

/-- **What is more to a world and to lines makes no difference to a conversation.** -/
theorem perform_enriched (h : rich.Enriches carrier world line) (call : Call)
    (t : Conversation Line') (w : World') :
    call.perform carrier (t.map line) (world w) =
      plainly world line (call.perform rich t w) := by
  cases call with
  | login login =>
    simp only [Call.perform, login_enriched h]
    rfl
  | execute c =>
    simp only [Call.perform, execute, attempt_enriched h]
    rfl
  | executeOptional c =>
    simp only [Call.perform, executeOptional_enriched h]
    rfl
  | close =>
    simp only [Call.perform, close_eq, drop_enriched h]
    rfl

theorem performAll_concat (carrier : Carrier World Line) (calls : List Call) (call : Call)
    (t : Conversation Line) (w : World) :
    performAll carrier (calls ++ [call]) t w =
      let done := performAll carrier calls t w
      let last := call.perform carrier done.2.1 done.2.2
      (done.1 ++ [last.1], last.2) := by
  unfold performAll
  rw [List.foldl_append]
  rfl

theorem performAll_enriched (h : rich.Enriches carrier world line) (calls : List Call)
    (t : Conversation Line') (w : World') :
    performAll carrier calls (t.map line) (world w) =
      plainly world line (performAll rich calls t w) := by
  induction calls using List.reverseRecOn with
  | nil => rfl
  | append_singleton calls call ih =>
    simp only [performAll_concat, ih]
    rw [plainly, perform_enriched h]
    rfl

end Conversation

end AcctAdmin.Client
