import AcctAdmin.Proofs.Conversation.Relogin

/-!
# Sessions in a conversation's custody

What a conversation has to know of its carrier to be sure of its sessions (`Carrier.Custody`): of
which lines and worlds it can be said that there is a session at most for the line to show, and of
which worlds that there is none. While it is logged in, the first holds, and as soon as it is not,
the second. Logging out comes to the second from wherever it begins, whatever is answered on the
way.
-/

set_option autoImplicit false

namespace AcctAdmin.Client

open AcctAdmin.Protocol

variable {World Line : Type}

/-- What a carrier does to sessions: where `Held` says that a line shows the only one that there may
be, and `Clear` that there is none. -/
structure Carrier.Custody (carrier : Carrier World Line) (Held : Line → World → Prop)
    (Clear : World → Prop) : Prop where
  opened : ∀ {timeout w line w'}, carrier.connect timeout w = (.ok line, w') → Clear w →
    Held line w' ∧ Clear w'
  unopened : ∀ {timeout w e w'}, carrier.connect timeout w = (.error e, w') → Clear w → Clear w'
  sent : ∀ {line c timeout w result line' w'},
    carrier.send line c timeout w = (result, line', w') → Held line w → Held line' w'
  /-- A login that does not succeed begins no session. -/
  turnedAway : ∀ {line login timeout w result line' w' e},
    carrier.send line (.login login) timeout w = (result, line', w') →
    answerTo (.login login) result = .error e → Held line w → Clear w → Clear w'
  /-- Who is told to log in has no session. -/
  unknown : ∀ {line c timeout w result line' w'},
    carrier.send line c timeout w = (result, line', w') → Conversation.Mendable c result →
    Held line w → Clear w'
  loggedOut : ∀ {line timeout w result line' w'},
    carrier.send line .logout timeout w = (result, line', w') → Held line w → Clear w'
  closed : ∀ {line w}, Clear w → Clear (carrier.close line w)

namespace Conversation

variable {carrier : Carrier World Line} {Held : Line → World → Prop} {Clear : World → Prop}
  {c : Command} {login : Login} {timeout : Duration} {left : Nat} {t after : Conversation Line}
  {line : Line} {w w' : World}

/-- What a conversation leaves of sessions, wherever it stands. -/
def Keeps (Held : Line → World → Prop) (Clear : World → Prop) (t : Conversation Line) (w : World) :
    Prop :=
  match t.standing with
  | .joined line _ => Held line w
  | .apart _ => Clear w

/-! ## Logging in -/

/-- Where a login leaves a conversation that has no session. -/
theorem keeps_afterLogin (h : carrier.Custody Held Clear) {before : Line → Standing Line}
    (hbefore : ∀ line w, Held line w → Clear w → Keeps Held Clear ⟨before line, timeout⟩ w)
    {answer : Except Error Response} {line' : Line}
    (hsend : carrier.send line (.login login) timeout w = (answer, line', w'))
    (hheld : Held line w) (hclear : Clear w) :
    Keeps Held Clear ⟨afterLogin login before line' answer, timeout⟩ w' := by
  have hheld' := h.sent hsend hheld
  cases hanswer : answerTo (.login login) answer with
  | ok user =>
    rw [afterLogin_of_accepted hanswer]
    exact hheld'
  | error e =>
    have hclear' := h.turnedAway hsend hanswer hheld hclear
    by_cases hrefused : ∃ r, answer = .ok (.refused r)
    · rw [afterLogin_of_refused hrefused]
      exact hclear'
    · rw [afterLogin_of_lost hrefused hanswer]
      exact hbefore line' w' hheld' hclear'

/-- The first login of a conversation. -/
theorem keeps_login (h : carrier.Custody Held Clear) {result : Except Error AccountSummary}
    (hlogin : (start timeout).login carrier login w = (result, after, w')) (hclear : Clear w) :
    after.Keeps Held Clear w' ∧ ∀ e, result = .error e → Clear w' := by
  rcases hconnect : carrier.connect timeout w with ⟨opened, w₁⟩
  simp only [start, Conversation.login, hconnect] at hlogin
  cases opened with
  | error e =>
    cases hlogin
    exact ⟨h.unopened hconnect hclear, fun _ _ => h.unopened hconnect hclear⟩
  | ok line =>
    obtain ⟨hheld, hclear₁⟩ := h.opened hconnect hclear
    rcases hsend : carrier.send line (.login login) timeout w₁ with ⟨answer, line', w₂⟩
    simp only [loginOver_of_send _ hsend] at hlogin
    cases hlogin
    refine ⟨keeps_afterLogin h ?_ hsend hheld hclear₁, fun e he => ?_⟩
    · intro _ _ _ hstill
      exact hstill
    · exact h.turnedAway hsend he hheld hclear₁

/-! ## Commands -/

/-- **A command leaves a conversation in custody of its session**, or without one. -/
theorem keeps_attempt (h : carrier.Custody Held Clear) {result : Except Error (Answer c)}
    (hattempt : attempt carrier c left ⟨.joined line login, timeout⟩ w = (result, after, w'))
    (hheld : Held line w) : after.Keeps Held Clear w' := by
  induction left, line, w using attempt_induction carrier c login timeout with
  | settled left line w came line' w' hsend hfinal =>
    rw [attempt_settled hsend hfinal] at hattempt
    cases hattempt
    exact h.sent hsend hheld
  | lost left line w came line' w' answer line'' w'' e hsend hmend hlogin he =>
    rw [attempt_lost left hsend hmend hlogin he] at hattempt
    cases hattempt
    refine keeps_afterLogin h ?_ hlogin (h.sent hsend hheld) (h.unknown hsend hmend hheld)
    intro _ _ hstill _
    exact hstill
  | again left line w came line' w' answer line'' w'' user hsend hmend hlogin haccepted ih =>
    rw [attempt_again left hsend hmend hlogin haccepted] at hattempt
    exact ih hattempt (h.sent hlogin (h.sent hsend hheld))

/-- **Logging out leaves no session**, however often it has to be tried. -/
theorem clear_attempt_logout (h : carrier.Custody Held Clear) {result : Except Error Unit}
    (hattempt : attempt carrier .logout left ⟨.joined line login, timeout⟩ w = (result, after, w'))
    (hheld : Held line w) : Clear w' := by
  induction left, line, w using attempt_induction carrier .logout login timeout with
  | settled left line w came line' w' hsend hfinal =>
    rw [attempt_settled hsend hfinal] at hattempt
    cases hattempt
    exact h.loggedOut hsend hheld
  | lost left line w came line' w' answer line'' w'' e hsend hmend hlogin he =>
    rw [attempt_lost left hsend hmend hlogin he] at hattempt
    cases hattempt
    exact h.turnedAway hlogin he (h.sent hsend hheld) (h.loggedOut hsend hheld)
  | again left line w came line' w' answer line'' w'' user hsend hmend hlogin haccepted ih =>
    rw [attempt_again left hsend hmend hlogin haccepted] at hattempt
    exact ih hattempt (h.sent hlogin (h.sent hsend hheld))

theorem keeps_execute (h : carrier.Custody Held Clear) {result : Except Error (Answer c)}
    (hexecute : t.execute carrier c w = (result, after, w')) (hkept : t.Keeps Held Clear w) :
    after.Keeps Held Clear w' := by
  rcases t with ⟨standing, timeout⟩
  cases standing with
  | joined line login => exact keeps_attempt h hexecute hkept
  | apart bound =>
    cases hexecute
    exact hkept

theorem keeps_executeOptional (h : carrier.Custody Held Clear)
    {result : Except Error (Option (Answer c))}
    (hexecute : t.executeOptional carrier c w = (result, after, w'))
    (hkept : t.Keeps Held Clear w) : after.Keeps Held Clear w' := by
  rcases hplain : t.execute carrier c w with ⟨answer, t', w''⟩
  have hkept' := keeps_execute h hplain hkept
  simp only [executeOptional, hplain] at hexecute
  cases answer <;> cases hexecute <;> exact hkept'

/-! ## Ending -/

theorem clear_close (h : carrier.Custody Held Clear) (hclear : Clear w) :
    Clear (t.close carrier w).2 := by
  unfold close
  cases t.line? with
  | none => exact hclear
  | some line => exact h.closed hclear

theorem clear_logout (h : carrier.Custody Held Clear) (hkept : t.Keeps Held Clear w) :
    Clear (t.logout carrier w).2.2 := by
  rcases hexecute : t.execute carrier .logout w with ⟨result, t', w'⟩
  simp only [logout, hexecute]
  refine clear_close h ?_
  rcases t with ⟨standing, timeout⟩
  cases standing with
  | joined line login => exact clear_attempt_logout h hexecute hkept
  | apart bound =>
    cases hexecute
    exact hkept

end Conversation

end AcctAdmin.Client
