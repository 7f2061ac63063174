import AcctAdmin.Proofs.Conversation.Recording
import Mathlib.Data.List.Chain

/-!
# Logging in again

What a conversation sends on its own account while it carries out a command, and where that leaves
it. A command is sent and may be followed by a login and the same command again, twice at most; each
of these is sent because of what came back for the one before. `Dialogue` says this of any number of
logins that may still follow, which is what the loop counts down (`attempt_induction`).
-/

set_option autoImplicit false

namespace AcctAdmin.Client

open AcctAdmin.Protocol

namespace Conversation

variable {World Line : Type}

/-- Everything that is sent for a command if every chance to log in again is taken. -/
def turns (c : Command) (login : Login) : Nat → List Command
  | 0 => [c]
  | left + 1 => c :: .login login :: turns c login left

/-- Why one command is sent right after another: the server does not know who is asking, or it does
now. -/
inductive Prompts (c : Command) (login : Login) (x y : Sending Line) : Prop where
  | relogin (hx : x.command = c) (hrefused : x.Unauthenticated) (hy : y.command = .login login)
  | repeated (hx : x.command = .login login)
      (haccepted : ∃ user, answerTo (.login login) x.result = .ok user) (hy : y.command = c)

/-- Where the last exchange leaves a conversation, and what is made known of it. -/
structure Concludes (c : Command) (login : Login) (x : Sending Line)
    (result : Except Error (Answer c)) (standing : Standing Line) : Prop where
  result : (x.command = c ∧ result = answerTo c x.result) ∨
    (x.command = .login login ∧ ∃ e, answerTo (.login login) x.result = .error e ∧
      result = .error e)
  apart : x.command = .login login → x.Refused → standing = .apart (some x.line)
  joined : ¬ (x.command = .login login ∧ x.Refused) → standing = .joined x.line login

/-- How a command goes that may be preceded by so many more logins. -/
structure Dialogue (c : Command) (login : Login) (timeout : Duration) (left : Nat)
    (sent : List (Sending Line)) (result : Except Error (Answer c)) (standing : Standing Line) :
    Prop where
  order : sent.map (·.command) <+: turns c login left
  timeout : ∀ x ∈ sent, x.timeout = timeout
  prompts : sent.IsChain (Prompts c login)
  last : ∃ x, sent.getLast? = some x ∧ Concludes c login x result standing ∧
    (x.command = c → x.Unauthenticated → sent.length = 2 * left + 1)

/-! ## One round -/

section Rounds

variable {c : Command} {login : Login} {timeout : Duration} {left : Nat} {x y : Sending Line}
  {sent : List (Sending Line)} {result : Except Error (Answer c)} {standing : Standing Line}

theorem ne_login_of_not_isLogin (hc : c.kind.isLogin = false) : c ≠ .login login := by
  rintro rfl
  cases hc

/-- The command has the last word. -/
theorem Dialogue.settled (hc : c.kind.isLogin = false) (hx : x.command = c)
    (htimeout : x.timeout = timeout) (hfinal : x.Unauthenticated → left = 0) :
    Dialogue c login timeout left [x] (answerTo c x.result) (.joined x.line login) where
  order := by
    cases left <;> simp [turns, hx]
  timeout := by
    intro z hz
    rw [List.mem_singleton.1 hz]
    exact htimeout
  prompts := .singleton x
  last := by
    have hnot : x.command ≠ .login login := by
      rw [hx]
      exact ne_login_of_not_isLogin hc
    refine ⟨x, rfl, ⟨.inl ⟨hx, rfl⟩, ?_, fun _ => rfl⟩, ?_⟩
    · intro hlogin
      exact absurd hlogin hnot
    · intro _ hunauthenticated
      rw [hfinal hunauthenticated]
      rfl

/-- The login has the last word, and it is not a good one. -/
theorem Dialogue.lost (hc : c.kind.isLogin = false) (hx : x.command = c)
    (hxt : x.timeout = timeout) (hrefused : x.Unauthenticated) (hy : y.command = .login login)
    (hyt : y.timeout = timeout) {e : Error} (he : answerTo (.login login) y.result = .error e)
    (hstanding : y.Refused → standing = .apart (some y.line))
    (hsame : ¬ y.Refused → standing = .joined y.line login) :
    Dialogue c login timeout (left + 1) [x, y] (.error e) standing where
  order := by
    cases left <;> simp [turns, hx, hy]
  timeout := by
    intro z hz
    rcases List.mem_cons.1 hz with rfl | hz
    · exact hxt
    · rw [List.mem_singleton.1 hz]
      exact hyt
  prompts := .cons_cons (.relogin hx hrefused hy) (.singleton y)
  last := by
    refine ⟨y, rfl, ⟨.inr ⟨hy, e, he, rfl⟩, fun _ => hstanding, ?_⟩, ?_⟩
    · intro hnot
      exact hsame fun hyr => hnot ⟨hy, hyr⟩
    · intro hyc
      exact absurd (hyc.symm.trans hy) (ne_login_of_not_isLogin hc)

/-- The login is accepted, and everything goes on from there. -/
theorem Dialogue.again (hx : x.command = c) (hxt : x.timeout = timeout)
    (hrefused : x.Unauthenticated) (hy : y.command = .login login) (hyt : y.timeout = timeout)
    (haccepted : ∃ user, answerTo (.login login) y.result = .ok user)
    (h : Dialogue c login timeout left sent result standing) :
    Dialogue c login timeout (left + 1) (x :: y :: sent) result standing where
  order := by
    obtain ⟨rest, hrest⟩ := h.order
    exact ⟨rest, by simp [turns, hx, hy, ← hrest]⟩
  timeout := by
    intro z hz
    rcases List.mem_cons.1 hz with rfl | hz
    · exact hxt
    · rcases List.mem_cons.1 hz with rfl | hz
      · exact hyt
      · exact h.timeout z hz
  prompts := by
    obtain ⟨z, hz, -⟩ := h.last
    cases sent with
    | nil => cases hz
    | cons first rest =>
      have hfirst : first.command = c := by
        have horder := h.order
        cases left <;> simp [turns] at horder <;> exact horder.1
      exact .cons_cons (.relogin hx hrefused hy) (.cons_cons (.repeated hy haccepted hfirst)
        h.prompts)
  last := by
    obtain ⟨z, hz, hconcludes, hlength⟩ := h.last
    refine ⟨z, ?_, hconcludes, ?_⟩
    · cases sent with
      | nil => cases hz
      | cons first rest => simpa using hz
    · intro hzc hunauthenticated
      have := hlength hzc hunauthenticated
      simp only [List.length_cons]
      omega

end Rounds

/-! ## One turn of the loop -/

section Loop

variable {carrier : Carrier World Line} {c : Command} {login : Login} {timeout : Duration}
  {line line' : Line} {left : Nat} {w w' : World} {result : Except Error Response}

/-- Whether logging in again may mend what came back. -/
def Mendable (c : Command) (result : Except Error Response) : Prop :=
  ∃ r, result = .ok (.refused r) ∧ isMendable c r = true

theorem mendable_iff {x : Sending Line} (hc : c.kind.isLogin = false) :
    Mendable c x.result ↔ x.Unauthenticated := by
  unfold Mendable Sending.Unauthenticated isMendable Refusal.isAuthentication
  simp [hc]

theorem attempt_settled (hsend : carrier.send line c timeout w = (result, line', w'))
    (hfinal : Mendable c result → left = 0) :
    attempt carrier c left ⟨.joined line login, timeout⟩ w =
      (answerTo c result, ⟨.joined line' login, timeout⟩, w') := by
  rw [attempt.eq_def]
  simp only [exchange_of_send hsend, answerTo]
  cases houtcome : result.bind (Outcome.ofResponse c) with
  | error e => rfl
  | ok outcome =>
    cases outcome with
    | reply payload => rfl
    | refused r =>
      cases hmend : isMendable c r with
      | false => simp [hmend, Outcome.toAnswer]
      | true =>
        obtain rfl := hfinal ⟨r, bind_ofResponse_eq_refused.1 houtcome, hmend⟩
        simp [hmend, Outcome.toAnswer]

theorem attempt_of_mendable (hsend : carrier.send line c timeout w = (result, line', w'))
    (hmend : Mendable c result) :
    attempt carrier c (left + 1) ⟨.joined line login, timeout⟩ w =
      match loginOver carrier timeout line' login (.joined · login) w' with
      | (.error e, t, w) => (.error e, t, w)
      | (.ok _, t, w) => attempt carrier c left t w := by
  obtain ⟨r, rfl, hr⟩ := hmend
  rw [attempt.eq_def]
  rcases hover : loginOver carrier timeout line' login (.joined · login) w' with ⟨answer, t, w''⟩
  cases answer with
  | error e =>
    simp only [exchange_of_send hsend, Except.bind, Outcome.ofResponse, hr, if_true, hover]
  | ok user =>
    simp only [exchange_of_send hsend, Except.bind, Outcome.ofResponse, hr, if_true, hover]

/-- Where a login leaves a conversation that has brought this back: only a refusal parts the two
sides. -/
def afterLogin (login : Login) (before : Line → Standing Line) (line : Line)
    (result : Except Error Response) : Standing Line :=
  match result.bind (Outcome.ofResponse (.login login)) with
  | .ok (.reply _) => .joined line login
  | .ok (.refused _) => .apart (some line)
  | .error _ => before line

theorem loginOver_of_send (before : Line → Standing Line)
    (hsend : carrier.send line (.login login) timeout w = (result, line', w')) :
    loginOver carrier timeout line login before w =
      (answerTo (.login login) result, ⟨afterLogin login before line' result, timeout⟩, w') := by
  unfold loginOver answerTo afterLogin
  rw [exchange_of_send hsend]
  cases result.bind (Outcome.ofResponse (.login login)) with
  | error e => rfl
  | ok outcome =>
    cases outcome with
    | reply user => rfl
    | refused r => rfl

section AfterLogin

variable {before : Line → Standing Line}

theorem afterLogin_of_accepted {user : AccountSummary}
    (h : answerTo (.login login) result = .ok user) :
    afterLogin login before line result = .joined line login := by
  unfold answerTo at h
  unfold afterLogin
  cases houtcome : result.bind (Outcome.ofResponse (.login login)) with
  | error e =>
    rw [houtcome] at h
    cases h
  | ok outcome =>
    rw [houtcome] at h
    cases outcome with
    | reply user => rfl
    | refused r => cases h

theorem afterLogin_of_refused (h : ∃ r, result = .ok (.refused r)) :
    afterLogin login before line result = .apart (some line) := by
  obtain ⟨r, rfl⟩ := h
  rfl

theorem afterLogin_of_lost {e : Error} (hr : ¬ ∃ r, result = .ok (.refused r))
    (he : answerTo (.login login) result = .error e) :
    afterLogin login before line result = before line := by
  unfold answerTo at he
  unfold afterLogin
  cases houtcome : result.bind (Outcome.ofResponse (.login login)) with
  | error e => rfl
  | ok outcome =>
    rw [houtcome] at he
    cases outcome with
    | reply user => cases he
    | refused r => exact absurd ⟨r, bind_ofResponse_eq_refused.1 houtcome⟩ hr

end AfterLogin

section Turns

variable {answer : Except Error Response} {line'' : Line} {w'' : World}

/-- The login has the last word, and it is an error. -/
theorem attempt_lost (left : Nat)
    (hsend : carrier.send line c timeout w = (result, line', w'))
    (hmend : Mendable c result)
    (hlogin : carrier.send line' (.login login) timeout w' = (answer, line'', w'')) {e : Error}
    (he : answerTo (.login login) answer = .error e) :
    attempt carrier c (left + 1) ⟨.joined line login, timeout⟩ w =
      (.error e, ⟨afterLogin login (.joined · login) line'' answer, timeout⟩, w'') := by
  rw [attempt_of_mendable hsend hmend, loginOver_of_send _ hlogin, he]

/-- The login is accepted, and everything goes on from there. -/
theorem attempt_again (left : Nat)
    (hsend : carrier.send line c timeout w = (result, line', w'))
    (hmend : Mendable c result)
    (hlogin : carrier.send line' (.login login) timeout w' = (answer, line'', w''))
    {user : AccountSummary} (haccepted : answerTo (.login login) answer = .ok user) :
    attempt carrier c (left + 1) ⟨.joined line login, timeout⟩ w =
      attempt carrier c left ⟨.joined line'' login, timeout⟩ w'' := by
  rw [attempt_of_mendable hsend hmend, loginOver_of_send _ hlogin, haccepted,
    afterLogin_of_accepted haccepted]

end Turns

/-- By induction on the logins that are left: the command has the last word, or the login that was
to mend it has, or everything begins again with one login less. -/
@[elab_as_elim]
theorem attempt_induction (carrier : Carrier World Line) (c : Command) (login : Login)
    (timeout : Duration) {motive : Nat → Line → World → Prop}
    (settled : ∀ left line w result line' w',
      carrier.send line c timeout w = (result, line', w') → (Mendable c result → left = 0) →
      motive left line w)
    (lost : ∀ left line w result line' w' answer line'' w'' e,
      carrier.send line c timeout w = (result, line', w') → Mendable c result →
      carrier.send line' (.login login) timeout w' = (answer, line'', w'') →
      answerTo (.login login) answer = .error e → motive (left + 1) line w)
    (again : ∀ left line w result line' w' answer line'' w'' user,
      carrier.send line c timeout w = (result, line', w') → Mendable c result →
      carrier.send line' (.login login) timeout w' = (answer, line'', w'') →
      answerTo (.login login) answer = .ok user → motive left line'' w'' →
      motive (left + 1) line w)
    (left : Nat) (line : Line) (w : World) : motive left line w := by
  induction left generalizing line w with
  | zero => exact settled 0 line w _ _ _ rfl fun _ => rfl
  | succ left ih =>
    rcases hsend : carrier.send line c timeout w with ⟨result, line', w'⟩
    by_cases hmend : Mendable c result
    · rcases hlogin : carrier.send line' (.login login) timeout w' with ⟨answer, line'', w''⟩
      cases hanswer : answerTo (.login login) answer with
      | error e => exact lost left line w _ _ _ _ _ _ e hsend hmend hlogin hanswer
      | ok user =>
        exact again left line w _ _ _ _ _ _ user hsend hmend hlogin hanswer (ih line'' w'')
    · exact settled (left + 1) line w _ _ _ hsend fun h => absurd h hmend

/-- The loop, over a carrier and over the same one watched. -/
theorem attempt_dialogue (carrier : Carrier World Line) (login : Login) (timeout : Duration)
    (hc : c.kind.isLogin = false) (left : Nat) (line : Line) (w : World)
    (log : List (Sending Line)) :
    ∃ sent result standing w',
      attempt carrier c left ⟨.joined line login, timeout⟩ w = (result, ⟨standing, timeout⟩, w') ∧
      attempt carrier.recorded c left ⟨.joined line login, timeout⟩ (w, log) =
        (result, ⟨standing, timeout⟩, w', log ++ sent) ∧
      Dialogue c login timeout left sent result standing := by
  induction left, line, w using attempt_induction carrier c login timeout generalizing log with
  | settled left line w result line' w' hsend hfinal =>
    let x : Sending Line := ⟨c, timeout, result, line'⟩
    refine ⟨[x], _, _, _, attempt_settled hsend hfinal,
      attempt_settled (recorded_send log hsend) hfinal, ?_⟩
    exact .settled (x := x) hc rfl rfl fun h => hfinal ((mendable_iff (x := x) hc).2 h)
  | lost left line w result line' w' answer line'' w'' e hsend hmend hlogin he =>
    let x : Sending Line := ⟨c, timeout, result, line'⟩
    let y : Sending Line := ⟨.login login, timeout, answer, line''⟩
    have hwatched := attempt_lost left (recorded_send log hsend) hmend
      (recorded_send (log ++ [x]) hlogin) he
    rw [List.append_assoc] at hwatched
    refine ⟨[x, y], _, _, _, attempt_lost left hsend hmend hlogin he, hwatched, ?_⟩
    exact .lost (x := x) (y := y) hc rfl rfl ((mendable_iff (x := x) hc).1 hmend) rfl rfl he
      afterLogin_of_refused fun hr => afterLogin_of_lost hr he
  | again left line w result line' w' answer line'' w'' user hsend hmend hlogin haccepted ih =>
    let x : Sending Line := ⟨c, timeout, result, line'⟩
    let y : Sending Line := ⟨.login login, timeout, answer, line''⟩
    obtain ⟨sent, result, standing, w₃, hplain, hwatched, hdialogue⟩ := ih (log ++ [x] ++ [y])
    refine ⟨x :: y :: sent, result, standing, w₃, ?_, ?_, ?_⟩
    · rw [attempt_again left hsend hmend hlogin haccepted, hplain]
    · rw [attempt_again left (recorded_send log hsend) hmend (recorded_send (log ++ [x]) hlogin)
        haccepted, hwatched]
      simp
    · exact .again (x := x) (y := y) rfl rfl ((mendable_iff (x := x) hc).1 hmend) rfl rfl
        ⟨user, haccepted⟩ hdialogue

end Loop

/-! ## Any command -/

variable {carrier : Carrier World Line} {t after : Conversation Line} {c : Command} {w w' : World}
  {result : Except Error (Answer c)}

/-- **Logging in again is bounded and cannot be noticed.** A conversation that is logged in sends a
command, its login, the command, its login, the command, or leaves off somewhere before the end; for
each exchange it waits as long as it was told to. The login is sent only when the server did not
know who was asking, the command again only when the login was accepted, and both as long as there
are turns left. The result is what the last exchange came to. The conversation stays logged in with
the same login, unless that is what was refused at last: then it is not logged in, and has the line
still. A login is sent just once, and a conversation that is not logged in sends nothing. -/
theorem relogin_is_bounded (h : t.execute carrier c w = (result, after, w')) :
    ∃ sent, t.execute carrier.recorded c (w, []) = (result, after, w', sent) ∧
      after.timeout = t.timeout ∧ (∀ x ∈ sent, x.timeout = t.timeout) ∧
      (∀ bound, t.standing = .apart bound →
        sent = [] ∧ result = .error .notLoggedIn ∧ after = t ∧ w' = w) ∧
      (∀ line login, t.standing = .joined line login → c.kind.isLogin = true →
        ∃ x, sent = [x] ∧ x.command = c ∧ result = answerTo c x.result ∧
          after.standing = .joined x.line login) ∧
      (∀ line login, t.standing = .joined line login → c.kind.isLogin = false →
        sent.map (·.command) <+: [c, .login login, c, .login login, c] ∧
        sent.IsChain (Prompts c login) ∧
        ∃ x, sent.getLast? = some x ∧ Concludes c login x result after.standing ∧
          (x.command = c → x.Unauthenticated → sent.length = 5)) := by
  rcases t with ⟨standing, timeout⟩
  cases standing with
  | apart bound =>
    cases h
    refine ⟨[], rfl, rfl, ?_, fun _ _ => ⟨rfl, rfl, rfl, rfl⟩, ?_, ?_⟩
    · intro x hx
      cases hx
    · intro line login hstanding
      cases hstanding
    · intro line login hstanding
      cases hstanding
  | joined line login =>
    unfold execute at h ⊢
    cases hc : c.kind.isLogin with
    | true =>
      rcases hsend : carrier.send line c timeout w with ⟨back, line', w₁⟩
      -- a login is no command that a login could mend
      have hfinal : Mendable c back → maxRelogins = 0 := by
        rintro ⟨r, -, hr⟩
        simp [isMendable, hc] at hr
      rw [attempt_settled hsend hfinal] at h
      cases h
      refine ⟨[⟨c, timeout, back, line'⟩], attempt_settled (recorded_send [] hsend) hfinal, rfl, ?_,
        ?_, ?_, ?_⟩
      · intro x hx
        rw [List.mem_singleton.1 hx]
      · intro bound hstanding
        cases hstanding
      · intro line₀ login₀ hstanding _
        cases hstanding
        exact ⟨_, rfl, rfl, rfl, rfl⟩
      · intro _ _ _ hnot
        cases hnot
    | false =>
      obtain ⟨sent, result', standing, w₁, hplain, hwatched, hdialogue⟩ :=
        attempt_dialogue carrier login timeout hc maxRelogins line w []
      rw [hplain] at h
      cases h
      refine ⟨sent, hwatched, rfl, hdialogue.timeout, ?_, ?_, ?_⟩
      · intro bound hstanding
        cases hstanding
      · intro _ _ _ hnot
        cases hnot
      · intro line₀ login₀ hstanding _
        cases hstanding
        exact ⟨hdialogue.order, hdialogue.prompts, hdialogue.last⟩

/-- A server that answers as it is told to. -/
def scripted : Carrier (List (Except Error Response)) Unit where
  connect _ w := (.ok (), w)
  generation _ := default
  send _ _ _ w :=
    match w with
    | [] => (.error (.io "script exhausted"), (), [])
    | result :: rest => (result, (), rest)
  close _ w := w

def unauthenticated : Except Error Response :=
  .ok (.refused ⟨default, "session expired", .authentication, .empty, none, .client⟩)

def loggedIn : Except Error Response := .ok (.success default (.loginOk default))

def expired : Conversation Unit := ⟨.joined () default, standardTimeout⟩

/-- The second login is refused, and that is the end of it. -/
theorem refused_login_ends_it :
    ∃ sent result after w',
      expired.execute scripted .logout
        [unauthenticated, loggedIn, unauthenticated, unauthenticated] = (result, after, w') ∧
      expired.execute scripted.recorded .logout
        ([unauthenticated, loggedIn, unauthenticated, unauthenticated], []) =
          (result, after, w', sent) ∧
      sent.map (·.command) = [.logout, .login default, .logout, .login default] ∧
      (∀ x ∈ sent, x.timeout = standardTimeout) ∧ after.standing = .apart (some ()) := by
  have hrun : expired.execute scripted .logout
      [unauthenticated, loggedIn, unauthenticated, unauthenticated] = (_, _, _) := rfl
  obtain ⟨sent, hwatched, -, htimeout, -, -, hjoined⟩ := relogin_is_bounded hrun
  obtain ⟨-, -, x, hlast, hconcludes, -⟩ := hjoined () default rfl rfl
  have hsent : sent = [⟨.logout, standardTimeout, unauthenticated, ()⟩,
      ⟨.login default, standardTimeout, loggedIn, ()⟩,
      ⟨.logout, standardTimeout, unauthenticated, ()⟩,
      ⟨.login default, standardTimeout, unauthenticated, ()⟩] :=
    (congrArg (·.2.2.2) hwatched).symm
  rw [hsent] at hlast
  cases hlast
  exact ⟨sent, _, _, _, rfl, hwatched, by rw [hsent]; rfl, htimeout,
    hconcludes.apart rfl ⟨_, rfl⟩⟩

end Conversation

end AcctAdmin.Client
