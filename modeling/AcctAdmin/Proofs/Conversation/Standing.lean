import AcctAdmin.Proofs.Conversation.Relogin
import Mathlib.Logic.Relation

/-!
# Where a conversation stands

A conversation is logged in because of one login, the latest that was asked for and accepted, and
until it is closed or a login of its own or of its caller's is refused (`LoggedInSince`). Whatever
else goes wrong is of no consequence to it, and the line that it has it keeps (`Takes`). All this is
shown of one call, and follows for every series of calls over every carrier.
-/

set_option autoImplicit false

namespace AcctAdmin.Client

open AcctAdmin.Protocol

variable {World Line : Type}

/-! ## Calls -/

/-- What a conversation is asked to do. -/
inductive Call where
  | login (login : Login)
  | execute (c : Command)
  | executeOptional (c : Command)
  | close

def errorOf {α : Type} : Except Error α → Option Error
  | .ok _ => none
  | .error e => some e

namespace Call

/-- The command that is to be carried out. -/
def command? : Call → Option Command
  | .execute c | .executeOptional c => some c
  | .login _ | .close => none

/-- Does what is asked for, and says what went wrong. -/
def perform (carrier : Carrier World Line) (t : Conversation Line) (w : World) :
    Call → Option Error × Conversation Line × World
  | .login l =>
    let (result, t, w) := t.login carrier l w
    (errorOf result, t, w)
  | .execute c =>
    let (result, t, w) := t.execute carrier c w
    (errorOf result, t, w)
  | .executeOptional c =>
    let (result, t, w) := t.executeOptional carrier c w
    (errorOf result, t, w)
  | .close =>
    let (t, w) := t.close carrier w
    (none, t, w)

end Call

/-- A call that was made: what went wrong, and what was sent for it. -/
structure Made (Line : Type) where
  call : Call
  error : Option Error
  sent : List (Sending Line)

namespace Made

def LogsIn (m : Made Line) (login : Login) : Prop := m.call = .login login ∧ m.error = none

/-- The server refused a login that was asked for. -/
def LoginRefused (m : Made Line) : Prop :=
  (∃ login, m.call = .login login) ∧ ∃ x ∈ m.sent, x.Refused

/-- The server refused a login that nobody asked for. -/
def ReloginRefused (m : Made Line) : Prop :=
  ∃ c, m.call.command? = some c ∧ c.kind.isLogin = false ∧
    ∃ x ∈ m.sent, x.command.kind.isLogin = true ∧ x.Refused

/-- Whether a call parts the two sides. -/
def Parts (m : Made Line) : Prop := m.call = .close ∨ m.LoginRefused ∨ m.ReloginRefused

end Made

/-- Whether some login is the latest that was accepted, and still good. -/
def LoggedInSince (history : List (Made Line)) (login : Login) : Prop :=
  ∃ before m after, history = before ++ m :: after ∧ m.LogsIn login ∧
    ∀ x ∈ after, ¬ x.Parts ∧ ∀ other, ¬ x.LogsIn other

theorem loggedInSince_concat {history : List (Made Line)} {m : Made Line} {login : Login} :
    LoggedInSince (history ++ [m]) login ↔
      m.LogsIn login ∨
        LoggedInSince history login ∧ ¬ m.Parts ∧ ∀ other, ¬ m.LogsIn other := by
  constructor
  · rintro ⟨before, x, after, hsplit, hlogs, hafter⟩
    rcases List.eq_nil_or_concat' after with rfl | ⟨after, last, rfl⟩
    · obtain ⟨-, hm⟩ := List.append_inj' hsplit rfl
      cases hm
      exact .inl hlogs
    · rw [← List.cons_append, ← List.append_assoc] at hsplit
      obtain ⟨rfl, hm⟩ := List.append_inj' hsplit rfl
      cases hm
      refine .inr ⟨⟨before, x, after, rfl, hlogs, fun y hy => ?_⟩, hafter m (by simp)⟩
      exact hafter y (List.mem_append_left _ hy)
  · rintro (hlogs | ⟨⟨before, x, after, rfl, hlogs, hafter⟩, hm⟩)
    · exact ⟨history, m, [], rfl, hlogs, fun _ hy => absurd hy List.not_mem_nil⟩
    · refine ⟨before, x, after ++ [m], by simp, hlogs, fun y hy => ?_⟩
      rcases List.mem_append.1 hy with hy | hy
      · exact hafter y hy
      · rw [List.mem_singleton.1 hy]
        exact hm

/-! ## What a call does -/

/-- Whether one line is what sending has made of another. -/
def Carrier.Carries (carrier : Carrier World Line) : Line → Line → Prop :=
  Relation.ReflTransGen fun line line' => ∃ c timeout w, (carrier.send line c timeout w).2.1 = line'

namespace Conversation

/-- The login that a conversation would log in with again. -/
def remembered? (t : Conversation Line) : Option Login :=
  match t.standing with
  | .joined _ login => some login
  | .apart _ => none

theorem remembered?_eq_some {t : Conversation Line} {login : Login} :
    t.remembered? = some login ↔ ∃ line, t.standing = .joined line login := by
  unfold remembered?
  cases t.standing <;> simp

theorem isJoined_eq (t : Conversation Line) : t.isJoined = t.remembered?.isSome := by
  unfold isJoined remembered?
  cases t.standing <;> rfl

/-- What a call makes of where a conversation stands. -/
structure Takes (carrier : Carrier World Line) (t : Conversation Line) (m : Made Line)
    (after : Conversation Line) : Prop where
  joined : ∀ login, m.LogsIn login → after.remembered? = some login
  apart : m.Parts → after.remembered? = none
  same : (∀ login, ¬ m.LogsIn login) → ¬ m.Parts → after.remembered? = t.remembered?
  line : m.call ≠ .close → ∀ line, t.line? = some line →
    ∃ line', after.line? = some line' ∧ carrier.Carries line line'

/-- A call makes known a login, forgets the one that is known, or does neither. -/
theorem Takes.remembered {carrier : Carrier World Line} {t after : Conversation Line}
    {m : Made Line} (h : Takes carrier t m after) {login : Login} :
    after.remembered? = some login ↔
      m.LogsIn login ∨ t.remembered? = some login ∧ ¬ m.Parts ∧ ∀ other, ¬ m.LogsIn other := by
  by_cases hlogs : ∃ other, m.LogsIn other
  · obtain ⟨other, hother⟩ := hlogs
    rw [h.joined other hother]
    constructor
    · intro hsame
      exact .inl (Option.some.inj hsame ▸ hother)
    · rintro (hlogs | ⟨-, -, hnot⟩)
      · exact (h.joined other hother).symm.trans (h.joined login hlogs)
      · exact absurd hother (hnot other)
  · have hnot : ∀ other, ¬ m.LogsIn other := fun other hother => hlogs ⟨other, hother⟩
    by_cases hparts : m.Parts
    · simp [h.apart hparts, hnot, hparts]
    · simp [h.same hnot hparts, hnot, hparts]

section Calls

variable {carrier : Carrier World Line} {t : Conversation Line} {line line' : Line}
  {login : Login} {timeout : Duration} {c : Command} {w w' : World}
  {result : Except Error Response}

theorem carries_send (hsend : carrier.send line c timeout w = (result, line', w')) :
    carrier.Carries line line' := .single ⟨c, timeout, w, by rw [hsend]⟩

/-! ### Logging in -/

theorem takes_loginOver {before : Line → Standing Line} (line : Line) (login : Login) (w : World)
    (hbefore : ∀ line',
      (⟨before line', t.timeout⟩ : Conversation Line).remembered? = t.remembered? ∧
      (⟨before line', t.timeout⟩ : Conversation Line).line? = some line')
    (hline : ∀ bound, t.line? = some bound → bound = line) :
    ∃ result after w' sent,
      loginOver carrier t.timeout line login before w = (result, after, w') ∧
      loginOver carrier.recorded t.timeout line login before (w, []) = (result, after, w', sent) ∧
      Takes carrier t ⟨.login login, errorOf result, sent⟩ after := by
  rcases hsend : carrier.send line (.login login) t.timeout w with ⟨result, line', w'⟩
  have hrefused : (∃ x ∈ [(⟨.login login, t.timeout, result, line'⟩ : Sending Line)], x.Refused) ↔
      ∃ r, result = .ok (.refused r) := by
    simp [Sending.Refused]
  refine ⟨_, _, _, _, loginOver_of_send before hsend,
    loginOver_of_send before (recorded_send [] hsend), ?_⟩
  -- a login that is asked for is accepted, refused or lost on the way
  have hkept : ∀ standing : Standing Line, (⟨standing, t.timeout⟩ : Conversation Line).line? =
      some line' → ∀ bound, t.line? = some bound →
      ∃ line', (⟨standing, t.timeout⟩ : Conversation Line).line? = some line' ∧
        carrier.Carries bound line' := by
    intro standing hstanding bound hbound
    rw [hline bound hbound]
    exact ⟨line', hstanding, carries_send hsend⟩
  cases hanswer : answerTo (.login login) result with
  | ok user =>
    rw [afterLogin_of_accepted hanswer]
    refine ⟨?_, ?_, ?_, fun _ => hkept _ rfl⟩
    · rintro other ⟨hcall, -⟩
      cases hcall
      rfl
    · rintro (hclose | ⟨-, hr⟩ | ⟨c, hc, -⟩)
      · cases hclose
      · obtain ⟨r, rfl⟩ := hrefused.1 hr
        cases hanswer
      · cases hc
    · intro hnot
      exact absurd ⟨rfl, rfl⟩ (hnot login)
  | error e =>
    by_cases hr : ∃ r, result = .ok (.refused r)
    · rw [afterLogin_of_refused hr]
      refine ⟨?_, fun _ => rfl, ?_, fun _ => hkept _ rfl⟩
      · rintro other ⟨-, herror⟩
        cases herror
      · intro _ hnot
        exact absurd (.inr (.inl ⟨⟨login, rfl⟩, hrefused.2 hr⟩)) hnot
    · rw [afterLogin_of_lost hr hanswer]
      obtain ⟨hremembered, hbound⟩ := hbefore line'
      refine ⟨?_, ?_, fun _ _ => hremembered, fun _ => hkept _ hbound⟩
      · rintro other ⟨-, herror⟩
        cases herror
      · rintro (hclose | ⟨-, hx⟩ | ⟨c, hc, -⟩)
        · cases hclose
        · exact absurd (hrefused.1 hx) hr
        · cases hc

theorem takes_login (carrier : Carrier World Line) (t : Conversation Line) (login : Login)
    (w : World) :
    ∃ result after w' sent, t.login carrier login w = (result, after, w') ∧
      t.login carrier.recorded login (w, []) = (result, after, w', sent) ∧
      Takes carrier t ⟨.login login, errorOf result, sent⟩ after := by
  rcases t with ⟨standing, timeout⟩
  cases standing with
  | joined line last =>
    exact takes_loginOver line login w (fun _ => ⟨rfl, rfl⟩) fun _ h => (Option.some.inj h).symm
  | apart bound =>
    cases bound with
    | some line =>
      exact takes_loginOver line login w (fun _ => ⟨rfl, rfl⟩) fun _ h => (Option.some.inj h).symm
    | none =>
      rcases hconnect : carrier.connect timeout w with ⟨opened, w'⟩
      have hrecorded : carrier.recorded.connect timeout (w, []) = (opened, w', []) := by
        simp only [Carrier.recorded, hconnect]
      simp only [Conversation.login, hconnect, hrecorded]
      cases opened with
      | ok line =>
        have hunbound : ∀ bound, (⟨.apart none, timeout⟩ : Conversation Line).line? = some bound →
            bound = line := fun _ h => by cases h
        refine takes_loginOver line login w' ?_ hunbound
        exact fun _ => ⟨rfl, rfl⟩
      | error e =>
        -- there is no line, and nothing is sent
        refine ⟨_, _, _, _, rfl, rfl, ?_, fun _ => rfl, fun _ _ => rfl, ?_⟩
        · rintro other ⟨-, herror⟩
          cases herror
        · intro _ line hline
          cases hline

/-! ### Commands -/

theorem mem_turns {left : Nat} {other : Command} (h : other ∈ turns c login left) :
    other = c ∨ other = .login login := by
  induction left with
  | zero => exact .inl (List.mem_singleton.1 h)
  | succ left ih =>
    rcases List.mem_cons.1 h with rfl | h
    · exact .inl rfl
    · rcases List.mem_cons.1 h with rfl | h
      · exact .inr rfl
      · exact ih h

/-- A login that is refused is the last thing that is sent. -/
theorem Dialogue.refused_last {left : Nat} {sent : List (Sending Line)}
    {result : Except Error (Answer c)} {standing : Standing Line} {x : Sending Line}
    (h : Dialogue c login timeout left sent result standing) (hc : c.kind.isLogin = false)
    (hx : x ∈ sent) (hlogin : x.command.kind.isLogin = true) (hrefused : x.Refused) :
    sent.getLast? = some x ∧ x.command = .login login := by
  have hcommand : x.command = .login login := by
    rcases mem_turns (h.order.mem (List.mem_map.2 ⟨x, hx, rfl⟩)) with hsame | hsame
    · rw [hsame, hc] at hlogin
      cases hlogin
    · exact hsame
  refine ⟨?_, hcommand⟩
  obtain ⟨before, after, rfl⟩ := List.append_of_mem hx
  cases after with
  | nil => simp
  | cons y rest =>
    have hprompts : Prompts c login x y := by
      have hchain := (List.isChain_append.1 h.prompts).2.1
      exact (List.isChain_cons_cons.1 hchain).1
    cases hprompts with
    | relogin hsame =>
      rw [hsame, hc] at hlogin
      cases hlogin
    | repeated _ haccepted =>
      obtain ⟨r, hr⟩ := hrefused
      obtain ⟨user, huser⟩ := haccepted
      rw [hr] at huser
      cases huser

/-- Commands and the logins between them go over one line. -/
theorem attempt_carries (carrier : Carrier World Line) (c : Command) (login : Login)
    (timeout : Duration) (left : Nat) (line : Line) (w : World) :
    ∃ line', (attempt carrier c left ⟨.joined line login, timeout⟩ w).2.1.line? = some line' ∧
      carrier.Carries line line' := by
  induction left, line, w using attempt_induction carrier c login timeout with
  | settled left line w result line' w' hsend hfinal =>
    rw [attempt_settled hsend hfinal]
    exact ⟨line', rfl, carries_send hsend⟩
  | lost left line w result line' w' answer line'' w'' e hsend hmend hlogin he =>
    rw [attempt_lost left hsend hmend hlogin he]
    refine ⟨line'', ?_, (carries_send hsend).trans (carries_send hlogin)⟩
    by_cases hr : ∃ r, answer = .ok (.refused r)
    · rw [afterLogin_of_refused hr]
      rfl
    · rw [afterLogin_of_lost hr he]
      rfl
  | again left line w result line' w' answer line'' w'' user hsend hmend hlogin haccepted ih =>
    obtain ⟨last, hlast, hcarries⟩ := ih
    rw [attempt_again left hsend hmend hlogin haccepted]
    exact ⟨last, hlast, ((carries_send hsend).trans (carries_send hlogin)).trans hcarries⟩

theorem takes_execute (carrier : Carrier World Line) (t : Conversation Line) (c : Command)
    (w : World) :
    ∃ result after w' sent, t.execute carrier c w = (result, after, w') ∧
      t.execute carrier.recorded c (w, []) = (result, after, w', sent) ∧
      ∀ call error, call.command? = some c → Takes carrier t ⟨call, error, sent⟩ after := by
  -- a command is neither a login nor the end
  have hcall : ∀ {call : Call}, call.command? = some c →
      (∀ login, call ≠ .login login) ∧ call ≠ .close := by
    intro call h
    constructor
    · rintro login rfl
      cases h
    · rintro rfl
      cases h
  have hno : ∀ {call : Call} {error : Option Error} {sent : List (Sending Line)} {login : Login},
      call.command? = some c → ¬ (⟨call, error, sent⟩ : Made Line).LogsIn login :=
    fun h hlogs => (hcall h).1 _ hlogs.1
  rcases t with ⟨standing, timeout⟩
  cases standing with
  | apart bound =>
    refine ⟨_, _, _, _, rfl, rfl, fun call error h => ⟨?_, fun _ => rfl, fun _ _ => rfl, ?_⟩⟩
    · exact fun _ hlogs => absurd hlogs (hno h)
    · exact fun _ line hline => ⟨line, hline, .refl⟩
  | joined line login =>
    have hlost : ∀ {call : Call} {error : Option Error} {sent : List (Sending Line)},
        call.command? = some c → (⟨call, error, sent⟩ : Made Line).Parts →
        c.kind.isLogin = false ∧ ∃ x ∈ sent, x.command.kind.isLogin = true ∧ x.Refused := by
      rintro call error sent h (hclose | ⟨⟨other, hother⟩, -⟩ | ⟨c', hc', hkind, hx⟩)
      · exact absurd hclose (hcall h).2
      · exact absurd hother ((hcall h).1 other)
      · obtain rfl := Option.some.inj (h.symm.trans hc')
        exact ⟨hkind, hx⟩
    cases hc : c.kind.isLogin with
    | true =>
      rcases hsend : carrier.send line c timeout w with ⟨back, line', w'⟩
      -- a login that is sent like any other command is none that was asked for
      have hfinal : Mendable c back → maxRelogins = 0 := by
        rintro ⟨r, -, hr⟩
        simp [isMendable, hc] at hr
      refine ⟨_, _, _, _, attempt_settled hsend hfinal,
        attempt_settled (recorded_send [] hsend) hfinal,
        fun call error h => ⟨fun _ hlogs => absurd hlogs (hno h), fun hparts => ?_,
          fun _ _ => rfl, fun _ bound hbound => ?_⟩⟩
      · exact absurd (hc.symm.trans (hlost h hparts).1) (by decide)
      · cases hbound
        exact ⟨line', rfl, carries_send hsend⟩
    | false =>
      obtain ⟨sent, result, standing, w', hplain, hwatched, hdialogue⟩ :=
        attempt_dialogue carrier login timeout hc maxRelogins line w []
      obtain ⟨line', hline, hcarries⟩ := attempt_carries carrier c login timeout maxRelogins line w
      rw [hplain] at hline
      obtain ⟨x, hlast, hconcludes, -⟩ := hdialogue.last
      refine ⟨_, _, _, _, hplain, hwatched, fun call error h =>
        ⟨fun _ hlogs => absurd hlogs (hno h), fun hparts => ?_, fun _ hnot => ?_,
          fun _ bound hbound => ?_⟩⟩
      · obtain ⟨-, y, hy, hkind, hrefused⟩ := hlost h hparts
        obtain ⟨hsame, hcommand⟩ := hdialogue.refused_last hc hy hkind hrefused
        obtain rfl := Option.some.inj (hlast.symm.trans hsame)
        rw [hconcludes.apart hcommand hrefused]
        rfl
      · have hgood : ¬ (x.command = .login login ∧ x.Refused) := by
          rintro ⟨hcommand, hrefused⟩
          have hkind : x.command.kind.isLogin = true := by
            rw [hcommand]
            rfl
          exact hnot (.inr (.inr ⟨c, h, hc, x, List.mem_of_getLast? hlast, hkind, hrefused⟩))
        rw [hconcludes.joined hgood]
        rfl
      · cases hbound
        exact ⟨line', hline, hcarries⟩

/-! ### Any call -/

/-- **What one call comes to**, over a carrier and over the same one watched. -/
theorem takes_perform (carrier : Carrier World Line) (t : Conversation Line) (call : Call)
    (w : World) :
    ∃ error after w' sent, call.perform carrier t w = (error, after, w') ∧
      call.perform carrier.recorded t (w, []) = (error, after, w', sent) ∧
      Takes carrier t ⟨call, error, sent⟩ after := by
  cases call with
  | login login =>
    obtain ⟨result, after, w', sent, hplain, hwatched, htakes⟩ := takes_login carrier t login w
    simp only [Call.perform, hplain, hwatched]
    exact ⟨_, _, _, _, rfl, rfl, htakes⟩
  | execute c =>
    obtain ⟨result, after, w', sent, hplain, hwatched, htakes⟩ := takes_execute carrier t c w
    simp only [Call.perform, hplain, hwatched]
    exact ⟨_, _, _, _, rfl, rfl, htakes _ _ rfl⟩
  | executeOptional c =>
    obtain ⟨result, after, w', sent, hplain, hwatched, htakes⟩ := takes_execute carrier t c w
    simp only [Call.perform, executeOptional, hplain, hwatched]
    cases result with
    | ok payload => exact ⟨_, _, _, _, rfl, rfl, htakes _ _ rfl⟩
    | error e => exact ⟨_, _, _, _, rfl, rfl, htakes _ _ rfl⟩
  | close =>
    have htakes : Takes carrier t ⟨.close, none, []⟩ (⟨.apart none, t.timeout⟩) := by
      refine ⟨?_, fun _ => rfl, fun _ hnot => absurd (.inl rfl) hnot, fun h => absurd rfl h⟩
      rintro login ⟨hcall, -⟩
      cases hcall
    simp only [Call.perform, close]
    cases t.line? with
    | none => exact ⟨_, _, _, _, rfl, rfl, htakes⟩
    | some line => exact ⟨_, _, _, _, rfl, rfl, htakes⟩

end Calls

/-! ## Series of calls -/

/-- Does everything that is asked for, one after the other. -/
def performAll (carrier : Carrier World Line) (calls : List Call) (t : Conversation Line)
    (w : World) : List (Option Error) × Conversation Line × World :=
  calls.foldl (fun (errors, t, w) call =>
    let (error, t, w) := call.perform carrier t w
    (errors ++ [error], t, w)) ([], t, w)

/-- The same, with everything written down. -/
def conduct (carrier : Carrier World Line) (calls : List Call) (t : Conversation Line)
    (w : World) : List (Made Line) × Conversation Line × World :=
  calls.foldl (fun (made, t, w) call =>
    let (error, t, w, sent) := call.perform carrier.recorded t (w, [])
    (made ++ [⟨call, error, sent⟩], t, w)) ([], t, w)

theorem history_of_conduct (carrier : Carrier World Line) (timeout : Duration) (calls : List Call)
    (w : World) :
    ∃ made t w', conduct carrier calls (.start timeout) w = (made, t, w') ∧
      performAll carrier calls (.start timeout) w = (made.map (·.error), t, w') ∧
      made.map (·.call) = calls ∧
      ∀ login, t.remembered? = some login ↔ LoggedInSince made login := by
  induction calls using List.reverseRecOn with
  | nil =>
    refine ⟨[], _, _, rfl, rfl, rfl, fun login => iff_of_false nofun ?_⟩
    rintro ⟨before, m, after, h, -⟩
    simp at h
  | append_singleton calls call ih =>
    obtain ⟨made, t, w', hconduct, hplain, hcalls, hremembered⟩ := ih
    obtain ⟨error, after, w'', sent, hperform, hwatched, htakes⟩ := takes_perform carrier t call w'
    refine ⟨made ++ [⟨call, error, sent⟩], after, w'', ?_, ?_, by simp [hcalls], fun login => ?_⟩
    · unfold conduct at hconduct ⊢
      rw [List.foldl_append, hconduct]
      simp only [List.foldl_cons, List.foldl_nil, hwatched]
    · unfold performAll at hplain ⊢
      rw [List.foldl_append, hplain]
      simp only [List.foldl_cons, List.foldl_nil, hperform, List.map_append, List.map_cons,
        List.map_nil]
    · rw [loggedInSince_concat, ← hremembered]
      exact htakes.remembered

/-- **A conversation is logged in by the latest login that was accepted**, as long as it has not
been closed since and no login was refused, neither one that was asked for nor one of its own. A
call that is no such login and parts nobody leaves it as it is, whatever goes wrong, and the line
that it has is given up by closing only. -/
theorem logged_in_by_latest_login {carrier : Carrier World Line} {timeout : Duration}
    {calls : List Call} {made : List (Made Line)} {t : Conversation Line} {w w' : World}
    (h : conduct carrier calls (.start timeout) w = (made, t, w')) :
    performAll carrier calls (.start timeout) w = (made.map (·.error), t, w') ∧
    made.map (·.call) = calls ∧
    (t.isJoined = true ↔ ∃ login, LoggedInSince made login) ∧
    (∀ login, LoggedInSince made login → ∃ line, t.standing = .joined line login) ∧
    ∀ call error after w'' sent,
      call.perform carrier.recorded t (w', []) = (error, after, w'', sent) →
      let m : Made Line := ⟨call, error, sent⟩
      ((∀ login, ¬ m.LogsIn login) → ¬ m.Parts →
        after.isJoined = t.isJoined ∧ after.remembered? = t.remembered?) ∧
      (call ≠ .close → ∀ line, t.line? = some line →
        ∃ line', after.line? = some line' ∧ carrier.Carries line line') := by
  obtain ⟨_, _, _, hconduct, hplain, hcalls, hremembered⟩ :=
    history_of_conduct carrier timeout calls w
  cases h.symm.trans hconduct
  refine ⟨hplain, hcalls, ?_, fun login hlogged => ?_, ?_⟩
  · rw [isJoined_eq, Option.isSome_iff_exists]
    exact exists_congr hremembered
  · exact remembered?_eq_some.1 ((hremembered login).2 hlogged)
  · intro call error after w'' sent hperform
    obtain ⟨_, _, _, _, -, hwatched, htakes⟩ := takes_perform carrier t call w'
    cases hperform.symm.trans hwatched
    refine ⟨fun hlogs hparts => ?_, htakes.line⟩
    have hsame := htakes.same hlogs hparts
    exact ⟨by rw [isJoined_eq, isJoined_eq, hsame], hsame⟩

/-- A command that is lost on the way does not log anybody out. -/
theorem lost_command_parts_nobody :
    ∃ made t w', conduct scripted [.login default, .execute .logout] (.start standardTimeout)
        [loggedIn, .error (.io "connection reset")] = (made, t, w') ∧
      made.map (·.error) = [none, some (.io "connection reset")] ∧
      ∃ login, LoggedInSince made login := by
  have hconduct : conduct scripted [.login default, .execute .logout] (.start standardTimeout)
      [loggedIn, .error (.io "connection reset")] = (_, _, _) := rfl
  obtain ⟨-, -, hjoined, -⟩ := logged_in_by_latest_login hconduct
  exact ⟨_, _, _, hconduct, rfl, hjoined.1 rfl⟩

end Conversation

end AcctAdmin.Client
