import AcctAdmin.Proofs.Console.Searching
import AcctAdmin.Proofs.Conversation.Custody
import AcctAdmin.Proofs.Front.Custody
import AcctAdmin.Server.Hosted

/-!
# Leaving

How a run ends. Whatever it was told to do and whatever became of that, it logs out if it is logged
in, and no session that it was given is there afterwards (`no_run_leaves_a_session`). What it prints
was settled before: nothing of it depends on what is answered to the logout.
-/

set_option autoImplicit false

namespace AcctAdmin.Console

open AcctAdmin.Protocol AcctAdmin.Client AcctAdmin.Server

variable {World Line : Type}

/-! ## What a run does to sessions -/

section Custody

variable {carrier : Carrier World Line} {Held : Line → World → Prop} {Clear : World → Prop}
  {t t' : Conversation Line} {w w' : World} {printed : Printed}

theorem keeps_showPages (h : carrier.Custody Held Clear) (s : SearchKind) (more : Nat)
    (page : (pageKind s).Payload) (hshow : showPages carrier s more page t w = (printed, t', w'))
    (hkept : t.Keeps Held Clear w) : t'.Keeps Held Clear w' := by
  induction more generalizing page t w printed with
  | zero =>
    cases hshow
    exact hkept
  | succ more ih =>
    rw [showPages] at hshow
    split at hshow
    · cases hshow
      exact hkept
    · rcases hturn : t.execute carrier (.searchTurn s .next) w with ⟨result, t₁, w₁⟩
      have hkept₁ := Conversation.keeps_execute h hturn hkept
      rw [hturn] at hshow
      cases result with
      | error e =>
        cases hshow
        exact hkept₁
      | ok next =>
        rcases hrest : showPages carrier s more next t₁ w₁ with ⟨rest, t₂, w₂⟩
        simp only [hrest] at hshow
        cases hshow
        exact ih next hrest hkept₁

theorem keeps_send (h : carrier.Custody Held Clear) {c : Command} {lines : Answer c → List String}
    (hsend : send carrier c lines t w = (printed, t', w')) (hkept : t.Keeps Held Clear w) :
    t'.Keeps Held Clear w' := by
  rcases hexecute : t.execute carrier c w with ⟨result, t₁, w₁⟩
  simp only [send, hexecute] at hsend
  cases hsend
  exact Conversation.keeps_execute h hexecute hkept

/-- **No order leaves a session behind that its conversation does not know of.** -/
theorem keeps_carryOut (h : carrier.Custody Held Clear) (order : Order)
    (hcarry : order.carryOut carrier t w = (printed, t', w')) (hkept : t.Keeps Held Clear w) :
    t'.Keeps Held Clear w' := by
  cases order with
  | protocols =>
    cases hcarry
    exact hkept
  | search query pages =>
    rcases hbegin : t.execute carrier (.searchBegin query) w with ⟨result, t₁, w₁⟩
    have hkept₁ := Conversation.keeps_execute h hbegin hkept
    rw [Order.carryOut, hbegin] at hcarry
    cases result with
    | error e =>
      cases hcarry
      exact hkept₁
    | ok page => exact keeps_showPages h query.kind (pages - 1) page hcarry hkept₁
  | view user =>
    rcases hget : t.executeOptional carrier (.userGet user) w with ⟨result, t₁, w₁⟩
    simp only [Order.carryOut, hget] at hcarry
    cases hcarry
    exact Conversation.keeps_executeOptional h hget hkept
  | create account => exact keeps_send h hcarry hkept
  | delete user => exact keeps_send h hcarry hkept
  | ban user reason expires => exact keeps_send h hcarry hkept
  | unban user => exact keeps_send h hcarry hkept

variable {i : Invocation} {spoken : List Generation}

theorem clear_runLoggedIn (h : carrier.Custody Held Clear) (login : Login) (hclear : Clear w) :
    Clear (runLoggedIn carrier i login w).2 := by
  rcases hlogin : (Conversation.start i.timeout).login carrier login w with ⟨result, t₁, w₁⟩
  obtain ⟨hkept, hfailed⟩ := Conversation.keeps_login h hlogin hclear
  simp only [runLoggedIn, hlogin]
  cases result with
  | error e => exact Conversation.clear_close h (hfailed e rfl)
  | ok user =>
    rcases hcarry : i.order.carryOut carrier t₁ w₁ with ⟨printed, t₂, w₂⟩
    simp only [hcarry]
    exact Conversation.clear_logout h (keeps_carryOut h i.order hcarry hkept)

theorem clear_showProtocols (h : carrier.Custody Held Clear) (timeout : Duration)
    (hclear : Clear w) : Clear (showProtocols carrier spoken timeout w).2 := by
  rcases hconnect : carrier.connect timeout w with ⟨opened, w₁⟩
  simp only [showProtocols, hconnect]
  cases opened with
  | error e => exact h.unopened hconnect hclear
  | ok line => exact h.closed (h.opened hconnect hclear).2

/-- **A run that begins without a session ends without one.** -/
theorem clear_runOver (h : carrier.Custody Held Clear) (hclear : Clear w) :
    Clear (i.runOver carrier spoken w).2 := by
  unfold Invocation.runOver
  split
  · exact clear_showProtocols h i.timeout hclear
  · exact clear_runLoggedIn h _ hclear
  · exact hclear

end Custody

/-! ## What a run prints -/

/-- What is printed of an order that needs a login. -/
def printedLoggedIn (carrier : Carrier World Line) (i : Invocation) (login : Login) (w : World) :
    Printed :=
  match (Conversation.start i.timeout).login carrier login w with
  | (.error e, _, _) => .failed e
  | (.ok _, t, w) => (i.order.carryOut carrier t w).1

/-- What a run prints up to where it would log out. -/
def Invocation.printed (i : Invocation) (carrier : Carrier World Line) (spoken : List Generation)
    (w : World) : Printed :=
  match i.order, i.user, i.password with
  | .protocols, _, _ => (showProtocols carrier spoken i.timeout w).1
  | _, some user, some password => printedLoggedIn carrier i ⟨user, password⟩ w
  | _, _, _ => .failed .notLoggedIn

section Printed

variable {carrier : Carrier World Line} {c : Command} {login : Login} {i : Invocation}
  {answer : Line → Duration → World → Except Error Response × Line × World}

theorem fst_runLoggedIn (carrier : Carrier World Line) (i : Invocation) (login : Login)
    (w : World) : (runLoggedIn carrier i login w).1 = printedLoggedIn carrier i login w := by
  rcases hlogin : (Conversation.start i.timeout).login carrier login w with ⟨result, t, w₁⟩
  simp only [runLoggedIn, printedLoggedIn, hlogin]
  cases result <;> rfl

/-- Nothing more is printed. -/
theorem fst_runOver (i : Invocation) (carrier : Carrier World Line) (spoken : List Generation)
    (w : World) : (i.runOver carrier spoken w).1 = i.printed carrier spoken w := by
  obtain ⟨server, user, password, timeout, order⟩ := i
  cases order with
  | protocols => rfl
  | _ =>
    cases user with
    | none => rfl
    | some user =>
      cases password with
      | none => rfl
      | some password => exact fst_runLoggedIn ..

end Printed

/-! ## Whatever is answered to a logout -/

/-- The same carrier, with logouts answered in some other way. -/
def answeringLogouts (carrier : Carrier World Line)
    (answer : Line → Duration → World → Except Error Response × Line × World) :
    Carrier World Line :=
  { carrier with
    send := fun line c timeout w =>
      if c = .logout then answer line timeout w else carrier.send line c timeout w }

section Answering

variable (carrier : Carrier World Line)
  (answer : Line → Duration → World → Except Error Response × Line × World) {c : Command}

theorem exchange_answering (hc : c ≠ .logout) (line : Line) (timeout : Duration) (w : World) :
    (answeringLogouts carrier answer).exchange line c timeout w =
      carrier.exchange line c timeout w := by
  simp only [Carrier.exchange, answeringLogouts, if_neg hc]

theorem loginOver_answering (timeout : Duration) (line : Line) (login : Login)
    (before : Line → Standing Line) (w : World) :
    Conversation.loginOver (answeringLogouts carrier answer) timeout line login before w =
      Conversation.loginOver carrier timeout line login before w := by
  have hlogin : Command.login login ≠ .logout := nofun
  unfold Conversation.loginOver
  rw [exchange_answering carrier answer hlogin]

theorem attempt_answering (hc : c ≠ .logout) (left : Nat) (t : Conversation Line) (w : World) :
    Conversation.attempt (answeringLogouts carrier answer) c left t w =
      Conversation.attempt carrier c left t w := by
  induction left generalizing t w with
  | zero =>
    rw [Conversation.attempt.eq_def, Conversation.attempt.eq_def]
    simp only [exchange_answering carrier answer hc]
  | succ left ih =>
    rw [Conversation.attempt.eq_def, Conversation.attempt.eq_def]
    simp only [exchange_answering carrier answer hc, loginOver_answering, ih]

theorem execute_answering (hc : c ≠ .logout) (t : Conversation Line) (w : World) :
    t.execute (answeringLogouts carrier answer) c w = t.execute carrier c w :=
  attempt_answering carrier answer hc maxRelogins t w

theorem showPages_answering (s : SearchKind) (more : Nat) (page : (pageKind s).Payload)
    (t : Conversation Line) (w : World) :
    showPages (answeringLogouts carrier answer) s more page t w =
      showPages carrier s more page t w := by
  have hturn : Command.searchTurn s .next ≠ .logout := nofun
  induction more generalizing page t w with
  | zero => rfl
  | succ more ih =>
    rw [showPages, showPages, execute_answering carrier answer hturn]
    rcases t.execute carrier (.searchTurn s .next) w with ⟨result, t', w'⟩
    cases result with
    | error e => rfl
    | ok next => simp only [ih next t' w']

theorem send_answering (hc : c ≠ .logout) (lines : Answer c → List String)
    (t : Conversation Line) (w : World) :
    send (answeringLogouts carrier answer) c lines t w = send carrier c lines t w := by
  rw [send, send, execute_answering carrier answer hc]

/-- No order logs out. -/
theorem carryOut_answering (order : Order) (t : Conversation Line) (w : World) :
    order.carryOut (answeringLogouts carrier answer) t w = order.carryOut carrier t w := by
  cases order with
  | protocols => rfl
  | search query pages =>
    have hbegin : Command.searchBegin query ≠ .logout := by simp
    rw [Order.carryOut, Order.carryOut, execute_answering carrier answer hbegin]
    rcases t.execute carrier (.searchBegin query) w with ⟨result, t', w'⟩
    cases result with
    | error e => rfl
    | ok page => exact showPages_answering ..
  | view user =>
    have hget : Command.userGet user ≠ .logout := by simp
    simp only [Order.carryOut, Conversation.executeOptional, execute_answering carrier answer hget]
  | create account => exact send_answering carrier answer (c := .userCreate account) (by simp) ..
  | delete user => exact send_answering carrier answer (c := .userDelete user) (by simp) ..
  | ban user reason expires =>
    exact send_answering carrier answer (c := .userBan user reason expires) (by simp) ..
  | unban user => exact send_answering carrier answer (c := .userUnban user) (by simp) ..

theorem login_answering (t : Conversation Line) (login : Login) (w : World) :
    t.login (answeringLogouts carrier answer) login w = t.login carrier login w := by
  unfold Conversation.login
  simp only [loginOver_answering]
  rfl

/-- **What a run prints does not depend on what is answered to its logout.** -/
theorem printed_answering (i : Invocation) (spoken : List Generation) (w : World) :
    i.printed (answeringLogouts carrier answer) spoken w = i.printed carrier spoken w := by
  have hlogged (login : Login) : printedLoggedIn (answeringLogouts carrier answer) i login w =
      printedLoggedIn carrier i login w := by
    simp only [printedLoggedIn, login_answering, carryOut_answering]
  unfold Invocation.printed
  simp only [hlogged]
  rfl

end Answering

/-! ## A run that is let in -/

section Accepted

variable {carrier : Carrier World Line} {i : Invocation} {login : Login} {w w₁ w₂ w₃ : World}

theorem login_of_connect {timeout : Duration} {line : Line}
    {done : Except Error AccountSummary × Conversation Line × World}
    (hconnect : carrier.connect timeout w = (.ok line, w₁))
    (hover : Conversation.loginOver carrier timeout line login (fun l => .apart (some l)) w₁ =
      done) : (Conversation.start timeout).login carrier login w = done := by
  simp only [Conversation.start, Conversation.login, hconnect]
  exact hover

theorem carryOut_view {t t' : Conversation Line} {user : AccountId} {found : AccountView}
    (hexecute : t.execute carrier (.userGet user) w = (.ok found, t', w₁)) :
    (Order.view user).carryOut carrier t w = (⟨viewLines found, none⟩, t', w₁) := by
  simp only [Order.carryOut, Conversation.executeOptional, hexecute]
  rfl

theorem runLoggedIn_of_accepted {user : AccountSummary} {t₁ t₂ t₃ : Conversation Line}
    {printed : Printed} {answer : Except Error Unit}
    (hlogin : (Conversation.start i.timeout).login carrier login w = (.ok user, t₁, w₁))
    (hcarry : i.order.carryOut carrier t₁ w₁ = (printed, t₂, w₂))
    (hlogout : t₂.logout carrier w₂ = (answer, t₃, w₃)) :
    runLoggedIn carrier i login w = (printed, w₃) := by
  simp only [runLoggedIn, hlogin, hcarry, hlogout]

end Accepted

/-! ## A session that expires -/

namespace LateRun

/-- An hour passes between the second request and the third. -/
def world : Premises :=
  ⟨⟨OpenService.sample.server, generations, 5000, 0⟩,
    fun n => ⟨[], if n < 2 then 5000 else 3605000, Hosted.perRequest * (n + 1)⟩⟩

def login : Login := ⟨"root", "correct horse"⟩

def view : Command := .userGet OpenService.sampleAdmin

def timeout : Duration := .ofSeconds 30

/-- The first administrator asks for their own account. -/
def invocation : Invocation :=
  ⟨standardServer, some login.userName, some login.password, timeout,
    .view OpenService.sampleAdmin⟩

/-- The session that a login begins. -/
def keyFrom (w : Premises) : SessionKey := ⟨OpenService.sampleAdmin, (w.found.draw 0).session⟩

def first : SessionKey := keyFrom world.passed

def loggedIn : Premises := world.passed.after none (.login login)

def expired : Premises := loggedIn.after (some first) view

def second : SessionKey := keyFrom expired

def renewed : Premises := expired.after (some first) (.login login)

def viewed : Premises := renewed.after (some second) view

/-- Everything that is sent and comes back can be read. -/
structure Legible : Prop where
  login : world.passed.Fits generation11 none (.login LateRun.login)
  asked : loggedIn.Fits generation11 (some first) view
  again : expired.Fits generation11 (some first) (.login LateRun.login)
  view : renewed.Fits generation11 (some second) LateRun.view
  logout : viewed.Fits generation11 (some second) .logout

theorem legible : Legible where
  login := SearchRun.fits_of_size (by decide +kernel) rfl (by decide +kernel)
  asked := SearchRun.fits_of_size (by decide +kernel) rfl (by decide +kernel)
  again := SearchRun.fits_of_size (by decide +kernel) rfl (by decide +kernel)
  view := SearchRun.fits_of_size (by decide +kernel) rfl (by decide +kernel)
  logout := SearchRun.fits_of_size (by decide +kernel) rfl (by decide +kernel)

/-- The link that the run is over, with the session that it shows. -/
def link (own : Option SessionKey) : Link Agent :=
  linkTo standardServer.asDirectory generation11 (.ready ⟨cookiesOf own⟩)

def carrier : Carrier (Premises × List Exchange) (Link Agent) :=
  exchangeNetwork.carrier standardServer standardGenerations

/-- Whether all exchanges are complete, and these are the sessions that they gave. -/
structure Tally (given : List SessionKey) (log : List Exchange) : Prop where
  complete : ∀ x ∈ log, x.Complete
  issued : issuedIn log = given

theorem sent {w after : Premises} {own : Option SessionKey} {c : Command} {response : Response}
    {given : List SessionKey} {log : List Exchange} (change : Option SessionChange)
    (hspoken : w.hosted.spoken = generations)
    (hallows : generation11.allowsCommand c.kind = true) (hfits : w.Fits generation11 own c)
    (hresponse : (w.execution own c).response = response)
    (hchange : (w.execution own c).session = change) (hafter : w.after own c = after)
    (h : Tally given log) :
    ∃ log', carrier.send (link own) c timeout (w, log) =
        (.ok response, link (SessionChange.after own change), after, log') ∧
      Tally (given ++ (change.bind (·.begun?)).toList) log' := by
  subst hresponse hchange hafter
  have hamong : w.Among [] := by
    refine ⟨?_, fun n e _ key hkey => absurd hkey List.not_mem_nil⟩
    rw [hspoken]
    exact List.Subset.refl _
  have hg : generation11 ∈ w.hosted.spoken := by
    rw [hspoken]
    decide
  have hsend : ∃ log', (linkTo standardServer.asDirectory generation11
      (.ready ⟨cookiesOf own⟩)).send exchangeNetwork c timeout (w, log) = _ ∧ _ :=
    send_of_legible hamong hg (commandText_of_allows hallows) hfits h.complete
  obtain ⟨log', hsent, hcomplete, hissued⟩ := hsend
  rw [h.issued] at hissued
  refine ⟨log', ?_, hcomplete, hissued⟩
  rw [carrier, link, link]
  exact hsent

theorem opened : ∃ log, carrier.connect timeout (world, []) =
    (.ok (link none), world.passed, log) ∧ Tally [] log := by
  have hspoken : world.hosted.spoken = generations := rfl
  have hsize : (advertisementOf world.hosted.spoken).render.toUTF8.size ≤ Agent.maxReplySize := by
    rw [hspoken]
    exact SearchRun.advertisement_quietly
  have hlatest : latest world.hosted.spoken = generation11 := by decide
  have hopened : ∃ log, (exchangeNetwork.carrier standardServer standardGenerations).connect
      timeout (world, []) = _ ∧ _ :=
    connect_of_legible (List.Subset.refl _) (by decide) (by decide) hsize (List.forall_mem_nil _)
  obtain ⟨log, hconnect, hcomplete, hissued⟩ := hopened
  refine ⟨log, ?_, hcomplete, hissued⟩
  rw [carrier, link, hconnect, hlatest]

/-- The conversation as somebody who has a session. -/
def conversation (own : Option SessionKey) : Conversation (Link Agent) :=
  ⟨.joined (link own) login, timeout⟩

def root : AccountSummary :=
  ⟨OpenService.sampleAdmin, "root", "root@example.org", "Root", true, 0⟩

theorem answerTo_login {id : RequestId} :
    answerTo (.login login) (.ok (.success id (.loginOk root))) = .ok root := rfl

theorem logs_in : ∃ log, (Conversation.start timeout).login carrier login (world, []) =
    (.ok root, conversation (some first), loggedIn, log) ∧ Tally [first] log := by
  obtain ⟨log₀, hopened, htally⟩ := opened
  obtain ⟨log, hlogin, htally⟩ : ∃ log,
      carrier.send (link none) (.login login) timeout (world.passed, log₀) =
        (.ok (.success (world.passed.request none).requestId (.loginOk root)), link (some first),
          loggedIn, log) ∧ Tally [first] log :=
    sent (some (.started first)) rfl rfl legible.login (by decide +kernel) (by decide +kernel) rfl
      htally
  have hover := Conversation.loginOver_of_send (fun line => .apart (some line)) hlogin
  rw [answerTo_login, Conversation.afterLogin_of_accepted answerTo_login] at hover
  exact ⟨log, login_of_connect hopened hover, htally⟩

/-- The server does not know the session any longer, and the client logs in again. -/
theorem views {log : List Exchange} (h : Tally [first] log) :
    ∃ found log', (conversation (some first)).execute carrier view (loggedIn, log) =
      (.ok found, conversation (some second), viewed, log') ∧ Tally [first, second] log' := by
  obtain ⟨log₁, hasked, htally⟩ : ∃ log₁,
      carrier.send (link (some first)) view timeout (loggedIn, log) =
        (.ok (.refused (Failure.ofFault (loggedIn.request (some first)).requestId
          Handling.sessionExpired).refusal), link (some first), expired, log₁) ∧
      Tally [first] log₁ :=
    sent none rfl rfl legible.asked (by decide +kernel) (by decide +kernel) rfl h
  obtain ⟨log₂, hagain, htally⟩ : ∃ log₂,
      carrier.send (link (some first)) (.login login) timeout (expired, log₁) =
        (.ok (.success (expired.request (some first)).requestId (.loginOk root)),
          link (some second), renewed, log₂) ∧ Tally [first, second] log₂ :=
    sent (some (.started second)) rfl rfl legible.again (by decide +kernel) (by decide +kernel)
      rfl htally
  obtain ⟨log₃, hview, htally⟩ : ∃ log₃,
      carrier.send (link (some second)) view timeout (renewed, log₂) =
        (.ok (renewed.execution (some second) view).response, link (some second), viewed, log₃) ∧
      Tally [first, second] log₃ :=
    sent none rfl rfl legible.view rfl (by decide +kernel) rfl htally
  have hok : (answerTo view
      (.ok (renewed.execution (some second) view).response)).isOk = true := by decide +kernel
  cases hfound : answerTo view (.ok (renewed.execution (some second) view).response) with
  | error e =>
    rw [hfound] at hok
    cases hok
  | ok found =>
    have hfinal : Conversation.Mendable view
        (.ok (renewed.execution (some second) view).response) → 1 = 0 := by
      rintro ⟨r, hrefused, -⟩
      rw [hrefused] at hfound
      cases hfound
    refine ⟨found, log₃, ?_, htally⟩
    rw [Conversation.execute, maxRelogins, conversation,
      Conversation.attempt_again 1 hasked ⟨_, rfl, rfl⟩ hagain answerTo_login,
      Conversation.attempt_settled hview hfinal, hfound, conversation]

theorem logs_out {log : List Exchange} (h : Tally [first, second] log) :
    ∃ log', (conversation (some second)).logout carrier (viewed, log) =
      (.ok (), ⟨.apart none, timeout⟩, viewed.after (some second) .logout, log') ∧
      Tally [first, second] log' := by
  obtain ⟨log', hlogout, htally⟩ : ∃ log',
      carrier.send (link (some second)) .logout timeout (viewed, log) =
        (.ok (.success (viewed.request (some second)).requestId .done), link none,
          viewed.after (some second) .logout, log') ∧ Tally [first, second] log' :=
    sent (some .ended) rfl rfl legible.logout (by decide +kernel) (by decide +kernel) rfl h
  have hfinal : Conversation.Mendable .logout
      (.ok (.success (viewed.request (some second)).requestId .done)) → maxRelogins = 0 := by
    rintro ⟨r, hrefused, -⟩
    cases hrefused
  refine ⟨log', ?_, htally⟩
  rw [Conversation.logout, Conversation.execute, conversation,
    Conversation.attempt_settled hlogout hfinal]
  rfl

theorem runs : ∃ lines after log, invocation.run exchangeNetwork (world, []) =
    (⟨0, lines, []⟩, after, log) ∧ Tally [first, second] log := by
  obtain ⟨log₁, hlogin, htally⟩ := logs_in
  obtain ⟨found, log₂, hview, htally⟩ := views htally
  obtain ⟨log₃, hlogout, htally⟩ := logs_out htally
  have hrun : runLoggedIn carrier invocation login (world, []) = _ :=
    runLoggedIn_of_accepted hlogin (carryOut_view hview) hlogout
  have hdone := run_of_login exchangeNetwork (i := invocation) (w := (world, [])) nofun rfl rfl hrun
  exact ⟨viewLines found, _, log₃, hdone, htally⟩

end LateRun

/-! ## No session is left -/

/-- **No run leaves a session behind.** Whatever it is told to do, whatever it finds at the server
and whatever others do there meanwhile: if all its exchanges are complete, then none of the sessions
that it was given is there when it ends. What it prints and how it exits is what came of its order,
or of the login before it, whatever is answered to the logout. -/
theorem no_run_leaves_a_session {i : Invocation} {w after : Premises} {outcome : Outcome}
    {log : List Exchange} (hrun : i.run exchangeNetwork (w, []) = (outcome, after, log))
    (hcomplete : ∀ x ∈ log, x.Complete) (hothers : w.Among (issuedIn log)) :
    let carrier := exchangeNetwork.carrier i.server standardGenerations
    (∀ key ∈ issuedIn log, key ∉ after.hosted.server.sessions.live.map (·.key)) ∧
      outcome = (i.printed carrier standardGenerations (w, [])).outcome ∧
      ∀ answer, outcome =
        (i.runOver (answeringLogouts carrier answer) standardGenerations (w, [])).1.outcome := by
  intro carrier
  rw [run_eq_runOver] at hrun
  obtain ⟨houtcome, hafter⟩ := Prod.mk.inj hrun
  have hprinted : outcome = (i.printed carrier standardGenerations (w, [])).outcome := by
    rw [← houtcome, fst_runOver]
  refine ⟨fun key hkey => ?_, hprinted, fun answer => ?_⟩
  · have hcustody := custody_of_links (issuedIn log) i.server
    have hclear : Clear (issuedIn log) (i.runOver carrier standardGenerations (w, [])).2 :=
      clear_runOver hcustody (clear_begin hothers)
    rw [hafter] at hclear
    exact hclear.not_mem_live ⟨hcomplete, List.Subset.refl _⟩ hkey
  · rw [hprinted, fst_runOver, printed_answering]

/-- Neither the session that has expired is left nor the one that was begun in place of it. -/
theorem late_run_leaves_no_session :
    ∃ outcome after log, LateRun.invocation.run exchangeNetwork (LateRun.world, []) =
        (outcome, after, log) ∧ outcome.exit = 0 ∧
      issuedIn log = [LateRun.first, LateRun.second] ∧ LateRun.first ≠ LateRun.second ∧
      ∀ key ∈ issuedIn log, key ∉ after.hosted.server.sessions.live.map (·.key) := by
  obtain ⟨lines, after, log, hrun, htally⟩ := LateRun.runs
  have hothers : LateRun.world.Among (issuedIn log) :=
    ⟨List.Subset.refl _, fun _ _ he => absurd he List.not_mem_nil⟩
  obtain ⟨hgone, -⟩ := no_run_leaves_a_session hrun htally.complete hothers
  exact ⟨_, after, log, hrun, rfl, htally.issued, by decide +kernel, hgone⟩

end AcctAdmin.Console
