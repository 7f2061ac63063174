import AcctAdmin.Proofs.Console.Paging
import AcctAdmin.Proofs.Conversation.Enrichment
import AcctAdmin.Proofs.Conversation.Relogin
import AcctAdmin.Proofs.Front.Reader

/-!
# A search from the command line

One run of the tool that searches: it opens a link, logs in, begins the search, turns to as many
pages as were asked for and are there, and logs out. What is printed of it is the first rows of what
the search finds, and what is sent for it is no more than that takes.
-/

set_option autoImplicit false

namespace AcctAdmin.Console

open AcctAdmin.Server AcctAdmin.Protocol AcctAdmin.Client

/-! ## One command of a conversation -/

section Commands

variable {g : Generation} {base server : Url} {spoken : List Generation} {own : Option SessionKey}
  {c : Command} {login : Login} {timeout : Duration} {w : Premises} {sent : List Http.Request}

/-- The request that a command is sent in. -/
def postedFor (base : Url) (g : Generation) (timeout : Duration) (own : Option SessionKey)
    (c : Command) : Http.Request :=
  posted base g own (endpointFor c.kind) ((g.commandText c).toOption.getD "").toUTF8 timeout

/-- A conversation over a link, as somebody who has a session. -/
def conversing (base : Url) (g : Generation) (login : Login) (timeout : Duration)
    (own : Option SessionKey) : Conversation (Link Agent) :=
  ⟨.joined (linkTo base g (.ready ⟨cookiesOf own⟩)) login, timeout⟩

theorem commandText_of_allows (hallows : g.allowsCommand c.kind = true) :
    g.commandText c = .ok ((g.commandText c).toOption.getD "") := by
  rw [Generation.commandText, if_pos hallows]
  rfl

theorem heard?_postedFor {heardIn : List Generation} (hspoken : heardIn ⊆ generations)
    (hg : g ∈ heardIn) (hallows : g.allowsCommand c.kind = true) (hfits : w.Fits g own c)
    (id : RequestId) :
    heard? heardIn id (postedFor base g timeout own c) = some (g, c) :=
  heard?_posted hspoken hg id (commandText_of_allows hallows)
    (hfits.request _ (commandText_of_allows hallows))

theorem send_postedFor (hspoken : w.hosted.spoken ⊆ generations) (hg : g ∈ w.hosted.spoken)
    (hallows : g.allowsCommand c.kind = true) (hfits : w.Fits g own c) :
    (premisesNetwork.carrier server spoken).send (linkTo base g (.ready ⟨cookiesOf own⟩)) c timeout
        (w, sent) =
      (.ok (w.execution own c).response,
        linkTo base g (.ready ⟨cookiesOf (SessionChange.after own (w.execution own c).session)⟩),
        w.after own c, sent ++ [postedFor base g timeout own c]) :=
  send_of_fits hspoken hg (commandText_of_allows hallows) hfits

/-- A command that is carried out is answered with what its reply carries. -/
theorem execute_of_fits (hspoken : w.hosted.spoken ⊆ generations) (hg : g ∈ w.hosted.spoken)
    (hallows : g.allowsCommand c.kind = true) (hfits : w.Fits g own c) {id : RequestId}
    {reply : Reply} (hsuccess : (w.execution own c).response = .success id reply)
    {payload : Answer c} (hpayload : reply.payload? c.kind.replyKind = some payload) :
    (conversing base g login timeout own).execute (premisesNetwork.carrier server spoken) c
        (w, sent) =
      (.ok payload,
        conversing base g login timeout (SessionChange.after own (w.execution own c).session),
        w.after own c, sent ++ [postedFor base g timeout own c]) := by
  have hanswer : answerTo c (.ok (w.execution own c).response) = .ok payload := by
    simp only [answerTo, hsuccess, Except.bind, Outcome.ofResponse, hpayload]
    rfl
  have hfinal : Conversation.Mendable c (.ok (w.execution own c).response) → maxRelogins = 0 := by
    rintro ⟨r, hrefused, -⟩
    rw [hsuccess] at hrefused
    cases hrefused
  rw [conversing, Conversation.execute,
    Conversation.attempt_settled (send_postedFor hspoken hg hallows hfits) hfinal, hanswer]
  rfl

/-- A login that is accepted is the beginning of a conversation. -/
theorem loginOver_of_fits (hspoken : w.hosted.spoken ⊆ generations) (hg : g ∈ w.hosted.spoken)
    (hallows : g.allowsCommand .login = true) (hfits : w.Fits g own (.login login))
    {id : RequestId} {account : AccountSummary}
    (haccepted : (w.execution own (.login login)).response = .success id (.loginOk account))
    (before : Link Agent → Standing (Link Agent)) :
    Conversation.loginOver (premisesNetwork.carrier server spoken) timeout
        (linkTo base g (.ready ⟨cookiesOf own⟩)) login before (w, sent) =
      (.ok account,
        conversing base g login timeout
          (SessionChange.after own (w.execution own (.login login)).session),
        w.after own (.login login), sent ++ [postedFor base g timeout own (.login login)]) := by
  have hanswer : answerTo (.login login) (.ok (w.execution own (.login login)).response) =
      .ok account := by
    simp only [answerTo, haccepted, Except.bind, Outcome.ofResponse]
    rfl
  rw [Conversation.loginOver_of_send before (send_postedFor hspoken hg hallows hfits), hanswer,
    Conversation.afterLogin_of_accepted hanswer]
  rfl

end Commands

/-! ## Runs -/

section Runs

variable {World Channel : Type} (net : Network World Channel) {i : Invocation} {login : Login}
  {w w' : World} {printed : Printed}

/-- A run is over a carrier of links. -/
theorem run_eq_runOver (i : Invocation) (w : World) :
    i.run net w =
      ((i.runOver (net.carrier i.server standardGenerations) standardGenerations w).1.outcome,
        (i.runOver (net.carrier i.server standardGenerations) standardGenerations w).2) := rfl

theorem run_of_login (horder : i.order ≠ .protocols) (huser : i.user = some login.userName)
    (hpassword : i.password = some login.password)
    (hrun : runLoggedIn (net.carrier i.server standardGenerations) i login w = (printed, w')) :
    i.run net w = (printed.outcome, w') := by
  have hover : i.runOver (net.carrier i.server standardGenerations) standardGenerations w =
      (printed, w') := by
    simp only [Invocation.runOver, huser, hpassword]
    exact hrun
  rw [run_eq_runOver, hover]

end Runs

/-! ## One run -/

/-- A run of the tool that searches: its command line and what it means by it, the world that it is
run in, and the account that it logs in to. -/
structure SearchRun where
  invocation : Invocation
  query : Query
  pages : UInt32
  login : Login
  world : Premises
  account : AccountSummary

namespace SearchRun

variable (s : SearchRun)

/-- The world in which the search is begun. -/
def loggedIn : Premises := s.world.passed.after none (.login s.login)

/-- The session that the login begins. -/
def key : SessionKey := ⟨s.account.id, (s.world.passed.found.draw 0).session⟩

/-- The world in which the page after so many others is asked for. -/
def turned (n : Nat) : Premises := s.loggedIn.turned (some s.key) s.query n

/-- What the search finds when it is begun. -/
def rows : List s.query.kind.Row := s.query.listing s.loggedIn.found.server.store

/-- How many rows the server puts on a page. -/
def size : UInt32 := s.query.pageSize s.world.hosted.server.limits

def count : Nat := pagesFor s.rows.length s.size.toNat

/-- How many pages are shown: as many as are asked for and there are, and at least one. -/
def shown : Nat := min (max 1 s.pages.toNat) s.count

def generation : Generation := latest s.world.hosted.spoken

/-- What is taken for granted of a run: it is a search, given to a server that has such, by an
administrator whose login is accepted; the session that begins can be used by them and is used by
nobody else, and what the search finds stays the same. Rows are counted in 64 bits. -/
structure Proper : Prop where
  order : s.invocation.order = .search s.query s.pages.toNat
  user : s.invocation.user = some s.login.userName
  password : s.invocation.password = some s.login.password
  atRoot : s.invocation.server.asDirectory.path = .rooted [""]
  filled : Handling.objectionTo? (.searchBegin s.query) = none
  spoken : s.world.hosted.spoken ⊆ generations
  speaks : ∃ g ∈ s.world.hosted.spoken, g.allowsCommand (.searchBegin s.query.kind) = true
  reached : ∃ (σ₀ σ : OpenService) (schedule : List ServiceStep), σ₀.Begins ∧
    σ₀.run schedule = some σ ∧ σ.server = s.world.hosted.server
  accepted : ∃ id, (s.world.passed.execution none (.login s.login)).response =
    .success id (.loginOk s.account)
  admin : s.account.admin = true
  steady : s.loggedIn.Steady s.key s.query s.rows s.shown
  counted : s.rows.length < UInt64.size

/-- Whether all that is sent either way can be read, which it can if it is not too long. -/
structure Fits : Prop where
  advertisement : (advertisementOf s.world.hosted.spoken).render.toUTF8.size ≤ Agent.maxReplySize
  login : s.world.passed.Fits s.generation none (.login s.login)
  pages : ∀ n < s.shown, (s.turned n).Fits s.generation (some s.key) (pageCommand s.query n)
  logout : (s.turned s.shown).Fits s.generation (some s.key) .logout

/-- The command that a request brings to the server, if it brings one. -/
def command? (r : Http.Request) : Option Command :=
  (heard? s.world.hosted.spoken default r).map (·.2)

/-- Whether a run prints the first rows of what the search finds, page after page, and sends no more
for it than the one command that begins the search and one for each page after the first. -/
def ShowsInFull : Prop :=
  ∃ (pages : List (List s.query.kind.Row)) (w : Premises) (sent : List Http.Request),
    s.invocation.run premisesNetwork (s.world, []) =
        (⟨0, printedPages s.query.kind.line s.count pages, []⟩, w, sent) ∧
      s.query.Answers s.loggedIn.found.server.store s.rows ∧
      pages.flatten = s.rows.take (max 1 s.pages.toNat * s.size.toNat) ∧
      pages.length = min (max 1 s.pages.toNat) s.count ∧
      (∀ page ∈ pages, page.length ≤ s.size.toNat) ∧ (s.rows ≠ [] → [] ∉ pages) ∧
      sent.map s.command? = none :: List.map some
        (.login s.login :: .searchBegin s.query ::
          List.replicate (pages.length - 1) (.searchTurn s.query.kind .next) ++ [.logout])

variable {s : SearchRun}

/-! ## What the server does -/

theorem Proper.generation_mem (h : s.Proper) : s.generation ∈ s.world.hosted.spoken := by
  obtain ⟨g, hg, -⟩ := h.speaks
  exact latest_mem h.spoken (List.ne_nil_of_mem hg)

theorem allows_of_searchBegin {g : Generation} (hg : g ∈ generations) {k : SearchKind}
    (h : g.allowsCommand (.searchBegin k) = true) :
    g.allowsCommand .login = true ∧ g.allowsCommand .logout = true ∧
      g.allowsCommand (.searchTurn k .next) = true := by
  have hturn : ∀ g ∈ generations, g.allowsCommand .login = true ∧ g.allowsCommand .logout = true ∧
      (g.allowsCommand (.searchBegin k) = true → g.allowsCommand (.searchTurn k .next) = true) := by
    cases k <;> decide
  obtain ⟨hlogin, hlogout, hnext⟩ := hturn g hg
  exact ⟨hlogin, hlogout, hnext h⟩

theorem Proper.allows (h : s.Proper) :
    s.generation.allowsCommand .login = true ∧ s.generation.allowsCommand .logout = true ∧
      ∀ n, s.generation.allowsCommand (pageCommand s.query n).kind = true := by
  obtain ⟨g, hg, hallows⟩ := h.speaks
  have hbegin : s.generation.allowsCommand (.searchBegin s.query.kind) = true :=
    latest_allows h.spoken hg hallows
  obtain ⟨hlogin, hlogout, hnext⟩ := allows_of_searchBegin (h.spoken h.generation_mem) hbegin
  refine ⟨hlogin, hlogout, fun n => ?_⟩
  cases n with
  | zero => exact hbegin
  | succ n => exact hnext

theorem Proper.distinct (h : s.Proper) : s.world.hosted.server.sessions.Distinct := by
  obtain ⟨σ₀, σ, schedule, hbegins, hrun, hserver⟩ := h.reached
  rw [← hserver]
  exact OpenService.distinct_run hbegins hrun

/-- The login begins the session that the search is read in. -/
theorem Proper.loggedIn (h : s.Proper) :
    (s.world.passed.execution none (.login s.login)).session = some (.started s.key) ∧
      s.loggedIn.hosted.server.sessions.Privileged s.key := by
  obtain ⟨id, haccepted⟩ := h.accepted
  have hdistinct : s.world.passed.found.server.sessions.Distinct :=
    Service.distinct_advanceAll (Service.distinct_advanceAll h.distinct _) _
  exact Service.login_of_administrator hdistinct h.admin haccepted

theorem limits_loggedIn : s.loggedIn.hosted.server.limits = s.world.hosted.server.limits :=
  (Service.limits_execute ..).trans (Premises.limits_found.trans Premises.limits_found)

theorem toNat_count (h : s.Proper) :
    (pageCount (UInt64.ofNat s.rows.length) s.size).toNat = s.count :=
  toNat_pageCount (Query.one_le_pageSize ..) h.counted

theorem Proper.response (h : s.Proper) {n : Nat} (hn : n < s.shown) :
    ((s.turned n).execution (some s.key) (pageCommand s.query n)).response =
      .success ((s.turned n).request (some s.key)).requestId
        (s.query.kind.reply (pageAt s.rows s.size n)) := by
  have hsize : s.query.pageSize s.loggedIn.hosted.server.limits = s.size := by
    rw [limits_loggedIn, size]
  have hresponse := Premises.response_turned h.loggedIn.2 h.steady h.filled
    (by rw [hsize, toNat_count h]; exact Nat.min_le_right ..) hn
  rw [hsize] at hresponse
  exact hresponse

/-! ## What the client does -/

variable (s)

def carrier : Carrier (Premises × List Http.Request) (Link Agent) :=
  premisesNetwork.carrier s.invocation.server standardGenerations

/-- The conversation, as somebody who has a session. -/
def conversation (own : Option SessionKey) : Conversation (Link Agent) :=
  conversing s.invocation.server.asDirectory s.generation s.login s.invocation.timeout own

def posting (own : Option SessionKey) (c : Command) : Http.Request :=
  postedFor s.invocation.server.asDirectory s.generation s.invocation.timeout own c

/-- All that is sent until so many pages have been asked for. -/
def sent (n : Nat) : List Http.Request :=
  asked s.invocation.server.asDirectory s.invocation.timeout :: s.posting none (.login s.login) ::
    (List.range n).map fun m => s.posting (some s.key) (pageCommand s.query m)

variable {s}

theorem sent_succ (n : Nat) :
    s.sent (n + 1) = s.sent n ++ [s.posting (some s.key) (pageCommand s.query n)] := by
  simp [sent, List.range_succ]

theorem login_of_proper (h : s.Proper)
    (hadvertisement :
      (advertisementOf s.world.hosted.spoken).render.toUTF8.size ≤ Agent.maxReplySize)
    (hfits : s.world.passed.Fits s.generation none (.login s.login)) :
    (Conversation.start s.invocation.timeout).login s.carrier s.login (s.world, []) =
      (.ok s.account, s.conversation (some s.key), s.turned 0, s.sent 0) := by
  obtain ⟨id, haccepted⟩ := h.accepted
  have hspoken : s.world.passed.hosted.spoken ⊆ generations := h.spoken
  have hg : s.generation ∈ s.world.passed.hosted.spoken := h.generation_mem
  have hconnect : s.carrier.connect s.invocation.timeout (s.world, []) = _ :=
    connect_of_root h.spoken (List.ne_nil_of_mem h.generation_mem) h.atRoot hadvertisement
  have hlogin : Conversation.loginOver s.carrier s.invocation.timeout
      (linkTo s.invocation.server.asDirectory s.generation (.ready ⟨cookiesOf none⟩)) s.login
      (fun l => .apart (some l)) (s.world.passed,
        [asked s.invocation.server.asDirectory s.invocation.timeout]) = _ :=
    loginOver_of_fits hspoken hg h.allows.1 hfits haccepted _
  rw [h.loggedIn.1] at hlogin
  simp only [Conversation.login, Conversation.start, hconnect]
  exact hlogin

theorem execute_page (h : s.Proper) {n : Nat} (hn : n < s.shown)
    (hfits : (s.turned n).Fits s.generation (some s.key) (pageCommand s.query n))
    {payload : Answer (pageCommand s.query n)}
    (hpayload : (s.query.kind.reply (pageAt s.rows s.size n)).payload?
      (pageCommand s.query n).kind.replyKind = some payload) :
    (s.conversation (some s.key)).execute s.carrier (pageCommand s.query n)
        (s.turned n, s.sent n) =
      (.ok payload, s.conversation (some s.key), s.turned (n + 1), s.sent (n + 1)) := by
  have hspoken : (s.turned n).hosted.spoken = s.world.hosted.spoken := Premises.spoken_turned n
  have hneeds : needsCaller (pageCommand s.query n) = true := by
    cases n <;> rfl
  have hquiet : ((s.turned n).execution (some s.key) (pageCommand s.query n)).session = none :=
    Service.session_of_needsCaller hneeds
  have hexecute : (s.conversation (some s.key)).execute s.carrier (pageCommand s.query n)
      (s.turned n, s.sent n) = _ :=
    execute_of_fits (hspoken ▸ h.spoken) (hspoken ▸ h.generation_mem) (h.allows.2.2 n)
      hfits (h.response hn) hpayload
  rw [hexecute, hquiet, sent_succ]
  rfl

theorem logout_of_proper (h : s.Proper) (hfits : s.Fits) :
    ((s.conversation (some s.key)).logout s.carrier (s.turned s.shown, s.sent s.shown)).2.2 =
      ((s.turned s.shown).after (some s.key) .logout,
        s.sent s.shown ++ [s.posting (some s.key) .logout]) := by
  have hspoken : (s.turned s.shown).hosted.spoken = s.world.hosted.spoken :=
    Premises.spoken_turned s.shown
  have hresponse : ((s.turned s.shown).execution (some s.key) .logout).response =
      .success _ .done := Service.response_logout_of_key rfl
  have hexecute : (s.conversation (some s.key)).execute s.carrier .logout
      (s.turned s.shown, s.sent s.shown) = _ :=
    execute_of_fits (hspoken ▸ h.spoken) (hspoken ▸ h.generation_mem) h.allows.2.1 hfits.logout
      hresponse rfl
  rw [Conversation.logout, hexecute]
  rfl

/-! ## Whole runs -/

theorem one_le_shown : 1 ≤ s.shown :=
  Nat.le_min.2 ⟨Nat.le_max_left .., Nat.le_min.2 ⟨by decide, Nat.le_max_left ..⟩⟩

/-- The pages that are shown. -/
def shownPages (s : SearchRun) : List (List s.query.kind.Row) :=
  (List.range s.shown).map (rowsOn s.rows s.size.toNat)

theorem printed_of_proper (h : s.Proper) :
    (List.range' 0 s.shown).flatMap (fun n =>
        foundLines s.query.kind (s.query.kind.payload (pageAt s.rows s.size n))) =
      printedPages s.query.kind.line s.count s.shownPages := by
  have hall : 0 + s.shown ≤ s.count := by
    rw [Nat.zero_add]
    exact Nat.min_le_right ..
  have hpages := pagesBehind_pageAt s.query.kind.line (Query.one_le_pageSize ..) h.counted hall
  rw [Nat.zero_mul, ← List.range_eq_range'] at hpages
  simp only [SearchKind.foundLines_payload, ← List.range_eq_range']
  exact hpages.symm

theorem isLastFound_page (h : s.Proper) {n : Nat} (hn : n < s.shown) :
    isLastFound s.query.kind (s.query.kind.payload (pageAt s.rows s.size n)) =
      decide (s.count ≤ n + 1) := by
  have hcount := toNat_count h
  have hcounted : n < s.count := Nat.lt_of_lt_of_le hn (Nat.min_le_right ..)
  rw [SearchKind.isLastFound_payload, isLast_pageAt (by rwa [hcount]), hcount]

theorem execute_begin (h : s.Proper)
    (hfits : (s.turned 0).Fits s.generation (some s.key) (.searchBegin s.query)) :
    (s.conversation (some s.key)).execute s.carrier (.searchBegin s.query) (s.turned 0, s.sent 0) =
      (.ok (s.query.kind.payload (pageAt s.rows s.size 0)), s.conversation (some s.key),
        s.turned 1, s.sent 1) :=
  execute_page (n := 0) h one_le_shown hfits (SearchKind.payload?_reply _)

theorem execute_next (h : s.Proper) {n : Nat} (hn : n + 1 < s.shown)
    (hfits : (s.turned (n + 1)).Fits s.generation (some s.key)
      (.searchTurn s.query.kind .next)) :
    (s.conversation (some s.key)).execute s.carrier (.searchTurn s.query.kind .next)
        (s.turned (n + 1), s.sent (n + 1)) =
      (.ok (s.query.kind.payload (pageAt s.rows s.size (n + 1))), s.conversation (some s.key),
        s.turned (n + 1 + 1), s.sent (n + 1 + 1)) :=
  execute_page (n := n + 1) h hn hfits (SearchKind.payload?_reply _)

theorem carryOut_of_proper (h : s.Proper) (hfits : s.Fits) :
    s.invocation.order.carryOut s.carrier (s.conversation (some s.key)) (s.turned 0, s.sent 0) =
      (⟨printedPages s.query.kind.line s.count s.shownPages, none⟩, s.conversation (some s.key),
        s.turned s.shown, s.sent s.shown) := by
  have hone : 1 ≤ s.shown := one_le_shown
  have hshown : s.shown = min (max 1 s.pages.toNat) s.count := rfl
  have hpages := showPages_of_answers
    (fun n => s.query.kind.payload (pageAt s.rows s.size n)) (fun _ => s.conversation (some s.key))
    (fun n => (s.turned (n + 1), s.sent (n + 1)))
    (fun n (hn : n < s.shown - 1) => execute_next h (by omega) (hfits.pages (n + 1) (by omega)))
    (fun n hn => by rw [isLastFound_page h (by omega)]; exact decide_eq_false (by omega))
    (s.pages.toNat - 1) (Nat.zero_le _) (by omega)
    (fun hmore => by rw [isLastFound_page h (by omega)]; exact decide_eq_true (by omega))
  have hpast : s.shown - 1 + 1 = s.shown := Nat.sub_add_cancel hone
  simp only [hpast, Nat.sub_zero, printed_of_proper h] at hpages
  rw [h.order, Order.carryOut, execute_begin h (hfits.pages 0 hone)]
  exact hpages

theorem run_eq (h : s.Proper) :
    s.invocation.run premisesNetwork (s.world, []) =
      ((runLoggedIn s.carrier s.invocation s.login (s.world, [])).1.outcome,
        (runLoggedIn s.carrier s.invocation s.login (s.world, [])).2) := by
  have horder : s.invocation.order ≠ .protocols := by
    rw [h.order]
    exact nofun
  exact run_of_login premisesNetwork horder h.user h.password (Prod.mk.eta).symm

theorem run_of_proper (h : s.Proper) (hfits : s.Fits) :
    s.invocation.run premisesNetwork (s.world, []) =
      (⟨0, printedPages s.query.kind.line s.count s.shownPages, []⟩,
        (s.turned s.shown).after (some s.key) .logout,
        s.sent s.shown ++ [s.posting (some s.key) .logout]) := by
  have hlogged : runLoggedIn s.carrier s.invocation s.login (s.world, []) =
      (⟨printedPages s.query.kind.line s.count s.shownPages, none⟩,
        (s.turned s.shown).after (some s.key) .logout,
        s.sent s.shown ++ [s.posting (some s.key) .logout]) := by
    rw [← logout_of_proper h hfits]
    simp only [runLoggedIn, login_of_proper h hfits.advertisement hfits.login,
      carryOut_of_proper h hfits]
  rw [run_eq h, hlogged]
  rfl

theorem pageCommands (query : Query) (n : Nat) :
    (List.range (n + 1)).map (pageCommand query) =
      .searchBegin query :: List.replicate n (.searchTurn query.kind .next) := by
  have hturns : pageCommand query ∘ Nat.succ = fun _ => Command.searchTurn query.kind .next := rfl
  rw [List.range_succ_eq_map, List.map_cons, List.map_map, hturns, List.map_const',
    List.length_range]
  rfl

/-- The requests that are sent bring one command each, but for the first one. -/
theorem commands_of_proper (h : s.Proper) (hfits : s.Fits) :
    (s.sent s.shown ++ [s.posting (some s.key) .logout]).map s.command? =
      none :: List.map some (.login s.login :: .searchBegin s.query ::
        List.replicate (s.shownPages.length - 1) (.searchTurn s.query.kind .next) ++
          [.logout]) := by
  have hasked : s.command? (asked s.invocation.server.asDirectory s.invocation.timeout) = none := by
    rw [command?, heard?_asked h.atRoot]
    rfl
  have hposted {w : Premises} {own : Option SessionKey} {c : Command}
      (hallows : s.generation.allowsCommand c.kind = true) (hc : w.Fits s.generation own c) :
      s.command? (s.posting own c) = some c := by
    have hheard : heard? s.world.hosted.spoken default (s.posting own c) = _ :=
      heard?_postedFor h.spoken h.generation_mem hallows hc default
    rw [command?, hheard]
    rfl
  have hpages : (List.range s.shown).map (fun n =>
      s.command? (s.posting (some s.key) (pageCommand s.query n))) =
        ((List.range s.shown).map (pageCommand s.query)).map some := by
    rw [List.map_map]
    refine List.map_congr_left fun n hn => ?_
    exact hposted (h.allows.2.2 n) (hfits.pages n (List.mem_range.1 hn))
  have hshown : s.shown = s.shownPages.length - 1 + 1 := by
    rw [shownPages, List.length_map, List.length_range, Nat.sub_add_cancel one_le_shown]
  rw [hshown, pageCommands, ← hshown] at hpages
  have hlogin := hposted (c := .login s.login) h.allows.1 hfits.login
  have hlogout := hposted (c := .logout) h.allows.2.1 hfits.logout
  simp only [sent, List.map_append, List.map_cons, List.map_map, List.map_nil, List.cons_append,
    Function.comp_def, hasked, hpages, hlogin, hlogout]

/-! ## Runs to try -/

/-- A server that nobody else uses, with its first administrator. -/
def quietPremises : Premises :=
  ⟨⟨OpenService.sample.server, generations, 5000, 0⟩,
    fun n => ⟨[], 5000, Hosted.perRequest * (n + 1)⟩⟩

/-- The first administrator searches. -/
def quietly (query : Query) (pages : UInt32) : SearchRun where
  invocation :=
    ⟨standardServer, some "root", some "correct horse", .ofSeconds 30, .search query pages.toNat⟩
  query := query
  pages := pages
  login := ⟨"root", "correct horse"⟩
  world := quietPremises
  account := ⟨OpenService.sampleAdmin, "root", "root@example.org", "Root", true, 0⟩

theorem exists_admitted {r : Request} {sessions : Sessions} {rows : List Account} {key : SessionKey}
    (hkey : r.session = some key) (hlive : (sessions.get key r.now).1.isSome = true)
    (haccount : (rows.find? (·.id == key.principal)).map (·.activeBan? r.seconds) = some none) :
    ∃ caller, Handling.Admitted r sessions rows caller := by
  obtain ⟨caller, hcaller⟩ := Option.isSome_iff_exists.1 hlive
  obtain ⟨x, -, -, rfl, rfl⟩ := Sessions.get_eq_some hcaller
  exact ⟨{ x with lastSeen := r.now }, hkey, hcaller, Option.map_eq_some_iff.1 haccount⟩

/-- The first administrator searches, whatever others do in the meantime. -/
def amid (w : Premises) (query : Query) (pages : UInt32) : SearchRun :=
  { quietly query pages with world := w }

theorem proper_amid {w : Premises} {query : Query} {pages : UInt32}
    (hhosted : w.hosted = quietPremises.hosted)
    (hfilled : Handling.objectionTo? (.searchBegin query) = none)
    (haccepted : (w.passed.execution none (.login ⟨"root", "correct horse"⟩)).response =
      .success (w.passed.request none).requestId
        (.loginOk ⟨OpenService.sampleAdmin, "root", "root@example.org", "Root", true, 0⟩))
    (hsteady : (amid w query pages).loggedIn.Steady (amid w query pages).key query
      (amid w query pages).rows (amid w query pages).shown)
    (hcounted : (amid w query pages).rows.length < UInt64.size) : (amid w query pages).Proper where
  order := rfl
  user := rfl
  password := rfl
  atRoot := (by decide : standardServer.asDirectory.path = .rooted [""])
  filled := hfilled
  spoken := by
    rw [amid, hhosted]
    exact List.Subset.refl _
  speaks := by
    rw [amid, hhosted]
    exact ⟨generation11, (by decide : generation11 ∈ generations), by cases query <;> rfl⟩
  reached := by
    rw [amid, hhosted]
    exact ⟨_, _, [], .administered .., rfl, rfl⟩
  accepted := ⟨_, haccepted⟩
  admin := rfl
  steady := hsteady
  counted := hcounted

theorem proper_quietly {query : Query} {pages : UInt32}
    (hfilled : Handling.objectionTo? (.searchBegin query) = none)
    (hsteady : (quietly query pages).loggedIn.Steady (quietly query pages).key query
      (quietly query pages).rows (quietly query pages).shown) : (quietly query pages).Proper := by
  have haccepted : (quietPremises.passed.execution none
      (.login ⟨"root", "correct horse"⟩)).response =
        .success (quietPremises.passed.request none).requestId
          (.loginOk ⟨OpenService.sampleAdmin, "root", "root@example.org", "Root", true, 0⟩) := by
    decide +kernel
  have hcounted : (quietly query pages).rows.length < UInt64.size := by
    let w := quietPremises.passed.after none (.login ⟨"root", "correct horse"⟩)
    let store := w.found.server.store
    have hfew : store.table.rows.length + store.log.length < UInt64.size := by decide +kernel
    exact Nat.lt_of_le_of_lt (query.length_listing_le store) hfew
  exact proper_amid rfl hfilled haccepted hsteady hcounted

/-- The first administrator may use the session that their login begins. -/
theorem admitted_quietly {query : Query} {pages : UInt32} :
    ∃ caller, Handling.Admitted
      ((quietly query pages).loggedIn.request (some (quietly query pages).key))
      (quietly query pages).loggedIn.found.server.sessions
      (quietly query pages).loggedIn.found.server.store.table.rows caller := by
  let w := quietPremises.passed.after none (.login ⟨"root", "correct horse"⟩)
  let key : SessionKey :=
    ⟨OpenService.sampleAdmin, (quietPremises.passed.found.draw 0).session⟩
  have hlive : (w.found.server.sessions.get key (w.request (some key)).now).1.isSome = true := by
    decide +kernel
  have haccount : (w.found.server.store.table.rows.find? (·.id == key.principal)).map
      (·.activeBan? (w.request (some key)).seconds) = some none := by decide +kernel
  exact exists_admitted rfl hlive haccount

theorem fits_of_size {w : Premises} {g : Generation} {own : Option SessionKey} {c : Command}
    {response : Response}
    (hrequest : ((g.commandText c).toOption.getD "").toUTF8.size ≤ maxBodySize)
    (hresponse : (w.execution own c).response = response)
    (hreply : (replyIn g 200 response none).body.size ≤ Agent.maxReplySize) : w.Fits g own c where
  request text htext := by
    rw [htext] at hrequest
    exact hrequest
  reply := by
    rw [hresponse]
    -- neither the status nor the cookie is part of the body
    have hbody : (replyIn g (w.execution own c).status response (w.execution own c).session).body =
        (replyIn g 200 response none).body := by
      unfold replyIn
      split <;> rfl
    rwa [hbody]

theorem sortedBy_pair {Row : Type} {cmp : Row → Row → Ordering} {a b : Row} (h : cmp a b = .gt) :
    sortedBy cmp [a, b] = [b, a] := by
  rw [sortedBy, List.mergeSort]
  simp [h]

theorem advertisement_quietly :
    (advertisementOf generations).render.toUTF8.size ≤ Agent.maxReplySize := by decide +kernel

theorem login_quietly :
    quietPremises.passed.Fits generation11 none (.login ⟨"root", "correct horse"⟩) :=
  fits_of_size (by decide +kernel) rfl (by decide +kernel)

def newestFirst : AuditQuery := { AuditQuery.standard with limit := 1 }

/-- The two events of the audit log, on a page each. -/
def twoEvents : SearchRun := quietly (.audit newestFirst) 2

theorem rows_twoEvents : twoEvents.rows = twoEvents.loggedIn.found.server.store.log.reverse := by
  let log := twoEvents.loggedIn.found.server.store.log
  let made := log.getD 0 default
  let come := log.getD 1 default
  have hlisting : twoEvents.rows =
      sortedBy (compareEvents newestFirst.ordering) (log.filter (matchesEvent newestFirst)) := rfl
  have hall : log.filter (matchesEvent newestFirst) = [made, come] := by decide +kernel
  have hlater : compareEvents newestFirst.ordering made come = .gt := by decide +kernel
  have hreverse : log.reverse = [come, made] := by decide +kernel
  rw [hlisting, hall, sortedBy_pair hlater, ← hreverse]

theorem shown_twoEvents : twoEvents.shown = 2 := by
  have hlength : twoEvents.loggedIn.found.server.store.log.reverse.length = 2 := by decide +kernel
  have hrows : twoEvents.rows.length = 2 := (congrArg List.length rows_twoEvents).trans hlength
  rw [shown, count, hrows]
  decide

/-! ## What is shown -/

/-- **A search prints the first rows of what it finds**, as many as there is room for on the pages
that were asked for, in the order of the search and each once. The pages are as many as were asked
for and there are, numbered from one, and say of their rows which they are. The search is begun once
and turned once for each page after the first; nothing else is sent but to log in before and out
after it. -/
theorem search_shows_in_full (h : s.Proper) (hfits : s.Fits) : s.ShowsInFull := by
  have hroom : 1 ≤ s.size.toNat := UInt32.le_iff_toNat_le.1 (Query.one_le_pageSize ..)
  refine ⟨s.shownPages, _, _, run_of_proper h hfits, Query.answers_listing .., ?_, ?_, ?_, ?_,
    commands_of_proper h hfits⟩
  · have hcapacity : max 1 s.pages.toNat ≤ maxPageCount :=
      Nat.max_le.2 ⟨by decide, Nat.le_pred_of_lt s.pages.toNat_lt⟩
    exact flatten_rowsOn s.rows hroom hcapacity
  · rw [shownPages, List.length_map, List.length_range, shown]
  · intro page hpage
    obtain ⟨n, -, rfl⟩ := List.mem_map.1 hpage
    exact length_rowsOn_le ..
  · intro hrows hempty
    obtain ⟨n, hn, hpage⟩ := List.mem_map.1 hempty
    have hcounted : n < s.count :=
      Nat.lt_of_lt_of_le (List.mem_range.1 hn) (Nat.min_le_right ..)
    exact rowsOn_ne_nil hroom hrows hcounted hpage

/-- The administrator sees that they have come, and that they were made. -/
theorem two_events_are_shown : twoEvents.Proper ∧ twoEvents.Fits ∧ twoEvents.ShowsInFull := by
  have htwo {n : Nat} (hn : n < twoEvents.shown) : n = 0 ∨ n = 1 := by
    rw [shown_twoEvents] at hn
    omega
  have hproper : twoEvents.Proper := by
    refine proper_quietly rfl ⟨fun _ _ => nofun, fun n hn => ?_, fun n hn => ?_⟩
    · obtain rfl | rfl := htwo hn
      · exact admitted_quietly
      · exact exists_admitted rfl (by decide +kernel) (by decide +kernel)
    · have hstore : (twoEvents.turned 1).found.server.store =
          twoEvents.loggedIn.found.server.store := by decide +kernel
      obtain rfl | rfl := htwo hn
      · rfl
      · exact congrArg twoEvents.query.listing hstore
  have hfits : twoEvents.Fits := by
    refine ⟨advertisement_quietly, login_quietly, fun n hn => ?_, ?_⟩
    · have hresponse := hproper.response hn
      rw [rows_twoEvents] at hresponse
      obtain rfl | rfl := htwo hn
      · exact fits_of_size (by decide +kernel) hresponse (by decide +kernel)
      · exact fits_of_size (by decide +kernel) hresponse (by decide +kernel)
    · rw [shown_twoEvents]
      exact fits_of_size (by decide +kernel) rfl (by decide +kernel)
  exact ⟨hproper, hfits, search_shows_in_full hproper hfits⟩

end SearchRun

end AcctAdmin.Console
