import AcctAdmin.Proofs.Command.Banning
import AcctAdmin.Proofs.Console.Searching
import AcctAdmin.Proofs.Json.Size

/-!
# What a search takes

A search is shown in full only if all that is sent for it, up to its last page, can be read on the
other side (`fits_of_shown`): there is no other way to the rows than the messages that carry them,
and of a message that is cut off nothing is understood. So a search ends in an error when what is
searched for takes more than the server reads of a request (`longSearch`), or what stands on a page
more than the client reads of a reply (`auditPage`).
-/

set_option autoImplicit false

namespace AcctAdmin.Console

open AcctAdmin.Server AcctAdmin.Protocol AcctAdmin.Client

/-! ## One command of a conversation -/

section Commands

variable {g : Generation} {base server : Url} {spoken : List Generation} {own : Option SessionKey}
  {c : Command} {login : Login} {timeout : Duration} {w : Premises} {sent : List Http.Request}

/-- A command that cannot be read, or whose answer cannot, leads to an error. -/
theorem exists_error_of_not_fits (hspoken : w.hosted.spoken ⊆ generations)
    (hg : g ∈ w.hosted.spoken) (hallows : g.allowsCommand c.kind = true)
    (hnot : ¬ w.Fits g own c) :
    ∃ e line after, (premisesNetwork.carrier server spoken).send
      (linkTo base g (.ready ⟨cookiesOf own⟩)) c timeout (w, sent) = (.error e, line, after) := by
  obtain ⟨e, ⟨line, after⟩, hfailed⟩ :=
    send_of_not_fits hspoken hg (commandText_of_allows hallows) hnot
  exact ⟨e, line, after, hfailed⟩

theorem execute_of_not_fits (hspoken : w.hosted.spoken ⊆ generations) (hg : g ∈ w.hosted.spoken)
    (hallows : g.allowsCommand c.kind = true) (hnot : ¬ w.Fits g own c) :
    ∃ e after, (conversing base g login timeout own).execute (premisesNetwork.carrier server spoken)
      c (w, sent) = (.error e, after) := by
  obtain ⟨e, line, after, hsend⟩ := exists_error_of_not_fits hspoken hg hallows hnot
  -- only a refusal is answered with another login
  have hfinal : Conversation.Mendable c (.error e) → maxRelogins = 0 := by
    rintro ⟨r, hrefused, -⟩
    cases hrefused
  rw [conversing, Conversation.execute, Conversation.attempt_settled hsend hfinal]
  exact ⟨e, _, rfl⟩

theorem loginOver_of_not_fits (hspoken : w.hosted.spoken ⊆ generations) (hg : g ∈ w.hosted.spoken)
    (hallows : g.allowsCommand .login = true) (hnot : ¬ w.Fits g own (.login login))
    (before : Link Agent → Standing (Link Agent)) :
    ∃ e after, Conversation.loginOver (premisesNetwork.carrier server spoken) timeout
      (linkTo base g (.ready ⟨cookiesOf own⟩)) login before (w, sent) = (.error e, after) := by
  obtain ⟨e, line, after, hsend⟩ :=
    exists_error_of_not_fits (c := .login login) hspoken hg hallows hnot
  rw [Conversation.loginOver_of_send before hsend]
  exact ⟨e, _, rfl⟩

/-- In a reply there is room for what the events on a page say. -/
theorem messagesLength_le_of_fits (hg : g ∈ generations) (hallows : g.allowsCommand c.kind = true)
    (hfits : w.Fits g own c) {id : RequestId} {page : Page AuditEvent}
    (hpage : (w.execution own c).response = .success id (.auditPage page)) :
    messagesLength page.items ≤ Agent.maxReplySize := by
  obtain ⟨⟨-, ⟨text, htext, hbody⟩, -⟩, -, -⟩ :=
    carries_execution w own hg (commandText_of_allows hallows)
  have hroom := hfits.reply
  rw [hpage] at htext
  rw [hbody] at hroom
  exact (messagesLength_le_size htext).trans hroom

end Commands

namespace SearchRun

variable {s : SearchRun}

/-! ## Runs that come to an end -/

/-- What goes wrong in a run, if anything does. -/
def trouble? (s : SearchRun) : Option Error :=
  (runLoggedIn s.carrier s.invocation s.login (s.world, [])).1.error

theorem trouble?_of_shown (h : s.Proper) (hshown : s.ShowsInFull) : s.trouble? = none := by
  obtain ⟨pages, w, sent, hrun, -⟩ := hshown
  rw [run_eq h] at hrun
  have houtcome := (Prod.mk.inj hrun).1
  unfold trouble?
  cases herror : (runLoggedIn s.carrier s.invocation s.login (s.world, [])).1.error with
  | none => rfl
  | some e =>
    rw [Printed.outcome, herror] at houtcome
    have hexit : (1 : UInt32) = 0 := congrArg Outcome.exit houtcome
    exact absurd hexit (by decide)

theorem advertisement_of_untroubled (h : s.Proper) (huntroubled : s.trouble? = none) :
    (advertisementOf s.world.hosted.spoken).render.toUTF8.size ≤ Agent.maxReplySize := by
  by_contra hlarge
  obtain ⟨e, ⟨w, sent⟩, hconnect⟩ : ∃ e after,
      s.carrier.connect s.invocation.timeout (s.world, []) = (.error e, after) :=
    connect_of_cut h.atRoot (Nat.lt_of_not_le hlarge)
  simp [trouble?, runLoggedIn, Conversation.login, Conversation.start, hconnect,
    Printed.failed] at huntroubled

theorem login_of_untroubled (h : s.Proper) (huntroubled : s.trouble? = none) :
    s.world.passed.Fits s.generation none (.login s.login) := by
  by_contra hnot
  have hspoken : s.world.passed.hosted.spoken ⊆ generations := h.spoken
  have hg : s.generation ∈ s.world.passed.hosted.spoken := h.generation_mem
  have hconnect : s.carrier.connect s.invocation.timeout (s.world, []) = _ :=
    connect_of_root h.spoken (List.ne_nil_of_mem h.generation_mem) h.atRoot
      (advertisement_of_untroubled h huntroubled)
  obtain ⟨e, ⟨t, after⟩, hlogin⟩ : ∃ e after,
      Conversation.loginOver s.carrier s.invocation.timeout
        (linkTo s.invocation.server.asDirectory s.generation (.ready ⟨cookiesOf none⟩)) s.login
        (fun l => .apart (some l)) (s.world.passed,
          [asked s.invocation.server.asDirectory s.invocation.timeout]) = (.error e, after) :=
    loginOver_of_not_fits hspoken hg h.allows.1 hnot _
  have hstart : (Conversation.start s.invocation.timeout).login s.carrier s.login (s.world, []) =
      (.error e, t, after) := by
    simp only [Conversation.login, Conversation.start, hconnect]
    exact hlogin
  simp [trouble?, runLoggedIn, hstart, Printed.failed] at huntroubled

/-- What goes wrong in a run whose login went well goes wrong in what was ordered. -/
theorem carryOut_of_untroubled (h : s.Proper) (huntroubled : s.trouble? = none) :
    (s.invocation.order.carryOut s.carrier (s.conversation (some s.key))
      (s.turned 0, s.sent 0)).1.error = none := by
  have hlogin := login_of_proper h (advertisement_of_untroubled h huntroubled)
    (login_of_untroubled h huntroubled)
  rw [trouble?, runLoggedIn, hlogin] at huntroubled
  exact huntroubled

theorem execute_page_of_not_fits (h : s.Proper) {n : Nat}
    (hnot : ¬ (s.turned n).Fits s.generation (some s.key) (pageCommand s.query n)) :
    ∃ e after, (s.conversation (some s.key)).execute s.carrier (pageCommand s.query n)
      (s.turned n, s.sent n) = (.error e, after) := by
  have hspoken : (s.turned n).hosted.spoken = s.world.hosted.spoken := Premises.spoken_turned n
  exact execute_of_not_fits (hspoken ▸ h.spoken) (hspoken ▸ h.generation_mem) (h.allows.2.2 n) hnot

/-- If every page up to one can be read, then that one can. -/
theorem page_of_untroubled (h : s.Proper) (huntroubled : s.trouble? = none) {n : Nat}
    (hn : n < s.shown)
    (hearlier : ∀ m < n, (s.turned m).Fits s.generation (some s.key) (pageCommand s.query m)) :
    (s.turned n).Fits s.generation (some s.key) (pageCommand s.query n) := by
  by_contra hnot
  have hcarried := carryOut_of_untroubled h huntroubled
  obtain ⟨e, after, hfails⟩ := execute_page_of_not_fits h hnot
  rw [h.order, Order.carryOut] at hcarried
  cases n with
  | zero =>
    have hbegin : (s.conversation (some s.key)).execute s.carrier (.searchBegin s.query)
        (s.turned 0, s.sent 0) = (.error e, after) := hfails
    rw [hbegin] at hcarried
    cases hcarried
  | succ n =>
    have hshown : s.shown = min (max 1 s.pages.toNat) s.count := rfl
    have herror := error_showPages
      (fun n => s.query.kind.payload (pageAt s.rows s.size n))
      (fun _ => s.conversation (some s.key)) (fun n => (s.turned (n + 1), s.sent (n + 1)))
      (fun m (hm : m < n) => execute_next h (by omega) (hearlier (m + 1) (by omega)))
      (fun m hm => by rw [isLastFound_page h (by omega)]; exact decide_eq_false (by omega))
      ⟨after, hfails⟩ (s.pages.toNat - 1) (Nat.zero_le n) (by omega)
    rw [execute_begin h (hearlier 0 (Nat.succ_pos n))] at hcarried
    cases hcarried.symm.trans herror

/-- **Nothing is shown in full that could not be read in whole.** -/
theorem fits_of_shown (h : s.Proper) (hshown : s.ShowsInFull) :
    (advertisementOf s.world.hosted.spoken).render.toUTF8.size ≤ Agent.maxReplySize ∧
      s.world.passed.Fits s.generation none (.login s.login) ∧
      ∀ n < s.shown, (s.turned n).Fits s.generation (some s.key) (pageCommand s.query n) := by
  have huntroubled := trouble?_of_shown h hshown
  refine ⟨advertisement_of_untroubled h huntroubled, login_of_untroubled h huntroubled, ?_⟩
  intro n
  induction n using Nat.strong_induction_on with
  | h n ih =>
    intro hn
    exact page_of_untroubled h huntroubled hn fun m hm => ih m hm (hm.trans hn)

/-! ## Searches that are too long -/

/-- A search for accounts by a text of more letters than the server reads bytes. -/
def longSearch : SearchRun :=
  quietly (.accounts { AccountQuery.standard with
    text := some (String.ofList (List.replicate 2100000 'x')) }) 1

theorem long_search_fails : longSearch.Proper ∧ ¬ longSearch.ShowsInFull := by
  have hone {n : Nat} (hn : n < longSearch.shown) : n = 0 := by
    have hshown : longSearch.shown ≤ 1 := Nat.min_le_left ..
    omega
  have hproper : longSearch.Proper := by
    refine proper_quietly rfl ⟨fun _ _ => nofun, fun n hn => ?_, fun n hn => ?_⟩
    · obtain rfl := hone hn
      exact admitted_quietly
    · obtain rfl := hone hn
      rfl
  refine ⟨hproper, fun hshown => ?_⟩
  have hfirst := (fits_of_shown hproper hshown).2.2 0 one_le_shown
  have hallows : generation11.allowsCommand (.searchBegin .accounts) = true := rfl
  have htext : longSearch.generation.commandText (.searchBegin longSearch.query) = .ok _ :=
    if_pos hallows
  have hlarge := length_text_le_size rfl htext
  rw [String.toList_ofList, List.length_replicate] at hlarge
  have hsmall := hlarge.trans (hfirst.request _ htext)
  exact absurd hsmall (by decide)

/-- A reason of so many letters. -/
def reasonOf (n : Nat) : String := String.ofList (List.replicate n 'x')

theorem toList_reasonOf (n : Nat) : (reasonOf n).toList = List.replicate n 'x' :=
  String.toList_ofList

theorem trim_reasonOf (n : Nat) : Text.trim (reasonOf n) = reasonOf n := by
  have hplain : ∀ c ∈ (reasonOf n).toList, Text.isBlank c = false := by
    intro c hc
    rw [toList_reasonOf] at hc
    rw [List.eq_of_mem_replicate hc]
    decide
  rw [Text.trim, Text.trimChars_of_no_blank hplain, String.ofList_toList]

theorem reasonOf_ne_empty {n : Nat} (hn : n ≠ 0) : reasonOf n ≠ "" := by
  rw [ne_eq, ← String.toList_eq_nil_iff, toList_reasonOf, List.replicate_eq_nil_iff]
  exact hn

/-- Ada is banned for such a reason. -/
def adaIsBanned (letters : Nat) : Service.Event :=
  Service.administratorDoes (some Service.firstSession)
    (.userBan Service.ada (reasonOf letters) none) 0

/-- Ada is given an account, and banned so many times. -/
def adaIsBannedOften (n letters : Nat) : List Service.Event :=
  Service.adaComes ++ List.replicate n (adaIsBanned letters)

/-- The server when Ada has her account. -/
def withAda : Service := OpenService.sample.server.advanceAll Service.adaComes

/-- The server when she has been banned so many times. -/
def withBans (n letters : Nat) : Service :=
  (fun s => s.bannedBy (OpenService.sampleRequest (some Service.firstSession))
    Service.firstSession Service.ada "ada" ⟨reasonOf letters, none⟩)^[n] withAda

theorem mayBan_withAda : withAda.MayBan (OpenService.sampleRequest (some Service.firstSession))
    ⟨Service.firstSession, "root", true, .none, 5000⟩ Service.ada "ada" where
  atRest := by
    have hquiet : ∀ e ∈ Service.adaComes, e.Quiet := by
      simp [Service.adaComes, Service.administratorDoes, Service.Event.Quiet, Draw.quiet]
    exact Service.atRest_advanceAll (OpenService.Begins.atRest (.administered ..)) hquiet
  distinct := by
    have hnothing : OpenService.sample.run [] = some OpenService.sample := rfl
    exact Service.distinct_advanceAll (OpenService.distinct_run (.administered ..) hnothing) _
  admitted := by
    have hlive : (withAda.sessions.get Service.firstSession 5000).1 =
        some ⟨Service.firstSession, "root", true, .none, 5000⟩ := by decide +kernel
    have haccount : (withAda.store.table.rows.find? (·.id == OpenService.sampleAdmin)).map
        (·.activeBan? 5) = some none := by decide +kernel
    exact ⟨rfl, hlive, Option.map_eq_some_iff.1 haccount⟩
  admin := rfl
  other := by decide
  named := by decide +kernel

theorem advanceAll_bannedOften (n : Nat) {letters : Nat} (hletters : letters ≠ 0) :
    OpenService.sample.server.advanceAll (adaIsBannedOften n letters) = withBans n letters := by
  have hreason : Text.trim (reasonOf letters) ≠ "" := by
    rw [trim_reasonOf]
    exact reasonOf_ne_empty hletters
  have hforGood : ¬ (none : Option UInt64).any (· ≤ 5) = true := nofun
  have hbans := Service.advanceAll_bans mayBan_withAda hreason hforGood
    (fun _ => .quiet ⟨⟨0⟩⟩ ⟨0⟩ .made) n
  rw [trim_reasonOf] at hbans
  rw [adaIsBannedOften, Service.advanceAll, List.foldl_append]
  exact hbans

/-- What is remembered of one of the bans. -/
def banEvent (letters : Nat) (number : UInt64) : AuditEvent :=
  (banNote (OpenService.sampleRequest (some Service.firstSession)) OpenService.sampleAdmin "ada"
    ⟨reasonOf letters, none⟩).numbered number

theorem le_length_banEvent (letters : Nat) (number : UInt64) :
    letters ≤ (banEvent letters number).message.toList.length := by
  rw [banEvent, AuditNote.numbered, banNote, String.toList_append, List.length_append,
    toList_reasonOf, List.length_replicate]
  exact Nat.le_add_left ..

theorem log_withBans (n letters : Nat) :
    (withBans n letters).store.log = withAda.store.log ++ (List.range n).map fun i =>
      banEvent letters (UInt64.ofNat (withAda.store.log.length + i + 1)) :=
  Service.log_bans ..

/-- The log has all the letters. -/
theorem le_messagesLength_withBans (n letters : Nat) :
    n * letters ≤ messagesLength (withBans n letters).store.log := by
  have hbans := List.card_nsmul_le_sum (((List.range n).map fun i =>
    banEvent letters (UInt64.ofNat (withAda.store.log.length + i + 1))).map
      (·.message.toList.length)) letters (by
    rw [List.map_map]
    exact List.forall_mem_map.2 fun i _ => le_length_banEvent letters _)
  rw [List.length_map, List.length_map, List.length_range, smul_eq_mul] at hbans
  rw [log_withBans, messagesLength, List.map_append, List.sum_append]
  exact hbans.trans (Nat.le_add_left ..)

/-- Before anything else happens, Ada is banned so many times. -/
def crowdedPremises (n letters : Nat) : Premises :=
  ⟨quietPremises.hosted, fun m => ⟨if m = 0 then adaIsBannedOften n letters else [], 5000,
    Hosted.perRequest * (m + 1)⟩⟩

/-- The first page of the audit log after that. -/
def auditPage (n letters : Nat) : SearchRun :=
  amid (crowdedPremises n letters) (.audit .standard) 1

/-- The world when the client has seen which generations there are. -/
def afterBans (n letters : Nat) : Premises :=
  ⟨⟨withBans n letters, generations, 5000, Hosted.perRequest * 1 + Hosted.perRequest⟩,
    fun m => (crowdedPremises n letters).ahead (m + 1)⟩

theorem passed_auditPage (n : Nat) {letters : Nat} (hletters : letters ≠ 0) :
    (auditPage n letters).world.passed = afterBans n letters := by
  have hpassed : (auditPage n letters).world.passed =
      ⟨⟨OpenService.sample.server.advanceAll (adaIsBannedOften n letters), generations, 5000,
        Hosted.perRequest * 1 + Hosted.perRequest⟩,
        fun m => (crowdedPremises n letters).ahead (m + 1)⟩ := rfl
  rw [hpassed, advanceAll_bannedOften n hletters, afterBans]

theorem matchesEvent_standard (e : AuditEvent) : matchesEvent .standard e = true := by
  have hlate : e.time ≤ 18446744073709551615 :=
    UInt64.le_iff_toNat_le.2 (Nat.le_pred_of_lt e.time.toNat_lt)
  simp [matchesEvent, AuditQuery.standard, TimeRange.contains, TimeRange.all, hlate]

theorem rows_auditPage (n letters : Nat) :
    (auditPage n letters).rows = sortedBy (compareEvents AuditQuery.standard.ordering)
      (auditPage n letters).loggedIn.found.server.store.log := by
  have hlisting : (auditPage n letters).rows =
      sortedBy (compareEvents AuditQuery.standard.ordering)
        ((auditPage n letters).loggedIn.found.server.store.log.filter
          (matchesEvent .standard)) := rfl
  rw [hlisting, List.filter_eq_self.2 fun e _ => matchesEvent_standard e]

theorem loggedIn_auditPage (n : Nat) {letters : Nat} (hletters : letters ≠ 0) :
    (auditPage n letters).loggedIn =
      (afterBans n letters).after none (.login ⟨"root", "correct horse"⟩) := by
  rw [loggedIn, passed_auditPage n hletters]
  rfl

theorem key_auditPage (n : Nat) {letters : Nat} (hletters : letters ≠ 0) :
    (auditPage n letters).key =
      ⟨OpenService.sampleAdmin, ((afterBans n letters).found.draw 0).session⟩ := by
  rw [key, passed_auditPage n hletters]
  rfl

/-- The rows fit on one page. -/
theorem length_rows_auditPage : (auditPage 9 2000000).rows.length ≤ 25 := by
  let w := (afterBans 9 2000000).after none (.login ⟨"root", "correct horse"⟩)
  have hstored : w.found.server.store.table.rows.length + w.found.server.store.log.length ≤
      25 := by decide +kernel
  refine (Query.length_listing_le ..).trans ?_
  rw [loggedIn_auditPage 9 (by decide)]
  exact hstored

theorem proper_auditPage : (auditPage 9 2000000).Proper := by
  have haccepted : ((afterBans 9 2000000).execution none
      (.login ⟨"root", "correct horse"⟩)).response =
        .success ((afterBans 9 2000000).request none).requestId
          (.loginOk ⟨OpenService.sampleAdmin, "root", "root@example.org", "Root", true, 0⟩) := by
    decide +kernel
  rw [← passed_auditPage 9 (by decide)] at haccepted
  have hone {n : Nat} (hn : n < (auditPage 9 2000000).shown) : n = 0 := by
    have hshown : (auditPage 9 2000000).shown ≤ 1 := Nat.min_le_left ..
    omega
  have hsteady : (auditPage 9 2000000).loggedIn.Steady (auditPage 9 2000000).key
      (.audit .standard) (auditPage 9 2000000).rows (auditPage 9 2000000).shown := by
    refine ⟨fun _ _ => nofun, fun n hn => ?_, fun n hn => ?_⟩
    · obtain rfl := hone hn
      rw [key_auditPage 9 (by decide), loggedIn_auditPage 9 (by decide), Premises.turned]
      exact exists_admitted rfl (by decide +kernel) (by decide +kernel)
    · obtain rfl := hone hn
      rfl
  exact proper_amid rfl rfl haccepted hsteady
    (Nat.lt_of_le_of_lt length_rows_auditPage (by decide))

/-- No event is lost by logging in. -/
theorem Proper.log_loggedIn (h : s.Proper) :
    s.world.passed.found.server.store.log <+: s.loggedIn.hosted.server.store.log := by
  obtain ⟨id, haccepted⟩ := h.accepted
  obtain ⟨account, -, -, he⟩ :=
    Service.execute_login_of_accepted _ (Service.loginFault?_of_success haccepted)
  have hserver : s.loggedIn.hosted.server = _ := congrArg Prod.snd he
  rw [hserver, Service.enteredBy, Transaction.commit_eq]
  exact List.prefix_append ..

theorem le_messagesLength_rows {n letters : Nat} (h : (auditPage n letters).Proper)
    (hletters : letters ≠ 0) : n * letters ≤ messagesLength (auditPage n letters).rows := by
  have hkept := h.log_loggedIn
  rw [passed_auditPage n hletters] at hkept
  obtain ⟨more, hlog⟩ : (withBans n letters).store.log <+:
      (auditPage n letters).loggedIn.found.server.store.log := hkept
  have hperm := (sortedBy_perm (compareEvents AuditQuery.standard.ordering)
    (auditPage n letters).loggedIn.found.server.store.log).map (·.message.toList.length)
  rw [rows_auditPage, messagesLength, hperm.sum_eq, ← hlog, List.map_append, List.sum_append]
  exact (le_messagesLength_withBans n letters).trans (Nat.le_add_right ..)

theorem items_pageAt {Row : Type} {rows : List Row} {size : UInt32}
    (h : rows.length ≤ size.toNat) : (pageAt rows size 0).items = rows := by
  rw [pageAt, Nat.zero_mul, List.drop_zero, List.take_of_length_le h]

/-- Of nine long reasons no page is shown. -/
theorem long_page_fails : (auditPage 9 2000000).Proper ∧ ¬ (auditPage 9 2000000).ShowsInFull := by
  refine ⟨proper_auditPage, fun hshown => ?_⟩
  have hfirst := (fits_of_shown proper_auditPage hshown).2.2 0 one_le_shown
  have hresponse := proper_auditPage.response one_le_shown
  have hg : (auditPage 9 2000000).generation ∈ generations :=
    proper_auditPage.spoken proper_auditPage.generation_mem
  have hroom := messagesLength_le_of_fits hg (proper_auditPage.allows.2.2 0) hfirst hresponse
  have hsize : (auditPage 9 2000000).size.toNat = 25 := by decide +kernel
  have hfew : (auditPage 9 2000000).rows.length ≤ (auditPage 9 2000000).size.toNat := by
    rw [hsize]
    exact length_rows_auditPage
  rw [items_pageAt hfew] at hroom
  have hlong := le_messagesLength_rows proper_auditPage (by decide)
  exact absurd (hlong.trans hroom) (by decide)

/-- **Either limit cuts a search short.** -/
theorem limits_cut_searches_short :
    (longSearch.Proper ∧ ¬ longSearch.ShowsInFull) ∧
      (auditPage 9 2000000).Proper ∧ ¬ (auditPage 9 2000000).ShowsInFull :=
  ⟨long_search_fails, long_page_fails⟩

end SearchRun

end AcctAdmin.Console
