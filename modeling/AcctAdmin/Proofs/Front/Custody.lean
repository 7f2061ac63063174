import AcctAdmin.Proofs.Command.Estrangement
import AcctAdmin.Proofs.Conversation.Custody
import AcctAdmin.Proofs.Front.Links

/-!
# Sessions in the custody of links

What becomes of a client's sessions when it talks to a server over links: the two know of the same
session, if there is one, and a command over a link leaves it at that (`custody_of_links`).
-/

set_option autoImplicit false

namespace AcctAdmin.Server

open AcctAdmin.Protocol AcctAdmin.Client

/-! ## One command -/

section Commands

variable {w w' : Premises} {log log' : List Exchange} {keys : List SessionKey}
  {own : Option SessionKey} {c : Command} {result : Except Error Response}

theorem Unheard.spoken (hunheard : Unheard w w' log log') :
    w'.hosted.spoken = w.hosted.spoken := by
  rcases hunheard.world with rfl | rfl <;> rfl

theorem Unheard.leavesOne (hunheard : Unheard w w' log log') (h : w.Among keys)
    (hissued : issuedIn log ⊆ keys)
    (hleaves : w.hosted.server.sessions.LeavesOne (issuedIn log) own none) :
    w'.hosted.server.sessions.LeavesOne (issuedIn log') own none := by
  rw [hunheard.issued]
  rcases hunheard.world with rfl | rfl
  · exact hleaves
  · exact h.leavesOne_passed hissued hleaves

theorem Heard.leavesOne (hheard : Heard own c result w w' log log') (h : w.Among keys)
    (hissued : issuedIn log ⊆ keys)
    (hleaves : w.hosted.server.sessions.LeavesOne (issuedIn log) own none) :
    w'.hosted.server.sessions.LeavesOne (issuedIn log')
      (SessionChange.after own (w.execution own c).session) none := by
  rw [hheard.issued, hheard.world]
  exact h.leavesOne_after hissued hleaves c

/-- To be refused begins no session. -/
theorem Heard.leavesOne_of_refused (hheard : Heard own c result w w' log log') (h : w.Among keys)
    (hissued : issuedIn log ⊆ keys) {refusal : Refusal}
    (hrefused : (w.execution own c).response = .refused refusal) {other : Option SessionKey}
    (hleaves : w.hosted.server.sessions.LeavesOne (issuedIn log) other none) :
    w'.hosted.server.sessions.LeavesOne (issuedIn log') other none := by
  have hsession : (w.execution own c).session = none := Service.session_of_refused hrefused
  rw [hheard.issued, hheard.world, hsession]
  have hfound := h.leavesOne_found hissued hleaves
  rcases Service.turns_execute w.found.server (w.request own) c w.found.draw with
    ⟨-, hdwindles⟩ | ⟨change, hchange, -⟩
  · exact (hfound.dwindles hdwindles).told
  · cases hsession.symm.trans hchange

theorem refused_of_answerTo {response : Response} (hsuits : response.Suits c.kind) {e : Error}
    (h : answerTo c (.ok response) = .error e) : ∃ refusal, response = .refused refusal := by
  cases response with
  | refused refusal => exact ⟨refusal, rfl⟩
  | success id reply =>
    obtain ⟨payload, hpayload⟩ := payload?_of_kind hsuits
    simp [answerTo, Except.bind, Outcome.ofResponse, hpayload, Outcome.toAnswer] at h

/-- Whoever is told to log in has no session. -/
theorem Heard.leavesNone_of_mendable (hheard : Heard own c result w w' log log')
    (h : w.Among keys) (hissued : issuedIn log ⊆ keys) (hmend : Conversation.Mendable c result)
    (hleaves : w.hosted.server.sessions.LeavesOne (issuedIn log) own none) :
    w'.hosted.server.sessions.LeavesOne (issuedIn log') none none := by
  obtain ⟨refusal, hrefused, hmendable⟩ := hmend
  obtain ⟨hcode, hlogin⟩ : refusal.code = .authentication ∧ c.kind.isLogin = false := by
    simpa [Conversation.isMendable, Refusal.isAuthentication] using hmendable
  have hresponse : (w.execution own c).response = .refused refusal :=
    Except.ok.inj (hheard.result.symm.trans hrefused)
  have hkept := hheard.leavesOne_of_refused h hissued hresponse hleaves
  intro key hkey htheirs
  obtain rfl : own = some key := hkept key hkey htheirs
  cases hneeds : needsCaller c with
  | true =>
    rw [hheard.world] at hkey
    exact absurd hkey (Service.gone_of_unauthenticated hneeds hresponse hcode rfl)
  | false =>
    cases c with
    | login login => cases hlogin
    | logout => cases hresponse.symm.trans (Service.response_logout_of_key rfl)
    | _ => cases hneeds

theorem Heard.leavesNone_of_logout (hheard : Heard own .logout result w w' log log')
    (h : w.Among keys) (hissued : issuedIn log ⊆ keys)
    (hleaves : w.hosted.server.sessions.LeavesOne (issuedIn log) own none) :
    w'.hosted.server.sessions.LeavesOne (issuedIn log') none none := by
  have hended : SessionChange.after own (w.execution own .logout).session = none := by
    rcases Service.turns_execute_logout w.found.server (w.request own) w.found.draw with
      ⟨hown, hsession, -⟩ | ⟨hsession, -⟩
    · rw [show (w.execution own .logout).session = none from hsession]
      exact hown
    · rw [show (w.execution own .logout).session = some .ended from hsession]
      rfl
  have hleft := hheard.leavesOne h hissued hleaves
  rwa [hended] at hleft

end Commands

/-! ## Custody -/

section

variable {keys : List SessionKey} {link link' : Link Agent} {c : Command} {timeout : Duration}
  {w w' : Premises × List Exchange} {result : Except Error Response}

/-- Where a link shows the only session that there may be of those that the client was given. -/
structure Held (keys : List SessionKey) (link : Link Agent) (w : Premises × List Exchange) :
    Prop where
  among : w.1.Among keys
  presents : Accounted keys w.2 → ∃ own, Presents w.1.hosted.spoken link own ∧
    w.1.hosted.server.sessions.LeavesOne (issuedIn w.2) own none

/-- Where there is no session of those that the client was given. -/
structure Clear (keys : List SessionKey) (w : Premises × List Exchange) : Prop where
  among : w.1.Among keys
  leavesNone : Accounted keys w.2 →
    w.1.hosted.server.sessions.LeavesOne (issuedIn w.2) none none

theorem clear_begin {w : Premises} (h : w.Among keys) : Clear keys (w, []) := by
  refine ⟨h, fun _ key _ htheirs => ?_⟩
  rcases htheirs with hgiven | hannounced
  · cases hgiven
  · cases hannounced

theorem Clear.not_mem_live (h : Clear keys w) (haccounted : Accounted keys w.2) {key : SessionKey}
    (hkey : key ∈ issuedIn w.2) : key ∉ w.1.hosted.server.sessions.live.map (·.key) := by
  intro hlive
  cases h.leavesNone haccounted key hlive (.inl hkey)

/-- What a command over a link does to others, and what is written down of it. -/
theorem among_send (h : w.1.Among keys)
    (hsend : link.send exchangeNetwork c timeout w = (result, link', w')) :
    w'.1.Among keys ∧ w.2 <+: w'.2 := by
  obtain ⟨w, log⟩ := w
  have hworld := send_world link c timeout w log
  rw [hsend] at hworld
  rcases hworld with rfl | ⟨r, rfl⟩
  · exact ⟨h, List.prefix_rfl⟩
  · exact ⟨h.exchange r, List.prefix_append ..⟩

/-- How a command goes over a link that shows the only session. -/
theorem Held.send (h : Held keys link w)
    (hsend : link.send exchangeNetwork c timeout w = (result, link', w'))
    (haccounted : Accounted keys w'.2) :
    issuedIn w.2 ⊆ keys ∧ ∃ own, w.1.hosted.server.sessions.LeavesOne (issuedIn w.2) own none ∧
      ((Heard own c result w.1 w'.1 w.2 w'.2 ∧
          Presents w.1.hosted.spoken link'
            (SessionChange.after own (w.1.execution own c).session)) ∨
        (Unheard w.1 w'.1 w.2 w'.2 ∧ Presents w.1.hosted.spoken link' own ∧
          (own = none ∨ c ≠ .logout ∧ ∃ e, result = .error e))) := by
  have hbefore := haccounted.before (among_send h.among hsend).2
  obtain ⟨own, hpresents, hleaves⟩ := h.presents hbefore
  exact ⟨hbefore.issued, own, hleaves,
    send_of_presents h.among hpresents hsend haccounted.complete⟩

theorem held_send (h : Held keys link w)
    (hsend : link.send exchangeNetwork c timeout w = (result, link', w')) :
    Held keys link' w' := by
  refine ⟨(among_send h.among hsend).1, fun haccounted => ?_⟩
  obtain ⟨hissued, own, hleaves, ⟨hheard, hpresents⟩ | ⟨hunheard, hpresents, -⟩⟩ :=
    h.send hsend haccounted
  · refine ⟨_, ?_, hheard.leavesOne h.among hissued hleaves⟩
    rw [hheard.world]
    exact hpresents
  · refine ⟨own, ?_, hunheard.leavesOne h.among hissued hleaves⟩
    rw [hunheard.spoken]
    exact hpresents

/-- A login that does not succeed begins no session. -/
theorem clear_turnedAway {login : Login} {e : Error} (h : Held keys link w) (hclear : Clear keys w)
    (hsend : link.send exchangeNetwork (.login login) timeout w = (result, link', w'))
    (hanswer : answerTo (.login login) result = .error e) : Clear keys w' := by
  refine ⟨(among_send h.among hsend).1, fun haccounted => ?_⟩
  have hnone := hclear.leavesNone (haccounted.before (among_send h.among hsend).2)
  obtain ⟨hissued, own, -, ⟨hheard, -⟩ | ⟨hunheard, -, -⟩⟩ := h.send hsend haccounted
  · rw [hheard.result] at hanswer
    have hsuits : (w.1.execution own (.login login)).response.Suits (Command.login login).kind :=
      suits_execute ..
    obtain ⟨refusal, hrefused⟩ := refused_of_answerTo hsuits hanswer
    exact hheard.leavesOne_of_refused h.among hissued hrefused hnone
  · exact hunheard.leavesOne h.among hissued hnone

theorem clear_unknown (h : Held keys link w)
    (hsend : link.send exchangeNetwork c timeout w = (result, link', w'))
    (hmend : Conversation.Mendable c result) : Clear keys w' := by
  refine ⟨(among_send h.among hsend).1, fun haccounted => ?_⟩
  obtain ⟨hissued, own, hleaves, ⟨hheard, -⟩ | ⟨hunheard, -, hnone⟩⟩ := h.send hsend haccounted
  · exact hheard.leavesNone_of_mendable h.among hissued hmend hleaves
  · rcases hnone with rfl | ⟨-, e, rfl⟩
    · exact hunheard.leavesOne h.among hissued hleaves
    · obtain ⟨refusal, hrefused, -⟩ := hmend
      cases hrefused

theorem clear_loggedOut (h : Held keys link w)
    (hsend : link.send exchangeNetwork .logout timeout w = (result, link', w')) :
    Clear keys w' := by
  refine ⟨(among_send h.among hsend).1, fun haccounted => ?_⟩
  obtain ⟨hissued, own, hleaves, ⟨hheard, -⟩ | ⟨hunheard, -, hnone⟩⟩ := h.send hsend haccounted
  · exact hheard.leavesNone_of_logout h.among hissued hleaves
  · rcases hnone with rfl | ⟨hother, -⟩
    · exact hunheard.leavesOne h.among hissued hleaves
    · exact absurd rfl hother

variable {server : Url}

/-- Opening a link begins no session. -/
theorem clear_connect {opened : Except Error (Link Agent)} (hclear : Clear keys w)
    (hconnect : (exchangeNetwork.carrier server standardGenerations).connect timeout w =
      (opened, w')) : Clear keys w' := by
  obtain ⟨w, log⟩ := w
  have hworld := connect_world server standardGenerations timeout w log
  rw [hconnect] at hworld
  obtain ⟨hexecution, -, hpassed⟩ := exchange_asked w server.asDirectory timeout
  obtain rfl : w' = _ := hworld
  have hamong : w.passed.Among keys := hpassed ▸ hclear.among.exchange _
  refine ⟨hamong, fun haccounted => ?_⟩
  have hbefore := haccounted.before (List.prefix_append log _)
  rw [issuedIn_concat_of_silent (by rw [Exchange.told?, hexecution]; rfl)]
  exact hclear.among.leavesOne_passed hbefore.issued (hclear.leavesNone hbefore)

/-- A link that is opened shows nothing, and there is nothing to show. -/
theorem held_connect (hclear : Clear keys w)
    (hconnect : (exchangeNetwork.carrier server standardGenerations).connect timeout w =
      (.ok link, w')) : Held keys link w' := by
  have hafter := clear_connect hclear hconnect
  refine ⟨hafter.among, fun haccounted => ⟨none, ?_, hafter.leavesNone haccounted⟩⟩
  obtain ⟨w, log⟩ := w
  have hpresents := presents_of_connect hclear.among.spoken hconnect haccounted.complete
  have hworld := connect_world server standardGenerations timeout w log
  rw [hconnect] at hworld
  obtain rfl : w' = _ := hworld
  exact hpresents

/-- **Links have custody of sessions**: of all that a client was ever given there is at most the one
that its link shows, and none if it was not let in, was told to log in, or has logged out. -/
theorem custody_of_links (keys : List SessionKey) (server : Url) :
    (exchangeNetwork.carrier server standardGenerations).Custody (Held keys) (Clear keys) where
  opened hconnect hclear := ⟨held_connect hclear hconnect, clear_connect hclear hconnect⟩
  unopened hconnect hclear := clear_connect hclear hconnect
  sent hsend hheld := held_send hheld hsend
  turnedAway hsend hanswer hheld hclear := clear_turnedAway hheld hclear hsend hanswer
  unknown hsend hmend hheld := clear_unknown hheld hsend hmend
  loggedOut hsend hheld := clear_loggedOut hheld hsend
  closed hclear := hclear

end

end AcctAdmin.Server
