import AcctAdmin.Proofs.Front.Premises
import AcctAdmin.Proofs.Front.Visit

/-!
# Exchanges

A client on the premises, with each of its exchanges written down: the request, the reply, and how
the command went that was executed for it, if one was. From the list it can be read which sessions
the client was ever given (`issuedIn`). At most one of them is there after a command, and it is the
one that the client is told of last (`leavesOne_after`).
-/

set_option autoImplicit false

namespace AcctAdmin.Server

open AcctAdmin.Protocol AcctAdmin.Client

/-! ## What is written down -/

/-- One request of a client, and what became of it. -/
structure Exchange where
  request : Http.Request
  reply : Http.Reply
  /-- How the command went that the request brought, if it brought one. -/
  execution? : Option Execution

namespace Exchange

/-- What the client is told of its session. -/
def told? (x : Exchange) : Option SessionChange := x.execution?.bind (·.session)

/-- The session that the client is given. -/
def issued? (x : Exchange) : Option SessionKey := x.told?.bind (·.begun?)

/-- Whether the reply comes to the client whole. An agent reads no more than so much of it. -/
def Complete (x : Exchange) : Prop := x.reply.body.size ≤ Agent.maxReplySize

end Exchange

theorem complete_concat {log : List Exchange} {x : Exchange} (hlog : ∀ y ∈ log, y.Complete)
    (hx : x.Complete) : ∀ y ∈ log ++ [x], y.Complete := by
  intro y hy
  rcases List.mem_append.1 hy with hold | hnew
  · exact hlog y hold
  · rwa [List.mem_singleton.1 hnew]

/-- All sessions that a client was given. -/
def issuedIn (log : List Exchange) : List SessionKey := log.filterMap Exchange.issued?

theorem issuedIn_concat (log : List Exchange) (x : Exchange) :
    issuedIn (log ++ [x]) = issuedIn log ++ x.issued?.toList := by
  rw [issuedIn, List.filterMap_append, issuedIn]
  cases h : x.issued? <;> simp [h]

theorem issuedIn_concat_of_silent {log : List Exchange} {x : Exchange} (h : x.told? = none) :
    issuedIn (log ++ [x]) = issuedIn log := by
  rw [issuedIn_concat, Exchange.issued?, h]
  exact List.append_nil _

/-- Whether all exchanges are complete, and all sessions that they gave are among the given ones. -/
structure Accounted (keys : List SessionKey) (log : List Exchange) : Prop where
  complete : ∀ x ∈ log, x.Complete
  issued : issuedIn log ⊆ keys

theorem Accounted.before {keys : List SessionKey} {log log' : List Exchange}
    (h : Accounted keys log') (hbefore : log <+: log') : Accounted keys log where
  complete x hx := h.complete x (hbefore.subset hx)
  issued := List.Subset.trans (hbefore.filterMap _).subset h.issued

namespace Premises

variable {w : Premises} {keys given : List SessionKey} {own : Option SessionKey} {r : Http.Request}
  {g : Generation} {c : Command}

/-- Serves a request, and writes down what became of it. -/
def exchange (w : Premises) (r : Http.Request) : Exchange × Premises :=
  let (reply, execution, server) := w.found.server.serve w.found.spoken w.circumstances r
  (⟨r, reply, execution⟩,
    w.left { w.found with server := server, supply := w.found.supply + Hosted.perRequest })

def exchanging (r : Http.Request) (w : Premises × List Exchange) :
    Http.Reply × Premises × List Exchange :=
  let (x, after) := w.1.exchange r
  (x.reply, after, w.2 ++ [x])

theorem exchange_of_unheard (h : heard? w.hosted.spoken w.circumstances.requestId r = none) :
    (w.exchange r).1.execution? = none ∧ (w.exchange r).1.reply.setCookie = none ∧
      (w.exchange r).2 = w.passed := by
  obtain ⟨hcookie, hserved⟩ := serve_of_unheard w.found.server h
  unfold exchange
  rw [show w.found.spoken = w.hosted.spoken from rfl]
  generalize w.found.server.serve w.hosted.spoken w.circumstances r = done at *
  rcases done with ⟨reply, execution, server⟩
  cases hserved
  exact ⟨rfl, hcookie, rfl⟩

theorem exchange_of_heard (hkey : presentedKey r = own)
    (h : heard? w.hosted.spoken w.circumstances.requestId r = some (g, c)) :
    w.exchange r =
      (⟨r, replyIn g (w.execution own c).status (w.execution own c).response
        (w.execution own c).session, some (w.execution own c)⟩, w.after own c) := by
  have hserved := serve_of_heard w.found.server h
  rw [hkey] at hserved
  unfold exchange
  rw [show w.found.spoken = w.hosted.spoken from rfl, hserved]
  rfl

/-! ## Others -/

/-- Whether a client can be among others: the generations are the known ones, and nobody else is
given a session of an identifier that is among the client's. Identifiers are drawn at random so that
none is given twice. -/
structure Among (keys : List SessionKey) (w : Premises) : Prop where
  spoken : w.hosted.spoken ⊆ generations
  others : ∀ n, ∀ e ∈ (w.ahead n).events, ∀ key ∈ keys, ¬ e.Issues key.session

theorem Among.exchange (h : w.Among keys) (r : Http.Request) : (w.exchange r).2.Among keys :=
  ⟨h.spoken, fun n => h.others (n + 1)⟩

/-- Others do not bring back what was the client's. -/
theorem Among.leavesOne_found (h : w.Among keys) (hgiven : given ⊆ keys)
    (hleaves : w.hosted.server.sessions.LeavesOne given own none) :
    w.found.server.sessions.LeavesOne given own none := by
  intro key hkey htheirs
  by_cases hbefore : key ∈ w.hosted.server.sessions.live.map (·.key)
  · exact hleaves key hbefore htheirs
  · rcases htheirs with hmine | hnone
    · have hfresh : ∀ e ∈ (w.ahead 0).events, ¬ e.Issues key.session :=
        fun e he => h.others 0 e he key (hgiven hmine)
      exact absurd hkey (Service.gone_advanceAll hbefore hfresh)
    · cases hnone

theorem Among.leavesOne_passed (h : w.Among keys) (hgiven : given ⊆ keys)
    (hleaves : w.hosted.server.sessions.LeavesOne given own none) :
    w.passed.hosted.server.sessions.LeavesOne given own none := h.leavesOne_found hgiven hleaves

end Premises

/-! ## What becomes of a session -/

namespace Service

theorem turns_execute_login (server : Service) (r : Request) (l : Login) (draws : Nat → Draw) :
    let done := server.execute r (.login l) draws
    (done.1.session = none ∧ done.2.sessions = server.sessions) ∨
      ∃ change, done.1.session = some change ∧
        server.sessions.Turns r.session (draws 0).session done.2.sessions change := by
  intro done
  rcases execute_login server r l draws with ⟨reply, d', hlogs, he⟩ | ⟨halt, d', hturned, he⟩
  · obtain ⟨account, hsessions, hsession⟩ := hlogs.session
    have hrevoked : d'.effects.revoked = [] := hlogs.revoked
    have hafter : done.2.sessions = (server.sessions.without r.session).create
        ⟨account.id, (draws 0).session⟩ account.name account.admin r.now := by
      rw [show done = _ from he]
      change d'.sessions.revoke d'.effects.revoked = _
      rw [hrevoked, hsessions]
      rfl
    refine .inr ⟨.started ⟨account.id, (draws 0).session⟩, ?_, ?_⟩
    · rw [show done = _ from he]
      exact hsession
    · rw [hafter]
      exact .started account.id account.name account.admin r.now
  · refine .inl ?_
    rw [show done = _ from he]
    exact ⟨rfl, hturned.sessions⟩

/-- Whoever shows no session cannot log out; any other session is over then. -/
theorem turns_execute_logout (server : Service) (r : Request) (draws : Nat → Draw) :
    let done := server.execute r .logout draws
    (r.session = none ∧ done.1.session = none ∧ done.2.sessions = server.sessions) ∨
      (done.1.session = some .ended ∧
        server.sessions.Turns r.session (draws 0).session done.2.sessions .ended) := by
  cases hkey : r.session with
  | none =>
    have hrun : (Handling.dispatch server.limits r (draws 0) .logout).outcome
        (server.desk server.store.begin) = _ := Handling.outcome_logout_of_stranger hkey
    rw [execute_of_outcome hrun rfl]
    exact .inl ⟨rfl, rfl, rfl⟩
  | some key =>
    have hrun : (Handling.dispatch server.limits r (draws 0) .logout).outcome
        (server.desk server.store.begin) = _ := Handling.outcome_logout_of_key hkey
    rw [execute_of_outcome hrun rfl]
    refine .inr ⟨rfl, .ended rfl ?_ Sessions.not_mem_remove⟩
    exact Sessions.thins_get.trans (Sessions.thins_filtered _ _)

/-- **What a caller is told of their session is what became of it**: another has begun in place of
it, or it has ended because it was asked to; and nobody is told of nothing if a session has
begun. -/
theorem turns_execute (server : Service) (r : Request) (c : Command) (draws : Nat → Draw) :
    let done := server.execute r c draws
    (done.1.session = none ∧ server.sessions.Dwindles done.2.sessions) ∨
      ∃ change, done.1.session = some change ∧
        server.sessions.Turns r.session (draws 0).session done.2.sessions change := by
  intro done
  cases hneeds : needsCaller c with
  | true =>
    have hlogin : c.kind.isLogin = false := by
      cases c <;> first | rfl | cases hneeds
    exact .inl ⟨session_of_needsCaller hneeds, dwindles_execute hlogin⟩
  | false =>
    cases c with
    | login l =>
      rcases turns_execute_login server r l draws with ⟨hsession, hsame⟩ | hturns
      · exact .inl ⟨hsession, hsame ▸ .refl server.sessions⟩
      · exact .inr hturns
    | logout =>
      rcases turns_execute_logout server r draws with ⟨-, hsession, hsame⟩ | hturns
      · exact .inl ⟨hsession, hsame ▸ .refl server.sessions⟩
      · exact .inr ⟨.ended, hturns⟩
    | _ => cases hneeds

end Service

namespace Premises

variable {w : Premises} {keys given : List SessionKey} {own : Option SessionKey} {r : Http.Request}
  {c : Command}

/-- **After a command at most one session of the client's is there**, and it is the one that it was
told of last. -/
theorem Among.leavesOne_after (h : w.Among keys) (hgiven : given ⊆ keys)
    (hleaves : w.hosted.server.sessions.LeavesOne given own none) (c : Command) :
    (w.after own c).hosted.server.sessions.LeavesOne
      (given ++ ((w.execution own c).session.bind (·.begun?)).toList)
      (SessionChange.after own (w.execution own c).session) none := by
  have hfound := h.leavesOne_found hgiven hleaves
  rcases Service.turns_execute w.found.server (w.request own) c w.found.draw with
    ⟨hsession, hdwindles⟩ | ⟨change, hsession, hturns⟩
  · rw [show (w.execution own c).session = none from hsession]
    exact (hfound.dwindles hdwindles).told
  · rw [show (w.execution own c).session = some change from hsession]
    exact (hfound.turns hturns).told

end Premises

/-! ## The network -/

/-- How a client on the premises reaches the server, with each exchange written down. -/
def exchangeNetwork : Network (Premises × List Exchange) Agent :=
  Agent.network (directWire Premises.exchanging)

end AcctAdmin.Server
