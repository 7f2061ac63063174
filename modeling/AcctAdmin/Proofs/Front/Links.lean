import AcctAdmin.Proofs.Front.Exchanges
import AcctAdmin.Proofs.Protocol.Choice

/-!
# Over links

What becomes of a command that is sent over a link, exchange by exchange. A link that a client opens
leads to a generation of the server, unless the path of the server's URL begins with a question
mark. Then nothing is seen of it but the root, and the server takes all that is sent there for
something that it cannot be asked for. Over the one a command is executed, or the client is told an
error (`send_linked`), and over the other it is never heard (`send_astray`).
-/

set_option autoImplicit false

namespace AcctAdmin

/-! ## Paths that are not seen -/

namespace Url

/-- Whether the path of a URL begins with a question mark. -/
def Veiled (u : Url) : Prop :=
  ∃ first rest, u.path = .rooted (first :: rest) ∧ first.toList.head? = some '?'

/-- What is seen of the path of a URL: all before a question mark. -/
def seen (u : Url) : String :=
  String.ofList
    ((u.path.text ++ (u.query.map ("?" ++ ·)).getD "").toList.takeWhile (· != '?'))

variable {u : Url}

theorem toList_text_rooted (first : String) (rest : List String) :
    (UrlPath.rooted (first :: rest)).text.toList =
      '/' :: (first.toList ++ (UrlPath.rooted rest).text.toList) := by
  rw [UrlPath.text, List.map_cons, String.join_cons, String.toList_append, String.toList_append]
  rfl

theorem seen_of_veiled (h : u.Veiled) : u.seen = "/" := by
  obtain ⟨first, rest, hpath, hfirst⟩ := h
  obtain ⟨more, hmore⟩ := List.head?_eq_some_iff.1 hfirst
  rw [seen, hpath, String.toList_append, toList_text_rooted, hmore]
  rfl

/-- Of nothing but the root the root is seen. -/
theorem veiled_of_seen {segments : List String} (hpath : u.path = .rooted segments)
    (hseen : u.seen = "/") : segments = [""] ∨ u.Veiled := by
  have hroot : (u.path.text ++ (u.query.map ("?" ++ ·)).getD "").toList.takeWhile (· != '?') =
      ['/'] := String.ofList_inj.1 hseen
  rw [hpath, String.toList_append] at hroot
  cases segments with
  | nil =>
    cases hquery : u.query <;> simp [UrlPath.text, hquery] at hroot
  | cons first rest =>
    rw [toList_text_rooted, List.cons_append, List.takeWhile_cons_of_pos (by decide)] at hroot
    have hnone := (List.cons.inj hroot).2
    cases hfirst : first.toList with
    | cons c more =>
      right
      have hmark : c = '?' := by simpa [hfirst] using hnone
      exact ⟨first, rest, hpath, by rw [hfirst, hmark]; rfl⟩
    | nil =>
      left
      cases rest with
      | nil => rw [String.toList_eq_nil_iff.1 hfirst]
      | cons second more => simp [hfirst, toList_text_rooted] at hnone

/-- The path of a directory ends with nothing. -/
theorem exists_of_asDirectory {passed : List String} (h : u.asDirectory.path = .rooted passed) :
    ∃ above, passed = above ++ [""] := by
  rw [asDirectory] at h
  cases hpath : u.path with
  | rootless text =>
    simp only [hpath, UrlPath.asDirectory] at h
    split at h
    · cases h
    · split at h <;> cases h
  | rooted segments =>
    simp only [hpath, UrlPath.asDirectory, UrlPath.rooted.injEq] at h
    split at h
    · rename_i hlast
      obtain ⟨above, rfl⟩ := List.getLast?_eq_some_iff.1 hlast
      exact ⟨above, h.symm⟩
    · exact ⟨segments, h.symm⟩

end Url

end AcctAdmin

namespace AcctAdmin.Server

open AcctAdmin.Protocol AcctAdmin.Client

/-- What is sent to where nothing but the root is seen brings no command. -/
theorem heard?_of_seen {jar : CookieJar} {method : String} {url : Url}
    {headers : List (String × String)} {body : ByteArray} {timeout : Duration}
    (hseen : url.seen = "/") (spoken : List Generation) (id : RequestId) :
    heard? spoken id (Agent.compose jar method url headers body timeout).received = none := by
  have hpath : (Agent.compose jar method url headers body timeout).received.path = url.seen := rfl
  rw [heard?, hpath, hseen, route?, if_pos rfl]

/-- What is not posted brings no command. -/
theorem heard?_of_method {r : Http.Request} (hmethod : r.method ≠ "POST")
    (spoken : List Generation) (id : RequestId) : heard? spoken id r = none := by
  unfold heard?
  split
  · exact if_neg fun h => hmethod h.1
  · rfl

/-! ## What is sent -/

section Sending

variable {w w' : Premises} {log log' : List Exchange} {keys : List SessionKey} {g : Generation}
  {base : Url} {own : Option SessionKey} {c : Command} {text : String} {timeout : Duration}
  {link link' : Link Agent} {jar : CookieJar} {result : Except Error Response}

/-- How a command is posted over a link. -/
def postedOver (link : Link Agent) (jar : CookieJar) (c : Command) (text : String)
    (timeout : Duration) : Http.Request :=
  (Agent.compose jar "POST" (link.urlFor c.kind)
    [("Content-Type", link.generation.contentType), ("Accept", link.generation.contentType)]
    text.toUTF8 timeout).received

theorem postedOver_linkTo (base : Url) (g : Generation) (own : Option SessionKey) (c : Command)
    (text : String) (timeout : Duration) :
    postedOver (linkTo base g (.ready ⟨cookiesOf own⟩)) ⟨cookiesOf own⟩ c text timeout =
      posted base g own (endpointFor c.kind) text.toUTF8 timeout := by
  rw [postedOver, urlFor_linkTo]
  rfl

/-- What goes over the wire is one exchange. -/
theorem directWire_exchanging (r : WireRequest) {x : Exchange} {after : Premises}
    (hx : w.exchange r.received = (x, after)) :
    directWire Premises.exchanging r (w, log) =
      (.reply x.reply.status x.reply.contentType x.reply.setCookie.toList x.reply.body none,
        after, log ++ [x]) := by
  rw [directWire, Premises.exchanging]
  simp only [hx]

theorem send_of_unspoken {net : Network (Premises × List Exchange) Agent} {e : CodecError}
    (htext : link.generation.commandText c = .error e) :
    link.send net c timeout (w, log) = (.error (.ofCodec e), link, w, log) := by
  simp only [Link.send, htext]

/-- A command over a link is one exchange. Of its reply is read what is not too much. -/
theorem send_of_ready (hready : link.channel = .ready jar)
    (htext : link.generation.commandText c = .ok text) {x : Exchange} {after : Premises}
    (hx : w.exchange (postedOver link jar c text timeout) = (x, after)) :
    link.send exchangeNetwork c timeout (w, log) =
      (Link.readReply link.generation c.kind
          ⟨x.reply.status, x.reply.contentType, x.reply.body.extract 0 Agent.maxReplySize⟩,
        { link with
          channel := .ready (x.reply.setCookie.toList.foldl CookieJar.receive jar) },
        after, log ++ [x]) := by
  have hserved : directWire Premises.exchanging (Agent.compose jar "POST" (link.urlFor c.kind)
      [("Content-Type", link.generation.contentType),
        ("Accept", link.generation.contentType)] text.toUTF8 timeout) (w, log) = _ :=
    directWire_exchanging _ hx
  simp only [Link.send, htext, exchangeNetwork, Agent.network, hready, Agent.call, hserved]
  rfl

/-- All of the reply is read if the exchange is complete. -/
theorem send_of_complete (hready : link.channel = .ready jar)
    (htext : link.generation.commandText c = .ok text) {x : Exchange} {after : Premises}
    (hx : w.exchange (postedOver link jar c text timeout) = (x, after))
    (hsend : link.send exchangeNetwork c timeout (w, log) = (result, link', w', log'))
    (hcomplete : ∀ x ∈ log', x.Complete) :
    result = Link.readReply link.generation c.kind
        ⟨x.reply.status, x.reply.contentType, x.reply.body⟩ ∧
      link' = { link with
        channel := .ready (x.reply.setCookie.toList.foldl CookieJar.receive jar) } ∧
      w' = after ∧ log' = log ++ [x] := by
  rw [send_of_ready hready htext hx] at hsend
  obtain ⟨hresult, hrest⟩ := Prod.mk.inj hsend
  obtain ⟨hlink, hworld⟩ := Prod.mk.inj hrest
  obtain ⟨hafter, hlog⟩ := Prod.mk.inj hworld
  have hx : x.Complete := hcomplete x (by rw [← hlog]; simp)
  have hread : Agent.readBody timeout x.reply.body none = .ok x.reply.body := readBody_of_fits hx
  rw [Except.ok.inj hread] at hresult
  exact ⟨hresult.symm, hlink.symm, hafter.symm, hlog.symm⟩

/-- A command over a link is one exchange, or none. -/
theorem send_world (link : Link Agent) (c : Command) (timeout : Duration) (w : Premises)
    (log : List Exchange) :
    (link.send exchangeNetwork c timeout (w, log)).2.2 = (w, log) ∨
      ∃ r, (link.send exchangeNetwork c timeout (w, log)).2.2 =
        ((w.exchange r).2, log ++ [(w.exchange r).1]) := by
  cases htext : link.generation.commandText c with
  | error e =>
    rw [send_of_unspoken htext]
    exact .inl rfl
  | ok text =>
    cases hchannel : link.channel with
    | closed =>
      refine .inl ?_
      simp only [Link.send, htext, hchannel]
      rfl
    | ready jar =>
      rw [send_of_ready hchannel htext rfl]
      exact .inr ⟨_, rfl⟩

/-! ## Over a link to a generation -/

/-- Every generation has a logout, and it is short. -/
theorem logout_fits (hg : g ∈ generations) :
    ∃ text, g.commandText .logout = .ok text ∧ text.toUTF8.size ≤ maxBodySize := by
  revert g
  rw [forall_generations]
  constructor <;> exact ⟨_, rfl, by decide⟩

/-- What is not heard of a command over a link: it was not sent, or the server would not read it. -/
structure Unheard (w w' : Premises) (log log' : List Exchange) : Prop where
  world : w' = w ∨ w' = w.passed
  issued : issuedIn log' = issuedIn log

/-- What is heard of a command is executed, and the response comes back. -/
structure Heard (own : Option SessionKey) (c : Command) (result : Except Error Response)
    (w w' : Premises) (log log' : List Exchange) : Prop where
  result : result = .ok (w.execution own c).response
  world : w' = w.after own c
  issued : issuedIn log' = issuedIn log ++ ((w.execution own c).session.bind (·.begun?)).toList

theorem exchange_of_fits (hspoken : w.hosted.spoken ⊆ generations) (hg : g ∈ w.hosted.spoken)
    (htext : g.commandText c = .ok text) (hsize : text.toUTF8.size ≤ maxBodySize) :
    w.exchange (posted base g own (endpointFor c.kind) text.toUTF8 timeout) =
      (⟨posted base g own (endpointFor c.kind) text.toUTF8 timeout,
        replyIn g (w.execution own c).status (w.execution own c).response
          (w.execution own c).session, some (w.execution own c)⟩, w.after own c) :=
  Premises.exchange_of_heard (presentedKey_posted ..) (heard?_posted hspoken hg _ htext hsize)

theorem exchange_of_too_large (hspoken : w.hosted.spoken ⊆ generations)
    (hg : g ∈ w.hosted.spoken) {e : Endpoint} {body : ByteArray}
    (hsize : maxBodySize < body.size) :
    w.exchange (posted base g own e body timeout) =
      (⟨posted base g own e body timeout, tooLarge, none⟩, w.passed) := by
  have hserved : w.found.server.serve w.found.spoken w.circumstances
      (posted base g own e body timeout) = (tooLarge, none, w.found.server) :=
    serve_of_too_large _ _ hspoken hg hsize
  rw [Premises.exchange, hserved]
  rfl

/-- A command that is not too long is executed, and both sides know of the same session then. -/
theorem send_linked_of_fits (h : w.Among keys) (hg : g ∈ w.hosted.spoken)
    (htext : g.commandText c = .ok text) (hsize : text.toUTF8.size ≤ maxBodySize)
    (hsend : (linkTo base g (.ready ⟨cookiesOf own⟩)).send exchangeNetwork c timeout (w, log) =
      (result, link', w', log')) (hcomplete : ∀ x ∈ log', x.Complete) :
    Heard own c result w w' log log' ∧
      link' = linkTo base g
        (.ready ⟨cookiesOf (SessionChange.after own (w.execution own c).session)⟩) := by
  have hx : w.exchange (posted base g own (endpointFor c.kind) text.toUTF8 timeout) = _ :=
    exchange_of_fits h.spoken hg htext hsize
  rw [← postedOver_linkTo] at hx
  obtain ⟨rfl, rfl, rfl, rfl⟩ := send_of_complete rfl htext hx hsend hcomplete
  obtain ⟨hcarries, hsuits, hjar⟩ := carries_execution _ own (h.spoken hg) htext
  refine ⟨⟨(hcarries.understood hsuits).read, rfl, issuedIn_concat ..⟩, ?_⟩
  rw [hjar]
  rfl

/-- A command that can be read is executed, and so can be read what is written down of it. -/
theorem send_of_legible (h : w.Among keys) (hg : g ∈ w.hosted.spoken)
    (htext : g.commandText c = .ok text) (hfits : w.Fits g own c)
    (hcomplete : ∀ x ∈ log, x.Complete) :
    ∃ log', (linkTo base g (.ready ⟨cookiesOf own⟩)).send exchangeNetwork c timeout (w, log) =
        (.ok (w.execution own c).response,
          linkTo base g (.ready ⟨cookiesOf (SessionChange.after own (w.execution own c).session)⟩),
          w.after own c, log') ∧
      (∀ x ∈ log', x.Complete) ∧
      issuedIn log' = issuedIn log ++ ((w.execution own c).session.bind (·.begun?)).toList := by
  have hsize := hfits.request text htext
  obtain ⟨x, hx, hread⟩ : ∃ x, w.exchange
      (posted base g own (endpointFor c.kind) text.toUTF8 timeout) = (x, w.after own c) ∧
        x.Complete := ⟨_, exchange_of_fits h.spoken hg htext hsize, hfits.reply⟩
  rw [← postedOver_linkTo] at hx
  have hall := complete_concat hcomplete hread
  have hsend : (linkTo base g (.ready ⟨cookiesOf own⟩)).send exchangeNetwork c timeout (w, log) =
      _ := send_of_ready rfl htext hx
  obtain ⟨⟨hresult, -, hissued⟩, hlink⟩ := send_linked_of_fits h hg htext hsize hsend hall
  rw [hresult, hlink] at hsend
  exact ⟨log ++ [x], hsend, hall, hissued⟩

/-- **A command over a link to a generation** is executed, or it is not heard, and the client is
told an error. A logout is always heard. -/
theorem send_linked (h : w.Among keys) (hg : g ∈ w.hosted.spoken)
    (hsend : (linkTo base g (.ready ⟨cookiesOf own⟩)).send exchangeNetwork c timeout (w, log) =
      (result, link', w', log')) (hcomplete : ∀ x ∈ log', x.Complete) :
    (c ≠ .logout ∧ (∃ e, result = .error e) ∧ Unheard w w' log log' ∧
      link' = linkTo base g (.ready ⟨cookiesOf own⟩)) ∨
    (Heard own c result w w' log log' ∧
      link' = linkTo base g
        (.ready ⟨cookiesOf (SessionChange.after own (w.execution own c).session)⟩)) := by
  obtain ⟨logout, hlogout, hshort⟩ := logout_fits (h.spoken hg)
  cases htext : g.commandText c with
  | error e =>
    rw [send_of_unspoken htext] at hsend
    cases hsend
    refine .inl ⟨?_, ⟨_, rfl⟩, ⟨.inl rfl, rfl⟩, rfl⟩
    rintro rfl
    cases htext.symm.trans hlogout
  | ok text =>
    by_cases hsize : text.toUTF8.size ≤ maxBodySize
    · exact .inr (send_linked_of_fits h hg htext hsize hsend hcomplete)
    · have hx : w.exchange (posted base g own (endpointFor c.kind) text.toUTF8 timeout) = _ :=
        exchange_of_too_large h.spoken hg (Nat.lt_of_not_le hsize)
      rw [← postedOver_linkTo] at hx
      obtain ⟨rfl, rfl, rfl, rfl⟩ := send_of_complete rfl htext hx hsend hcomplete
      refine .inl ⟨?_, ⟨_, readReply_tooLarge (h.spoken hg) c.kind⟩,
        ⟨.inr rfl, issuedIn_concat_of_silent rfl⟩, rfl⟩
      rintro rfl
      cases htext.symm.trans hlogout
      exact hsize hshort

/-! ## Over a link that leads astray -/

/-- Whether nothing is seen of where a link leads. -/
structure Astray (link : Link Agent) : Prop where
  ready : ∃ jar, link.channel = .ready jar
  veiled : ∀ k, (link.urlFor k).Veiled

/-- Nothing is heard of a command over such a link. -/
theorem send_astray (hastray : Astray link)
    (hsend : link.send exchangeNetwork c timeout (w, log) = (result, link', w', log')) :
    Astray link' ∧ Unheard w w' log log' := by
  obtain ⟨jar, hready⟩ := hastray.ready
  cases htext : link.generation.commandText c with
  | error e =>
    rw [send_of_unspoken htext] at hsend
    cases hsend
    exact ⟨hastray, .inl rfl, rfl⟩
  | ok text =>
    rcases hx : w.exchange (postedOver link jar c text timeout) with ⟨x, after⟩
    rw [send_of_ready hready htext hx] at hsend
    cases hsend
    have hunheard : heard? w.hosted.spoken w.circumstances.requestId
        (postedOver link jar c text timeout) = none :=
      heard?_of_seen (Url.seen_of_veiled (hastray.veiled c.kind)) _ _
    obtain ⟨hexecution, -, hpassed⟩ := Premises.exchange_of_unheard hunheard
    rw [hx] at hexecution hpassed
    refine ⟨⟨⟨_, rfl⟩, hastray.veiled⟩, .inr hpassed, issuedIn_concat_of_silent ?_⟩
    rw [Exchange.told?, hexecution]
    rfl

/-! ## Over any link that was opened -/

/-- Which session a link shows that leads to one of these generations or astray. -/
inductive Presents (spoken : List Generation) : Link Agent → Option SessionKey → Prop where
  | linked {base : Url} {g : Generation} {own : Option SessionKey} (hg : g ∈ spoken) :
    Presents spoken (linkTo base g (.ready ⟨cookiesOf own⟩)) own
  | astray {link : Link Agent} (h : Astray link) : Presents spoken link none

/-- **A command over a link** is heard, and the link shows what the server has said of the session;
or it is not, and the link shows what it did. The latter is an error if there is a session, and
cannot happen to a logout then. -/
theorem send_of_presents (h : w.Among keys) (hpresents : Presents w.hosted.spoken link own)
    (hsend : link.send exchangeNetwork c timeout (w, log) = (result, link', w', log'))
    (hcomplete : ∀ x ∈ log', x.Complete) :
    (Heard own c result w w' log log' ∧
      Presents w.hosted.spoken link' (SessionChange.after own (w.execution own c).session)) ∨
    (Unheard w w' log log' ∧ Presents w.hosted.spoken link' own ∧
      (own = none ∨ c ≠ .logout ∧ ∃ e, result = .error e)) := by
  cases hpresents with
  | linked hg =>
    rcases send_linked h hg hsend hcomplete with
      ⟨hc, herror, hunheard, rfl⟩ | ⟨hheard, rfl⟩
    · exact .inr ⟨hunheard, .linked hg, .inr ⟨hc, herror⟩⟩
    · exact .inl ⟨hheard, .linked hg⟩
  | astray hastray =>
    obtain ⟨hastray', hunheard⟩ := send_astray hastray hsend
    exact .inr ⟨hunheard, .astray hastray', .inl rfl⟩

end Sending

/-! ## Opening a link -/

section Opening

variable {World Channel : Type}

theorem mem_of_settle {net : Network World Channel} {base : Url}
    {supported : List (Supported World Channel (Link Channel))}
    {reply : HttpReply} {s : Supported World Channel (Link Channel)} {endpoint : Url}
    (h : settle net base supported reply = .ok (s, endpoint)) : s ∈ supported := by
  unfold settle at h
  split at h
  · split at h
    · cases h
    · split at h
      · cases h
      · rename_i choice hchoice
        obtain ⟨place, hbest⟩ := best_of_choose? hchoice
        have hentry : choice.entry ∈ supported := List.mem_of_getElem? hbest.entry
        cases hendpoint : Link.endpointOf net base choice.offer.path with
        | error e =>
          rw [hendpoint] at h
          cases h
        | ok endpoint =>
          rw [hendpoint] at h
          cases h
          exact hentry
  · cases h

section Unsettled

variable {net : Network World Channel} {base : Url} {channel channel' : Channel}
  {timeout : Duration} {w w' : World} {reply : HttpReply}

/-- No link is opened where nothing is settled. -/
theorem negotiate_of_unsettled {supported : List (Supported World Channel (Link Channel))}
    {e : Error}
    (hget : net.get channel base timeout w = (.ok reply, channel', w'))
    (hsettle : settle net base supported reply = .error e) :
    negotiate net base supported channel timeout w = (.error e, w') := by
  simp only [negotiate, hget, hsettle]

theorem negotiate_of_failed (supported : List (Supported World Channel (Link Channel)))
    (hget : net.get channel base timeout w = (.ok reply, channel', w'))
    (h : isSuccessStatus reply.status = false) :
    ∃ e, negotiate net base supported channel timeout w = (.error e, w') := by
  have hsettle : settle net base supported reply = .error (.http reply.status base.text) := by
    rw [settle, h]
    rfl
  exact ⟨_, negotiate_of_unsettled hget hsettle⟩

/-- A server that offers nothing is not settled on. -/
theorem negotiate_of_nothing (supported : List (Supported World Channel (Link Channel)))
    (hget : net.get channel base timeout w = (.ok reply, channel', w'))
    (hstatus : reply.status = 200) (hbody : reply.body = (advertisementOf []).render.toUTF8) :
    ∃ e, negotiate net base supported channel timeout w = (.error e, w') := by
  have hsuccess : isSuccessStatus reply.status = true := by
    rw [hstatus]
    rfl
  have hread : Advertisement.ofBytes? reply.body = some ⟨[]⟩ := by
    rw [hbody, Advertisement.ofBytes?_render]
    rfl
  have hnone : choose? Supported.generation [] supported = none :=
    choose?_eq_none_iff.2 fun _ _ ⟨_, ho, _⟩ => nomatch ho
  have hsettle := settle_of_read net base supported hsuccess hread
  rw [hnone] at hsettle
  exact ⟨_, negotiate_of_unsettled hget hsettle⟩

/-- Nothing is found below a base without a root. -/
theorem negotiate_of_rootless (hresolve : net.resolve = Url.resolve) {spoken : List Generation}
    (hspoken : spoken ⊆ generations) (hsome : spoken ≠ []) {text : String}
    (hpath : base.path = .rootless text)
    (hget : net.get channel base timeout w = (.ok reply, channel', w'))
    (hstatus : reply.status = 200)
    (hbody : reply.body = (advertisementOf spoken).render.toUTF8) :
    ∃ e, negotiate net base (standardGenerations.map Link.speaking) channel timeout w =
      (.error e, w') := by
  obtain ⟨e, he⟩ := endpointOf_of_rootless hresolve (hspoken (latest_mem hspoken hsome)) hpath
  refine ⟨e, negotiate_of_unsettled hget ?_⟩
  rw [settle_of_shown hspoken hsome hstatus hbody, he]
  rfl

end Unsettled

/-- To open a link is to ask once. -/
theorem negotiate_world (net : Network World Channel) (base : Url) (spoken : List Generation)
    (channel : Channel) (timeout : Duration) (w : World) :
    (negotiate net base (spoken.map Link.speaking) channel timeout w).2 =
      (net.get channel base timeout w).2.2 := by
  unfold negotiate
  rcases net.get channel base timeout w with ⟨came, channel', w'⟩
  cases came with
  | error e => rfl
  | ok reply =>
    let supported : List (Supported World Channel (Link Channel)) := spoken.map Link.speaking
    cases hsettle : settle net base supported reply with
    | error e => simp only [supported] at hsettle; simp only [hsettle]
    | ok settled =>
      obtain ⟨s, endpoint⟩ := settled
      obtain ⟨g, -, rfl⟩ := List.mem_map.1 (mem_of_settle hsettle)
      simp only [supported] at hsettle
      simp only [hsettle]
      rfl

end Opening

section Connecting

/-- A client of agents opens a link by asking where the server is. -/
theorem connect_eq {World : Type} (wire : Wire World) (server : Url) (spoken : List Generation)
    (timeout : Duration) (w : World) :
    ((Agent.network wire).carrier server spoken).connect timeout w =
      negotiate (Agent.network wire) server.asDirectory (spoken.map Link.speaking) .fresh timeout
        w := rfl

variable {w w' : Premises} {log log' : List Exchange} {server : Url} {spoken : List Generation}
  {timeout : Duration} {link : Link Agent}

/-- What is asked first is no command, wherever it is asked. -/
theorem exchange_asked (w : Premises) (base : Url) (timeout : Duration) :
    (w.exchange (asked base timeout)).1.execution? = none ∧
      (w.exchange (asked base timeout)).1.reply.setCookie = none ∧
      (w.exchange (asked base timeout)).2 = w.passed := by
  have hmethod : (asked base timeout).method ≠ "POST" := (by decide : "GET" ≠ "POST")
  exact Premises.exchange_of_unheard (heard?_of_method hmethod _ _)

/-- To open a link is one exchange. -/
theorem get_asked (base : Url) (timeout : Duration) (w : Premises) (log : List Exchange) :
    exchangeNetwork.get .fresh base timeout (w, log) =
      (.ok ⟨(w.exchange (asked base timeout)).1.reply.status,
          (w.exchange (asked base timeout)).1.reply.contentType,
          (w.exchange (asked base timeout)).1.reply.body.extract 0 Agent.maxReplySize⟩,
        .ready ⟨cookiesOf none⟩, w.passed, log ++ [(w.exchange (asked base timeout)).1]) := by
  obtain ⟨-, hcookie, hpassed⟩ := exchange_asked w base timeout
  have hserved : directWire Premises.exchanging
      (Agent.compose .empty "GET" base [] ByteArray.empty timeout) (w, log) = _ :=
    directWire_exchanging _ (Prod.mk.eta (p := w.exchange (asked base timeout))).symm
  rw [hcookie, hpassed] at hserved
  simp only [exchangeNetwork, Agent.network, Agent.fresh, Agent.call, hserved]
  rfl

theorem connect_world (server : Url) (spoken : List Generation) (timeout : Duration)
    (w : Premises) (log : List Exchange) :
    ((exchangeNetwork.carrier server spoken).connect timeout (w, log)).2 =
      (w.passed, log ++ [(w.exchange (asked server.asDirectory timeout)).1]) := by
  have hworld := negotiate_world exchangeNetwork server.asDirectory spoken Agent.fresh timeout
    (w, log)
  rw [get_asked] at hworld
  exact hworld

/-- A link below where nothing is seen leads astray. -/
theorem astray_linkUnder (hveiled : server.asDirectory.Veiled) {passed : List String}
    (hpath : server.asDirectory.path = .rooted passed) (g : Generation) (jar : CookieJar) :
    Astray (linkUnder server.asDirectory passed.dropLast g (.ready jar)) := by
  obtain ⟨first, rest, hrooted, hfirst⟩ := hveiled
  obtain ⟨above, rfl⟩ := Url.exists_of_asDirectory hpath
  have habove : above ++ [""] = first :: rest := UrlPath.rooted.inj (hpath.symm.trans hrooted)
  cases above with
  | nil =>
    obtain rfl : "" = first := (List.cons.inj habove).1
    cases hfirst
  | cons first' more =>
    obtain rfl : first' = first := (List.cons.inj habove).1
    have hplace (place : String) :
        (placeUnder server.asDirectory (first' :: more ++ wayTo g) place).Veiled :=
      ⟨first', more ++ wayTo g ++ [place], rfl, hfirst⟩
    rw [List.dropLast_concat]
    refine ⟨⟨jar, rfl⟩, fun k => ?_⟩
    unfold Link.urlFor
    split
    · exact hplace Endpoint.login.text
    · exact hplace Endpoint.command.text

/-- Where the client asks, the server shows what it offers, or no link is opened. -/
theorem shown_of_connect
    (hconnect : (exchangeNetwork.carrier server standardGenerations).connect timeout (w, log) =
      (.ok link, w', log'))
    (hcomplete : ∀ x ∈ log', x.Complete) :
    server.asDirectory.seen = "/" ∧ ∃ reply, reply.status = 200 ∧
      reply.body = (advertisementOf w.hosted.spoken).render.toUTF8 ∧
      exchangeNetwork.get .fresh server.asDirectory timeout (w, log) =
        (.ok reply, .ready ⟨cookiesOf none⟩, w', log') := by
  have hworld := connect_world server standardGenerations timeout w log
  have hget := get_asked server.asDirectory timeout w log
  have hserved : (w.exchange (asked server.asDirectory timeout)).1.reply =
      (w.found.server.serve w.hosted.spoken w.circumstances
        (asked server.asDirectory timeout)).1 := rfl
  have hopened : negotiate exchangeNetwork server.asDirectory
      (standardGenerations.map Link.speaking) Agent.fresh timeout (w, log) = (.ok link, w', log') :=
    (connect_eq ..).symm.trans hconnect
  rw [hconnect] at hworld
  rw [← (Prod.mk.inj hworld).1, ← (Prod.mk.inj hworld).2] at hget
  have hread : (w.exchange (asked server.asDirectory timeout)).1.Complete := by
    refine hcomplete _ ?_
    rw [(Prod.mk.inj hworld).2]
    exact List.mem_append_right log List.mem_cons_self
  have hgot : (asked server.asDirectory timeout).method = "GET" := rfl
  have hanswered : (_ ∧ (w.found.server.serve w.hosted.spoken w.circumstances
      (asked server.asDirectory timeout)).1 = _) ∨ _ := serve_of_get w.found.server hgot
  rcases hanswered with ⟨hseen, hshown⟩ | hfailed
  · rw [Exchange.Complete, hserved, hshown] at hread
    have hwhole : Agent.readBody timeout _ none = .ok _ := readBody_of_fits hread
    rw [hserved, hshown, Except.ok.inj hwhole] at hget
    exact ⟨hseen, _, rfl, rfl, hget⟩
  · rw [← hserved] at hfailed
    obtain ⟨e, he⟩ := negotiate_of_failed (standardGenerations.map Link.speaking) hget hfailed
    cases hopened.symm.trans he

/-- A link that is opened at the root leads to the last generation that is spoken. -/
theorem connect_of_legible (hspoken : w.hosted.spoken ⊆ generations)
    (hsome : w.hosted.spoken ≠ []) (hroot : server.asDirectory.path = .rooted [""])
    (hfits : (advertisementOf w.hosted.spoken).render.toUTF8.size ≤ Agent.maxReplySize)
    (hcomplete : ∀ x ∈ log, x.Complete) :
    ∃ log', (exchangeNetwork.carrier server standardGenerations).connect timeout (w, log) =
        (.ok (linkTo server.asDirectory (latest w.hosted.spoken) (.ready ⟨cookiesOf none⟩)),
          w.passed, log') ∧
      (∀ x ∈ log', x.Complete) ∧ issuedIn log' = issuedIn log := by
  have hshown : (w.exchange (asked server.asDirectory timeout)).1.reply =
      ⟨200, some "application/json", none, none,
        (advertisementOf w.hosted.spoken).render.toUTF8⟩ := by
    have hpath := path_asked hroot timeout
    have hmethod : (asked server.asDirectory timeout).method = "GET" := rfl
    have hserved : w.found.server.serve w.found.spoken w.circumstances
        (asked server.asDirectory timeout) =
          (⟨200, some "application/json", none, none,
            (advertisementOf w.hosted.spoken).render.toUTF8⟩, none, w.found.server) := by
      simp only [Service.serve, hpath, hmethod, route?, if_true]
      rfl
    rw [Premises.exchange, hserved]
  have hsilent := (exchange_asked w server.asDirectory timeout).1
  have hget := get_asked server.asDirectory timeout w log
  generalize (w.exchange (asked server.asDirectory timeout)).1 = x at hshown hsilent hget
  have hread : x.Complete := by
    rw [Exchange.Complete, hshown]
    exact hfits
  have hwhole : Agent.readBody timeout x.reply.body none = .ok x.reply.body :=
    readBody_of_fits hread
  rw [Except.ok.inj hwhole] at hget
  have hopened : negotiate exchangeNetwork server.asDirectory
      (standardGenerations.map Link.speaking) Agent.fresh timeout (w, log) =
        (.ok (linkTo server.asDirectory (latest w.hosted.spoken) (.ready ⟨cookiesOf none⟩)),
          w.passed, log ++ [x]) :=
    negotiate_of_shown rfl hspoken hsome hroot hget (congrArg Http.Reply.status hshown)
      (congrArg Http.Reply.body hshown)
  refine ⟨log ++ [x], (connect_eq ..).trans hopened, complete_concat hcomplete hread,
    issuedIn_concat_of_silent ?_⟩
  rw [Exchange.told?, hsilent]
  rfl

/-- A link that is opened shows nothing yet. -/
theorem presents_of_connect (hspoken : w.hosted.spoken ⊆ generations)
    (hconnect : (exchangeNetwork.carrier server standardGenerations).connect timeout (w, log) =
      (.ok link, w', log'))
    (hcomplete : ∀ x ∈ log', x.Complete) : Presents w.hosted.spoken link none := by
  obtain ⟨hseen, reply, hstatus, hbody, hget⟩ := shown_of_connect hconnect hcomplete
  have hopened : negotiate exchangeNetwork server.asDirectory
      (standardGenerations.map Link.speaking) Agent.fresh timeout (w, log) = (.ok link, w', log') :=
    (connect_eq ..).symm.trans hconnect
  by_cases hsome : w.hosted.spoken = []
  · rw [hsome] at hbody
    obtain ⟨e, he⟩ :=
      negotiate_of_nothing (standardGenerations.map Link.speaking) hget hstatus hbody
    cases hopened.symm.trans he
  cases hpath : server.asDirectory.path with
  | rootless text =>
    obtain ⟨e, he⟩ := negotiate_of_rootless rfl hspoken hsome hpath hget hstatus hbody
    cases hopened.symm.trans he
  | rooted passed =>
    rw [negotiate_of_rooted rfl hspoken hsome hpath hget hstatus hbody] at hopened
    cases hopened
    rcases Url.veiled_of_seen hpath hseen with rfl | hveiled
    · exact .linked (latest_mem hspoken hsome)
    · exact .astray (astray_linkUnder hveiled hpath _ _)

end Connecting

end AcctAdmin.Server
