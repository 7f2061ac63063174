import AcctAdmin.Client.Agent
import AcctAdmin.Proofs.Command.Sequence
import AcctAdmin.Proofs.Conversation.Recording
import AcctAdmin.Proofs.Front.Hearing
import AcctAdmin.Proofs.Front.Places
import AcctAdmin.Proofs.Protocol.Cut
import AcctAdmin.Proofs.Sessions.Cookie
import AcctAdmin.Server.Hosted

/-!
# A client on the premises

The world of a client whose server is in the same process. The server is not theirs alone: before
each of their requests others may have sent commands, sessions may have been swept, and time has
passed. What the client sends over a link is executed there, and they get to read the response, as
long as neither the command nor the reply is too long to be read.
-/

set_option autoImplicit false

namespace AcctAdmin.Server

open AcctAdmin.Protocol AcctAdmin.Client

/-! ## The world -/

/-- What happens at a server before somebody's next request, when that request comes, and what is
drawn for it. -/
structure Interlude where
  events : List Service.Event
  now : Nat
  supply : Nat

/-- A server, and what is going to happen there before each of somebody's requests. -/
structure Premises where
  hosted : Hosted
  ahead : Nat → Interlude

namespace Premises

/-- The server as the next request finds it. -/
def found (w : Premises) : Hosted :=
  { w.hosted with
    server := w.hosted.server.advanceAll (w.ahead 0).events
    now := (w.ahead 0).now
    supply := (w.ahead 0).supply }

/-- The world when a request has been served. -/
def left (w : Premises) (h : Hosted) : Premises := ⟨h, fun n => w.ahead (n + 1)⟩

def serve (r : Http.Request) (w : Premises) : Http.Reply × Premises :=
  let (reply, h) := w.found.serve r
  (reply, w.left h)

/-- What the server gives the next request to go with it. -/
def circumstances (w : Premises) : Circumstances :=
  ⟨Hosted.localHost, w.found.now, ⟨.ofRandom w.found.supply⟩, w.found.draw⟩

/-- The next request, if it is somebody's who shows the given key. -/
def request (w : Premises) (own : Option SessionKey) : Request :=
  ⟨⟨.ofRandom w.found.supply⟩, Hosted.localHost, own, w.found.now⟩

def execution (w : Premises) (own : Option SessionKey) (c : Command) : Execution :=
  (w.found.server.execute (w.request own) c w.found.draw).1

/-- The world when a command has been executed. -/
def after (w : Premises) (own : Option SessionKey) (c : Command) : Premises :=
  w.left { w.found with
    server := (w.found.server.execute (w.request own) c w.found.draw).2
    supply := w.found.supply + Hosted.perRequest }

/-- The world when a request has been served that was not heard. -/
def passed (w : Premises) : Premises :=
  w.left { w.found with supply := w.found.supply + Hosted.perRequest }

/-- Whether a command and its answer can be read, which they can if they are not too long. -/
structure Fits (w : Premises) (g : Generation) (own : Option SessionKey) (c : Command) : Prop where
  request : ∀ text, g.commandText c = .ok text → text.toUTF8.size ≤ maxBodySize
  reply : (replyIn g (w.execution own c).status (w.execution own c).response
    (w.execution own c).session).body.size ≤ Agent.maxReplySize

end Premises

/-- The same server, with the requests written down that it serves. -/
def recording {World : Type} (serve : Http.Request → World → Http.Reply × World)
    (r : Http.Request) (w : World × List Http.Request) :
    Http.Reply × World × List Http.Request :=
  let (reply, world) := serve r w.1
  (reply, world, w.2 ++ [r])

/-- How the client reaches the server, and what goes over the wire. -/
def premisesNetwork : Network (Premises × List Http.Request) Agent :=
  Agent.network (directWire (recording Premises.serve))

/-! ## What the server is sent -/

section Posted

variable {g : Generation} {base : Url} {own : Option SessionKey} {c : Command} {body : ByteArray}
  {timeout : Duration}

/-- What an agent posts to an endpoint. -/
def posted (base : Url) (g : Generation) (own : Option SessionKey) (e : Endpoint)
    (body : ByteArray) (timeout : Duration) : Http.Request :=
  (Agent.compose ⟨cookiesOf own⟩ "POST" (placeBelow base g e.text)
    [("Content-Type", g.contentType), ("Accept", g.contentType)] body timeout).received

theorem path_posted (hg : g ∈ generations) (base : Url) (own : Option SessionKey) (e : Endpoint)
    (body : ByteArray) (timeout : Duration) :
    (posted base g own e body timeout).path = endpointPath g e := by
  have hplain : String.ofList ((endpointPath g e).toList.takeWhile (· != '?')) =
      endpointPath g e := by
    revert g
    rw [forall_generations]
    cases e <;> decide
  have hpath : (posted base g own e body timeout).path = String.ofList
      (((placeBelow base g e.text).path.text ++ "").toList.takeWhile (· != '?')) := rfl
  rw [hpath, path_placeBelow hg, String.append_empty, hplain]

theorem headers_posted (base : Url) (g : Generation) (own : Option SessionKey) (e : Endpoint)
    (body : ByteArray) (timeout : Duration) :
    (posted base g own e body timeout).headers =
      ("User-Agent", Agent.userAgent) :: ((own.map fun k => ("Cookie", k.pair)).toList ++
        [("Content-Type", g.contentType), ("Accept", g.contentType)]) := by
  cases own with
  | none => rfl
  | some k => rfl

theorem contentType_posted (hg : g ∈ generations) (base : Url) (own : Option SessionKey)
    (e : Endpoint) (body : ByteArray) (timeout : Duration) :
    (posted base g own e body timeout).header? "content-type" = some g.contentType := by
  have hreadable : Http.isReadable g.contentType = true := by
    revert g
    rw [forall_generations]
    decide
  have hagent : Text.sameUpToAsciiCase "User-Agent" "content-type" = false := by decide
  have hcookie : Text.sameUpToAsciiCase "Cookie" "content-type" = false := by decide
  have htype : Text.sameUpToAsciiCase "Content-Type" "content-type" = true := by decide
  rw [Http.Request.header?, headers_posted]
  cases own <;> simp [hagent, hcookie, htype, hreadable]

theorem readable_pair (k : SessionKey) : Http.isReadable k.pair = true := by
  let readable (c : Char) : Bool := c == '\t' || (' ' ≤ c && c ≤ '~')
  have hname : SessionKey.cookieName.toList.all readable = true := by decide
  have hkey : keyChars.all readable = true := by decide
  have htext : k.text.toList.all readable = true := List.all_eq_true.2 fun c hc =>
    List.all_eq_true.1 hkey c (SessionKey.mem_keyChars hc)
  have hall : k.pair.toList.all readable = true := by
    rw [SessionKey.pair_toList, List.all_append, List.all_cons, hname, htext]
    decide
  exact hall

theorem presentedKey_posted (base : Url) (g : Generation) (own : Option SessionKey) (e : Endpoint)
    (body : ByteArray) (timeout : Duration) :
    presentedKey (posted base g own e body timeout) = own := by
  have hagent : Text.sameUpToAsciiCase "User-Agent" "cookie" = false := by decide
  have hcookie : Text.sameUpToAsciiCase "Cookie" "cookie" = true := by decide
  have htype : Text.sameUpToAsciiCase "Content-Type" "cookie" = false := by decide
  have haccept : Text.sameUpToAsciiCase "Accept" "cookie" = false := by decide
  rw [presentedKey, Http.Request.header?, headers_posted]
  cases own with
  | none => simp [hagent, htype, haccept]
  | some k => simp [hagent, hcookie, readable_pair, SessionKey.ofCookies?_pair]

end Posted

/-! ## What becomes of it -/

/-- Where a command belongs. -/
def endpointFor (k : CommandKind) : Endpoint := if k.isLogin then .login else .command

theorem takes_endpointFor (k : CommandKind) : (endpointFor k).takes k = true := by
  unfold endpointFor Endpoint.takes
  cases k.isLogin <;> rfl

theorem urlFor_linkTo {Channel : Type} (base : Url) (g : Generation) (channel : Channel)
    (k : CommandKind) :
    (linkTo base g channel).urlFor k = placeBelow base g (endpointFor k).text := by
  unfold Link.urlFor endpointFor
  cases k.isLogin <;> rfl

theorem readCommand_commandText {g : Generation} {c : Command} {text : String}
    (h : g.commandText c = .ok text) : g.readCommand text.toUTF8 = .ok c := by
  unfold Generation.commandText at h
  split at h
  · rename_i hallows
    obtain rfl := Except.ok.inj h
    rw [Generation.readCommand_of_command (Envelope.ofBytes?_render (fits_commandBody c)) rfl,
      if_pos hallows, ofBody?_commandBody]
    rfl
  · cases h

section Served

variable {w : Premises} {sent : List Http.Request} {g : Generation} {base : Url}
  {own : Option SessionKey} {c : Command} {text : String} {timeout : Duration}

/-- A command that is posted is heard. -/
theorem heard?_posted {spoken : List Generation} (hspoken : spoken ⊆ generations) (hg : g ∈ spoken)
    (id : RequestId) (htext : g.commandText c = .ok text) (hsize : text.toUTF8.size ≤ maxBodySize) :
    heard? spoken id (posted base g own (endpointFor c.kind) text.toUTF8 timeout) =
      some (g, c) := by
  set r := posted base g own (endpointFor c.kind) text.toUTF8 timeout with hr
  have hpath : r.path = endpointPath g (endpointFor c.kind) := path_posted (hspoken hg) ..
  have htype : r.header? "content-type" = some g.contentType := contentType_posted (hspoken hg) ..
  have hroute := route?_endpointPath hspoken hg (endpointFor c.kind)
  rw [← hpath] at hroute
  have hreceived : receive g (endpointFor c.kind) id r = .ok c :=
    receive_of_sent htype (readCommand_commandText htext) (takes_endpointFor c.kind)
  exact heard?_eq_some.2 ⟨_, hroute, rfl, hsize, hreceived⟩

/-- A command that is posted is executed. -/
theorem serve_posted (hspoken : w.hosted.spoken ⊆ generations) (hg : g ∈ w.hosted.spoken)
    (htext : g.commandText c = .ok text) (hsize : text.toUTF8.size ≤ maxBodySize) :
    Premises.serve (posted base g own (endpointFor c.kind) text.toUTF8 timeout) w =
      (replyIn g (w.execution own c).status (w.execution own c).response
        (w.execution own c).session, w.after own c) := by
  have hheard : heard? w.found.spoken (w.request own).requestId
      (posted base g own (endpointFor c.kind) text.toUTF8 timeout) = some (g, c) :=
    heard?_posted hspoken hg _ htext hsize
  have hserved := @serve_of_heard w.found.spoken _ g c w.circumstances w.found.server hheard
  have hkey : presentedKey (posted base g own (endpointFor c.kind) text.toUTF8 timeout) = own :=
    presentedKey_posted ..
  rw [hkey, Premises.circumstances] at hserved
  simp only [Premises.serve, Hosted.serve, hserved]
  rfl

theorem readBody_of_fits {body : ByteArray} (h : body.size ≤ Agent.maxReplySize) :
    Agent.readBody timeout body none = .ok body := by
  rw [Agent.readBody, Text.extract_of_size_le h]

/-- What an agent calls for is served, and the reply is brought back as far as it is read, with what
it says of the session. -/
theorem call_of_served (sent : List Http.Request) {jar : CookieJar} {method : String} {url : Url}
    {headers : List (String × String)} {body : ByteArray} {reply : Http.Reply} {w' : Premises}
    (h : Premises.serve (Agent.compose jar method url headers body timeout).received w =
      (reply, w')) :
    Agent.call (directWire (recording Premises.serve)) method headers body (.ready jar) url timeout
        (w, sent) =
      (.ok ⟨reply.status, reply.contentType, reply.body.extract 0 Agent.maxReplySize⟩,
        .ready (reply.setCookie.toList.foldl CookieJar.receive jar), w',
        sent ++ [(Agent.compose jar method url headers body timeout).received]) := by
  simp only [Agent.call, directWire, recording, h, Agent.readBody]
  rfl

/-- What is posted for a link is answered to the link. -/
theorem send_of_served (sent : List Http.Request) {reply : Http.Reply} {w' : Premises}
    (htext : g.commandText c = .ok text)
    (h : Premises.serve (posted base g own (endpointFor c.kind) text.toUTF8 timeout) w =
      (reply, w')) :
    Link.send premisesNetwork (linkTo base g (.ready ⟨cookiesOf own⟩)) c timeout (w, sent) =
      (Link.readReply g c.kind
          ⟨reply.status, reply.contentType, reply.body.extract 0 Agent.maxReplySize⟩,
        linkTo base g (.ready (reply.setCookie.toList.foldl CookieJar.receive ⟨cookiesOf own⟩)), w',
        sent ++ [posted base g own (endpointFor c.kind) text.toUTF8 timeout]) := by
  have hpost : premisesNetwork.post (.ready ⟨cookiesOf own⟩)
      ((linkTo base g (Agent.ready ⟨cookiesOf own⟩)).urlFor c.kind) g.contentType text.toUTF8
      timeout (w, sent) =
        (.ok ⟨reply.status, reply.contentType, reply.body.extract 0 Agent.maxReplySize⟩,
          .ready (reply.setCookie.toList.foldl CookieJar.receive ⟨cookiesOf own⟩), w',
          sent ++ [posted base g own (endpointFor c.kind) text.toUTF8 timeout]) := by
    have hcall := call_of_served sent h
    rw [urlFor_linkTo]
    exact hcall
  have hlink : (linkTo base g (Agent.ready ⟨cookiesOf own⟩)).generation = g ∧
      (linkTo base g (Agent.ready ⟨cookiesOf own⟩)).channel = .ready ⟨cookiesOf own⟩ := ⟨rfl, rfl⟩
  simp only [Link.send, hlink, htext, hpost]
  rfl

/-- What is answered to a command that was sent carries the response, and the session goes into the
client's jar. -/
theorem carries_execution (w : Premises) (own : Option SessionKey) (hg : g ∈ generations)
    (htext : g.commandText c = .ok text) :
    let x := w.execution own c
    let reply := replyIn g x.status x.response x.session
    Carries g reply x.response ∧ x.response.Suits c.kind ∧
      reply.setCookie.toList.foldl CookieJar.receive ⟨cookiesOf own⟩ =
        ⟨cookiesOf (SessionChange.after own x.session)⟩ := by
  intro x reply
  have hallows : g.allowsCommand c.kind = true :=
    readCommand_eq_ok (readCommand_commandText htext)
  have hsuits : x.response.Suits c.kind := suits_execute ..
  have hspeaks := speaks_of_suits hg hallows hsuits
  refine ⟨carries_replyIn hspeaks x.status x.session, hsuits, ?_⟩
  rw [(replyIn_eq hspeaks x.status x.session).2, receive_change]

/-- A response that is cut off is not understood. -/
theorem readReply_cut {reply : Http.Reply} {response : Response} (h : Carries g reply response)
    (k : CommandKind) {n : Nat} (hn : n < reply.body.size) :
    Link.readReply g k ⟨reply.status, reply.contentType, reply.body.extract 0 n⟩ =
      .error (Link.unreadableReply .malformed reply.status) := by
  obtain ⟨text, htext, hbody⟩ := h.written
  rw [hbody] at hn
  rw [Link.readReply, h.contentType, hbody]
  simp only [Option.getD_some, if_true, Generation.readResponse_cut htext hn]

/-- **What is sent over a link is executed**, and the response is read as it was made; the client
has the session then that the server says. -/
theorem send_of_fits (hspoken : w.hosted.spoken ⊆ generations) (hg : g ∈ w.hosted.spoken)
    (htext : g.commandText c = .ok text) (hfits : w.Fits g own c) :
    Link.send premisesNetwork (linkTo base g (.ready ⟨cookiesOf own⟩)) c timeout (w, sent) =
      (.ok (w.execution own c).response,
        linkTo base g (.ready ⟨cookiesOf (SessionChange.after own (w.execution own c).session)⟩),
        w.after own c, sent ++ [posted base g own (endpointFor c.kind) text.toUTF8 timeout]) := by
  have hserved :
      Premises.serve (posted base g own (endpointFor c.kind) text.toUTF8 timeout) w = _ :=
    serve_posted hspoken hg htext (hfits.request text htext)
  obtain ⟨hcarries, hsuits, hjar⟩ := carries_execution w own (hspoken hg) htext
  rw [send_of_served sent htext hserved, Text.extract_of_size_le hfits.reply,
    (hcarries.understood hsuits).read, hjar]

/-- What is too long to be read is not executed. -/
theorem serve_of_too_large (server : Service) {spoken : List Generation} (at_ : Circumstances)
    (hspoken : spoken ⊆ generations) (hg : g ∈ spoken) {e : Endpoint} {body : ByteArray}
    (hsize : maxBodySize < body.size) :
    server.serve spoken at_ (posted base g own e body timeout) = (tooLarge, none, server) := by
  have hbig : maxBodySize < (posted base g own e body timeout).body.size := hsize
  have hmethod : (posted base g own e body timeout).method = "POST" := rfl
  have hroute := route?_endpointPath hspoken hg e
  rw [← path_posted (hspoken hg) base own e body timeout] at hroute
  simp only [Service.serve, hroute, hmethod, hbig, ne_eq, not_true_eq_false, if_false, if_true]

/-- The client is told so in words that are not the generation's. -/
theorem readReply_tooLarge (hg : g ∈ generations) (k : CommandKind) :
    Link.readReply g k ⟨tooLarge.status, tooLarge.contentType, tooLarge.body⟩ =
      .error (Link.unexpectedContentType g k "text/plain; charset=utf-8" 413) := by
  have hother : ∀ g ∈ generations, "text/plain; charset=utf-8" ≠ g.contentType := by decide
  exact if_neg (hother g hg)

theorem send_of_too_large (hspoken : w.hosted.spoken ⊆ generations) (hg : g ∈ w.hosted.spoken)
    (htext : g.commandText c = .ok text) (hsize : maxBodySize < text.toUTF8.size) :
    Link.send premisesNetwork (linkTo base g (.ready ⟨cookiesOf own⟩)) c timeout (w, sent) =
      (.error (Link.unexpectedContentType g c.kind "text/plain; charset=utf-8" 413),
        linkTo base g (.ready ⟨cookiesOf own⟩), w.passed,
        sent ++ [posted base g own (endpointFor c.kind) text.toUTF8 timeout]) := by
  have hserved : Premises.serve (posted base g own (endpointFor c.kind) text.toUTF8 timeout) w =
      (tooLarge, w.passed) := by
    have hturned : w.found.server.serve w.found.spoken w.circumstances
        (posted base g own (endpointFor c.kind) text.toUTF8 timeout) =
          (tooLarge, none, w.found.server) := serve_of_too_large _ _ hspoken hg hsize
    rw [Premises.circumstances] at hturned
    simp only [Premises.serve, Hosted.serve, hturned]
    rfl
  rw [send_of_served sent htext hserved, Text.extract_of_size_le (by decide),
    readReply_tooLarge (hspoken hg)]
  rfl

/-- What is too long to be read in whole is not understood. -/
theorem send_of_cut (hspoken : w.hosted.spoken ⊆ generations) (hg : g ∈ w.hosted.spoken)
    (htext : g.commandText c = .ok text) (hsize : text.toUTF8.size ≤ maxBodySize)
    (hlarge : Agent.maxReplySize < (replyIn g (w.execution own c).status
      (w.execution own c).response (w.execution own c).session).body.size) :
    ∃ e, Link.send premisesNetwork (linkTo base g (.ready ⟨cookiesOf own⟩)) c timeout (w, sent) =
      (.error e,
        linkTo base g (.ready ⟨cookiesOf (SessionChange.after own (w.execution own c).session)⟩),
        w.after own c, sent ++ [posted base g own (endpointFor c.kind) text.toUTF8 timeout]) := by
  have hserved :
      Premises.serve (posted base g own (endpointFor c.kind) text.toUTF8 timeout) w = _ :=
    serve_posted hspoken hg htext hsize
  obtain ⟨hcarries, -, hjar⟩ := carries_execution w own (hspoken hg) htext
  rw [send_of_served sent htext hserved, readReply_cut hcarries c.kind hlarge, hjar]
  exact ⟨_, rfl⟩

/-- What is too long to be read, on either side, leads to an error. -/
theorem send_of_not_fits (hspoken : w.hosted.spoken ⊆ generations) (hg : g ∈ w.hosted.spoken)
    (htext : g.commandText c = .ok text) (hnot : ¬ w.Fits g own c) :
    ∃ e after,
      Link.send premisesNetwork (linkTo base g (.ready ⟨cookiesOf own⟩)) c timeout (w, sent) =
        (.error e, after) := by
  rcases Nat.lt_or_ge maxBodySize text.toUTF8.size with hlarge | hsize
  · exact ⟨_, _, send_of_too_large hspoken hg htext hlarge⟩
  · have hrequest : ∀ text', g.commandText c = .ok text' → text'.toUTF8.size ≤ maxBodySize := by
      intro text' htext'
      obtain rfl := Except.ok.inj (htext.symm.trans htext')
      exact hsize
    have hlarge := Nat.lt_of_not_le fun hreply => hnot ⟨hrequest, hreply⟩
    obtain ⟨e, hsend⟩ := send_of_cut hspoken hg htext hsize hlarge
    exact ⟨e, _, hsend⟩

/-! ## Opening a link -/

/-- What an agent asks first. -/
def asked (base : Url) (timeout : Duration) : Http.Request :=
  (Agent.compose .empty "GET" base [] ByteArray.empty timeout).received

theorem path_asked (hroot : base.path = .rooted [""]) (timeout : Duration) :
    (asked base timeout).path = "/" := by
  have hpath : (asked base timeout).path = String.ofList
      ((base.path.text ++ (base.query.map ("?" ++ ·)).getD "").toList.takeWhile (· != '?')) := rfl
  have htext : (UrlPath.rooted [""]).text = "/" := by decide
  rw [hpath, hroot, htext]
  cases base.query with
  | none => decide
  | some query => simp

/-- What is asked first is no command. -/
theorem heard?_asked (hroot : base.path = .rooted [""]) (spoken : List Generation)
    (id : RequestId) : heard? spoken id (asked base timeout) = none := by
  have hroute : route? spoken (asked base timeout).path = some .advertisement := by
    rw [path_asked hroot, route?, if_pos rfl]
  rw [heard?, hroute]

/-- What an agent that asks at the root gets to read. -/
theorem get_of_root (w : Premises) (sent : List Http.Request) (timeout : Duration)
    (hroot : base.path = .rooted [""]) :
    premisesNetwork.get .fresh base timeout (w, sent) =
      (.ok ⟨200, some "application/json",
          (advertisementOf w.hosted.spoken).render.toUTF8.extract 0 Agent.maxReplySize⟩,
        .ready ⟨cookiesOf none⟩, w.passed, sent ++ [asked base timeout]) := by
  have hserved : Premises.serve (asked base timeout) w =
      (⟨200, some "application/json", none, none, (advertisementOf w.hosted.spoken).render.toUTF8⟩,
        w.passed) := by
    have hpath := path_asked hroot timeout
    have hmethod : (asked base timeout).method = "GET" := rfl
    simp only [Premises.serve, Hosted.serve, Service.serve, hpath, hmethod, route?, if_true]
    rfl
  exact call_of_served sent hserved

/-- A client that asks at the root opens a link to the last generation that is spoken. -/
theorem connect_of_root (hspoken : w.hosted.spoken ⊆ generations) (hsome : w.hosted.spoken ≠ [])
    (hroot : base.asDirectory.path = .rooted [""])
    (hfits : (advertisementOf w.hosted.spoken).render.toUTF8.size ≤ Agent.maxReplySize) :
    (premisesNetwork.carrier base standardGenerations).connect timeout (w, sent) =
      (.ok (linkTo base.asDirectory (latest w.hosted.spoken) (.ready ⟨cookiesOf none⟩)),
        w.passed, sent ++ [asked base.asDirectory timeout]) := by
  have hget := get_of_root w sent timeout hroot
  rw [Text.extract_of_size_le hfits] at hget
  have hnegotiated : negotiate premisesNetwork base.asDirectory
      (standardGenerations.map Link.speaking) Agent.fresh timeout (w, sent) = _ :=
    negotiate_of_shown rfl hspoken hsome hroot hget rfl rfl
  exact hnegotiated

/-- Of an advertisement that is too long to be read in whole nothing is chosen. -/
theorem connect_of_cut (hroot : base.asDirectory.path = .rooted [""])
    (hlarge : Agent.maxReplySize < (advertisementOf w.hosted.spoken).render.toUTF8.size) :
    ∃ e after, (premisesNetwork.carrier base standardGenerations).connect timeout (w, sent) =
      (.error e, after) := by
  have hget := get_of_root w sent timeout hroot
  have hnone := Advertisement.ofBytes?_cut hlarge
  have hnegotiated : ∃ e after,
      negotiate premisesNetwork base.asDirectory (standardGenerations.map Link.speaking)
        Agent.fresh timeout (w, sent) = (.error e, after) := by
    simp only [negotiate, hget, settle, hnone]
    exact ⟨_, _, rfl⟩
  exact hnegotiated

end Served

end AcctAdmin.Server
