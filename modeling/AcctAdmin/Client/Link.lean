import AcctAdmin.Client.Channel
import AcctAdmin.Client.Conversation
import AcctAdmin.Client.Selection
import AcctAdmin.Protocol.Advertisement
import AcctAdmin.Url.Reader

/-!
# Links

A link is a line over HTTP: a generation, the two URLs that its commands are posted to, and a
channel. To open one the client reads at the base what the server offers, chooses a generation,
and resolves its path against the base. What opens the line there stands on the client's list beside
each generation, and may be something else than a link.

A client's settings say where the base is and which generations to speak.
-/

set_option autoImplicit false

namespace AcctAdmin.Client

open AcctAdmin.Protocol AcctAdmin.Text

/-- A generation on a client's list, and what opens a line at an endpoint of it. -/
structure Supported (World Channel Line : Type) where
  generation : Generation
  factory : Generation → Url → Channel → World → Except Error Line × World

structure Link (Channel : Type) where
  generation : Generation
  loginUrl : Url
  commandUrl : Url
  channel : Channel

namespace Link

variable {World Channel : Type}

/-! ## Opening -/

/-- The URL of one of the two places below an endpoint. -/
def placeBelow (endpoint : Url) (path : String) : Except Error Url :=
  match endpoint.join? path with
  | some url => .ok url
  | none => .error (.protocol ("cannot resolve " ++ path ++ " endpoint: " ++ noBase)
      (.ofList [("endpoint", endpoint.text)]))
where
  noBase : String := "the endpoint is no base"

/-- The link to an endpoint, which counts as a directory. -/
def ofEndpoint (g : Generation) (endpoint : Url) (channel : Channel) :
    Except Error (Link Channel) := do
  let endpoint := endpoint.asDirectory
  let loginUrl ← placeBelow endpoint "login"
  let commandUrl ← placeBelow endpoint "command"
  .ok ⟨g, loginUrl, commandUrl, channel⟩

/-- The endpoint that an offer's path leads to. -/
def endpointOf (net : Network World Channel) (base : Url) (path : String) : Except Error Url :=
  match net.resolve base path with
  | .ok url => .ok url.asDirectory
  | .error why => .error (.protocol ("cannot resolve endpoint path: " ++ why)
      (.ofList [("path", path)]))

/-- A generation that is spoken over links. -/
def speaking (g : Generation) : Supported World Channel (Link Channel) :=
  ⟨g, fun g endpoint channel w => (ofEndpoint g endpoint channel, w)⟩

end Link

section

variable {World Channel Line : Type}

/-- What a server's reply at its base settles: an entry of the client's list and its endpoint. -/
def settle (net : Network World Channel) (base : Url)
    (supported : List (Supported World Channel Line)) (reply : HttpReply) :
    Except Error (Supported World Channel Line × Url) :=
  if isSuccessStatus reply.status then
    match Advertisement.ofBytes? reply.body with
    | none => .error (.protocol "unreadable protocol advertisement: not an advertisement"
        (.ofList [("expected_type", "Advertisement"), ("url", base.text)]))
    | some advertisement =>
      match choose? Supported.generation advertisement.offers supported with
      | none => .error (.noSupportedProtocols (advertisement.offers.map Offer.supported)
          (supported.map (·.generation.identifier)))
      | some choice => do
        let endpoint ← Link.endpointOf net base choice.offer.path
        .ok (choice.entry, endpoint)
  else .error (.http reply.status base.text)

/-- Reads what the server offers and opens a line for the best of it. A channel that leads to no
line is let go without being closed. -/
def negotiate (net : Network World Channel) (base : Url)
    (supported : List (Supported World Channel Line)) (channel : Channel) (timeout : Duration)
    (w : World) : Except Error Line × World :=
  match net.get channel base timeout w with
  | (.error e, _, w) => (.error e.toError, w)
  | (.ok reply, channel, w) =>
    match settle net base supported reply with
    | .error e => (.error e, w)
    | .ok (s, endpoint) => s.factory s.generation endpoint channel w

end

namespace Link

variable {World Channel : Type}

/-! ## Sending -/

def urlFor (link : Link Channel) (k : CommandKind) : Url :=
  if k.isLogin then link.loginUrl else link.commandUrl

/-- The error of a reply whose content type is not the generation's. -/
def unexpectedContentType (g : Generation) (k : CommandKind) (received : String) (status : Nat) :
    Error :=
  .protocol ("unexpected content type " ++ quoted received ++ " in reply to " ++ k.word)
    (.ofList
      [("expected_content_type", g.contentType), ("received_content_type", received),
       (Error.statusAttribute, decimal status)])

def unreadableReply (e : CodecError) (status : Nat) : Error :=
  .protocol e.message
    ((e.attributes.insertIfNew "expected_type" "Response").insert Error.statusAttribute
      (decimal status))

/-- Takes a reply for the response to a command. Its content type has to be the generation's to
the letter; its status is passed on in errors and otherwise not looked at. -/
def readReply (g : Generation) (k : CommandKind) (reply : HttpReply) : Except Error Response :=
  let received := reply.contentType.getD ""
  if received = g.contentType then
    match g.readResponse reply.body with
    | .ok response => .ok response
    | .error e => .error (unreadableReply e reply.status)
  else .error (unexpectedContentType g k received reply.status)

/-- Posts a command and reads the reply. A command that the generation does not speak is not
posted. -/
def send (net : Network World Channel) (link : Link Channel) (c : Command) (timeout : Duration)
    (w : World) : Except Error Response × Link Channel × World :=
  match link.generation.commandText c with
  | .error e => (.error (.ofCodec e), link, w)
  | .ok text =>
    match net.post link.channel (link.urlFor c.kind) link.generation.contentType text.toUTF8
        timeout w with
    | (.error e, channel, w) => (.error e.toError, { link with channel := channel }, w)
    | (.ok reply, channel, w) =>
      (readReply link.generation c.kind reply, { link with channel := channel }, w)

end Link

/-! ## Over HTTP -/

/-- The carrier that reaches a server over HTTP, from its base and with the generations that the
client speaks. -/
def Network.carrier {World Channel : Type} (net : Network World Channel) (base : Url)
    (spoken : List Generation) : Carrier World (Link Channel) where
  connect timeout w :=
    let (channel, w) := net.dial w
    negotiate net base.asDirectory (spoken.map Link.speaking) channel timeout w
  generation link := link.generation
  send link c timeout w := link.send net c timeout w
  close link w := net.close link.channel w

/-- What a client has to be told before it can talk: where the server is, how long to wait, and
which generations to speak. All but the place has a standard value. -/
structure Settings where
  /-- Where the server says what it offers. -/
  base : Url
  timeout : Duration
  /-- The generations to speak; the order decides between equal numbers. -/
  spoken : List Generation

def standardGenerations : List Generation := generations.reverse

def Settings.ofBase (base : Url) : Settings := ⟨base, standardTimeout, standardGenerations⟩

def Settings.carrier {World Channel : Type} (s : Settings) (net : Network World Channel) :
    Carrier World (Link Channel) :=
  net.carrier s.base s.spoken

end AcctAdmin.Client
