import AcctAdmin.Http.Exchange
import AcctAdmin.Protocol.Advertisement
import AcctAdmin.Protocol.Codec
import AcctAdmin.Server.Execution

/-!
# The HTTP front

At the root the server shows its advertisement. Each generation it speaks has two endpoints
below its path, one for logging in and one for everything else. A request is checked before the
command in it is executed: its content type, then its body, then whether the command belongs to
the endpoint. What does not pass is answered without touching the server.
-/

set_option autoImplicit false

namespace AcctAdmin.Server

open AcctAdmin.Protocol AcctAdmin.Text

/-- The two endpoints of a generation. -/
inductive Endpoint where
  | login | command
deriving DecidableEq, Inhabited

def Endpoint.text : Endpoint → String
  | .login => "login"
  | .command => "command"

/-- Whether commands of a kind belong to an endpoint. -/
def Endpoint.takes (e : Endpoint) (k : CommandKind) : Bool := k.isLogin == (e == .login)

/-- What is found at a path. -/
inductive Route where
  | advertisement
  | endpoint (generation : Generation) (endpoint : Endpoint)
deriving Inhabited

def endpointPath (g : Generation) (e : Endpoint) : String := "/" ++ g.endpointPath ++ e.text

/-- What a server that speaks some generations has at a path. -/
def route? (spoken : List Generation) (path : String) : Option Route :=
  if path = "/" then some .advertisement
  else spoken.findSome? fun g =>
    if path = endpointPath g .login then some (.endpoint g .login)
    else if path = endpointPath g .command then some (.endpoint g .command)
    else none

def advertisementOf (spoken : List Generation) : Advertisement :=
  ⟨spoken.map fun g => ⟨g.identifier, g.endpointPath⟩⟩

def maxBodySize : Nat := 2097152

/-- The facts of one request that the server does not find in it. -/
structure Circumstances where
  host : String
  now : Nat
  /-- The identifier that the server gives the exchange. -/
  requestId : RequestId
  draws : Nat → Draw

/-! ## Replies -/

def sessionCookie : SessionChange → String
  | .started key =>
    SessionKey.cookieName ++ "=" ++ key.text ++ "; Path=/; HttpOnly; SameSite=Strict"
  | .ended => SessionKey.cookieName ++ "=; Path=/; Max-Age=0; HttpOnly; SameSite=Strict"

/-- A response in a generation's words. A response that the generation has no words for is an
error of the server with nothing in it. -/
def replyIn (g : Generation) (status : Nat) (response : Response)
    (change : Option SessionChange) : Http.Reply :=
  match g.responseText response with
  | .ok text => ⟨status, some g.contentType, change.map sessionCookie, none, text.toUTF8⟩
  | .error _ => .bare 500

/-- The answer to a request that no command is executed for. -/
def turnedAway (id : RequestId) (message : String) (attributes : Attributes) : Response :=
  .refused ⟨id, message, .protocol, attributes, none, .client⟩

def wrongContentType (g : Generation) (id : RequestId) (received : String) : Response :=
  turnedAway id "unexpected content type"
    (.ofList [("expected_content_type", g.contentType), ("received_content_type", received)])

def undecodable (id : RequestId) (e : CodecError) : Response :=
  turnedAway id e.message e.attributes

def wrongEndpoint (id : RequestId) (k : CommandKind) (e : Endpoint) : Response :=
  turnedAway id (k.word ++ " cannot be sent to the " ++ e.text ++ " endpoint")
    (.ofList [("received_type", k.word), ("endpoint", e.text)])

/-! ## Requests -/

def presentedKey (r : Http.Request) : Option SessionKey :=
  (r.header? "cookie").bind SessionKey.ofCookies?

/-- How a request to an endpoint is taken: the command it carries, or the answer that turns it
away. -/
def receive (g : Generation) (e : Endpoint) (id : RequestId) (r : Http.Request) :
    Except (Nat × Response) Command :=
  let received := (r.header? "content-type").getD ""
  if received ≠ g.contentType then .error (415, wrongContentType g id received)
  else
    match g.readCommand r.body with
    | .error err => .error (400, undecodable id err)
    | .ok c => if e.takes c.kind then .ok c else .error (400, wrongEndpoint id c.kind e)

/-- Answers a request to an endpoint. -/
def Service.answer (server : Service) (g : Generation) (e : Endpoint) (at_ : Circumstances)
    (r : Http.Request) : Http.Reply × Option Execution × Service :=
  match receive g e at_.requestId r with
  | .error (status, response) => (replyIn g status response none, none, server)
  | .ok c =>
    let request : Request := ⟨at_.requestId, at_.host, presentedKey r, at_.now⟩
    let (execution, server) := server.execute request c at_.draws
    (replyIn g execution.status execution.response execution.session, some execution, server)

def notAllowed (methods : String) : Http.Reply := { Http.Reply.bare 405 with allow := some methods }

def tooLarge : Http.Reply :=
  { Http.Reply.bare 413 with
    contentType := some "text/plain; charset=utf-8"
    body := "Failed to buffer the request body: length limit exceeded".toUTF8 }

def Service.serve (server : Service) (spoken : List Generation) (at_ : Circumstances)
    (r : Http.Request) : Http.Reply × Option Execution × Service :=
  match route? spoken r.path with
  | none => (.bare 404, none, server)
  | some .advertisement =>
    let shown := (advertisementOf spoken).render.toUTF8
    let page : Http.Reply := { Http.Reply.bare 200 with contentType := some "application/json" }
    if r.method = "GET" then ({ page with body := shown }, none, server)
    else if r.method = "HEAD" then (page, none, server)
    else (notAllowed "GET,HEAD", none, server)
  | some (.endpoint g e) =>
    if r.method ≠ "POST" then (notAllowed "POST", none, server)
    else if maxBodySize < r.body.size then (tooLarge, none, server)
    else server.answer g e at_ r

end AcctAdmin.Server
