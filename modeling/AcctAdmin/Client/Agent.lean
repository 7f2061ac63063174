import AcctAdmin.Attributes
import AcctAdmin.Client.Channel
import AcctAdmin.Http.Exchange
import AcctAdmin.Text.Blank
import AcctAdmin.Text.Split

/-!
# Agents

An agent is a channel over a wire that carries single HTTP requests. It keeps the cookies that
replies set and shows them with every later request. A reply with an error status is a reply like
any other; what never became a reply is a timeout or an I/O error.
-/

set_option autoImplicit false

namespace AcctAdmin.Client

open AcctAdmin.Text

/-! ## I/O faults -/

/-- What can go wrong below HTTP. -/
inductive IoFault where
  | notFound
  | permissionDenied
  | connectionRefused
  | connectionReset
  | hostUnreachable
  | networkUnreachable
  | connectionAborted
  | notConnected
  | addressInUse
  | addressNotAvailable
  | networkDown
  | brokenPipe
  | alreadyExists
  | wouldBlock
  | invalidInput
  | invalidData
  | timedOut
  | writeZero
  | interrupted
  | unsupported
  | unexpectedEof
  | outOfMemory
  | other
deriving DecidableEq, Inhabited

namespace IoFault

def text : IoFault → String
  | notFound => "entity not found"
  | permissionDenied => "permission denied"
  | connectionRefused => "connection refused"
  | connectionReset => "connection reset"
  | hostUnreachable => "host unreachable"
  | networkUnreachable => "network unreachable"
  | connectionAborted => "connection aborted"
  | notConnected => "not connected"
  | addressInUse => "address in use"
  | addressNotAvailable => "address not available"
  | networkDown => "network down"
  | brokenPipe => "broken pipe"
  | alreadyExists => "entity already exists"
  | wouldBlock => "operation would block"
  | invalidInput => "invalid input parameter"
  | invalidData => "invalid data"
  | timedOut => "timed out"
  | writeZero => "write zero"
  | interrupted => "operation interrupted"
  | unsupported => "unsupported"
  | unexpectedEof => "unexpected end of file"
  | outOfMemory => "out of memory"
  | other => "other error"

def names : List (String × IoFault) :=
  [("NotFound", notFound), ("PermissionDenied", permissionDenied),
    ("ConnectionRefused", connectionRefused), ("ConnectionReset", connectionReset),
    ("HostUnreachable", hostUnreachable), ("NetworkUnreachable", networkUnreachable),
    ("ConnectionAborted", connectionAborted), ("NotConnected", notConnected),
    ("AddrInUse", addressInUse), ("AddrNotAvailable", addressNotAvailable),
    ("NetworkDown", networkDown), ("BrokenPipe", brokenPipe), ("AlreadyExists", alreadyExists),
    ("WouldBlock", wouldBlock), ("InvalidInput", invalidInput), ("InvalidData", invalidData),
    ("TimedOut", timedOut), ("WriteZero", writeZero), ("Interrupted", interrupted),
    ("Unsupported", unsupported), ("UnexpectedEof", unexpectedEof), ("OutOfMemory", outOfMemory)]

/-- The fault of a name; a name that is not known is some other fault. -/
def ofName (name : String) : IoFault := (names.lookup name).getD other

/-- Whether the fault is that the time ran out; a read that would have to wait is one. -/
def isTimeout (f : IoFault) : Bool := f == timedOut || f == wouldBlock

end IoFault

/-- The channel error of a failure: a timeout if that is the fault behind it. -/
def ChannelError.ofFailure (message : String) (cause : Option IoFault) (timeout : Duration) :
    ChannelError :=
  if cause.any IoFault.isTimeout then .timeout timeout else .io message

/-! ## Wires -/

/-- One HTTP request as it goes over a wire. -/
structure WireRequest where
  method : String
  url : Url
  /-- In the order in which they are sent. -/
  headers : List (String × String)
  body : ByteArray
  timeout : Duration
deriving Inhabited

/-- What a wire brings back. -/
inductive WireOutcome where
  /-- A reply. Its body may break off with a fault. -/
  | reply (status : Nat) (contentType : Option String) (setCookies : List String)
      (body : ByteArray) (broken : Option IoFault)
  /-- No reply, with the reason in words and the fault behind it, if it was one. -/
  | failed (message : String) (cause : Option IoFault)

abbrev Wire (World : Type) := WireRequest → World → WireOutcome × World

/-! ## Cookies -/

/-- The cookies of an agent, in the order of their names. -/
structure CookieJar where
  cookies : List (String × String)
deriving DecidableEq, Inhabited

namespace CookieJar

def empty : CookieJar := ⟨[]⟩

/-- The jar after a reply that sets a cookie; an empty value removes it. What follows the first
semicolon are conditions, which are not kept. -/
def receive (jar : CookieJar) (setCookie : String) : CookieJar :=
  let pair := setCookie.toList.takeWhile (· != ';')
  match splitOnce? '=' pair with
  | none => jar
  | some (name, value) =>
    let name := String.ofList (trimChars name)
    let value := String.ofList (trimChars value)
    if value = "" then ⟨jar.cookies.filter (·.1 != name)⟩
    else ⟨insertEntry name value jar.cookies⟩

/-- The header that shows the cookies; an empty jar shows none. -/
def header? (jar : CookieJar) : Option (String × String) :=
  if jar.cookies = [] then none
  else some ("Cookie", "; ".intercalate (jar.cookies.map fun (name, value) => name ++ "=" ++ value))

end CookieJar

/-! ## Agents -/

/-- A channel that keeps cookies. -/
inductive Agent where
  | ready (jar : CookieJar)
  | closed
deriving DecidableEq, Inhabited

namespace Agent

def fresh : Agent := .ready .empty

/-- How an agent introduces itself. -/
def userAgent : String := "libwarden/0.3.0"

/-- The most bytes of a body that are read; what goes beyond is left. -/
def maxReplySize : Nat := 16777216

/-- The part of a body that is read. A body that breaks off is none, unless enough came before. -/
def readBody (timeout : Duration) (body : ByteArray) (broken : Option IoFault) :
    Except ChannelError ByteArray :=
  match broken with
  | some f =>
    if body.size < maxReplySize then .error (.ofFailure f.text (some f) timeout)
    else .ok (body.extract 0 maxReplySize)
  | none => .ok (body.extract 0 maxReplySize)

variable {World : Type}

/-- The request of an agent with a jar, its own headers before the given ones. -/
def compose (jar : CookieJar) (method : String) (url : Url) (headers : List (String × String))
    (body : ByteArray) (timeout : Duration) : WireRequest :=
  ⟨method, url, ("User-Agent", userAgent) :: jar.header?.toList ++ headers, body, timeout⟩

/-- Sends a request over a wire. A closed agent sends nothing. -/
def call (wire : Wire World) (method : String) (headers : List (String × String))
    (body : ByteArray) (agent : Agent) (url : Url) (timeout : Duration) (w : World) :
    Delivery World Agent :=
  match agent with
  | .closed => (.error (.io "channel has been closed"), .closed, w)
  | .ready jar =>
    match wire (compose jar method url headers body timeout) w with
    | (.failed message cause, w) => (.error (.ofFailure message cause timeout), agent, w)
    | (.reply status contentType setCookies body broken, w) =>
      ((readBody timeout body broken).map fun body => ⟨status, contentType, body⟩,
        .ready (setCookies.foldl CookieJar.receive jar), w)

/-- The network of agents over a wire. -/
def network (wire : Wire World) : Network World Agent where
  dial w := (fresh, w)
  get agent url timeout w := call wire "GET" [] ByteArray.empty agent url timeout w
  post agent url contentType body timeout w :=
    call wire "POST" [("Content-Type", contentType), ("Accept", contentType)] body agent url
      timeout w
  close _ w := w

end Agent

/-! ## Serving in one process -/

def WireRequest.received (r : WireRequest) : Http.Request :=
  ⟨r.method, r.url.path.text ++ (r.url.query.map ("?" ++ ·)).getD "", r.headers, r.body⟩

/-- The wire that leads straight to whatever serves requests. -/
def directWire {World : Type} (serve : Http.Request → World → Http.Reply × World) : Wire World :=
  fun r w =>
    let (reply, w) := serve r.received w
    (.reply reply.status reply.contentType reply.setCookie.toList reply.body none, w)

end AcctAdmin.Client
