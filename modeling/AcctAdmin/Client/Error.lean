import AcctAdmin.Protocol.Codec
import AcctAdmin.Duration

/-!
# Client errors

Everything that can go wrong for a client, in one shape: a code, a message, details, a remedy and
whose fault it is. What the server refuses keeps the server's own words.
-/

set_option autoImplicit false

namespace AcctAdmin.Client

open AcctAdmin.Protocol AcctAdmin.Text

/-- Why a channel brought no reply. -/
inductive ChannelError where
  | timeout (after : Duration)
  | io (message : String)
deriving DecidableEq, Inhabited

/-- Why a client did not get what it asked for. -/
inductive Error where
  | protocol (message : String) (attributes : Attributes)
  | io (message : String)
  | http (status : Nat) (url : String)
  | noSupportedProtocols (offered supported : List Identifier)
  | notLoggedIn
  | timeout (after : Duration)
  | refused (refusal : Refusal)
deriving DecidableEq, Inhabited

def identifiersText (is : List Identifier) : String := ", ".intercalate (is.map Identifier.text)

namespace Error

def code : Error → Code
  | protocol .. => .protocol
  | io _ => .io
  | http .. => .http
  | noSupportedProtocols .. => .noSupportedProtocols
  | notLoggedIn => .notLoggedIn
  | timeout _ => .timeout
  | refused r => r.code

def message : Error → String
  | protocol message _ => "protocol error: " ++ message
  | io message => "I/O error: " ++ message
  | http status url => "HTTP status " ++ decimal status ++ " from " ++ url
  | noSupportedProtocols .. => "no supported protocols in common with the server"
  | notLoggedIn => "not logged in"
  | timeout after => "request timed out after " ++ after.text
  | refused r => r.message

/-- The detail that tells the status of the reply an error is about. -/
def statusAttribute : String := "http_status"

def attributes : Error → Attributes
  | protocol _ attributes => attributes
  | http status url => .ofList [(statusAttribute, decimal status), ("url", url)]
  | noSupportedProtocols offered supported =>
    .ofList [("offered", identifiersText offered), ("supported", identifiersText supported)]
  | refused r => r.attributes
  | io _ | notLoggedIn | timeout _ => .empty

/-- What the caller could do about it. -/
def remedy : Error → Option String
  | refused r => r.remedy
  | notLoggedIn => some "Log in before issuing commands."
  | noSupportedProtocols .. =>
    some "Upgrade the client or the server so they share a protocol version."
  | _ => none

/-- Whose fault it is: what the client noticed itself counts as its own, except for a status that
blames the server. -/
def blame : Error → Blame
  | refused r => r.blame
  | http status _ => if 500 ≤ status then .server else .client
  | _ => .client

def isAuthentication : Error → Bool
  | refused r => r.isAuthentication
  | _ => false

/-- Whether what was asked for is not there: the server says so, or its reply was a bare 404. -/
def isNotFound : Error → Bool
  | refused r => r.code == .notFound
  | protocol _ attributes => attributes.get? statusAttribute == some "404"
  | _ => false

def ofCodec (e : CodecError) : Error := .protocol e.message e.attributes

end Error

namespace ChannelError

def toError : ChannelError → Error
  | timeout after => .timeout after
  | io message => .io message

def message (e : ChannelError) : String := e.toError.message

end ChannelError

end AcctAdmin.Client
