/-!
# Error codes

Every failure has a code that programs can act on. The protocol's own codes are fixed words; a
five-place code of the storage layer is passed on as it is; any other word is kept, so that a
code of a newer server is not taken for something it is not.
-/

set_option autoImplicit false

namespace AcctAdmin.Protocol

/-- What kind of failure it is. -/
inductive Code where
  | protocol
  | io
  | http
  | noSupportedProtocols
  | authentication
  | notLoggedIn
  | timeout
  | rateLimitExceeded
  | banned
  | validity
  | security
  | password
  | notFound
  | searchNotStarted
  | internal
  | storage (code : String)
  | other (code : String)
deriving DecidableEq, Inhabited

namespace Code

/-- The codes that are fixed words. -/
def named : List Code :=
  [.protocol, .io, .http, .noSupportedProtocols, .authentication, .notLoggedIn, .timeout,
    .rateLimitExceeded, .banned, .validity, .security, .password, .notFound, .searchNotStarted,
    .internal]

def text : Code → String
  | .protocol => "ProtocolError"
  | .io => "IOError"
  | .http => "HTTPError"
  | .noSupportedProtocols => "NoSupportedProtocols"
  | .authentication => "AuthenticationError"
  | .notLoggedIn => "NotLoggedIn"
  | .timeout => "TimeoutError"
  | .rateLimitExceeded => "RateLimitExceeded"
  | .banned => "Banned"
  | .validity => "Validity"
  | .security => "Security"
  | .password => "PasswordError"
  | .notFound => "NotFound"
  | .searchNotStarted => "SearchNotStarted"
  | .internal => "Internal"
  | .storage code => code
  | .other code => code

/-- Storage codes are five digits or capital letters. -/
def isStorageCode (s : String) : Bool :=
  s.toList.length == 5 && s.toList.all fun c => c.isDigit || c.isUpper

def ofText (s : String) : Code :=
  match named.find? (·.text == s) with
  | some code => code
  | none => if isStorageCode s then .storage s else .other s

def isStorage : Code → Bool
  | .storage _ => true
  | _ => false

end Code

/-- Whose fault a failure is. -/
inductive Blame where
  | client | server
deriving DecidableEq, Inhabited

def Blame.text : Blame → String
  | .client => "CLIENT"
  | .server => "SERVER"

end AcctAdmin.Protocol
