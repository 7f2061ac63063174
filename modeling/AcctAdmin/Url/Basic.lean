import AcctAdmin.Url.Host

/-!
# URLs

A URL in the form it is compared and sent in: the scheme and the host in small letters, no dots to
resolve in the path, the default port left out, and everything that a part may not show escaped.
-/

set_option autoImplicit false

namespace AcctAdmin

open AcctAdmin.Text

structure Authority where
  user : String
  password : Option String
  host : Host
  port : Option UInt16
deriving DecidableEq, Inhabited

inductive UrlPath where
  /-- Segments below the root, each with a slash in front. -/
  | rooted (segments : List String)
  /-- A text without a root, against which no other path can be resolved. -/
  | rootless (text : String)
deriving DecidableEq, Inhabited

structure Url where
  scheme : String
  authority : Option Authority
  path : UrlPath
  query : Option String
  fragment : Option String
deriving DecidableEq, Inhabited

/-! ## Schemes -/

/-- The port of each scheme whose URLs always have a host. -/
def webPorts : List (String × UInt16) :=
  [("http", 80), ("https", 443), ("ws", 80), ("wss", 443), ("ftp", 21)]

/-- Whether URLs of a scheme always have a host, and take backslashes for slashes. -/
def isWebScheme (scheme : String) : Bool := (webPorts.lookup scheme).isSome

/-! ## Writing -/

namespace Authority

/-- The user and the password before their `@`, if there are any. -/
def userText (a : Authority) : String :=
  match a.password with
  | some password => a.user ++ ":" ++ password ++ "@"
  | none => if a.user = "" then "" else a.user ++ "@"

def text (a : Authority) : String :=
  a.userText ++ a.host.text
    ++ match a.port with
      | some port => ":" ++ decimal port.toNat
      | none => ""

end Authority

def UrlPath.text : UrlPath → String
  | rooted segments => String.join (segments.map ("/" ++ ·))
  | rootless text => text

/-- The path with a slash at its end. A text without a root that is empty gets an escaped one, for
a plain one would be its root. -/
def UrlPath.asDirectory : UrlPath → UrlPath
  | rooted segments =>
    .rooted (if segments.getLast? = some "" then segments else segments ++ [""])
  | rootless text =>
    if text = "" then .rootless "%2F"
    else if text.toList.getLast? = some '/' then .rootless text
    else .rootless (text ++ "/")

namespace Url

/-- What stands before the path. A path whose first segment is empty could be taken for a host;
without a host it gets a dot in front. -/
def frontText (u : Url) : String :=
  u.scheme ++ ":"
    ++ match u.authority, u.path with
      | some a, _ => "//" ++ a.text
      | none, .rooted ("" :: _ :: _) => "/."
      | none, _ => ""

def text (u : Url) : String :=
  u.frontText ++ u.path.text ++ ((u.query.map ("?" ++ ·)).getD "")
    ++ (u.fragment.map ("#" ++ ·)).getD ""

/-- Whether another path can be resolved against the URL's own. -/
def isBase (u : Url) : Bool :=
  match u.path with
  | .rooted _ => true
  | .rootless _ => false

/-- The URL that paths resolve below, and not beside. Query and fragment stay. -/
def asDirectory (u : Url) : Url := { u with path := u.path.asDirectory }

end Url

end AcctAdmin
