import AcctAdmin.Text.Case

/-!
# HTTP requests and replies

As much of HTTP as the server's front and the client's agent exchange.
-/

set_option autoImplicit false

namespace AcctAdmin.Http

open AcctAdmin.Text

/-- A request as it reaches the server. -/
structure Request where
  method : String
  /-- The path, with a query behind it if there is one. -/
  target : String
  headers : List (String × String)
  body : ByteArray
deriving Inhabited

/-- A reply as it leaves the server. -/
structure Reply where
  status : Nat
  contentType : Option String
  setCookie : Option String
  allow : Option String
  body : ByteArray
deriving Inhabited

def Request.path (r : Request) : String := String.ofList (r.target.toList.takeWhile (· != '?'))

/-- Whether a header value can be read as a text: visible ASCII, blanks and tabs. -/
def isReadable (value : String) : Bool :=
  value.toList.all fun c => c == '\t' || (' ' ≤ c && c ≤ '~')

/-- The value of the first header of a name, whatever the case of the name; an unreadable value
counts as none. -/
def Request.header? (r : Request) (name : String) : Option String :=
  match r.headers.find? fun (n, _) => sameUpToAsciiCase n name with
  | some (_, value) => if isReadable value then some value else none
  | none => none

def Reply.bare (status : Nat) : Reply := ⟨status, none, none, none, ByteArray.empty⟩

end AcctAdmin.Http
