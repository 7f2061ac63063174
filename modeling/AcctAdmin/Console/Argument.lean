import AcctAdmin.Search
import AcctAdmin.Url.Reader

/-!
# Arguments

What can be given on the command line: each argument's spelling, the shape of its value, and the
values that a line gives. A value is read once, when it is taken, so that whatever was given has
the type that its argument promises.
-/

set_option autoImplicit false

namespace AcctAdmin.Console

open AcctAdmin.Text

/-! ## Shapes -/

/-- The shapes that values have. -/
inductive Shape where
  | text
  | url
  | account
  | count
  | seconds
  | flag
deriving DecidableEq, Inhabited

namespace Shape

abbrev Value : Shape → Type
  | text => String
  | url => Url
  | account => AccountId
  | count => UInt32
  | seconds => UInt64
  | flag => Unit

/-- A number of 32 bits. It may have a sign, though of the numbers with a minus only zero is one. -/
def readCount? : List Char → Option UInt32
  | '-' :: cs => (readDecimal? cs).bind fun n => if n = 0 then some 0 else none
  | cs => (readBounded? UInt32.size cs).map UInt32.ofNat

def read? : (s : Shape) → String → Option s.Value
  | text, t => some t
  | url, t => Url.parse? t
  | account, t => AccountId.parse? t
  | count, t => readCount? t.toList
  | seconds, t => (readBounded? UInt64.size t.toList).map UInt64.ofNat
  | flag, _ => some ()

end Shape

/-! ## Arguments -/

/-- The arguments that a command line can have, options and places alike. -/
inductive Argument where
  | server
  | user
  | password
  | timeout
  | query
  | email
  | limit
  | pages
  | id
  | name
  | realName
  | newPassword
  | admin
  | reason
  | expires
  | owner
  | kind
  | message
deriving DecidableEq, Inhabited

namespace Argument

abbrev shape : Argument → Shape
  | server => .url
  | id | owner => .account
  | limit | pages => .count
  | timeout | expires => .seconds
  | admin => .flag
  | user | password | query | email | name | realName | newPassword | reason | kind | message =>
    .text

abbrev Value (a : Argument) : Type := a.shape.Value

/-- The word that stands for the argument: behind two dashes in an option, and between angles
where an argument is told by its place. -/
def word : Argument → String
  | server => "server"
  | user => "user"
  | password => "password"
  | timeout => "timeout"
  | query => "query"
  | email => "email"
  | limit => "limit"
  | pages => "pages"
  | id => "id"
  | name => "name"
  | realName => "real-name"
  | newPassword => "new-password"
  | admin => "admin"
  | reason => "reason"
  | expires => "expires"
  | owner => "owner"
  | kind => "kind"
  | message => "message"

/-- The letter that stands for the argument behind one dash. -/
def letter? : Argument → Option Char
  | user => some 'u'
  | _ => none

/-- The environment variable that stands in for the argument. -/
def environmentName? : Argument → Option String
  | server => some "WARDEN_SERVER"
  | user => some "WARDEN_USER"
  | password => some "WARDEN_PASSWORD"
  | timeout => some "WARDEN_TIMEOUT"
  | newPassword => some "WARDEN_NEW_PASSWORD"
  | _ => none

/-- The arguments that every command takes. -/
def general : List Argument := [server, user, password, timeout]

end Argument

/-! ## What is given -/

/-- Arguments with their values, in the order in which they were taken. -/
abbrev Given := List (Sigma Argument.Value)

namespace Given

def get? (a : Argument) : Given → Option a.Value
  | [] => none
  | ⟨b, value⟩ :: rest => if h : b = a then some (h ▸ value) else get? a rest

def has (a : Argument) (g : Given) : Bool := g.any (·.1 == a)

end Given

end AcctAdmin.Console
