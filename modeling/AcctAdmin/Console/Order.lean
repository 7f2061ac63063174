import AcctAdmin.Console.Usage
import AcctAdmin.Protocol.Message
import AcctAdmin.Duration

/-!
# Orders

What one run of the tool is told to do, and which arguments each command takes for it.
-/

set_option autoImplicit false

namespace AcctAdmin.Console

open AcctAdmin.Protocol

/-! ## Orders -/

/-- What a run is to do. -/
inductive Order where
  /-- Show which generation is settled on; this needs no login. -/
  | protocols
  /-- Show so many pages of a search. -/
  | search (query : Query) (pages : Nat)
  | view (user : AccountId)
  | create (account : NewAccount)
  | delete (user : AccountId)
  | ban (user : AccountId) (reason : String) (expires : Option UInt64)
  | unban (user : AccountId)
deriving DecidableEq, Inhabited

/-- A whole command line: where the server is, who asks, how long to wait, and what for. -/
structure Invocation where
  server : Url
  user : Option String
  password : Option String
  timeout : Duration
  order : Order
deriving DecidableEq, Inhabited

/-- The server of a line that names none: port 7480 of this machine. -/
def standardServer : Url :=
  ⟨"http", some ⟨"", none, .v4 (.ofNat 0x7f000001), some 7480⟩, .rooted [""], none, none⟩

/-- The seconds of a line that does not say how long to wait. -/
def standardSeconds : UInt64 := 30

/-! ## Commands -/

inductive Verb where
  | protocols
  | searchAccounts
  | view
  | create
  | delete
  | ban
  | unban
  | searchAudit
deriving DecidableEq, Inhabited

namespace Verb

/-- The options of a command, the general ones aside. -/
def options : Verb → List Argument
  | protocols | view | delete | unban => []
  | searchAccounts => [.email, .limit, .pages]
  | create => [.email, .realName, .newPassword, .admin]
  | ban => [.reason, .expires]
  | searchAudit => [.owner, .kind, .message, .limit, .pages]

/-- The arguments of a command that are told by their place. -/
def places : Verb → List Argument
  | protocols | searchAudit => []
  | searchAccounts => [.query]
  | create => [.name]
  | view | delete | ban | unban => [.id]

/-- The order that a command becomes with its arguments. Among them the address and the text to
search for exclude each other. -/
def order (v : Verb) (given : Given) : Except Usage Order :=
  let required (a : Argument) : Except Usage a.Value :=
    match given.get? a with
    | some value => .ok value
    | none => .error (.missing a)
  let limit : UInt32 := (given.get? .limit).getD defaultPageSize
  let pages : UInt32 := (given.get? .pages).getD 1
  match v with
  | protocols => .ok .protocols
  | searchAccounts =>
    match given.get? .email, given.get? .query with
    | some _, some _ => .error (.conflict .email .query)
    | some email, none =>
      .ok (.search (.accountsByEmail { EmailQuery.standard with email, limit }) pages.toNat)
    | none, text =>
      .ok (.search (.accounts { AccountQuery.standard with text, limit }) pages.toNat)
  | view => return .view (← required .id)
  | create => do
    let name ← required .name
    let email ← required .email
    let realName ← required .realName
    let password ← required .newPassword
    return .create ⟨name, email, realName, password, given.has .admin⟩
  | delete => return .delete (← required .id)
  | ban => do
    let id ← required .id
    let reason ← required .reason
    return .ban id reason (given.get? .expires)
  | unban => return .unban (← required .id)
  | searchAudit =>
    let query : AuditQuery :=
      { AuditQuery.standard with
        owner := given.get? .owner, kind := given.get? .kind, message := given.get? .message
        limit }
    .ok (.search (.audit query) pages.toNat)

end Verb

/-! ## Levels -/

/-- How far a command line has come: at the top, within a group of commands, or at a command. -/
inductive Level where
  | top
  | users
  | audit
  | command (verb : Verb)
deriving DecidableEq, Inhabited

namespace Level

/-- The words that lead on, and where. -/
def children : Level → List (String × Level)
  | top => [("protocols", .command .protocols), ("users", users), ("audit", audit)]
  | users =>
    [("search", .command .searchAccounts), ("get", .command .view), ("create", .command .create),
     ("delete", .command .delete), ("ban", .command .ban), ("unban", .command .unban)]
  | audit => [("search", .command .searchAudit)]
  | .command _ => []

def child? (l : Level) (word : String) : Option Level := l.children.lookup word

/-- Whether a command has still to be named. -/
def isGroup (l : Level) : Bool := !l.children.isEmpty

def options : Level → List Argument
  | .command v => v.options ++ Argument.general
  | _ => Argument.general

def places : Level → List Argument
  | .command v => v.places
  | _ => []

/-- The order of a line that ends here. -/
def order (given fallback : Given) : Level → Except Usage Order
  | .command v => v.order (given ++ fallback)
  | _ => .error (if given.isEmpty then .nothingAsked else .noCommand)

end Level

end AcctAdmin.Console
