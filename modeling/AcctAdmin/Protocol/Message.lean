import AcctAdmin.Search
import AcctAdmin.Page
import AcctAdmin.Attributes
import AcctAdmin.Protocol.Code

/-!
# Commands and replies

What a client asks of the server and what the server answers. A command's kind settles the kind
of its reply, and a reply's kind settles the type of what it carries.
-/

set_option autoImplicit false

namespace AcctAdmin.Protocol

/-! ## Kinds -/

inductive CommandKind where
  | login
  | logout
  | userCreate
  | userGet
  | userDelete
  | userBan
  | userUnban
  | searchBegin (search : SearchKind)
  | searchTurn (search : SearchKind) (turn : Turn)
deriving DecidableEq, Inhabited

namespace CommandKind

/-- Every kind of command, in the order of the registry. -/
def all : List CommandKind :=
  [.login, .logout, .userCreate, .userGet, .userDelete, .userBan, .userUnban,
    .searchBegin .accounts, .searchTurn .accounts .next, .searchTurn .accounts .previous,
    .searchBegin .accountsByEmail, .searchTurn .accountsByEmail .next,
    .searchTurn .accountsByEmail .previous,
    .searchBegin .audit, .searchTurn .audit .next, .searchTurn .audit .previous]

def word : CommandKind → String
  | .login => "Login"
  | .logout => "Logout"
  | .userCreate => "UserCreate"
  | .userGet => "UserGet"
  | .userDelete => "UserDelete"
  | .userBan => "UserBan"
  | .userUnban => "UserUnban"
  | .searchBegin .accounts => "UserSearchBegin"
  | .searchTurn .accounts .next => "UserSearchNext"
  | .searchTurn .accounts .previous => "UserSearchPrevious"
  | .searchBegin .accountsByEmail => "UserSearchByEmailBegin"
  | .searchTurn .accountsByEmail .next => "UserSearchByEmailNext"
  | .searchTurn .accountsByEmail .previous => "UserSearchByEmailPrevious"
  | .searchBegin .audit => "AuditSearchBegin"
  | .searchTurn .audit .next => "AuditSearchNext"
  | .searchTurn .audit .previous => "AuditSearchPrevious"

def ofWord? (s : String) : Option CommandKind := all.find? (·.word == s)

/-- Logging in has an endpoint of its own and is never repeated behind the caller's back. -/
def isLogin (k : CommandKind) : Bool := k == .login

end CommandKind

inductive ReplyKind where
  | loginOk
  | done
  | userCreated
  | user
  | userPage
  | auditPage
deriving DecidableEq, Inhabited

namespace ReplyKind

/-- Every kind of reply, in the order of the registry. -/
def all : List ReplyKind := [.loginOk, .done, .userCreated, .user, .userPage, .auditPage]

def word : ReplyKind → String
  | .loginOk => "LoginOk"
  | .done => "Done"
  | .userCreated => "UserCreated"
  | .user => "User"
  | .userPage => "UserPage"
  | .auditPage => "AuditPage"

def ofWord? (s : String) : Option ReplyKind := all.find? (·.word == s)

/-- What a reply of the kind carries. -/
def Payload : ReplyKind → Type
  | .loginOk => AccountSummary
  | .done => Unit
  | .userCreated => AccountId
  | .user => AccountView
  | .userPage => Page AccountSummary
  | .auditPage => Page AuditEvent

end ReplyKind

/-- The word that names an error response. -/
def errorWord : String := "Error"

/-- Whether no word names two things and each word finds the kind it names. -/
def registryIsSound : Bool :=
  let words := errorWord :: CommandKind.all.map (·.word) ++ ReplyKind.all.map (·.word)
  words.eraseDups.length == words.length
    && CommandKind.all.all (fun k => CommandKind.ofWord? k.word == some k)
    && ReplyKind.all.all (fun k => ReplyKind.ofWord? k.word == some k)

/-! ## Commands -/

structure Login where
  userName : String
  password : String
deriving DecidableEq, Inhabited

structure NewAccount where
  name : String
  email : String
  realName : String
  password : String
  admin : Bool
deriving DecidableEq, Inhabited

/-- What a client can ask for. -/
inductive Command where
  | login (login : Login)
  | logout
  | userCreate (account : NewAccount)
  | userGet (user : AccountId)
  | userDelete (user : AccountId)
  | userBan (user : AccountId) (reason : String) (expires : Option UInt64)
  | userUnban (user : AccountId)
  | searchBegin (query : Query)
  | searchTurn (search : SearchKind) (turn : Turn)
deriving DecidableEq, Inhabited

namespace Command

def kind : Command → CommandKind
  | .login _ => .login
  | .logout => .logout
  | .userCreate _ => .userCreate
  | .userGet _ => .userGet
  | .userDelete _ => .userDelete
  | .userBan .. => .userBan
  | .userUnban _ => .userUnban
  | .searchBegin q => .searchBegin q.kind
  | .searchTurn s t => .searchTurn s t

end Command

/-- What pages of a search hold. -/
def pageKind : SearchKind → ReplyKind
  | .accounts | .accountsByEmail => .userPage
  | .audit => .auditPage

/-- The kind of reply that a command is promised. -/
def CommandKind.replyKind : CommandKind → ReplyKind
  | .login => .loginOk
  | .logout | .userDelete | .userBan | .userUnban => .done
  | .userCreate => .userCreated
  | .userGet => .user
  | .searchBegin s => pageKind s
  | .searchTurn s _ => pageKind s

/-! ## Replies -/

/-- What the server answers when all went well. -/
inductive Reply where
  | loginOk (user : AccountSummary)
  | done
  | userCreated (user : AccountId)
  | user (view : AccountView)
  | userPage (page : Page AccountSummary)
  | auditPage (page : Page AuditEvent)
deriving DecidableEq, Inhabited

namespace Reply

def kind : Reply → ReplyKind
  | .loginOk _ => .loginOk
  | .done => .done
  | .userCreated _ => .userCreated
  | .user _ => .user
  | .userPage _ => .userPage
  | .auditPage _ => .auditPage

/-- What the reply carries, if it is of the kind asked for. -/
def payload? : (kind : ReplyKind) → Reply → Option kind.Payload
  | .loginOk, .loginOk summary => some summary
  | .done, .done => some ()
  | .userCreated, .userCreated id => some id
  | .user, .user view => some view
  | .userPage, .userPage page => some page
  | .auditPage, .auditPage page => some page
  | _, _ => none

/-- The reply of a kind that carries the given payload. -/
def ofPayload : (kind : ReplyKind) → kind.Payload → Reply
  | .loginOk, summary => .loginOk summary
  | .done, _ => .done
  | .userCreated, id => .userCreated id
  | .user, found => .user found
  | .userPage, page => .userPage page
  | .auditPage, page => .auditPage page

end Reply

/-! ## Responses -/

structure RequestId where
  uuid : Uuid
deriving DecidableEq, Inhabited

def RequestId.text (id : RequestId) : String := id.uuid.hyphenated

/-- The answer to a command that was not carried out. -/
structure Refusal where
  requestId : RequestId
  message : String
  code : Code
  attributes : Attributes
  /-- What the caller could do about it. -/
  remedy : Option String
  blame : Blame
deriving DecidableEq, Inhabited

def Refusal.isAuthentication (r : Refusal) : Bool := r.code == .authentication

/-- The outcome of one exchange. -/
inductive Response where
  | success (requestId : RequestId) (reply : Reply)
  | refused (refusal : Refusal)
deriving DecidableEq, Inhabited

def Response.requestId : Response → RequestId
  | .success id _ => id
  | .refused r => r.requestId

end AcctAdmin.Protocol
