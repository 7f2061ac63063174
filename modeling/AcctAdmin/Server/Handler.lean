import AcctAdmin.Server.Lookup
import AcctAdmin.Server.Sessions
import AcctAdmin.Server.Attempts
import AcctAdmin.Text.Blank

/-!
# Carrying out commands

What each command does, within one transaction. A command may also use the session table and
the count of login attempts, which take effect at once; what must wait until the transaction has
committed (mail, ending the sessions of somebody else) is put by.
-/

set_option autoImplicit false

namespace AcctAdmin.Server

open AcctAdmin.Protocol AcctAdmin.Text

/-! ## Surroundings -/

/-- A command's circumstances: who asks, from where, and when (in unix milliseconds). -/
structure Request where
  requestId : RequestId
  host : String
  session : Option SessionKey
  now : Nat
deriving DecidableEq, Inhabited

def Request.seconds (r : Request) : UInt64 := UInt64.ofNat (r.now / 1000)

/-- How many rows a page has: for a search that does not say, and at most. -/
structure PageLimits where
  standard : UInt32
  max : UInt32
deriving DecidableEq, Inhabited

def PageLimits.sizeFor (l : PageLimits) (limit : UInt32) : UInt32 :=
  if limit = 0 then l.standard else min limit l.max

/-- How hashing a password ends. A hash that is made accepts the password and no other. -/
inductive HashResult where
  | made
  | failed (reason : String)
  | panicked (payload : Option String)
deriving DecidableEq, Inhabited

/-- What one attempt at a command is given from outside: fresh identifiers for an account and a
session, how hashing a password ends, and what other transactions do to the store while it
goes on. -/
structure Draw where
  account : AccountId
  session : Uuid
  hashing : HashResult
  meanwhile : Store → Store

/-- How a command changes its caller's session. -/
inductive SessionChange where
  | started (key : SessionKey)
  | ended
deriving DecidableEq, Inhabited

/-- A mail to the owner of an account. -/
structure Mail where
  recipient : String
  subject : String
  body : String
deriving DecidableEq, Inhabited

/-- What a command leaves to be done. -/
structure Effects where
  session : Option SessionChange
  /-- Whose sessions end once the transaction has committed. -/
  revoked : List AccountId
  /-- What is sent once the transaction has committed. -/
  mail : List Mail
  hashed : Nat
deriving DecidableEq, Inhabited

def Effects.none : Effects := ⟨.none, [], [], 0⟩

/-- All that a command reads and changes. -/
structure Desk where
  store : Store
  tx : Transaction
  sessions : Sessions
  attempts : Attempts
  effects : Effects
deriving DecidableEq, Inhabited

/-- Why a command stops short. -/
inductive Halt where
  | fault (fault : Fault)
  | panic (payload : Option String)
deriving DecidableEq, Inhabited

/-- A step of a command. What it changed before it stopped short stays changed. -/
abbrev Handling := ExceptT Halt (StateM Desk)

namespace Handling

def refuse {α : Type} (f : Fault) : Handling α := throw (.fault f)

def ofStorage {α : Type} : Except StorageError α → Handling α
  | .ok a => pure a
  | .error e => refuse (.storage e)

def forbid (p : Prop) [Decidable p] (f : Fault) : Handling Unit := if p then refuse f else pure ()

def objectTo : Option Fault → Handling Unit
  | some f => refuse f
  | none => pure ()

def expect {α : Type} (f : Fault) : Option α → Handling α
  | some a => pure a
  | none => refuse f

def write (f : Transaction → Store → Except StorageError (Transaction × Store)) :
    Handling Unit := do
  let desk ← get
  let (tx, store) ← ofStorage (f desk.tx desk.store)
  set { desk with tx := tx, store := store }

def remove (id : AccountId) : Handling (Option Account) := do
  let desk ← get
  let (removed, tx, store) ← ofStorage (desk.tx.delete desk.store id)
  set { desk with tx := tx, store := store }
  pure removed

def note (time : UInt64) (owner : AccountId) (kind message : String) : Handling Unit :=
  modify fun desk => { desk with tx := desk.tx.note ⟨time, owner, kind, message⟩ }

def endSession (key : SessionKey) : Handling Unit :=
  modify fun desk => { desk with sessions := (desk.sessions.remove key).2 }

def setSessionChange (change : SessionChange) : Handling Unit :=
  modify fun desk => { desk with effects := { desk.effects with session := some change } }

def revoke (principal : AccountId) : Handling Unit :=
  modify fun desk =>
    { desk with effects := { desk.effects with revoked := desk.effects.revoked ++ [principal] } }

def sendLater (mail : Mail) : Handling Unit :=
  modify fun desk =>
    { desk with effects := { desk.effects with mail := desk.effects.mail ++ [mail] } }

/-- Hashes a password, while other transactions go on. -/
def hash (draw : Draw) (password : String) : Handling Credential := do
  modify fun desk =>
    { desk with
      store := draw.meanwhile desk.store
      effects := { desk.effects with hashed := desk.effects.hashed + 1 } }
  match draw.hashing with
  | .made => pure (.ofPassword password)
  | .failed reason => refuse (.hashing reason)
  | .panicked payload => throw (.panic payload)

/-! ## Who is asking -/

def lookUp (key : SessionKey) (now : Nat) : Handling (Option Session) := do
  let desk ← get
  let (found, sessions) := desk.sessions.get key now
  set { desk with sessions := sessions }
  pure found

/-- Why a session may not be used any longer: its account is gone, or banned. -/
def sessionObjection? (tx : Transaction) (principal : AccountId) (now : UInt64) : Option Fault :=
  match tx.account? principal with
  | none => some (.authentication "account no longer exists")
  | some account => (account.activeBan? now).map .banned

/-- The caller's session. A session that may not be used any longer ends. -/
def session (r : Request) : Handling Session := do
  let key ← expect (.authentication "not logged in") r.session
  let caller ← expect (.authentication "session expired") (← lookUp key r.now)
  let desk ← get
  match sessionObjection? desk.tx key.principal r.seconds with
  | some fault =>
    endSession key
    refuse fault
  | none => pure caller

/-- The account of a caller who must be an administrator. Their session says whether they are. -/
def admin (caller : Session) : Handling AccountId :=
  if caller.admin then pure caller.key.principal
  else refuse (.security "this command requires an administrator")

def noSuchUser (id : AccountId) : Fault := .notFound ("no user with id " ++ id.text)

def existing (id : AccountId) : Handling Account := do
  let desk ← get
  expect (noSuchUser id) (desk.tx.account? id)

/-! ## Logging in and out -/

/-- What anybody is told who cannot show the right password, so that nobody learns which names
there are. -/
def rejected : Fault := .authentication "invalid user name or password"

/-- Counts an attempt to log in, unless there have been too many from the caller's host. -/
def countAttempt (r : Request) : Handling Unit := do
  let desk ← get
  let (verdict, attempts) := desk.attempts.check r.host r.now
  set { desk with attempts := attempts }
  match verdict with
  | .ok () => pure ()
  | .error e => refuse (.tooManyAttempts e)

/-- Begins a session of an account in place of the one that the caller has. -/
def beginSession (r : Request) (draw : Draw) (account : Account) : Handling Unit := do
  r.session.forM endSession
  let key : SessionKey := ⟨account.id, draw.session⟩
  modify fun desk =>
    { desk with sessions := desk.sessions.create key account.name account.admin r.now }
  setSessionChange (.started key)

def login (r : Request) (draw : Draw) (l : Login) : Handling Reply := do
  countAttempt r
  let desk ← get
  let account ← expect rejected (desk.tx.accountByName? l.userName)
  forbid (account.credential.accepts l.password = false) rejected
  objectTo ((account.activeBan? r.seconds).map .banned)
  note r.seconds account.id "LOGIN" (account.name ++ " logged in from " ++ r.host)
  beginSession r draw account
  pure (.loginOk account.summary)

def logout (r : Request) : Handling Reply := do
  let key ← expect (.authentication "not logged in") r.session
  let _ ← lookUp key r.now
  endSession key
  setSessionChange .ended
  pure .done

/-! ## Accounts -/

def minPasswordLength : Nat := 8
def maxNameLength : Nat := 64

/-- The characters that a user name is made of. -/
def isNameChar (c : Char) : Bool := c.isAlphanum || c == '.' || c == '_' || c == '-'

/-- Whether an address has something before its first at sign and a point after it. -/
def isEmailAddress (s : String) : Bool :=
  match splitOnce? '@' s.toList with
  | some (before, after) => !before.isEmpty && after.contains '.'
  | none => false

/-- What is wrong with an account that is to be created, its fields trimmed. -/
def objection? (name email realName password : String) : Option Fault :=
  if name.isEmpty ∨ maxNameLength < name.utf8ByteSize then
    some (.validity ("user name must be 1 to " ++ decimal maxNameLength ++ " characters")
      (some "name"))
  else if !name.toList.all isNameChar then
    some (.validity "user name may only contain letters, digits, '.', '_' and '-'" (some "name"))
  else if !isEmailAddress email then
    some (.validity "email address is malformed" (some "email"))
  else if realName.isEmpty then
    some (.validity "real name must not be empty" (some "real_name"))
  else if password.toList.length < minPasswordLength then
    some (.password ("password must be at least " ++ decimal minPasswordLength ++ " characters"))
  else none

def userCreate (r : Request) (draw : Draw) (caller : Session) (new : NewAccount) :
    Handling Reply := do
  let actor ← admin caller
  let name := trim new.name
  let email := trim new.email
  let realName := trim new.realName
  objectTo (objection? name email realName new.password)
  let credential ← hash draw new.password
  write fun tx store =>
    tx.insert store
      ⟨draw.account, name, email, realName, new.admin, r.seconds, credential, none⟩
  note r.seconds actor "USER_CREATED" ("created user " ++ name)
  sendLater
    { recipient := email
      subject := "Your account is ready"
      body :=
        "Hello " ++ realName ++ ",\n\nan account named " ++ name
          ++ " has been created for you.\n" }
  pure (.userCreated draw.account)

def userGet (caller : Session) (id : AccountId) : Handling Reply := do
  forbid (caller.admin = false ∧ caller.key.principal ≠ id)
    (.security "only administrators may view other accounts")
  let account ← existing id
  pure (.user account.view)

def userDelete (r : Request) (caller : Session) (id : AccountId) : Handling Reply := do
  let actor ← admin caller
  forbid (actor = id) (.security "cannot delete your own account")
  let removed ← expect (noSuchUser id) (← remove id)
  note r.seconds actor "USER_DELETED" ("deleted user " ++ removed.name)
  revoke id
  pure .done

/-- How an audit note words the end of a ban. -/
def untilText : Option UInt64 → String
  | some time => "until " ++ decimal time.toNat
  | none => "permanently"

def userBan (r : Request) (caller : Session) (id : AccountId) (reason : String)
    (expires : Option UInt64) : Handling Reply := do
  let actor ← admin caller
  forbid (actor = id) (.security "cannot ban your own account")
  let reason := trim reason
  forbid (reason.isEmpty = true) (.validity "a ban needs a reason" (some "reason"))
  forbid (expires.any (· ≤ r.seconds) = true)
    (.validity "ban expiry lies in the past" (some "expires"))
  let account ← existing id
  write fun tx store => tx.setBan store id (some ⟨reason, expires⟩)
  note r.seconds actor "USER_BANNED"
    ("banned user " ++ account.name ++ " " ++ untilText expires ++ ": " ++ reason)
  revoke id
  pure .done

def userUnban (r : Request) (caller : Session) (id : AccountId) : Handling Reply := do
  let actor ← admin caller
  let account ← existing id
  write fun tx store => tx.setBan store id none
  note r.seconds actor "USER_UNBANNED" ("lifted ban on user " ++ account.name)
  pure .done

/-! ## Searches -/

/-- Where a session keeps the cursor of one kind of search. -/
structure Slot (Query : Type) where
  get : Cursors → Option (Cursor Query)
  set : Option (Cursor Query) → Cursors → Cursors

def accountSlot : Slot AccountQuery := ⟨(·.accounts), fun c all => { all with accounts := c }⟩

def emailSlot : Slot EmailQuery :=
  ⟨(·.accountsByEmail), fun c all => { all with accountsByEmail := c }⟩

def auditSlot : Slot AuditQuery := ⟨(·.audit), fun c all => { all with audit := c }⟩

def keepCursor {Query : Type} (slot : Slot Query) (key : SessionKey)
    (cursor : Option (Cursor Query)) : Handling Unit :=
  modify fun desk =>
    { desk with sessions := desk.sessions.update key fun session =>
        { session with cursors := slot.set cursor session.cursors } }

/-- Begins a search. A cursor of that kind is given up even if the first page cannot be read. -/
def searchBegin {Query Row : Type} (caller : Session) (slot : Slot Query) (query : Query)
    (size : UInt32) (source : Desk → Source Row) : Handling (Page Row) := do
  let _ ← admin caller
  keepCursor slot caller.key none
  let desk ← get
  let (page, cursor) := (Cursor.start query size).move .stay (source desk)
  let page ← ofStorage page
  keepCursor slot caller.key (some cursor)
  pure page

def searchTurn {Query Row : Type} (caller : Session) (name : String) (slot : Slot Query)
    (turn : Turn) (source : Desk → Query → Source Row) : Handling (Page Row) := do
  let _ ← admin caller
  let cursor ← expect (.searchNotStarted name) (slot.get caller.cursors)
  let desk ← get
  let (page, cursor) := cursor.move (.ofTurn turn) (source desk cursor.query)
  keepCursor slot caller.key (some cursor)
  ofStorage page

def accountRows (desk : Desk) (q : AccountQuery) : Source AccountSummary := desk.tx.accounts q

def emailRows (desk : Desk) (q : EmailQuery) : Source AccountSummary := desk.tx.accountsByEmail q

def auditRows (desk : Desk) (q : AuditQuery) : Source AuditEvent := desk.tx.events desk.store q

/-- What a search is called when it is missing. -/
def searchName : SearchKind → String
  | .accounts => "user"
  | .accountsByEmail => "user by email"
  | .audit => "audit"

/-! ## All commands -/

/-- Finds the caller of a command that may not be given by anybody. An empty search for e-mail
addresses is refused before that. -/
def identify (r : Request) : Command → Handling Session
  | .searchBegin (.accountsByEmail q) => do
    forbid (isAllBlank q.email = true) (.validity "email query must not be empty" (some "email"))
    session r
  | _ => session r

/-- Carries out a command for a caller. Logging in and out take no notice of who that is. -/
def carryOut (limits : PageLimits) (r : Request) (draw : Draw) (caller : Session) :
    Command → Handling Reply
  | .login l => login r draw l
  | .logout => logout r
  | .userCreate new => userCreate r draw caller new
  | .userGet id => userGet caller id
  | .userDelete id => userDelete r caller id
  | .userBan id reason expires => userBan r caller id reason expires
  | .userUnban id => userUnban r caller id
  | .searchBegin (.accounts q) =>
    .userPage <$> searchBegin caller accountSlot q (limits.sizeFor q.limit) (accountRows · q)
  | .searchBegin (.accountsByEmail q) =>
    .userPage <$> searchBegin caller emailSlot q (limits.sizeFor q.limit) (emailRows · q)
  | .searchBegin (.audit q) =>
    .auditPage <$> searchBegin caller auditSlot q (limits.sizeFor q.limit) (auditRows · q)
  | .searchTurn .accounts turn =>
    .userPage <$> searchTurn caller (searchName .accounts) accountSlot turn accountRows
  | .searchTurn .accountsByEmail turn =>
    .userPage <$> searchTurn caller (searchName .accountsByEmail) emailSlot turn emailRows
  | .searchTurn .audit turn =>
    .auditPage <$> searchTurn caller (searchName .audit) auditSlot turn auditRows

/-- Does what a command asks for. All but logging in and out begin with finding the caller. -/
def dispatch (limits : PageLimits) (r : Request) (draw : Draw) : Command → Handling Reply
  | .login l => login r draw l
  | .logout => logout r
  | c => do carryOut limits r draw (← identify r c) c

end Handling

end AcctAdmin.Server
