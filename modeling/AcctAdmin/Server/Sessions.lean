import AcctAdmin.Server.Cursor
import AcctAdmin.Text.Blank
import AcctAdmin.Text.Split

/-!
# Sessions

Who is logged in. A session is named by its account and an identifier of its own, remembers the
searches begun in it, and ends when it has not been used for a while. Times are milliseconds.
-/

set_option autoImplicit false

namespace AcctAdmin.Server

open AcctAdmin.Text

structure SessionKey where
  principal : AccountId
  session : Uuid
deriving DecidableEq, Inhabited

namespace SessionKey

/-- The account's identifier, a point, and the digits of the session's. -/
def text (k : SessionKey) : String := k.principal.text ++ "." ++ k.session.plain

/-- Reads a key: two identifiers, in any spelling, around the first point. -/
def ofChars? (cs : List Char) : Option SessionKey := do
  let (front, back) := (splitOnce? '.' cs).getD (cs, [])
  let principal ← Uuid.ofChars? front
  let session ← Uuid.ofChars? back
  some ⟨⟨principal⟩, session⟩

def parse? (s : String) : Option SessionKey := ofChars? s.toList

def cookieName : String := "warden_session"

/-- The key in a Cookie header: the value of the first cookie of the right name, if that value
is a key. -/
def ofCookies? (header : String) : Option SessionKey :=
  let pairs := (splitBy (· == ';') header.toList).filterMap fun piece =>
    splitOnce? '=' (trimChars piece)
  match pairs.find? (·.1 == cookieName.toList) with
  | some (_, value) => ofChars? value
  | none => none

end SessionKey

/-- The searches of a session, one of each kind. -/
structure Cursors where
  accounts : Option (Cursor AccountQuery)
  accountsByEmail : Option (Cursor EmailQuery)
  audit : Option (Cursor AuditQuery)
deriving DecidableEq, Inhabited

def Cursors.none : Cursors := ⟨.none, .none, .none⟩

/-- A session: who is logged in, and when it was used last. -/
structure Session where
  key : SessionKey
  userName : String
  admin : Bool
  cursors : Cursors
  lastSeen : Nat
deriving DecidableEq, Inhabited

/-- The sessions that have not ended, and how long one may go unused. -/
structure Sessions where
  live : List Session
  idleTimeout : Nat
deriving DecidableEq, Inhabited

namespace Sessions

def empty (idleTimeout : Nat) : Sessions := ⟨[], idleTimeout⟩

def count (s : Sessions) : Nat := s.live.length

/-- Whether a session has gone unused for too long. -/
def isIdle (s : Sessions) (now : Nat) (session : Session) : Bool :=
  s.idleTimeout ≤ now - session.lastSeen

def find? (s : Sessions) (key : SessionKey) : Option Session := s.live.find? (·.key == key)

/-- Ends one session; says whether there was one to end. -/
def remove (s : Sessions) (key : SessionKey) : Bool × Sessions :=
  ((s.find? key).isSome, { s with live := s.live.filter (·.key != key) })

def create (s : Sessions) (key : SessionKey) (userName : String) (admin : Bool) (now : Nat) :
    Sessions :=
  { s with live := s.live.filter (·.key != key) ++ [⟨key, userName, admin, .none, now⟩] }

def update (s : Sessions) (key : SessionKey) (f : Session → Session) : Sessions :=
  { s with live := s.live.map fun session => if session.key = key then f session else session }

/-- Looks a session up and marks it used. One that has gone unused for too long ends instead. -/
def get (s : Sessions) (key : SessionKey) (now : Nat) : Option Session × Sessions :=
  match s.find? key with
  | none => (none, s)
  | some session =>
    if s.isIdle now session then (none, (s.remove key).2)
    else
      let used := fun session : Session => { session with lastSeen := now }
      (some (used session), s.update key used)

/-- Ends all sessions of an account; says how many. -/
def removePrincipal (s : Sessions) (principal : AccountId) : Nat × Sessions :=
  let left := s.live.filter (·.key.principal != principal)
  (s.live.length - left.length, { s with live := left })

/-- Ends the sessions that have gone unused for too long; says how many. A session that a
command is working on is in use and stays. -/
def sweep (s : Sessions) (now : Nat) (inUse : SessionKey → Bool) : Nat × Sessions :=
  let left := s.live.filter fun session => inUse session.key || !s.isIdle now session
  (s.live.length - left.length, { s with live := left })

end Sessions

end AcctAdmin.Server
