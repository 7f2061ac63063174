import AcctAdmin.Protocol.Message
import AcctAdmin.Text.Quoted
import AcctAdmin.Text.Decimal

/-!
# Faults and failures

A fault says why a command was not carried out; a failure is what the caller is told about it.
The step from one to the other settles code, status, blame, details and remedy by the kind of
fault alone. Blame follows from the status: from 500 on it is the server's.
-/

set_option autoImplicit false

namespace AcctAdmin.Server

open AcctAdmin.Protocol AcctAdmin.Text

/-! ## Storage errors -/

/-- A failure of the storage layer. -/
structure StorageError where
  code : String
  message : String
  constraint : Option String
deriving DecidableEq, Inhabited

namespace StorageError

/-- Two records with one key. -/
def uniqueViolation : String := "23505"

/-- A write to a record that is not there. -/
def noData : String := "02000"

/-- A write that lost the race against somebody else's commit. -/
def serializationFailure : String := "40001"

def duplicate (constraint value : String) : StorageError where
  code := uniqueViolation
  message :=
    "duplicate key value " ++ quoted value ++ " violates unique constraint " ++ constraint
  constraint := some constraint

def missingAccount (id : AccountId) : StorageError :=
  ⟨noData, "no user row with id " ++ id.text, none⟩

def conflict : StorageError :=
  ⟨serializationFailure, "could not serialize access due to concurrent update", none⟩

def isDuplicate (e : StorageError) : Bool := e.code == uniqueViolation

def isConflict (e : StorageError) : Bool := e.code == serializationFailure

end StorageError

/-! ## Faults -/

/-- A host has used up its attempts; it may try again after so many milliseconds. -/
structure TooManyAttempts where
  host : String
  retryAfter : Nat
deriving DecidableEq, Inhabited

def TooManyAttempts.message (t : TooManyAttempts) : String :=
  "too many attempts from " ++ t.host ++ ", retry in " ++ decimal (t.retryAfter / 1000) ++ "s"

/-- Why a command was not carried out. -/
inductive Fault where
  /-- An input that does not do; the field is named where there is one. -/
  | validity (message : String) (field : Option String)
  | security (message : String)
  | storage (error : StorageError)
  | password (message : String)
  /-- The caller is not known to be who they say. -/
  | authentication (message : String)
  | tooManyAttempts (error : TooManyAttempts)
  | banned (ban : Ban)
  | notFound (message : String)
  /-- A page of a search that was never begun. -/
  | searchNotStarted (search : String)
  | hashing (reason : String)
  | other (code : Option Code) (message : String)
deriving DecidableEq, Inhabited

def Fault.message : Fault → String
  | .validity message _ => message
  | .security message => message
  | .storage e => e.message
  | .password message => message
  | .authentication message => message
  | .tooManyAttempts t => t.message
  | .banned ban => "account is banned: " ++ ban.reason
  | .notFound message => message
  | .searchNotStarted search => "no " ++ search ++ " search has been started in this session"
  | .hashing reason => "password hashing failed: " ++ reason
  | .other _ message => message

/-! ## Failures -/

/-- What the caller is told, and what is kept for the log. -/
structure Failure where
  message : String
  /-- The text behind the message, where the caller is shown another one. -/
  cause : Option String
  code : Code
  attributes : Attributes
  remedy : Option String
  requestId : RequestId
  status : Nat
  blame : Blame
deriving DecidableEq, Inhabited

namespace Failure

def plain (id : RequestId) (code : Code) (status : Nat) (message : String) : Failure where
  message := message
  cause := none
  code := code
  attributes := .empty
  remedy := none
  requestId := id
  status := status
  blame := if 500 ≤ status then .server else .client

def withAttribute (f : Failure) (name value : String) : Failure :=
  { f with attributes := f.attributes.insert name value }

def withRemedy (f : Failure) (remedy : String) : Failure := { f with remedy := some remedy }

/-- What a caller is told about a duplicate instead of the storage layer's own words. -/
def duplicateMessage (constraint : Option String) : String :=
  match constraint with
  | some "users_name_key" => "a user with this name already exists"
  | some "users_email_key" => "a user with this email address already exists"
  | _ => "a record with the same key already exists"

/-- A duplicate is the one storage error that the caller can do something about. Its code is
kept; its message is not shown. -/
def ofDuplicate (id : RequestId) (e : StorageError) : Failure :=
  let told := plain id (.storage e.code) 400 (duplicateMessage e.constraint)
  let told := { told with cause := some e.message }
  let told := match e.constraint with
    | some constraint => told.withAttribute "constraint" constraint
    | none => told
  told.withRemedy "Choose a different value and try again."

def ofFault (id : RequestId) (fault : Fault) : Failure :=
  match fault with
  | .validity message field =>
    let told := plain id .validity 400 message
    match field with
    | some field =>
      (told.withAttribute "field" field).withRemedy ("Correct the " ++ field ++ " and try again.")
    | none => told
  | .security message => plain id .security 403 message
  | .storage e =>
    if e.isDuplicate then ofDuplicate id e else plain id (.storage e.code) 500 e.message
  | .password message => (plain id .password 400 message).withRemedy "Choose a longer password."
  | .authentication message =>
    (plain id .authentication 401 message).withRemedy "Log in again."
  | .tooManyAttempts t =>
    let seconds := decimal (max 1 (t.retryAfter / 1000))
    ((plain id .rateLimitExceeded 429 t.message).withAttribute "retry_after_seconds"
      seconds).withRemedy ("Wait " ++ seconds ++ " seconds before trying again.")
  | .banned ban =>
    let told := (plain id .banned 403 fault.message).withAttribute "reason" ban.reason
    match ban.expires with
    | some expires =>
      let at_ := decimal expires.toNat
      (told.withAttribute "expires" at_).withRemedy
        ("The ban lifts at unix time " ++ at_ ++ ".")
    | none => told.withRemedy "Contact an administrator."
  | .notFound message => plain id .notFound 404 message
  | .searchNotStarted search =>
    ((plain id .searchNotStarted 400 fault.message).withAttribute "search" search).withRemedy
      "Begin a search before asking for another page."
  | .hashing _ => plain id .internal 500 fault.message
  | .other code message => plain id (code.getD .internal) 500 message

/-- The failure of a command that broke off. What broke it is for the log only. -/
def ofPanic (id : RequestId) (payload : Option String) : Failure :=
  { plain id .internal 500 "internal error" with cause := payload }

/-- What of a failure goes to the caller. -/
def refusal (f : Failure) : Refusal :=
  ⟨f.requestId, f.message, f.code, f.attributes, f.remedy, f.blame⟩

end Failure

end AcctAdmin.Server
