import AcctAdmin.Search
import AcctAdmin.Server.Failure

/-!
# The store

Accounts and the audit log, and transactions over them. A transaction works on the state that
was committed when it began. Its first write takes the one writer's place, and is refused if the
accounts have changed since the transaction began; from then on it works on a table of its own,
which its commit publishes. Audit notes wait until the commit and get their numbers there.

Every operation is a step of its own, from one state of the store to the next, so that any
interleaving of transactions is a list of such steps. A step that would have to wait for the
writer's place is not taken: `Transaction.mayWrite` and `Transaction.mayCommit` say when it may.
-/

set_option autoImplicit false

namespace AcctAdmin.Server

open AcctAdmin.Text

/-- The accounts as they stand. A table that is published gets an edition number, and keeps it
for as long as it is around: two tables are one and the same if their editions are. -/
structure Table where
  edition : Nat
  rows : List Account
deriving DecidableEq, Inhabited

/-- The committed state. -/
structure Store where
  table : Table
  /-- Counts the commits that put another table in place. -/
  version : Nat
  /-- The audit log, oldest event first. It only ever grows. -/
  log : List AuditEvent
  /-- Whether an open transaction holds the writer's place. -/
  writing : Bool
deriving DecidableEq

namespace Store

def empty : Store := ⟨⟨0, []⟩, 0, [], false⟩

instance : Inhabited Store := ⟨empty⟩

end Store

structure Transaction where
  /-- The version that was committed when it began. -/
  base : Nat
  table : Table
  /-- How much of the audit log it sees. -/
  logLength : Nat
  /-- What it will add to the audit log, in order. -/
  notes : List AuditNote
  /-- Whether it holds the writer's place. -/
  writing : Bool
deriving DecidableEq, Inhabited

def Store.begin (s : Store) : Transaction := ⟨s.version, s.table, s.log.length, [], false⟩

namespace Transaction

/-! ## Reading -/

def account? (tx : Transaction) (id : AccountId) : Option Account :=
  tx.table.rows.find? (·.id == id)

def accountByName? (tx : Transaction) (name : String) : Option Account :=
  tx.table.rows.find? (·.name == name)

def accountCount (tx : Transaction) : Nat := tx.table.rows.length

/-- The part of the audit log that was committed when the transaction began. -/
def visibleLog (tx : Transaction) (s : Store) : List AuditEvent := s.log.take tx.logLength

/-! ## Writing -/

/-- Whether a write need not wait: nobody else holds the writer's place. -/
def mayWrite (tx : Transaction) (s : Store) : Bool := tx.writing || !s.writing

/-- Takes the writer's place, unless the transaction has it. A transaction that began before
the last change of the accounts is refused, and so is one that ought to wait. -/
def takePlace (tx : Transaction) (s : Store) : Except StorageError (Transaction × Store) :=
  if tx.writing then .ok (tx, s)
  else if s.writing ∨ s.version ≠ tx.base then .error .conflict
  else
    .ok ({ tx with writing := true, table := { tx.table with edition := s.version + 1 } },
      { s with writing := true })

/-- Changes the accounts that the transaction sees, holding the writer's place. -/
def modify (tx : Transaction) (s : Store) (f : List Account → List Account) :
    Except StorageError (Transaction × Store) :=
  match tx.takePlace s with
  | .error e => .error e
  | .ok (tx, s) => .ok ({ tx with table := { tx.table with rows := f tx.table.rows } }, s)

/-- Why an account cannot be added beside another. -/
def clash? (new old : Account) : Option StorageError :=
  if old.name = new.name then some (.duplicate "users_name_key" new.name)
  else if sameUpToAsciiCase old.email new.email then some (.duplicate "users_email_key" new.email)
  else none

/-- Why an account cannot be added to a table: its name, its e-mail address or its identifier is
taken. -/
def duplicate? (new : Account) (rows : List Account) : Option StorageError :=
  match rows.findSome? (clash? new) with
  | some e => some e
  | none =>
    if rows.any (·.id == new.id) then some (.duplicate "users_pkey" new.id.text) else none

def insert (tx : Transaction) (s : Store) (new : Account) :
    Except StorageError (Transaction × Store) :=
  match duplicate? new tx.table.rows with
  | some e => .error e
  | none => tx.modify s (· ++ [new])

/-- Removes an account and gives it back. To remove one that is not there is no write. -/
def delete (tx : Transaction) (s : Store) (id : AccountId) :
    Except StorageError (Option Account × Transaction × Store) :=
  match tx.account? id with
  | none => .ok (none, tx, s)
  | some old =>
    match tx.modify s (·.filter (·.id != id)) with
    | .error e => .error e
    | .ok (tx, s) => .ok (some old, tx, s)

def setBan (tx : Transaction) (s : Store) (id : AccountId) (ban : Option Ban) :
    Except StorageError (Transaction × Store) :=
  match tx.account? id with
  | none => .error (.missingAccount id)
  | some _ => tx.modify s (·.map fun a => if a.id = id then { a with ban := ban } else a)

def note (tx : Transaction) (n : AuditNote) : Transaction := { tx with notes := tx.notes ++ [n] }

/-! ## Ending -/

/-- Whether a commit need not wait: it publishes nothing, or nobody else holds the writer's
place. -/
def mayCommit (tx : Transaction) (s : Store) : Bool :=
  tx.writing || tx.notes.isEmpty || !s.writing

/-- Notes with the numbers that follow the first `count` events. -/
def numberFrom (count : Nat) : List AuditNote → List AuditEvent
  | [] => []
  | n :: rest => n.numbered (UInt64.ofNat (count + 1)) :: numberFrom (count + 1) rest

/-- Publishes what the transaction did: its notes, and its table unless that is the committed
one. A transaction that did nothing publishes nothing. -/
def commit (tx : Transaction) (s : Store) : Store :=
  if !tx.writing && tx.notes.isEmpty then s
  else
    let s := { s with
      log := s.log ++ numberFrom s.log.length tx.notes
      writing := s.writing && !tx.writing }
    if s.table.edition = tx.table.edition then s
    else { s with table := tx.table, version := s.version + 1 }

/-- Gives a transaction up; all that it leaves behind is the writer's place. -/
def drop (tx : Transaction) (s : Store) : Store :=
  { s with writing := s.writing && !tx.writing }

end Transaction

end AcctAdmin.Server
