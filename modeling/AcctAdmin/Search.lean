import AcctAdmin.Audit

/-!
# Searches

What can be asked of the accounts and of the audit log: a window of time, texts to look for,
columns to sort by and how many rows make a page.
-/

set_option autoImplicit false

namespace AcctAdmin

def defaultPageSize : UInt32 := 50

/-- A window of unix seconds, both ends included. -/
structure TimeRange where
  lower : UInt64
  upper : UInt64
deriving DecidableEq

namespace TimeRange

/-- The window that leaves out nothing. -/
def all : TimeRange := ⟨0, 18446744073709551615⟩

instance : Inhabited TimeRange := ⟨all⟩

def contains (r : TimeRange) (time : UInt64) : Bool := r.lower ≤ time && time ≤ r.upper

end TimeRange

/-- One column to sort by, and which way. -/
structure SortKey (Column : Type) where
  column : Column
  ascending : Bool
deriving DecidableEq, Inhabited

/-- What accounts can be sorted by. -/
inductive AccountColumn where
  | id | name | email | realName | created
deriving DecidableEq, Inhabited

/-- What audit events can be sorted by. -/
inductive AuditColumn where
  | id | time | owner | kind
deriving DecidableEq, Inhabited

/-- A search for accounts by any of their texts. -/
structure AccountQuery where
  timeRange : TimeRange
  /-- Part of the name, the real name or the e-mail address, in any case. -/
  text : Option String
  ordering : List (SortKey AccountColumn)
  limit : UInt32
deriving DecidableEq, Inhabited

/-- A search for accounts by e-mail address. -/
structure EmailQuery where
  timeRange : TimeRange
  /-- Part of the address, in any case. -/
  email : String
  ordering : List (SortKey AccountColumn)
  limit : UInt32
deriving DecidableEq, Inhabited

/-- A search of the audit log. -/
structure AuditQuery where
  timeRange : TimeRange
  owner : Option AccountId
  /-- The whole kind, up to ASCII case. -/
  kind : Option String
  /-- Part of the message, in any case. -/
  message : Option String
  ordering : List (SortKey AuditColumn)
  limit : UInt32
deriving DecidableEq, Inhabited

/-- The queries that a client sends when nothing else is asked for: everything, in the order
that suits the search. -/
def AccountQuery.standard : AccountQuery :=
  ⟨.all, none, [⟨.name, true⟩], defaultPageSize⟩

def EmailQuery.standard : EmailQuery := ⟨.all, "", [⟨.email, true⟩], defaultPageSize⟩

def AuditQuery.standard : AuditQuery :=
  ⟨.all, none, none, none, [⟨.time, false⟩], defaultPageSize⟩

inductive SearchKind where
  | accounts | accountsByEmail | audit
deriving DecidableEq, Inhabited

inductive Turn where
  | next | previous
deriving DecidableEq, Inhabited

inductive Query where
  | accounts (query : AccountQuery)
  | accountsByEmail (query : EmailQuery)
  | audit (query : AuditQuery)
deriving DecidableEq, Inhabited

def Query.kind : Query → SearchKind
  | .accounts _ => .accounts
  | .accountsByEmail _ => .accountsByEmail
  | .audit _ => .audit

end AcctAdmin
