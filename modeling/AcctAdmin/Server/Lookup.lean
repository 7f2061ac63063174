import AcctAdmin.Server.Cursor
import AcctAdmin.Server.Store
import AcctAdmin.Text.Case
import AcctAdmin.Text.Split

/-!
# Looking things up

What each search finds in the view of a transaction, and in which order. Rows are sorted by the
columns asked for, and rows that these leave level by identifier, so that the order is settled
whatever columns are asked for.
-/

set_option autoImplicit false

namespace AcctAdmin.Server

open AcctAdmin.Text

/-! ## Matching -/

/-- Whether a text contains another, in any case. -/
def mentions (text part : String) : Bool :=
  occursIn (lowerCase part).toList (lowerCase text).toList

def matchesAccount (q : AccountQuery) (a : Account) : Bool :=
  q.timeRange.contains a.created
    && match q.text with
       | none => true
       | some part => mentions a.name part || mentions a.realName part || mentions a.email part

def matchesEmail (q : EmailQuery) (a : Account) : Bool :=
  q.timeRange.contains a.created && mentions a.email q.email

def matchesEvent (q : AuditQuery) (e : AuditEvent) : Bool :=
  q.timeRange.contains e.time
    && (match q.owner with
        | none => true
        | some owner => owner == e.owner)
    && (match q.kind with
        | none => true
        | some kind => sameUpToAsciiCase kind e.kind)
    && (match q.message with
        | none => true
        | some part => mentions e.message part)

/-! ## Order -/

/-- Compares two rows by columns, the first one that tells them apart deciding; `level` decides
if none does. -/
def compareBy {Column Row : Type} (compareIn : Column → Row → Row → Ordering)
    (level : Row → Row → Ordering) : List (SortKey Column) → Row → Row → Ordering
  | [], a, b => level a b
  | key :: keys, a, b =>
    let found := compareIn key.column a b
    match if key.ascending then found else found.swap with
    | .eq => compareBy compareIn level keys a b
    | decided => decided

def compareAccountsIn : AccountColumn → Account → Account → Ordering
  | .id, a, b => a.id.order b.id
  | .name, a, b => compare a.name b.name
  | .email, a, b => compare a.email b.email
  | .realName, a, b => compare a.realName b.realName
  | .created, a, b => compare a.created b.created

def compareAccounts : List (SortKey AccountColumn) → Account → Account → Ordering :=
  compareBy compareAccountsIn fun a b => a.id.order b.id

def compareEventsIn : AuditColumn → AuditEvent → AuditEvent → Ordering
  | .id, a, b => compare a.id b.id
  | .time, a, b => compare a.time b.time
  | .owner, a, b => a.owner.order b.owner
  | .kind, a, b => compare a.kind b.kind

def compareEvents : List (SortKey AuditColumn) → AuditEvent → AuditEvent → Ordering :=
  compareBy compareEventsIn fun a b => compare a.id b.id

def sortedBy {Row : Type} (cmp : Row → Row → Ordering) (rows : List Row) : List Row :=
  rows.mergeSort fun a b => cmp a b != .gt

/-! ## Sources -/

/-- As many rows as a page has room for, from a place on. -/
def window {Row : Type} (rows : List Row) (offset : UInt64) (limit : UInt32) : List Row :=
  (rows.drop offset.toNat).take limit.toNat

/-- The rows of a list that a search keeps: counted as they are found, and read in windows of their
order, as the search shows them. -/
def Source.ofRows {Row Shown : Type} (keep : Row → Bool) (cmp : Row → Row → Ordering)
    (shown : Row → Shown) (rows : List Row) : Source Shown where
  count := .ok (UInt64.ofNat (rows.filter keep).length)
  fetch offset limit :=
    .ok ((window (sortedBy cmp (rows.filter keep)) offset limit).map shown)

namespace Transaction

def accounts (tx : Transaction) (q : AccountQuery) : Source AccountSummary :=
  .ofRows (matchesAccount q) (compareAccounts q.ordering) (·.summary) tx.table.rows

def accountsByEmail (tx : Transaction) (q : EmailQuery) : Source AccountSummary :=
  .ofRows (matchesEmail q) (compareAccounts q.ordering) (·.summary) tx.table.rows

def events (tx : Transaction) (s : Store) (q : AuditQuery) : Source AuditEvent :=
  .ofRows (matchesEvent q) (compareEvents q.ordering) id (tx.visibleLog s)

end Transaction

end AcctAdmin.Server
