import AcctAdmin.Proofs.Search.Listing
import AcctAdmin.Server.Handler

/-!
# Kinds of search

The searches differ in what can be asked, in what is gone through and in the place where a session
keeps its cursor. All of these follow from the kind, so that the nine commands are two, and what
holds of a search is shown once.
-/

set_option autoImplicit false

namespace AcctAdmin.SearchKind

open Server Server.Handling Protocol

/-! ## What a kind settles -/

/-- What is asked for. -/
def Terms : SearchKind → Type
  | .accounts => AccountQuery
  | .accountsByEmail => EmailQuery
  | .audit => AuditQuery

/-- What is gone through. -/
def Stored : SearchKind → Type
  | .accounts | .accountsByEmail => List Account
  | .audit => List AuditEvent

/-- What pages show of it. -/
def Row : SearchKind → Type
  | .accounts | .accountsByEmail => AccountSummary
  | .audit => AuditEvent

def slot : (k : SearchKind) → Slot k.Terms
  | .accounts => accountSlot
  | .accountsByEmail => emailSlot
  | .audit => auditSlot

def query : (k : SearchKind) → k.Terms → Query
  | .accounts, q => .accounts q
  | .accountsByEmail, q => .accountsByEmail q
  | .audit, q => .audit q

/-- The terms of a query, if it is of the kind asked for. -/
def terms? : (k : SearchKind) → Query → Option k.Terms
  | .accounts, .accounts q => some q
  | .accountsByEmail, .accountsByEmail q => some q
  | .audit, .audit q => some q
  | _, _ => none

def limit : (k : SearchKind) → k.Terms → UInt32
  | .accounts, q => AccountQuery.limit q
  | .accountsByEmail, q => EmailQuery.limit q
  | .audit, q => AuditQuery.limit q

def reply : (k : SearchKind) → Page k.Row → Reply
  | .accounts, page => .userPage page
  | .accountsByEmail, page => .userPage page
  | .audit, page => .auditPage page

/-- The rows that are found for some terms. -/
def source : (k : SearchKind) → k.Stored → k.Terms → Source k.Row
  | .accounts, rows, q =>
    .ofRows (matchesAccount q) (compareAccounts (AccountQuery.ordering q)) (·.summary) rows
  | .accountsByEmail, rows, q =>
    .ofRows (matchesEmail q) (compareAccounts (EmailQuery.ordering q)) (·.summary) rows
  | .audit, log, q => .ofRows (matchesEvent q) (compareEvents (AuditQuery.ordering q)) id log

def stored : (k : SearchKind) → Store → k.Stored
  | .accounts, s | .accountsByEmail, s => s.table.rows
  | .audit, s => s.log

/-- What a command's transaction sees of what is stored. -/
def seen : (k : SearchKind) → Desk → k.Stored
  | .accounts, d | .accountsByEmail, d => d.tx.table.rows
  | .audit, d => d.tx.visibleLog d.store

variable {k other : SearchKind}

theorem terms?_query (q : k.Terms) : k.terms? (k.query q) = some q := by
  cases k <;> rfl

/-- Every query is one of its kind. -/
theorem exists_query (q : Query) : ∃ terms, q.kind.query terms = q := by
  cases q with
  | accounts q | accountsByEmail q | audit q => exact ⟨q, rfl⟩

theorem terms?_eq_some {q : Query} {terms : k.Terms} :
    k.terms? q = some terms ↔ q = k.query terms := by
  constructor
  · intro h
    cases k <;> cases q <;> cases h <;> rfl
  · rintro rfl
    exact terms?_query terms

@[simp] theorem kind_query (q : k.Terms) : (k.query q).kind = k := by
  cases k <;> rfl

/-- What is seen does not depend on who is logged in. -/
@[simp] theorem seen_sessions (d : Desk) (sessions : Sessions) :
    k.seen { d with sessions := sessions } = k.seen d := by
  cases k <;> rfl

/-- A transaction that has just begun sees all that is stored. -/
theorem seen_begin {d : Desk} {s : Store} (htx : d.tx = s.begin) (hstore : d.store = s) :
    k.seen d = k.stored s := by
  subst hstore
  cases k with
  | accounts | accountsByEmail =>
    simp only [seen, htx]
    rfl
  | audit =>
    simp only [seen, htx]
    exact List.take_length

/-- Whatever is stored, the rows that are found can be counted and read. -/
theorem serves_source (rows : k.Stored) (q : k.Terms) :
    ∃ found, (k.source rows q).Serves found := by
  cases k with
  | accounts | accountsByEmail | audit =>
    simp only [source]
    exact ⟨_, serves_ofRows ..⟩

theorem move_source (c : Cursor k.Terms) (m : Move) (rows : k.Stored) (q : k.Terms) :
    ∃ page c', c.move m (k.source rows q) = (.ok page, c') := by
  obtain ⟨found, hserves⟩ := serves_source rows q
  simp only [Cursor.move, hserves.count, Cursor.read, hserves.fetch]
  exact ⟨_, _, rfl⟩

/-! ## Where cursors are kept -/

@[simp] theorem get_set (c : Option (Cursor k.Terms)) (all : Cursors) :
    k.slot.get (k.slot.set c all) = c := by
  cases k <;> rfl

/-- Each kind has a place of its own. -/
theorem get_set_of_ne (h : other ≠ k) (c : Option (Cursor other.Terms)) (all : Cursors) :
    k.slot.get (other.slot.set c all) = k.slot.get all := by
  cases k <;> cases other <;> first | rfl | exact absurd rfl h

@[simp] theorem get_none : k.slot.get .none = none := by
  cases k <;> rfl

/-! ## The commands -/

variable {limits : PageLimits} {r : Request} {draw : Draw} {caller : Session}

theorem carryOut_searchBegin (q : k.Terms) :
    carryOut limits r draw caller (.searchBegin (k.query q)) =
      k.reply <$> searchBegin caller k.slot q (limits.sizeFor (k.limit q))
        (fun d => k.source (k.seen d) q) := by
  cases k <;> rfl

theorem carryOut_searchTurn (turn : Turn) :
    carryOut limits r draw caller (.searchTurn k turn) =
      k.reply <$> searchTurn caller (searchName k) k.slot turn
        (fun d => k.source (k.seen d)) := by
  cases k <;> rfl

end AcctAdmin.SearchKind
