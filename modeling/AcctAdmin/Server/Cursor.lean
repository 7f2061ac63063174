import AcctAdmin.Page
import AcctAdmin.Server.Failure

/-!
# Turning pages

A cursor remembers a query and the page its reader is on. Rows come from a source that can be
counted and read in windows. The number of pages is worked out again at every request, so that
the cursor follows a source whose rows come and go.
-/

set_option autoImplicit false

namespace AcctAdmin.Server

/-- Rows in an order that stays, counted and read in windows; either may fail. -/
structure Source (Row : Type) where
  count : Except StorageError UInt64
  fetch : (offset : UInt64) → (limit : UInt32) → Except StorageError (List Row)

/-- The place of a reader in the result of a query. -/
structure Cursor (Query : Type) where
  query : Query
  size : UInt32
  index : UInt32
  count : UInt32
deriving DecidableEq, Inhabited

/-- The most pages that can be counted. -/
def maxPageCount : Nat := 4294967295

/-- How many pages so many rows take. An empty result still has one page, and a page has room
for at least one row. -/
def pageCount (total : UInt64) (size : UInt32) : UInt32 :=
  let size := max 1 size.toNat
  UInt32.ofNat (min maxPageCount (max 1 ((total.toNat + size - 1) / size)))

/-- Which page is asked for, seen from the present one. -/
inductive Move where
  | stay | next | previous
deriving DecidableEq, Inhabited

def Move.ofTurn : Turn → Move
  | .next => .next
  | .previous => .previous

namespace Cursor

variable {Query Row : Type}

def start (query : Query) (size : UInt32) : Cursor Query :=
  ⟨query, if size = 0 then 1 else size, 1, 1⟩

/-- Counts the pages anew and brings the index back among them. -/
def settle (c : Cursor Query) (total : UInt64) : Cursor Query :=
  let count := pageCount total c.size
  { c with count := count, index := max 1 (min c.index count) }

/-- Goes one page on or back, but not off the ends. -/
def step (c : Cursor Query) : Move → Cursor Query
  | .stay => c
  | .next => if c.index < c.count then { c with index := c.index + 1 } else c
  | .previous => if 1 < c.index then { c with index := c.index - 1 } else c

def offset (c : Cursor Query) : UInt64 :=
  UInt64.ofNat ((c.index.toNat - 1) * c.size.toNat)

def read (c : Cursor Query) (source : Source Row) : Except StorageError (Page Row) :=
  match source.fetch c.offset c.size with
  | .ok items => .ok ⟨items, c.index, c.count, c.offset⟩
  | .error e => .error e

/-- Asks for a page. The cursor is left where it is if the rows cannot be counted; once they are
counted it moves, whether or not the page can then be read. -/
def move (c : Cursor Query) (m : Move) (source : Source Row) :
    Except StorageError (Page Row) × Cursor Query :=
  match source.count with
  | .error e => (.error e, c)
  | .ok total =>
    let c := (c.settle total).step m
    (c.read source, c)

end Cursor

end AcctAdmin.Server
