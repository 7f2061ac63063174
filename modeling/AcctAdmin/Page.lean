/-!
# Pages

One page of an ordered result, with its place among all pages.
-/

set_option autoImplicit false

namespace AcctAdmin

/-- One page of a result. -/
structure Page (Row : Type) where
  items : List Row
  /-- Pages are numbered from 1. -/
  index : UInt32
  count : UInt32
  offset : UInt64
deriving DecidableEq, Inhabited

namespace Page

variable {Row : Type}

def isLast (p : Page Row) : Bool := p.count ≤ p.index

/-- The numbers of the first and the last row on the page, counted from 1; nothing for an empty
page. -/
def shownRange? (p : Page Row) : Option (UInt64 × UInt64) :=
  if p.items.isEmpty then none
  else
    let first := p.offset + 1
    some (first, first + UInt64.ofNat p.items.length - 1)

end Page

end AcctAdmin
