import AcctAdmin.Text.Decimal

/-!
# Lengths of time

A length of time in nanoseconds, and how a message shows one: in the largest unit that gives a
whole part, with exactly the fraction it has.
-/

set_option autoImplicit false

namespace AcctAdmin

structure Duration where
  nanos : Nat
deriving DecidableEq, Inhabited

namespace Duration

open AcctAdmin.Text

def ofMillis (ms : Nat) : Duration := ⟨ms * 1000000⟩

def ofSeconds (s : Nat) : Duration := ⟨s * 1000000000⟩

/-- Whole milliseconds; the rest is cut off. -/
def millis (d : Duration) : Nat := d.nanos / 1000000

/-- Whole seconds; the rest is cut off. -/
def seconds (d : Duration) : Nat := d.nanos / 1000000000

/-- The digits behind the point: `places` of them, without the zeros at the end. -/
def fraction (places n : Nat) : List Char :=
  let ds := decimalDigits n
  let padded := List.replicate (places - ds.length) '0' ++ ds
  (padded.reverse.dropWhile (· == '0')).reverse

/-- A count of units with `places` digits behind the point. -/
def inUnit (nanos places : Nat) (symbol : String) : String :=
  let unit := Nat.pow 10 places
  let whole := decimal (nanos / unit)
  match fraction places (nanos % unit) with
  | [] => whole ++ symbol
  | ds => whole ++ "." ++ String.ofList ds ++ symbol

/-- Shows a duration in seconds, milliseconds, microseconds or nanoseconds. -/
def text (d : Duration) : String :=
  if d.nanos ≥ 1000000000 then inUnit d.nanos 9 "s"
  else if d.nanos ≥ 1000000 then inUnit d.nanos 6 "ms"
  else if d.nanos ≥ 1000 then inUnit d.nanos 3 "µs"
  else inUnit d.nanos 0 "ns"

end Duration

end AcctAdmin
