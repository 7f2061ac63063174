import AcctAdmin.Text.Decimal

/-!
# JSON numbers

A number is kept as it is written. The messages of this library only carry whole numbers of
32 or 64 bits; any other number may stand in a message where nobody looks at it, unless it is
too large for a double, which no reader of JSON values accepts.
-/

set_option autoImplicit false

namespace AcctAdmin.Json

open AcctAdmin.Text

/-- A JSON number as written: sign, digits before the point, digits after it, and the exponent
with its sign. -/
structure Number where
  negative : Bool
  whole : List Char
  fraction : Option (List Char)
  exponent : Option (Bool × List Char)
deriving DecidableEq, Inhabited

namespace Number

def ofNat (n : Nat) : Number := ⟨false, decimalDigits n, none, none⟩

def chars (n : Number) : List Char :=
  (if n.negative then ['-'] else []) ++ n.whole
    ++ (match n.fraction with | some ds => '.' :: ds | none => [])
    ++ (match n.exponent with
        | some (negative, ds) => 'e' :: (if negative then '-' :: ds else ds)
        | none => [])

/-- The whole number below `bound` that the number is, if it is written without sign, point and
exponent. -/
def below? (bound : Nat) (n : Number) : Option Nat :=
  if n.negative ∨ n.fraction.isSome ∨ n.exponent.isSome then none
  else (readDecimal? n.whole).filter (· < bound)

def uint32? (n : Number) : Option UInt32 := (n.below? UInt32.size).map UInt32.ofNat

def uint64? (n : Number) : Option UInt64 := (n.below? UInt64.size).map UInt64.ofNat

/-! ## The range of doubles

A number that is not an integer of 64 bits is a double to the readers of values. They gather a
64-bit significand and a decimal exponent, let go of digits that no longer fit, and refuse the
number if scaling the significand up leaves the range. -/

/-- Rounds to 53 significant bits, a tie to the even neighbour. -/
def roundTo53Bits (n : Nat) : Nat :=
  let excess := Nat.log2 n + 1 - 53
  if excess = 0 then n
  else
    let unit := Nat.pow 2 excess
    let kept := n / unit
    let rest := n % unit
    let half := Nat.pow 2 (excess - 1)
    (if half < rest ∨ (rest = half ∧ kept % 2 = 1) then kept + 1 else kept) * unit

/-- A significand of 64 bits with the number of digits it could not take. -/
structure Gathered where
  significand : Nat
  dropped : Nat

/-- Gathers the digits before the point: once one does not fit, all that follow are dropped. -/
def gatherWhole : Nat → List Char → Gathered
  | significand, [] => ⟨significand, 0⟩
  | significand, d :: ds =>
    let next := 10 * significand + (d.toNat - '0'.toNat)
    if next < UInt64.size then gatherWhole next ds else ⟨significand, ds.length + 1⟩

/-- Gathers the digits after the point; returns the significand and how many were taken. -/
def gatherFraction : Nat → Nat → List Char → Nat × Nat
  | significand, taken, [] => (significand, taken)
  | significand, taken, d :: ds =>
    let next := 10 * significand + (d.toNat - '0'.toNat)
    if next < UInt64.size then gatherFraction next (taken + 1) ds else (significand, taken)

/-- Whether `significand * 10 ^ scale`, computed in doubles, leaves their range. -/
def exceedsDouble (significand : Nat) (scale : Int) : Bool :=
  if significand = 0 ∨ scale ≤ 0 then false
  else if 308 < scale then true
  else
    Nat.pow 2 1024 - Nat.pow 2 970
      ≤ roundTo53Bits significand * roundTo53Bits (Nat.pow 10 scale.toNat)

/-- Whether a double can hold the number, rounded. -/
def fitsDouble (n : Number) : Bool :=
  let whole := gatherWhole 0 n.whole
  let (significand, taken) :=
    match n.fraction with
    | some ds => gatherFraction whole.significand 0 ds
    | none => (whole.significand, 0)
  let scale : Int := whole.dropped - taken
  match n.exponent with
  | none => !exceedsDouble significand scale
  | some (negative, ds) =>
    let size := Nat.ofDigitChars 10 ds 0
    if Nat.pow 2 31 ≤ size then significand == 0 || negative
    else !exceedsDouble significand (if negative then scale - size else scale + size)

/-- Whether a reader of values accepts the number: it is an integer of 64 bits or a double. -/
def isReadable (n : Number) : Bool := n.uint64?.isSome || n.fitsDouble

end Number

end AcctAdmin.Json
