import AcctAdmin.Text.Decimal

/-!
# IPv4 addresses

Four octets, written with dots between them. The reader is strict: every octet is decimal and has
no superfluous zero in front.
-/

set_option autoImplicit false

namespace AcctAdmin.Net

open AcctAdmin.Text

/-- Reads the run of digits of a base at the head of a text: its value and what follows it. The
run must not be empty or longer than `most`, and where `padded` is false it may not start with
a zero that is not its only digit. -/
def readRun? (base most : Nat) (padded : Bool) (cs : List Char) : Option (Nat × List Char) :=
  let isDigit (c : Char) : Bool := (hexValue? c).any (· < base)
  let digits := cs.takeWhile isDigit
  let superfluous := digits.head? = some '0' ∧ 1 < digits.length
  if digits = [] ∨ most < digits.length ∨ (padded = false ∧ superfluous) then none
  else
    let value := digits.foldl (fun n c => n * base + (hexValue? c).getD 0) 0
    some (value, cs.dropWhile isDigit)

/-- An address of four octets, the most significant first. -/
structure Ipv4 where
  octets : Vector UInt8 4
deriving DecidableEq, Inhabited

namespace Ipv4

def text (a : Ipv4) : String := joinOctets a.octets.toList
where
  joinOctets (os : List UInt8) : String := ".".intercalate (os.map fun o => decimal o.toNat)

/-- The address whose bits spell a number, the high ones cut off. -/
def ofNat (n : Nat) : Ipv4 :=
  ⟨#v[UInt8.ofNat (n / 16777216), UInt8.ofNat (n / 65536), UInt8.ofNat (n / 256), UInt8.ofNat n]⟩

def readOctet? (cs : List Char) : Option (UInt8 × List Char) :=
  match readRun? 10 3 false cs with
  | some (n, rest) => if n < 256 then some (UInt8.ofNat n, rest) else none
  | none => none

def readNextOctet? : List Char → Option (UInt8 × List Char)
  | '.' :: rest => readOctet? rest
  | _ => none

/-- Reads an address at the head of a text: the address and what follows it. -/
def read? (cs : List Char) : Option (Ipv4 × List Char) := do
  let (a, cs) ← readOctet? cs
  let (b, cs) ← readNextOctet? cs
  let (c, cs) ← readNextOctet? cs
  let (d, cs) ← readNextOctet? cs
  some (⟨#v[a, b, c, d]⟩, cs)

end Ipv4

end AcctAdmin.Net
