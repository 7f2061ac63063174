import AcctAdmin.Net.Ipv6

/-!
# Socket addresses

An address and a port, which is what a server listens on.
-/

set_option autoImplicit false

namespace AcctAdmin.Net

open AcctAdmin.Text

inductive SocketAddress where
  | v4 (address : Ipv4) (port : UInt16)
  /-- The scope tells apart networks that use the same addresses; zero is no scope. -/
  | v6 (address : Ipv6) (scope : UInt32) (port : UInt16)
deriving DecidableEq, Inhabited

namespace SocketAddress

def text : SocketAddress → String
  | v4 a port => a.text ++ ":" ++ decimal port.toNat
  | v6 a scope port =>
    let zone := if scope = 0 then "" else "%" ++ decimal scope.toNat
    "[" ++ a.text ++ zone ++ "]:" ++ decimal port.toNat

/-- Reads a decimal number below a bound, with any number of leading zeros. -/
def readBelow? (bound : Nat) (cs : List Char) : Option (Nat × List Char) :=
  (readRun? 10 cs.length true cs).filter (·.1 < bound)

/-- Reads a port behind its colon, at the end of the text. -/
def readPort? : List Char → Option UInt16
  | ':' :: cs =>
    match readBelow? 65536 cs with
    | some (port, []) => some (UInt16.ofNat port)
    | _ => none
  | _ => none

/-- Reads the scope behind its percent sign; without one there is no scope. -/
def readScope? : List Char → Option (UInt32 × List Char)
  | '%' :: cs => (readBelow? 4294967296 cs).map fun (n, rest) => (UInt32.ofNat n, rest)
  | cs => some (0, cs)

def readV4? (cs : List Char) : Option SocketAddress := do
  let (a, rest) ← Ipv4.read? cs
  let port ← readPort? rest
  some (.v4 a port)

def readV6? : List Char → Option SocketAddress
  | '[' :: cs => do
    let (a, rest) ← Ipv6.read? cs
    let (scope, rest) ← readScope? rest
    match rest with
    | ']' :: rest => (readPort? rest).map (.v6 a scope)
    | _ => none
  | _ => none

/-- Reads an address and its port; an IPv6 address stands in brackets. -/
def parse? (s : String) : Option SocketAddress :=
  readV4? s.toList <|> readV6? s.toList

end SocketAddress

end AcctAdmin.Net
