import AcctAdmin.Net.Ipv6
import AcctAdmin.Text.Percent
import AcctAdmin.Text.Punycode
import AcctAdmin.Text.Split
import AcctAdmin.Text.Case
import AcctAdmin.Text.Quoted

/-!
# Hosts

The host of a URL: a domain or an address. A web URL reads its host the way a browser does. It
takes addresses in shortened, octal and hexadecimal spellings, and lowers the case of domains.
Any other URL keeps its host as it is written.
-/

set_option autoImplicit false

namespace AcctAdmin

open AcctAdmin.Text AcctAdmin.Net

/-- What a URL names its host by. -/
inductive Host where
  /-- A domain in ASCII; empty in a URL that has no place for one. -/
  | domain (name : String)
  | v4 (address : Ipv4)
  | v6 (address : Ipv6)
deriving DecidableEq, Inhabited

namespace Host

def text : Host → String
  | domain name => name
  | v4 a => a.text
  | v6 a => "[" ++ a.compressed ++ "]"

/-- Whether a character is a control, a C0 one or DEL. -/
def isControl (c : Char) : Bool := c < ' ' || c == '\x7f'

/-! ## IPv6 addresses -/

/-- The address between the brackets of a host. Unlike the address of a socket it may not be
followed by a scope. -/
def readV6? (cs : List Char) : Option Host :=
  match cs.getLast?, Ipv6.read? cs.dropLast with
  | some ']', some (a, []) => some (v6 a)
  | _, _ => none

/-! ## IPv4 addresses -/

/-- What one part of an address denotes: hexadecimal behind `0x`, octal behind `0`, else decimal.
Nothing behind `0x` is zero. -/
def readPart? (cs : List Char) : Option Nat :=
  let inBase (base : Nat) (digits : List Char) : Option Nat :=
    digits.foldlM (fun n c => ((hexValue? c).filter (· < base)).map (n * base + ·)) 0
  match cs with
  | [] => none
  | '0' :: 'x' :: digits | '0' :: 'X' :: digits => inBase 16 digits
  | '0' :: d :: digits => inBase 8 (d :: digits)
  | digits => inBase 10 digits

/-- The parts of a domain; one dot at the end is not counted. -/
def partsOf (name : List Char) : List (List Char) :=
  let parts := splitBy (· == '.') name
  if 1 < parts.length ∧ parts.getLast? = some [] then parts.dropLast else parts

/-- Whether a domain has to be an address, because its last part is a number. -/
def endsInNumber (name : List Char) : Bool :=
  match (partsOf name).getLast? with
  | some part => (part != [] && part.all Char.isDigit) || (readPart? part).isSome
  | none => false

/-- The address of up to four numbers. The last one fills all the octets that the others leave. -/
def ofNumbers? (numbers : List Nat) : Option Ipv4 :=
  match numbers.getLast? with
  | none => none
  | some last =>
    let front := numbers.dropLast
    if numbers.length ≤ 4 ∧ last < Nat.pow 256 (4 - front.length) ∧ front.all (· < 256) then
      let high := front.zipIdx.map fun (n, i) => n * Nat.pow 256 (3 - i)
      some (.ofNat (high.foldl (· + ·) last))
    else none

/-! ## Domains -/

/-- Whether a character may not stand in a domain. -/
def isForbidden (c : Char) : Bool :=
  isControl c || " #%/:<>?@[\\]^|".toList.contains c

/-- A dot, or one of the full stops of other scripts. -/
def isDot (c : Char) : Bool := ['.', '\u3002', '\uff0e', '\uff61'].contains c

/-- A label as it is looked up. Letters beyond ASCII are only lowered: other spellings of the same
letter count as different letters. -/
def asciiLabel (label : List Char) : List Char :=
  if label.all (·.toNat < 128) then label.map lowerAscii
  else "xn--".toList ++ Punycode.encode (label.map lowerSimple)

def asciiDomain (name : List Char) : List Char :=
  ['.'].intercalate ((splitBy isDot name).map asciiLabel)

/-! ## Reading -/

def readWeb? : List Char → Option Host
  | '[' :: cs => readV6? cs
  | cs => do
    let decoded ← percentUnescaped? cs
    let name := asciiDomain decoded
    if name = [] ∨ name.any isForbidden ∨ decoded.any (fun c => 128 ≤ c.toNat && !isVisible c) then
      none
    else if endsInNumber name then
      let numbers ← (partsOf name).mapM readPart?
      (ofNumbers? numbers).map v4
    else some (domain (String.ofList name))

/-- Reads the host of any other URL: nothing is decoded, and what has no other meaning in a URL
stays. -/
def readOther? : List Char → Option Host
  | '[' :: cs => readV6? cs
  | cs =>
    if cs.any "\x00\t\n\r #/:<>?@[\\]^|".toList.contains then none
    else some (domain (String.ofList (percentEscaped (fun c => isControl c || 128 ≤ c.toNat) cs)))

end Host

end AcctAdmin
