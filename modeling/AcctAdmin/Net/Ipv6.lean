import AcctAdmin.Net.Ipv4

/-!
# IPv6 addresses

Eight groups of sixteen bits, written in hexadecimal with colons between them. The first of the
longest runs of zero groups is left out, if it is longer than one group.
-/

set_option autoImplicit false

namespace AcctAdmin.Net

open AcctAdmin.Text

/-- An address of eight groups, the most significant first. -/
structure Ipv6 where
  groups : List UInt16
  length_groups : groups.length = 8
deriving DecidableEq

namespace Ipv6

/-- The address of eight groups; any other number of groups is none. -/
def ofGroups? (gs : List UInt16) : Option Ipv6 :=
  if h : gs.length = 8 then some ⟨gs, h⟩ else none

instance : Inhabited Ipv6 := ⟨⟨List.replicate 8 0, rfl⟩⟩

/-! ## Writing -/

/-- How many zero groups follow one another from a place on. -/
def zerosFrom (gs : List UInt16) (start : Nat) : Nat :=
  ((gs.drop start).takeWhile (· == 0)).length

/-- Where the first of the longest runs of zero groups starts, and how long it is. -/
def longestZeros (gs : List UInt16) : Nat × Nat :=
  (List.range gs.length).foldl
    (fun best start => if best.2 < zerosFrom gs start then (start, zerosFrom gs start) else best)
    (0, 0)

def groupsText (gs : List UInt16) : String :=
  ":".intercalate (gs.map fun g => String.ofList (Nat.toDigits 16 g.toNat))

/-- The address with its longest run of zero groups left out. -/
def compressed (a : Ipv6) : String :=
  let (start, length) := longestZeros a.groups
  if 1 < length then
    groupsText (a.groups.take start) ++ "::" ++ groupsText (a.groups.drop (start + length))
  else groupsText a.groups

/-- The IPv4 address that the address stands for, if it is one of those set aside for that. -/
def embedded? (a : Ipv6) : Option Ipv4 :=
  match a.groups with
  | [0, 0, 0, 0, 0, 0xffff, high, low] => some (.ofNat (high.toNat * 65536 + low.toNat))
  | _ => none

/-- The address as it is shown: an embedded IPv4 address keeps its dots. -/
def text (a : Ipv6) : String :=
  match a.embedded? with
  | some v4 => "::ffff:" ++ v4.text
  | none => a.compressed

/-! ## Reading -/

def groupsOf (a : Ipv4) : List UInt16 :=
  match a.octets.toList with
  | [a, b, c, d] =>
    [UInt16.ofNat (a.toNat * 256 + b.toNat), UInt16.ofNat (c.toNat * 256 + d.toNat)]
  | _ => []

/-- Reads up to a number of groups with colons between them. An IPv4 address may stand for two
groups, and then ends them. The result tells the groups, whether they end with such an address,
and what follows. -/
def readGroups : Nat → Bool → List Char → List UInt16 × Bool × List Char
  | 0, _, cs => ([], false, cs)
  | more + 1, isFirst, cs =>
    let start? : Option (List Char) :=
      match isFirst, cs with
      | true, _ => some cs
      | false, ':' :: rest => some rest
      | false, _ => none
    match start? with
    | none => ([], false, cs)
    | some start =>
      match if more = 0 then none else Ipv4.read? start with
      | some (v4, rest) => (groupsOf v4, true, rest)
      | none =>
        match readRun? 16 4 true start with
        | none => ([], false, cs)
        | some (g, rest) =>
          let (gs, endsInV4, rest) := readGroups more false rest
          (UInt16.ofNat g :: gs, endsInV4, rest)

/-- Reads an address at the head of a text: eight groups, or fewer around a `::` that stands for
at least one group of zeros. -/
def read? (cs : List Char) : Option (Ipv6 × List Char) :=
  match readGroups 8 true cs with
  | (head, endsInV4, rest) =>
    match ofGroups? head with
    | some a => some (a, rest)
    | none =>
      match endsInV4, rest with
      | false, ':' :: ':' :: rest =>
        let (tail, _, rest) := readGroups (7 - head.length) true rest
        let zeros := List.replicate (8 - head.length - tail.length) 0
        (ofGroups? (head ++ zeros ++ tail)).map fun a => (a, rest)
      | _, _ => none

end Ipv6

end AcctAdmin.Net
