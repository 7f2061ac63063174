import AcctAdmin.Text.Decimal
import AcctAdmin.Text.Case

/-!
# Universally unique identifiers

Accounts, sessions and requests are named by 128-bit identifiers. They are written with hyphens
or plainly, and read in four spellings.
-/

set_option autoImplicit false

namespace AcctAdmin

/-- A 128-bit identifier. Its order is the order of the number that its bits spell. -/
structure Uuid where
  bits : BitVec 128
deriving DecidableEq

namespace Uuid

open AcctAdmin.Text

def ofNat (n : Nat) : Uuid := ⟨BitVec.ofNat 128 n⟩

def zero : Uuid := ofNat 0

/-- The identifier of the random kind that a number gives: its version and its variant are fixed,
and the number is random. -/
def ofRandom (n : Nat) : Uuid :=
  ⟨(BitVec.ofNat 128 n &&& 0xffffffffffff0fff3fffffffffffffff#128)
    ||| 0x00000000000040008000000000000000#128⟩

instance : Inhabited Uuid := ⟨zero⟩

/-- The order that searches sort identifiers by. -/
def order (a b : Uuid) : Ordering := compare a.bits.toNat b.bits.toNat

/-! ## Writing -/

def digits (id : Uuid) : List Char := hexOfWidth 32 id.bits.toNat

/-- The digits in groups of 8, 4, 4, 4 and 12, joined by hyphens. -/
def hyphenate (ds : List Char) : List Char :=
  ds.take 8 ++ '-' :: (ds.drop 8).take 4 ++ '-' :: (ds.drop 12).take 4
    ++ '-' :: (ds.drop 16).take 4 ++ '-' :: ds.drop 20

/-- The hyphenated form, which is the one shown everywhere. -/
def hyphenated (id : Uuid) : String := String.ofList (hyphenate id.digits)

def plain (id : Uuid) : String := String.ofList id.digits

/-! ## Reading -/

def ofDigits? (cs : List Char) : Option Uuid :=
  if cs.length = 32 then (readHex? cs).map ofNat else none

/-- Reads the hyphenated form: the hyphens stand at their four places and nowhere else. -/
def ofHyphenated? (cs : List Char) : Option Uuid :=
  let ds := cs.take 8 ++ (cs.drop 9).take 4 ++ (cs.drop 14).take 4 ++ (cs.drop 19).take 4
    ++ cs.drop 24
  if cs.length = 36 ∧ hyphenate ds = cs then ofDigits? ds else none

/-- Reads an identifier: 32 digits, the hyphenated form, that form in braces, or that form
after `urn:uuid:`. Letters may have either case. -/
def ofChars? (cs : List Char) : Option Uuid :=
  match cs.length with
  | 32 => ofDigits? cs
  | 36 => ofHyphenated? cs
  | 38 =>
    if cs.head? = some '\x7b' ∧ cs.getLast? = some '\x7d' then ofHyphenated? (cs.drop 1).dropLast
    else none
  | 45 =>
    if (cs.take 9).map lowerAscii = "urn:uuid:".toList then ofHyphenated? (cs.drop 9) else none
  | _ => none

def parse? (s : String) : Option Uuid := ofChars? s.toList

end Uuid

end AcctAdmin
