import AcctAdmin.Text.Decimal

/-!
# Percent escapes

A byte that a URL may not show is written as a percent sign and two hexadecimal digits. Which
bytes those are depends on the part of the URL.
-/

set_option autoImplicit false

namespace AcctAdmin.Text

def bytesOf (c : Char) : List UInt8 := String.utf8EncodeChar c

/-- A byte as a percent sign and two capital hexadecimal digits. -/
def escapedByte (b : UInt8) : List Char := '%' :: (hexOfWidth 2 b.toNat).map Char.toUpper

/-- The text with every character escaped that the part of the URL does not show. -/
def percentEscaped (isHidden : Char → Bool) (cs : List Char) : List Char :=
  cs.flatMap fun c => if isHidden c then (bytesOf c).flatMap escapedByte else [c]

/-- The bytes of a text with its percent escapes undone. A percent sign without two hexadecimal
digits behind it stands for itself. -/
def percentBytes : List Char → List UInt8
  | [] => []
  | '%' :: a :: b :: rest =>
    match hexValue? a, hexValue? b with
    | some high, some low => UInt8.ofNat (16 * high + low) :: percentBytes rest
    | _, _ => 0x25 :: percentBytes (a :: b :: rest)
  | c :: rest => bytesOf c ++ percentBytes rest

/-- The text behind percent escapes, if its bytes spell one. -/
def percentUnescaped? (cs : List Char) : Option (List Char) :=
  (String.fromUTF8? ⟨(percentBytes cs).toArray⟩).map String.toList

end AcctAdmin.Text
