/-!
# Blank space

Which characters are blank, and the trimming of a text at both ends. Names, addresses and
reasons are stored trimmed, and a version in the settings is read trimmed.

A property of characters is given as the code points that have it, written as closed ranges
in increasing order. The tables of this library use nothing else.
-/

set_option autoImplicit false

namespace AcctAdmin.Text

/-! ## Ranges of code points -/

/-- Code points as closed ranges in increasing order. -/
abbrev CodeRanges := List (Nat × Nat)

/-- Whether a code point lies in one of the ranges. The search stops at the first range that
starts beyond it, which is why the order matters. -/
def CodeRanges.covers : CodeRanges → Nat → Bool
  | [], _ => false
  | (first, last) :: rest, code =>
    if code < first then false else code ≤ last || CodeRanges.covers rest code

/-! ## Blanks -/

/-- The code points that count as white space. -/
def blankRanges : CodeRanges :=
  [(0x9, 0xd), (0x20, 0x20), (0x85, 0x85), (0xa0, 0xa0), (0x1680, 0x1680), (0x2000, 0x200a),
    (0x2028, 0x2029), (0x202f, 0x202f), (0x205f, 0x205f), (0x3000, 0x3000)]

/-- A blank is any white space character, not only an ASCII one. -/
def isBlank (c : Char) : Bool := blankRanges.covers c.toNat

/-- A list of characters without the blanks at its two ends. -/
def trimChars (cs : List Char) : List Char :=
  ((cs.dropWhile isBlank).reverse.dropWhile isBlank).reverse

def trim (s : String) : String := String.ofList (trimChars s.toList)

/-- Whether nothing is left of a text once it is trimmed. -/
def isAllBlank (s : String) : Bool := s.toList.all isBlank

end AcctAdmin.Text
