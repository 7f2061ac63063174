/-!
# Bytes as text

A message body arrives as bytes. Most of the time they are the UTF-8 form of a text; where they
are not, the readers of this library still have to know which bytes belong to a character and
which belong to none, because stray bytes are tolerated in places that nobody looks at.
-/

set_option autoImplicit false

namespace AcctAdmin.Text

/-- A character of a text, or a run of bytes that belongs to none. -/
abbrev Glyph := Option Char

/-- Whether byte `i` exists and lies in a range. -/
def byteWithin (bytes : ByteArray) (i low high : Nat) : Bool :=
  match bytes[i]? with
  | some b => low ≤ b.toNat && b.toNat ≤ high
  | none => false

/-- How many bytes, starting with one that begins no character, are given up together: the
first byte and whatever of a longer character could still have followed it. -/
def strayLength (bytes : ByteArray) (i : Nat) : Nat :=
  let opens (low high : Nat) := byteWithin bytes i low high
  let second (low high : Nat) := byteWithin bytes (i + 1) low high
  if opens 0xe0 0xe0 && second 0xa0 0xbf || opens 0xe1 0xec && second 0x80 0xbf
      || opens 0xed 0xed && second 0x80 0x9f || opens 0xee 0xef && second 0x80 0xbf then 2
  else if opens 0xf0 0xf0 && second 0x90 0xbf || opens 0xf1 0xf3 && second 0x80 0xbf
      || opens 0xf4 0xf4 && second 0x80 0x8f then
    if byteWithin bytes (i + 2) 0x80 0xbf then 3 else 2
  else 1

theorem strayLength_pos (bytes : ByteArray) (i : Nat) : 0 < strayLength bytes i := by
  simp only [strayLength]
  split
  · omega
  · split
    · split <;> omega
    · omega

/-- The glyphs from byte `i` on. Each step takes a whole character if one starts here, and
otherwise gives up a stray run. -/
def glyphsFrom (bytes : ByteArray) (i : Nat) : List Glyph :=
  if _h : i < bytes.size then
    match bytes.utf8DecodeChar? i with
    | some c => some c :: glyphsFrom bytes (i + c.utf8Size)
    | none => none :: glyphsFrom bytes (i + strayLength bytes i)
  else []
termination_by bytes.size - i
decreasing_by
  · have := c.utf8Size_pos; omega
  · have := strayLength_pos bytes i; omega

/-- The glyphs of a byte string. Bytes that are UTF-8 throughout are the characters of their
text; any others are gone through one by one. -/
def glyphs (bytes : ByteArray) : List Glyph :=
  match String.fromUTF8? bytes with
  | some text => text.toList.map some
  | none => glyphsFrom bytes 0

/-- The text of a byte string for display, a replacement character for each stray run. -/
def shownText (bytes : ByteArray) : String :=
  String.ofList ((glyphs bytes).map (·.getD '\ufffd'))

end AcctAdmin.Text
