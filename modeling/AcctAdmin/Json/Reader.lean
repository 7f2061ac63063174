import AcctAdmin.Json.Number
import AcctAdmin.Text.Glyphs

/-!
# Reading JSON

One reader per rule of the grammar, each on a list of glyphs and each returning what is left.
The readers are tolerant about the *contents* of strings and the *size* of numbers and nesting,
and strict about everything else: leading zeros, stray commas, bare control characters, wrong
escapes and text behind the document are refused.

What is read is a tree of the document as it is written. A string may turn out not to be a text (it
has stray bytes, or half of a surrogate pair); the tree keeps its place all the same, since only a
part that is looked at has to be sound.
-/

set_option autoImplicit false

namespace AcctAdmin.Json

open AcctAdmin.Text

/-- A JSON document as written. -/
inductive Node where
  | null
  | bool (value : Bool)
  | number (value : Number)
  /-- A string; `none` if its characters are not a text. -/
  | text (value : Option String)
  | array (items : List Node)
  /-- The members in written order, repeated names included. -/
  | object (members : List (Option String × Node))
deriving Inhabited

/-- Skips the four characters that may stand between tokens. -/
def skipSpace : List Glyph → List Glyph
  | some ' ' :: rest | some '\n' :: rest | some '\t' :: rest | some '\r' :: rest => skipSpace rest
  | input => input

/-! ## Strings -/

/-- What one step through a string yields: a character, half of a surrogate pair written as an
escape, or stray bytes. -/
inductive Piece where
  | char (c : Char)
  | half (unit : Nat)
  | stray
deriving DecidableEq

/-- The piece that a 16-bit unit stands for. -/
def Piece.ofUnit (unit : Nat) : Piece :=
  if 0xd800 ≤ unit ∧ unit ≤ 0xdfff then .half unit else .char (Char.ofNat unit)

def escaped? : Char → Option Char
  | '"' => some '"'
  | '\\' => some '\\'
  | '/' => some '/'
  | 'b' => some '\x08'
  | 'f' => some '\x0c'
  | 'n' => some '\n'
  | 'r' => some '\r'
  | 't' => some '\t'
  | _ => none

/-- Reads the inside of a string and its closing quote. -/
def readPieces : List Glyph → Option (List Piece × List Glyph)
  | [] => none
  | some '"' :: rest => some ([], rest)
  | some '\\' :: some 'u' :: some a :: some b :: some c :: some d :: rest => do
    let unit ← readHex? [a, b, c, d]
    let (pieces, rest) ← readPieces rest
    some (.ofUnit unit :: pieces, rest)
  | some '\\' :: some e :: rest => do
    let c ← escaped? e
    let (pieces, rest) ← readPieces rest
    some (.char c :: pieces, rest)
  | some c :: rest => do
    if c = '\\' ∨ c.toNat < 0x20 then none
    let (pieces, rest) ← readPieces rest
    some (.char c :: pieces, rest)
  | none :: rest => do
    let (pieces, rest) ← readPieces rest
    some (.stray :: pieces, rest)

/-- The text of a string's pieces. A high half must be followed at once by a low half; any other
half, and any stray byte, makes the string no text. -/
def joinPieces : List Piece → Option (List Char)
  | [] => some []
  | .char c :: rest => (joinPieces rest).map (c :: ·)
  | .half high :: .half low :: rest =>
    if high < 0xdc00 ∧ 0xdc00 ≤ low then
      (joinPieces rest).map
        (Char.ofNat (0x10000 + (high - 0xd800) * 0x400 + (low - 0xdc00)) :: ·)
    else none
  | _ => none

def readString (input : List Glyph) : Option (Option String × List Glyph) := do
  let (pieces, rest) ← readPieces input
  some ((joinPieces pieces).map String.ofList, rest)

/-! ## Numbers -/

def readDigits : List Glyph → List Char × List Glyph
  | some c :: rest =>
    if c.isDigit then
      let (ds, rest) := readDigits rest
      (c :: ds, rest)
    else ([], some c :: rest)
  | input => ([], input)

def readSomeDigits (input : List Glyph) : Option (List Char × List Glyph) :=
  match readDigits input with
  | ([], _) => none
  | (ds, rest) => some (ds, rest)

/-- The part after a point, if a point comes. -/
def readFraction : List Glyph → Option (Option (List Char) × List Glyph)
  | some '.' :: rest => (readSomeDigits rest).map fun (ds, rest) => (some ds, rest)
  | input => some (none, input)

/-- The exponent, if its mark comes. -/
def readExponent : List Glyph → Option (Option (Bool × List Char) × List Glyph)
  | some 'e' :: rest | some 'E' :: rest =>
    match rest with
    | some '-' :: rest => (readSomeDigits rest).map fun (ds, rest) => (some (true, ds), rest)
    | some '+' :: rest => (readSomeDigits rest).map fun (ds, rest) => (some (false, ds), rest)
    | rest => (readSomeDigits rest).map fun (ds, rest) => (some (false, ds), rest)
  | input => some (none, input)

/-- Reads a number. A leading zero stands alone before the point. -/
def readNumber (input : List Glyph) : Option (Number × List Glyph) := do
  let (negative, input) :=
    match input with
    | some '-' :: rest => (true, rest)
    | input => (false, input)
  let (whole, input) ← readSomeDigits input
  if whole.head? = some '0' ∧ whole.length ≠ 1 then none
  let (fraction, input) ← readFraction input
  let (exponent, input) ← readExponent input
  some (⟨negative, whole, fraction, exponent⟩, input)

/-! ## Values -/

/-- Reads the rest of a fixed word. -/
def readWord : List Char → List Glyph → Option (List Glyph)
  | [], input => some input
  | c :: word, some d :: rest => if c = d then readWord word rest else none
  | _ :: _, _ => none

mutual

/-- Reads one value, blanks before it skipped. The fuel bounds the nesting. -/
def readNode : Nat → List Glyph → Option (Node × List Glyph)
  | 0, _ => none
  | fuel + 1, input =>
    match skipSpace input with
    | some 'n' :: rest => (readWord ['u', 'l', 'l'] rest).map fun rest => (.null, rest)
    | some 't' :: rest => (readWord ['r', 'u', 'e'] rest).map fun rest => (.bool true, rest)
    | some 'f' :: rest => (readWord ['a', 'l', 's', 'e'] rest).map fun rest => (.bool false, rest)
    | some '"' :: rest => (readString rest).map fun (value, rest) => (.text value, rest)
    | some '[' :: rest =>
      match skipSpace rest with
      | some ']' :: rest => some (.array [], rest)
      | rest => (readItems fuel rest).map fun (items, rest) => (.array items, rest)
    | some '\x7b' :: rest =>
      match skipSpace rest with
      | some '\x7d' :: rest => some (.object [], rest)
      | rest => (readMembers fuel rest).map fun (members, rest) => (.object members, rest)
    | rest => (readNumber rest).map fun (value, rest) => (.number value, rest)

/-- Reads the items of an array that has at least one, and its closing bracket. -/
def readItems : Nat → List Glyph → Option (List Node × List Glyph)
  | 0, _ => none
  | fuel + 1, input =>
    match readNode fuel input with
    | none => none
    | some (item, rest) =>
      match skipSpace rest with
      | some ']' :: rest => some ([item], rest)
      | some ',' :: rest => (readItems fuel rest).map fun (items, rest) => (item :: items, rest)
      | _ => none

/-- Reads the members of an object that has at least one, and its closing brace. -/
def readMembers : Nat → List Glyph → Option (List (Option String × Node) × List Glyph)
  | 0, _ => none
  | fuel + 1, input =>
    match skipSpace input with
    | some '"' :: rest =>
      match readString rest with
      | none => none
      | some (name, rest) =>
        match skipSpace rest with
        | some ':' :: rest =>
          match readNode fuel rest with
          | none => none
          | some (value, rest) =>
            match skipSpace rest with
            | some '\x7d' :: rest => some ([(name, value)], rest)
            | some ',' :: rest =>
              (readMembers fuel rest).map fun (members, rest) => ((name, value) :: members, rest)
            | _ => none
        | _ => none
    | _ => none

end

/-- Reads a whole document: one value, and nothing but blanks behind it. Every step of the
readers uses up a glyph or ends, so the length of the input is fuel enough. -/
def Node.ofGlyphs? (input : List Glyph) : Option Node :=
  match readNode (2 * input.length + 2) input with
  | some (node, rest) => if (skipSpace rest).isEmpty then some node else none
  | none => none

def Node.ofBytes? (bytes : ByteArray) : Option Node := Node.ofGlyphs? (glyphs bytes)

end AcctAdmin.Json
