import AcctAdmin.Toml.Quoted
import AcctAdmin.Toml.Scalar
import AcctAdmin.Toml.Table

/-!
# Reading TOML

A document is read line by line, and a value may go over several lines. There are two limits: a
key has fewer than 80 parts, and arrays and braces are nested fewer than 80 deep.
-/

set_option autoImplicit false

namespace AcctAdmin.Toml

/-- How many parts a key may have, and how deep values may be nested. -/
def depthLimit : Nat := 79

/-! ## Spaces and comments -/

def skipSpaces (cs : List Char) : List Char := cs.dropWhile isSpace

/-- Skips spaces, line breaks and comments. A character that may not stand in a comment is left
over, and no value begins with it. -/
def skipLines (inComment : Bool) : List Char → List Char
  | '\n' :: rest => skipLines false rest
  | '\r' :: '\n' :: rest => skipLines false rest
  | c :: rest =>
    if inComment then (if isPlain c then skipLines true rest else c :: rest)
    else if isSpace c then skipLines false rest
    else if c = '#' then skipLines true rest
    else c :: rest
  | [] => []

/-- What follows a line break, or the end of the document. -/
def afterBreak? : List Char → Option (List Char)
  | [] => some []
  | '\n' :: rest => some rest
  | '\r' :: '\n' :: rest => some rest
  | _ => none

/-- What follows the rest of a line that holds nothing more than a comment. -/
def afterLine? (cs : List Char) : Option (List Char) :=
  match skipSpaces cs with
  | '#' :: rest => afterBreak? (rest.dropWhile isPlain)
  | rest => afterBreak? rest

/-! ## Keys -/

def isBareKeyChar (c : Char) : Bool := c.isAlphanum || c == '_' || c == '-'

def readPart? : List Char → Option (String × List Char)
  | '"' :: rest => readLine? '"' rest
  | '\'' :: rest => readLine? '\'' rest
  | cs =>
    match cs.takeWhile isBareKeyChar with
    | [] => none
    | name => some (String.ofList name, cs.dropWhile isBareKeyChar)

/-- Reads a key of at most `parts` parts, spaces around each: all names but the last, and the
last. -/
def readKey? : Nat → List Char → Option ((List String × String) × List Char)
  | 0, _ => none
  | parts + 1, cs => do
    let (name, rest) ← readPart? (skipSpaces cs)
    match skipSpaces rest with
    | '.' :: rest => do
      let ((path, last), rest) ← readKey? parts rest
      some ((name :: path, last), rest)
    | rest => some (([], name), rest)

/-! ## Values -/

mutual

/-- Reads a value that begins here. `room` is how many brackets may still open within each other;
the fuel bounds the steps. -/
def readValue : Nat → Nat → List Char → Option (Node × List Char)
  | 0, _, _ => none
  | fuel + 1, room, cs =>
    match cs with
    | '[' :: rest =>
      match room with
      | 0 => none
      | room + 1 =>
        match skipLines false rest with
        | ']' :: rest => some (.array [], rest)
        | rest => (readItems fuel room rest).map fun (items, rest) => (.array items, rest)
    | '\x7b' :: rest =>
      match room with
      | 0 => none
      | room + 1 =>
        match skipSpaces rest with
        | '\x7d' :: rest => some (.table .braced [], rest)
        | rest =>
          (readPairs fuel room [] rest).map fun (members, rest) => (.table .braced members, rest)
    | '"' :: _ => (readText? '"' cs).map fun (text, rest) => (.text text, rest)
    | '\'' :: _ => (readText? '\'' cs).map fun (text, rest) => (.text text, rest)
    | _ =>
      let (word, rest) := cutWord cs
      (wordValue? word).map (·, rest)

/-- Reads the items of an array that has at least one more, and its closing bracket. A comma may
stand behind the last item. -/
def readItems : Nat → Nat → List Char → Option (List Node × List Char)
  | 0, _, _ => none
  | fuel + 1, room, cs =>
    match readValue fuel room cs with
    | none => none
    | some (item, rest) =>
      match skipLines false rest with
      | ']' :: rest => some ([item], rest)
      | ',' :: rest =>
        match skipLines false rest with
        | ']' :: rest => some ([item], rest)
        | rest => (readItems fuel room rest).map fun (items, rest) => (item :: items, rest)
      | _ => none

/-- Reads the pairs of a table in braces that has at least one more, and its closing brace. The
pairs are on one line, and no comma stands behind the last. -/
def readPairs : Nat → Nat → Members → List Char → Option (Members × List Char)
  | 0, _, _, _ => none
  | fuel + 1, room, members, cs =>
    match readKey? depthLimit cs with
    | some ((path, name), '=' :: rest) =>
      match readValue fuel room (skipSpaces rest) with
      | none => none
      | some (value, rest) =>
        match members.set path name value with
        | none => none
        | some members =>
          match skipSpaces rest with
          | '\x7d' :: rest => some (members, rest)
          | ',' :: rest => readPairs fuel room members rest
          | _ => none
    | _ => none

end

/-! ## Documents -/

/-- The tables that have been read so far, and the header that the next pairs belong to. -/
structure Draft where
  header : List String
  root : Members

namespace Draft

def empty : Draft := ⟨[], []⟩

/-- Adds a pair to the table of the current header. -/
def set (d : Draft) (path : List String) (name : String) (value : Node) : Option Draft :=
  (d.root.updateAt false (fun _ members => members.set path name value) d.header .headed).map
    ({ d with root := · })

def openTable (d : Draft) (path : List String) (name : String) : Option Draft :=
  (d.root.openTable path name).map (⟨path ++ [name], ·⟩)

def openItem (d : Draft) (path : List String) (name : String) : Option Draft :=
  (d.root.openItem path name).map (⟨path ++ [name], ·⟩)

end Draft

/-- Reads one statement: a header or a pair. -/
def readStatement (d : Draft) : List Char → Option (Draft × List Char)
  | '[' :: '[' :: rest => do
    match ← readKey? depthLimit rest with
    | ((path, name), ']' :: ']' :: rest) => (d.openItem path name).map (·, rest)
    | _ => none
  | '[' :: rest => do
    match ← readKey? depthLimit rest with
    | ((path, name), ']' :: rest) => (d.openTable path name).map (·, rest)
    | _ => none
  | cs => do
    match ← readKey? depthLimit cs with
    | ((path, name), '=' :: rest) => do
      let (value, rest) ← readValue (2 * rest.length + 1) depthLimit (skipSpaces rest)
      (d.set path name value).map (·, rest)
    | _ => none

/-- Reads the lines of a document. Each has at least one character, so the length of the text is
fuel enough. -/
def readLines : Nat → Draft → List Char → Option Members
  | 0, _, _ => none
  | fuel + 1, d, cs =>
    match skipSpaces cs with
    | [] => some d.root
    | cs =>
      match afterLine? cs with
      | some rest => readLines fuel d rest
      | none => do
        let (d, rest) ← readStatement d cs
        readLines fuel d (← afterLine? rest)

/-- Reads a document; a mark of the byte order may stand in front of it. -/
def Members.parse? (text : String) : Option Members :=
  let cs :=
    match text.toList with
    | '\ufeff' :: cs => cs
    | cs => cs
  readLines (cs.length + 1) .empty cs

end AcctAdmin.Toml
