import AcctAdmin.Text.Decimal

/-!
# Quoted texts

A text in quotes is cut out first, up to the quotes that close it, and its escapes are resolved
then. Double quotes allow escapes, single quotes do not; three quotes at either end allow line
breaks.
-/

set_option autoImplicit false

namespace AcctAdmin.Toml

open AcctAdmin.Text

/-! ## Characters -/

def isSpace (c : Char) : Bool := c == ' ' || c == '\t'

/-- Tabs are the only control characters that may stand in a document beside line breaks. -/
def isPlain (c : Char) : Bool := c == '\t' || (0x20 ≤ c.toNat && c.toNat != 0x7f)

/-- The text with every line break as one line feed; `none` if a carriage return stands alone. -/
def unifyBreaks? : List Char → Option (List Char)
  | [] => some []
  | '\r' :: '\n' :: rest => (unifyBreaks? rest).map ('\n' :: ·)
  | '\r' :: _ => none
  | c :: rest => (unifyBreaks? rest).map (c :: ·)

/-! ## Cutting -/

/-- The inside of a text on one line and what follows its closing quote. -/
def cutLine (quote : Char) (escapes : Bool) : List Char → Option (List Char × List Char)
  | [] => none
  | [c] => if c = quote then some ([], []) else none
  | c :: d :: rest =>
    if c = quote then some ([], d :: rest)
    else if escapes ∧ c = '\\' then
      (cutLine quote escapes rest).map fun (inside, rest) => (c :: d :: inside, rest)
    else (cutLine quote escapes (d :: rest)).map fun (inside, rest) => (c :: inside, rest)

/-- If three quotes or more begin here, the ones that still belong to the text and what follows
all of them. The last three close the text; at most two more may stand before them. -/
def closing? (quote : Char) (cs : List Char) : Option (List Char × List Char) :=
  let run := (cs.takeWhile (· == quote)).length
  if run < 3 then none
  else some (List.replicate (min run 5 - 3) quote, cs.drop (min run 5))

/-- The inside of a text over several lines and what follows its closing quotes. -/
def cutBlock (quote : Char) (escapes : Bool) : List Char → Option (List Char × List Char)
  | [] | [_] => none
  | c :: d :: rest =>
    match closing? quote (c :: d :: rest) with
    | some (inside, rest) => some (inside, rest)
    | none =>
      if escapes ∧ c = '\\' then
        (cutBlock quote escapes rest).map fun (inside, rest) => (c :: d :: inside, rest)
      else (cutBlock quote escapes (d :: rest)).map fun (inside, rest) => (c :: inside, rest)

/-! ## Escapes -/

/-- The character of a one-letter escape. -/
def escaped? : Char → Option Char
  | '"' => some '"'
  | '\\' => some '\\'
  | 'b' => some '\x08'
  | 'f' => some '\x0c'
  | 'n' => some '\n'
  | 'r' => some '\r'
  | 't' => some '\t'
  | _ => none

/-- The character that a number in hexadecimal digits stands for. -/
def scalar? (digits : List Char) : Option Char :=
  (readHex? digits).bind fun n => if n.isValidChar then some (Char.ofNat n) else none

/-- Whether nothing but spaces stands before the next line break. -/
def endsLine (cs : List Char) : Bool := (cs.dropWhile isSpace).head? == some '\n'

/-- The text with its escapes resolved. A backslash at the end of a line joins the line to the
next character that is no space; `joining` says that this character is still to come. -/
def unescape? (joining : Bool) : List Char → Option (List Char)
  | [] => some []
  | '\\' :: 'u' :: a :: b :: c :: d :: rest => do
    let scalar ← scalar? [a, b, c, d]
    (unescape? false rest).map (scalar :: ·)
  | '\\' :: 'U' :: a :: b :: c :: d :: e :: f :: g :: h :: rest => do
    let scalar ← scalar? [a, b, c, d, e, f, g, h]
    (unescape? false rest).map (scalar :: ·)
  | ['\\'] => none
  | '\\' :: e :: rest =>
    if endsLine (e :: rest) then unescape? true (e :: rest)
    else (escaped? e).bind fun c => (unescape? false rest).map (c :: ·)
  | c :: rest =>
    if joining && (isSpace c || c == '\n') then unescape? true rest
    else (unescape? false rest).map (c :: ·)

/-! ## Texts -/

/-- Checks and resolves the inside of a text. -/
def resolve? (isAllowed : Char → Bool) (escapes : Bool) (inside : List Char) : Option String := do
  let inside ← unifyBreaks? inside
  if !inside.all isAllowed then none
  let text ← if escapes then unescape? false inside else some inside
  some (String.ofList text)

/-- Reads a text on one line behind its opening quote. -/
def readLine? (quote : Char) (cs : List Char) : Option (String × List Char) := do
  let (inside, rest) ← cutLine quote (quote == '"') cs
  let text ← resolve? isPlain (quote == '"') inside
  some (text, rest)

/-- Reads a text over several lines behind its opening quotes. A line break at once is no part of
it. -/
def readBlock? (quote : Char) (cs : List Char) : Option (String × List Char) := do
  let (inside, rest) ← cutBlock quote (quote == '"') cs
  let inside :=
    match inside with
    | '\n' :: inside => inside
    | '\r' :: '\n' :: inside => inside
    | inside => inside
  let text ← resolve? (fun c => isPlain c || c == '\n') (quote == '"') inside
  some (text, rest)

/-- Reads a text with the given quote, on one line or over several. -/
def readText? (quote : Char) (cs : List Char) : Option (String × List Char) :=
  match cs with
  | a :: b :: c :: rest =>
    if a = quote ∧ b = quote ∧ c = quote then readBlock? quote rest
    else if a = quote then readLine? quote (b :: c :: rest)
    else none
  | a :: rest => if a = quote then readLine? quote rest else none
  | [] => none

end AcctAdmin.Toml
