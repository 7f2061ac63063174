import AcctAdmin.Json.Value
import AcctAdmin.Text.Quoted

/-!
# Writing JSON

Values are written compactly, without any blanks, and only the characters that JSON forbids
inside a string are escaped.
-/

set_option autoImplicit false

namespace AcctAdmin.Json

open AcctAdmin.Text

/-- One character inside a string. -/
def escapeChar (c : Char) : List Char :=
  match c with
  | '"' => ['\\', '"']
  | '\\' => ['\\', '\\']
  | '\x08' => ['\\', 'b']
  | '\x0c' => ['\\', 'f']
  | '\n' => ['\\', 'n']
  | '\r' => ['\\', 'r']
  | '\t' => ['\\', 't']
  | c => if c.toNat < 0x20 then ['\\', 'u'] ++ hexOfWidth 4 c.toNat else [c]

/-- A text as a JSON string. -/
def textChars (s : String) : List Char := '"' :: s.toList.flatMap escapeChar ++ ['"']

mutual

def Value.chars : Value → List Char
  | .null => ['n', 'u', 'l', 'l']
  | .bool true => ['t', 'r', 'u', 'e']
  | .bool false => ['f', 'a', 'l', 's', 'e']
  | .number n => n.chars
  | .text s => textChars s
  | .array items => '[' :: itemChars items ++ [']']
  | .object members => '\x7b' :: memberChars members ++ ['\x7d']

def itemChars : List Value → List Char
  | [] => []
  | [item] => item.chars
  | item :: next :: items => item.chars ++ ',' :: itemChars (next :: items)

def memberChars : List (String × Value) → List Char
  | [] => []
  | [(name, value)] => textChars name ++ ':' :: value.chars
  | (name, value) :: next :: members =>
    textChars name ++ ':' :: value.chars ++ ',' :: memberChars (next :: members)

end

def Value.render (v : Value) : String := String.ofList v.chars

end AcctAdmin.Json
