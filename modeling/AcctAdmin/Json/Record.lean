import AcctAdmin.Json.Value
import AcctAdmin.Record

/-!
# JSON records

A record is an object, or the array of its fields in order. Taking it from a value that has been
read already and taking it from the document as written differ in what they say to a field that
stands twice.
-/

set_option autoImplicit false

namespace AcctAdmin.Json

/-- The record of a value with the given field names. Other members of an object do not matter;
an array must not be longer than the names. -/
def Value.record? (names : List String) : Value → Option (Record Value)
  | .object members => some ⟨false, members⟩
  | .array items => if items.length ≤ names.length then some ⟨true, names.zip items⟩ else none
  | _ => none

/-- The members of an object that has the given field names: every name must be a text, and of
the given names none may stand twice. -/
def knownMembers? (names : List String) :
    List (Option String × Node) → Option (List (String × Node))
  | [] => some []
  | (none, _) :: _ => none
  | (some name, node) :: rest =>
    match knownMembers? names rest with
    | none => none
    | some members =>
      if names.contains name then
        if members.any (·.1 == name) then none else some ((name, node) :: members)
      else some members

/-- The record of a document as written. Repeating a field is an error here, because such a
record is taken in one pass over the text. -/
def Node.record? (names : List String) : Node → Option (Record Node)
  | .object members => (knownMembers? names members).map (⟨false, ·⟩)
  | .array items => if items.length ≤ names.length then some ⟨true, names.zip items⟩ else none
  | _ => none

namespace Node

def text? : Node → Option String
  | .text s => s
  | _ => none

def uint32? : Node → Option UInt32
  | .number n => n.uint32?
  | _ => none

def list? {α : Type} (read : Node → Option α) : Node → Option (List α)
  | .array items => items.mapM read
  | _ => none

def option? {α : Type} (read : Node → Option α) : Node → Option (Option α)
  | .null => some none
  | node => (read node).map some

end Node

end AcctAdmin.Json
