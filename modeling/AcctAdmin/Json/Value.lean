import AcctAdmin.Json.Reader

/-!
# JSON values

What the body of a message is read as: strings are texts, numbers can be held, and each name
stands once. A value is nested no deeper than its reader allows.
-/

set_option autoImplicit false

namespace AcctAdmin.Json

inductive Value where
  | null
  | bool (value : Bool)
  | number (value : Number)
  | text (value : String)
  | array (items : List Value)
  | object (members : List (String × Value))
deriving Inhabited

/-- Adds a member before others, unless one of those has its name: of members with one name the
last counts. -/
def addMember (name : String) (value : Value) (members : List (String × Value)) :
    List (String × Value) :=
  if members.any (·.1 == name) then members else (name, value) :: members

mutual

/-- The value of a document that is nested at most `depth` deep. -/
def Node.value? : Nat → Node → Option Value
  | _, .null => some .null
  | _, .bool b => some (.bool b)
  | _, .number n => if n.isReadable then some (.number n) else none
  | _, .text s => s.map .text
  | 0, .array _ => none
  | 0, .object _ => none
  | depth + 1, .array items => (itemValues? depth items).map .array
  | depth + 1, .object members => (memberValues? depth members).map .object

def itemValues? : Nat → List Node → Option (List Value)
  | _, [] => some []
  | depth, item :: items =>
    match item.value? depth, itemValues? depth items with
    | some value, some values => some (value :: values)
    | _, _ => none

def memberValues? : Nat → List (Option String × Node) → Option (List (String × Value))
  | _, [] => some []
  | depth, (name, node) :: members =>
    match name, node.value? depth, memberValues? depth members with
    | some name, some value, some values => some (addMember name value values)
    | _, _, _ => none

end

namespace Value

def ofNat (n : Nat) : Value := .number (.ofNat n)

/-- An absent value is written as null. -/
def ofOption {α : Type} (write : α → Value) : Option α → Value
  | some a => write a
  | none => .null

/-! ## Reading plain values -/

def bool? : Value → Option Bool
  | .bool b => some b
  | _ => none

def text? : Value → Option String
  | .text s => some s
  | _ => none

def uint32? : Value → Option UInt32
  | .number n => n.uint32?
  | _ => none

def uint64? : Value → Option UInt64
  | .number n => n.uint64?
  | _ => none

/-- An array of things that `read` understands. -/
def list? {α : Type} (read : Value → Option α) : Value → Option (List α)
  | .array items => items.mapM read
  | _ => none

/-- Null, or something that `read` understands. -/
def option? {α : Type} (read : Value → Option α) : Value → Option (Option α)
  | .null => some none
  | v => (read v).map some

/-- Whether the value stands for "nothing to say": null, an empty object or an empty array. -/
def isVoid : Value → Bool
  | .null | .object [] | .array [] => true
  | _ => false

end Value

end AcctAdmin.Json
