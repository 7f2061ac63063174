import AcctAdmin.Record

/-!
# TOML documents

The tree that a TOML document stands for. Numbers with a fraction and moments in time carry no
value here: no setting is one, so that all that matters about them is that they are well formed.
-/

set_option autoImplicit false

namespace AcctAdmin.Toml

/-- How a table came to be, which decides who may still add to it. -/
inductive TableRole where
  /-- A header of its own opened it. -/
  | headed
  /-- It is on the way to a header; its own header may still come. -/
  | implied
  /-- It is on the way to a dotted key; only dotted keys add to it. -/
  | dotted
  /-- It was written in braces, and is complete. -/
  | braced
deriving DecidableEq, Inhabited

inductive Node where
  | text (value : String)
  | integer (value : Int)
  | float
  | boolean (value : Bool)
  | moment
  /-- An array in brackets, which is complete. -/
  | array (items : List Node)
  /-- An array of tables, to which headers in double brackets add. -/
  | tables (items : List Node)
  | table (role : TableRole) (members : List (String × Node))
deriving Inhabited

/-- The members of a table, in the order in which they came; no name stands twice. -/
abbrev Members := List (String × Node)

namespace Node

def text? : Node → Option String
  | text s => some s
  | _ => none

/-- A whole number from zero to below `bound`. -/
def below? (bound : Nat) : Node → Option Nat
  | integer n => if 0 ≤ n ∧ n < bound then some n.toNat else none
  | _ => none

def uint32? (node : Node) : Option UInt32 := (node.below? UInt32.size).map UInt32.ofNat

def uint64? (node : Node) : Option UInt64 := (node.below? UInt64.size).map UInt64.ofNat

/-- The items of an array, however it was written. -/
def items? : Node → Option (List Node)
  | array items => some items
  | tables items => some items
  | _ => none

def list? {α : Type} (read : Node → Option α) (node : Node) : Option (List α) :=
  node.items?.bind (·.mapM read)

/-- The record of a node with the given field names. Other members of a table do not matter, nor
do more items of an array than there are names. A moment is written with marks of its own that no
record knows, so as a record it has no fields. -/
def record? (names : List String) : Node → Option (Record Node)
  | table _ members => some ⟨false, members⟩
  | array items => some ⟨true, names.zip items⟩
  | tables items => some ⟨true, names.zip items⟩
  | moment => some ⟨false, []⟩
  | _ => none

end Node

end AcctAdmin.Toml
