/-!
# Records

A thing with named fields is written under the names of its fields or as the list of its fields
in order. A record is what either gives: fields with their names. The two differ in one point: a
list cannot leave a field out from the middle, so a field that may be missing under its name may
be missing from a list only if it has a default and nothing follows it.
-/

set_option autoImplicit false

namespace AcctAdmin

/-- The fields found by name or by place. -/
structure Record (α : Type) where
  /-- Whether the fields were told apart by their place. -/
  positional : Bool
  fields : List (String × α)

namespace Record

variable {α β : Type}

def find? (r : Record α) (name : String) : Option α := r.fields.lookup name

/-- A field that has to be there. -/
def required (r : Record α) (name : String) (read : α → Option β) : Option β :=
  (r.find? name).bind read

/-- A field with a value of its own for absence. -/
def defaulted (r : Record α) (name : String) (read : α → Option β) (absent : β) : Option β :=
  match r.find? name with
  | some a => read a
  | none => some absent

/-- A field that may be left out under its name and not in a list. -/
def nullable (r : Record α) (name : String) (read : α → Option (Option β)) : Option (Option β) :=
  match r.find? name with
  | some a => read a
  | none => if r.positional then none else some none

end Record

end AcctAdmin
