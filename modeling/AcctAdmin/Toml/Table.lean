import AcctAdmin.Toml.Node

/-!
# Building tables

A document is a list of statements, and each adds to the tables that the ones before have made.
What a statement may add to depends on how a table came to be: a header opens a table once, a
dotted key does not reach into a table that has a header of its own, and what was written in
braces or brackets is complete.
-/

set_option autoImplicit false

namespace AcctAdmin.Toml

namespace Members

/-- The members with another node under a name that is there. -/
def replace (name : String) (node : Node) (members : Members) : Members :=
  members.map fun (n, old) => if n == name then (n, node) else (n, old)

/-- Goes down a path and changes the members of the table at its end. Tables that are missing on
the way are made, and an array of tables is entered at its last table. The names may come from a
header or from a dotted key, which decides the role of a new table and whether a table with a
header of its own may be entered. -/
def updateAt (dotted : Bool) (change : TableRole → Members → Option Members) :
    List String → TableRole → Members → Option Members
  | [], role, members => change role members
  | name :: path, _, members =>
    match members.lookup name with
    | none =>
      let role : TableRole := if dotted then .dotted else .implied
      (updateAt dotted change path role []).map fun inner =>
        members ++ [(name, .table role inner)]
    | some (.table role inner) =>
      if role = .braced ∨ (dotted ∧ role = .headed) then none
      else (updateAt dotted change path role inner).map fun inner =>
        replace name (.table role inner) members
    | some (.tables items) =>
      match items.getLast? with
      | some (.table role inner) =>
        (updateAt dotted change path role inner).map fun inner =>
          replace name (.tables (items.dropLast ++ [.table role inner])) members
      | _ => none
    | some _ => none

/-- Puts a new member. Below the table that a statement is about, only a table that dotted keys
have made takes one. -/
def put (dotted : Bool) (name : String) (node : Node) (role : TableRole) (members : Members) :
    Option Members :=
  if dotted ∧ role ≠ .dotted then none
  else if (members.lookup name).isSome then none
  else some (members ++ [(name, node)])

/-- Sets a dotted key, counted from a table. -/
def set (path : List String) (name : String) (node : Node) (members : Members) :
    Option Members :=
  updateAt true (put (!path.isEmpty) name node) path .headed members

/-- Opens a table under its header: a new one, or one that has only been on the way so far. -/
def openTable (path : List String) (name : String) (members : Members) : Option Members :=
  updateAt false
    (fun _ members =>
      match members.lookup name with
      | none => some (members ++ [(name, .table .headed [])])
      | some (.table .implied inner) => some (replace name (.table .headed inner) members)
      | some _ => none)
    path .headed members

/-- Opens one more table of an array of tables. -/
def openItem (path : List String) (name : String) (members : Members) : Option Members :=
  updateAt false
    (fun _ members =>
      match members.lookup name with
      | none => some (members ++ [(name, .tables [.table .headed []])])
      | some (.tables items) =>
        some (replace name (.tables (items ++ [.table .headed []])) members)
      | some _ => none)
    path .headed members

end Members

end AcctAdmin.Toml
