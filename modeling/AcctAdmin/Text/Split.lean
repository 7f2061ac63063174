/-!
# Splitting text

Cutting a list of characters at separators. Every piece between two separators is kept, empty
ones too.
-/

set_option autoImplicit false

namespace AcctAdmin.Text

/-- The part before the first `sep` and the part after it; `none` without a separator. -/
def splitOnce? (sep : Char) (cs : List Char) : Option (List Char × List Char) :=
  match cs.dropWhile (· != sep) with
  | [] => none
  | _ :: rest => some (cs.takeWhile (· != sep), rest)

/-- The pieces between the characters that `isSep` picks; always at least one. -/
def splitBy (isSep : Char → Bool) : List Char → List (List Char)
  | [] => [[]]
  | c :: rest =>
    if isSep c then [] :: splitBy isSep rest
    else match splitBy isSep rest with
      | piece :: more => (c :: piece) :: more
      | [] => [[c]]

/-- Whether `needle` occurs in `cs` without a gap. -/
def occursIn (needle : List Char) : List Char → Bool
  | [] => needle.isEmpty
  | c :: rest => needle.isPrefixOf (c :: rest) || occursIn needle rest

/-- A line without the carriage return at its end. -/
def withoutReturn (cs : List Char) : List Char :=
  if cs.getLast? = some '\r' then cs.dropLast else cs

/-- The lines on a screen when texts are printed below each other: a text that has line breaks in
it takes up more than one. -/
def lines (printed : List String) : List String :=
  printed.flatMap fun s =>
    (splitBy (· == '\n') s.toList).map fun cs => String.ofList (withoutReturn cs)

/-- The texts one after the other with `sep` between each two. -/
def joinWith (sep : String) (parts : List String) : String := sep.intercalate parts

end AcctAdmin.Text
