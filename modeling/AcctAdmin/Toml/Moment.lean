import AcctAdmin.Text.Decimal

/-!
# Moments

A date, a time of day, or both, as they may stand in a document. A moment has to exist: the
month has that many days, the day that many hours.
-/

set_option autoImplicit false

namespace AcctAdmin.Toml

open AcctAdmin.Text

/-- Every fourth year is a leap year, but for the centuries that 400 does not divide. -/
def isLeapYear (year : Nat) : Bool :=
  year % 4 = 0 && (year % 100 ≠ 0 || year % 400 = 0)

def monthLength (year month : Nat) : Nat :=
  if month = 2 then (if isLeapYear year then 29 else 28)
  else if month = 4 ∨ month = 6 ∨ month = 9 ∨ month = 11 then 30
  else 31

/-- Whether two digits denote a number from `low` to `high`. -/
def inRange (low high : Nat) (digits : List Char) : Bool :=
  match readDecimal? digits with
  | some n => low ≤ n && n ≤ high
  | none => false

/-- What follows a date at the front of a text. -/
def afterDate? : List Char → Option (List Char)
  | y₁ :: y₂ :: y₃ :: y₄ :: '-' :: m₁ :: m₂ :: '-' :: d₁ :: d₂ :: rest => do
    let year ← readDecimal? [y₁, y₂, y₃, y₄]
    let month ← readDecimal? [m₁, m₂]
    if inRange 1 12 [m₁, m₂] ∧ inRange 1 (monthLength year month) [d₁, d₂] then some rest
    else none
  | _ => none

/-- What follows a fraction of a second, if there is one. -/
def afterFraction? : List Char → Option (List Char)
  | '.' :: d :: rest => if d.isDigit then some (rest.dropWhile Char.isDigit) else none
  | '.' :: [] => none
  | rest => some rest

/-- What follows a time of day at the front of a text. A minute may have a leap second. -/
def afterTime? : List Char → Option (List Char)
  | h₁ :: h₂ :: ':' :: m₁ :: m₂ :: ':' :: s₁ :: s₂ :: rest =>
    if inRange 0 23 [h₁, h₂] ∧ inRange 0 59 [m₁, m₂] ∧ inRange 0 60 [s₁, s₂] then
      afterFraction? rest
    else none
  | _ => none

/-- Whether a text is the distance from universal time, or nothing. -/
def isOffset : List Char → Bool
  | [] => true
  | ['Z'] | ['z'] => true
  | [sign, h₁, h₂, ':', m₁, m₂] =>
    (sign == '+' || sign == '-') && inRange 0 23 [h₁, h₂] && inRange 0 59 [m₁, m₂]
  | _ => false

/-- Whether a text is a moment. A time without a date has no distance from universal time. -/
def isMoment (cs : List Char) : Bool :=
  match afterDate? cs with
  | some [] => true
  | some (mark :: rest) =>
    (mark == 'T' || mark == 't' || mark == ' ')
      && (match afterTime? rest with
          | some rest => isOffset rest
          | none => false)
  | none => afterTime? cs == some []

end AcctAdmin.Toml
