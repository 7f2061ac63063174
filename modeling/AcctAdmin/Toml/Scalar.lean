import AcctAdmin.Toml.Node
import AcctAdmin.Toml.Moment

/-!
# Words

The values that are written without quotes or brackets: numbers, truth values and moments. Such
a value is cut out of the text first, as far as its characters reach, and then told apart by its
shape.
-/

set_option autoImplicit false

namespace AcctAdmin.Toml

open AcctAdmin.Text

/-! ## Cutting -/

def isWordChar (c : Char) : Bool :=
  c.isAlphanum || c == '+' || c == '-' || c == '_' || c == '.' || c == ':'

/-- Whether a time of day seems to begin here. -/
def beginsTime : List Char → Bool
  | h₁ :: h₂ :: ':' :: _ => h₁.isDigit && h₂.isDigit
  | _ => false

/-- The word at the front and what follows it. A date and a time of day make one word, though
they may have a space between them. -/
def cutWord (cs : List Char) : List Char × List Char :=
  let word := cs.takeWhile isWordChar
  match cs.dropWhile isWordChar with
  | ' ' :: rest =>
    if afterDate? word = some [] ∧ beginsTime rest then
      (word ++ ' ' :: rest.takeWhile isWordChar, rest.dropWhile isWordChar)
    else (word, ' ' :: rest)
  | rest => (word, rest)

/-! ## Numbers -/

/-- The digits of a run that may have single underscores between digits. -/
def runDigits? (isDigit : Char → Bool) : List Char → Option (List Char)
  | [] => none
  | [c] => if isDigit c then some [c] else none
  | c :: '_' :: rest => if isDigit c then (runDigits? isDigit rest).map (c :: ·) else none
  | c :: rest => if isDigit c then (runDigits? isDigit rest).map (c :: ·) else none

/-- The digits of a whole number: a zero at the front stands alone. -/
def wholeDigits? : List Char → Option (List Char)
  | ['0'] => some ['0']
  | '0' :: _ => none
  | cs => runDigits? Char.isDigit cs

/-- The value of a run of digits to a base. -/
def inBase (base : Nat) (digits : List Char) : Nat :=
  digits.foldl (fun n c => base * n + (hexValue? c).getD 0) 0

def integer? (n : Int) : Option Node :=
  let bound : Int := Nat.pow 2 63
  if -bound ≤ n ∧ n < bound then some (.integer n) else none

/-- An integer to a base of its own; such a number has no sign. -/
def basedInteger? (base : Nat) (isDigit : Char → Bool) (cs : List Char) : Option Node :=
  (runDigits? isDigit cs).bind fun digits => integer? (inBase base digits)

/-- Whether `digits * 10 ^ scale`, rounded to a double, is infinite: it reaches the middle between
the largest double and the next power of two. The size of the number is looked at first, so that
no power gets large. -/
def overflowsDouble (digits : List Char) (scale : Int) : Bool :=
  let digits := digits.dropWhile (· == '0')
  let size : Int := digits.length + scale
  if digits.isEmpty || size ≤ 308 then false
  else if 310 < size then true
  else
    let n := inBase 10 digits
    let limit := Nat.pow 2 1024 - Nat.pow 2 970
    if 0 ≤ scale then limit ≤ n * Nat.pow 10 scale.toNat
    else limit * Nat.pow 10 (-scale).toNat ≤ n

/-- A number with a fraction or an exponent. One that is too large below zero is still one. -/
def float? (negative : Bool) (whole fraction : List Char) (exponent : Int) : Option Node :=
  if !negative && overflowsDouble (whole ++ fraction) (exponent - fraction.length) then none
  else some .float

/-- The exponent of a number, behind its mark. -/
def exponent? : List Char → Option Int
  | '-' :: cs => (runDigits? Char.isDigit cs).map fun ds => -(inBase 10 ds : Int)
  | '+' :: cs => (runDigits? Char.isDigit cs).map fun ds => (inBase 10 ds : Int)
  | cs => (runDigits? Char.isDigit cs).map fun ds => (inBase 10 ds : Int)

def isRunChar (c : Char) : Bool := c.isDigit || c == '_'

def isExponentMark (c : Char) : Bool := c == 'e' || c == 'E'

/-- A decimal number behind its sign. -/
def decimalNumber? (negative : Bool) (cs : List Char) : Option Node := do
  let whole ← wholeDigits? (cs.takeWhile isRunChar)
  match cs.dropWhile isRunChar with
  | [] => integer? (if negative then -(inBase 10 whole : Int) else inBase 10 whole)
  | '.' :: rest => do
    let fraction ← runDigits? Char.isDigit (rest.takeWhile isRunChar)
    match rest.dropWhile isRunChar with
    | [] => float? negative whole fraction 0
    | mark :: rest =>
      if isExponentMark mark then (exponent? rest).bind (float? negative whole fraction) else none
  | mark :: rest =>
    if isExponentMark mark then (exponent? rest).bind (float? negative whole []) else none

/-- A number behind its sign, the words for what is not finite among them. -/
def signedNumber? (negative : Bool) (cs : List Char) : Option Node :=
  if cs = ['i', 'n', 'f'] ∨ cs = ['n', 'a', 'n'] then some .float else decimalNumber? negative cs

/-! ## Words -/

/-- The value that a word stands for. -/
def wordValue? (cs : List Char) : Option Node :=
  if cs = ['t', 'r', 'u', 'e'] then some (.boolean true)
  else if cs = ['f', 'a', 'l', 's', 'e'] then some (.boolean false)
  else if isMoment cs then some .moment
  else
    match cs with
    | '0' :: 'x' :: cs => basedInteger? 16 (fun c => (hexValue? c).isSome) cs
    | '0' :: 'o' :: cs => basedInteger? 8 (fun c => '0' ≤ c && c ≤ '7') cs
    | '0' :: 'b' :: cs => basedInteger? 2 (fun c => c == '0' || c == '1') cs
    | '+' :: cs => signedNumber? false cs
    | '-' :: cs => signedNumber? true cs
    | cs => signedNumber? false cs

end AcctAdmin.Toml
