import AcctAdmin.Text.Decimal

/-!
# Names in ASCII

A label of a domain that has characters beyond ASCII is looked up under an ASCII name: its ASCII
characters, then where the others go, as a run of numbers in a base of 36 digits whose weights
adapt to the numbers before.
-/

set_option autoImplicit false

namespace AcctAdmin.Text.Punycode

/-- The digits are the letters `a` to `z` and then `0` to `9`. -/
def digit (d : Nat) : Char := Char.ofNat (if d < 26 then 97 + d else 22 + d)

/-- From which value on the digit at a place is not the last one of its number. -/
def threshold (place bias : Nat) : Nat := min 26 (max 1 (place - bias))

/-- The digits of a number, the least significant first; places count up by 36. -/
def digits (bias place n : Nat) : List Char :=
  let t := threshold place bias
  if n < t then [digit n]
  else digit (t + (n - t) % (36 - t)) :: digits bias (place + 36) ((n - t) / (36 - t))
termination_by n
decreasing_by
  have atLeastOne : 1 ≤ threshold place bias := by unfold threshold; omega
  have := Nat.div_le_self (n - threshold place bias) (36 - threshold place bias)
  omega

/-- Scales a number down until it is small, and gives the bias that fits it. -/
def biasOf (place n : Nat) : Nat :=
  if 455 < n then biasOf (place + 36) (n / 35) else place + 36 * n / (n + 38)
termination_by n

/-- The bias after a number, which was written as the `count`-th. -/
def nextBias (n count : Nat) (isFirst : Bool) : Nat :=
  let n := if isFirst then n / 700 else n / 2
  biasOf 0 (n + n / count)

/-- How far the writing has come. -/
structure Progress where
  written : List Char
  /-- Positions passed since the last number. -/
  delta : Nat
  bias : Nat
  /-- Characters written so far, in ASCII or as numbers. -/
  count : Nat

/-- Passes one character of the label while the characters of one code point are written. -/
def pass (code ascii : Nat) (p : Progress) (c : Char) : Progress :=
  if c.toNat < code then { p with delta := p.delta + 1 }
  else if c.toNat = code then
    { written := p.written ++ digits p.bias 36 p.delta
      delta := 0
      bias := nextBias p.delta (p.count + 1) (p.count == ascii)
      count := p.count + 1 }
  else p

/-- Writes the characters of the code points still to come; `from_` is the first that was not
passed yet. -/
def write (label : List Char) (ascii : Nat) : Nat → List Nat → Progress → List Char
  | _, [], p => p.written
  | from_, code :: codes, p =>
    let p := { p with delta := p.delta + (code - from_) * (p.count + 1) }
    let p := label.foldl (pass code ascii) p
    write label ascii (code + 1) codes { p with delta := p.delta + 1 }

def encode (label : List Char) : List Char :=
  let ascii := label.filter (·.toNat < 128)
  let codes := ((label.map Char.toNat).filter (128 ≤ ·)).eraseDups.mergeSort
  let start := if ascii = [] then [] else ascii ++ ['-']
  write label ascii.length 128 codes ⟨start, 0, 72, ascii.length⟩

end AcctAdmin.Text.Punycode
