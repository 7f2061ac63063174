import AcctAdmin.Text.CaseTable

/-!
# Letter case

Two ways to look past the case of letters. E-mail addresses and kinds of audit events are
compared by ASCII case alone; the texts of a search are compared in their full lower-case
form, where a capital sigma at the end of a word becomes the final one.
-/

set_option autoImplicit false

namespace AcctAdmin.Text

/-! ## ASCII case -/

/-- A character with an ASCII capital made small and all else left alone. -/
def lowerAscii (c : Char) : Char :=
  if 'A' ≤ c ∧ c ≤ 'Z' then Char.ofNat (c.toNat + 32) else c

/-- The form of a text that two texts share exactly when they differ in ASCII case only. -/
def foldAscii (s : String) : String := String.ofList (s.toList.map lowerAscii)

/-- Whether two texts are equal up to the case of ASCII letters. -/
def sameUpToAsciiCase (s t : String) : Bool := foldAscii s == foldAscii t

/-! ## Full lower case -/

/-- Whether the code point takes part in the run. -/
def CaseRun.takes (run : CaseRun) (code : Nat) : Bool :=
  run.first ≤ code && code ≤ run.last && (code - run.first) % run.step == 0

/-- The lower-case form of one character by the simple mapping. -/
def lowerSimple (c : Char) : Char :=
  match lowerRuns.find? (·.takes c.toNat) with
  | some run => Char.ofNat (c.toNat + run.offset).toNat
  | none => c

def isCased (c : Char) : Bool := casedRanges.covers c.toNat

def isCaseIgnorable (c : Char) : Bool := caseIgnorableRanges.covers c.toNat

/-- Whether the first character that is not looked through has a case. -/
def meetsCased (cs : List Char) : Bool :=
  match cs.dropWhile isCaseIgnorable with
  | c :: _ => isCased c
  | [] => false

/-- Lower case of the characters after `before`, which is kept in reverse. A capital sigma is
final when a cased letter stands before it and none stands after it; a dotted capital I keeps
its dot as a mark of its own. -/
def lowerAfter (before : List Char) : List Char → List Char
  | [] => []
  | c :: rest =>
    let image :=
      if c = 'Σ' then
        if meetsCased before && !meetsCased rest then ['ς'] else ['σ']
      else if c = 'İ' then ['i', Char.ofNat 0x307]
      else [lowerSimple c]
    image ++ lowerAfter (c :: before) rest

def lowerCase (s : String) : String := String.ofList (lowerAfter [] s.toList)

end AcctAdmin.Text
