import AcctAdmin.Console.Order
import AcctAdmin.Text.Split

/-!
# Reading a command line

A line is read from left to right, down the levels of the commands. A value is not looked at when
it is read but when the next argument begins, or the line ends, so that a word that cannot be
placed is reported before a bad value in front of it. A command is settled before the levels above
it are.
-/

set_option autoImplicit false

namespace AcctAdmin.Console

open AcctAdmin.Text

/-! ## One level -/

/-- What has been read on one level. -/
structure Scan where
  given : Given
  /-- The argument that is being read, with its text once that is there. -/
  pending : Option (Argument × Option String)
  places : List Argument
  /-- Behind two bare dashes every word is for a place. -/
  verbatim : Bool

namespace Scan

def start (l : Level) : Scan := ⟨[], none, l.places, false⟩

def awaitsValue (s : Scan) : Bool :=
  match s.pending with
  | some (_, none) => !s.verbatim
  | _ => false

/-- Takes an argument, which may be given only once. -/
def take (s : Scan) (a : Argument) (text : String) : Except Usage Scan :=
  if s.given.has a then .error (.conflict a a)
  else
    match a.shape.read? text with
    | some value => .ok { s with given := s.given ++ [⟨a, value⟩], pending := none }
    | none => .error (.badValue a text)

def settle (s : Scan) : Except Usage Scan :=
  match s.pending with
  | none => .ok s
  | some (a, none) => .error (.noValue a)
  | some (a, some text) => s.take a text

/-- Begins an argument, with its text if that is there already. -/
def begin (s : Scan) (a : Argument) (text : Option String) : Except Usage Scan :=
  s.settle.map ({ · with pending := some (a, text) })

/-- Takes an argument whose text is attached to it. -/
def takeAttached (s : Scan) (a : Argument) (text : String) : Except Usage Scan :=
  s.settle.bind (·.take a text)

def stop (s : Scan) (shown : Usage) : Except Usage Scan := s.settle.bind fun _ => .error shown

end Scan

/-! ## Options -/

def readLongOption (l : Level) (s : Scan) (cs : List Char) : Except Usage Scan :=
  let (word, attached) :=
    match splitOnce? '=' cs with
    | some (word, text) => (String.ofList word, some (String.ofList text))
    | none => (String.ofList cs, none)
  if word = "help" ∨ (word = "version" ∧ l = .top) then
    if attached.isSome then .error (.needlessValue word)
    else s.stop (if word = "help" then .help else .version)
  else
    match l.options.find? (·.word == word), attached with
    | none, _ => .error (.unknownArgument ("--" ++ word))
    | some a, none => if a.shape = .flag then s.takeAttached a "" else s.begin a none
    | some a, some text =>
      if a.shape = .flag then .error (.needlessValue word) else s.takeAttached a text

/-- Reads an option behind its one dash: a letter and what is attached to it, perhaps behind an
equals sign. -/
def readShortOption (l : Level) (s : Scan) (letter : Char) (attached : List Char) :
    Except Usage Scan :=
  if letter = 'h' then s.stop .help
  else if letter = 'V' ∧ l = .top then s.stop .version
  else
    match l.options.find? (·.letter? == some letter), attached with
    | none, _ => .error (.unknownArgument (String.ofList ['-', letter]))
    | some a, [] => s.begin a none
    | some a, '=' :: text => s.takeAttached a (String.ofList text)
    | some a, text => s.takeAttached a (String.ofList text)

/-! ## Words -/

/-- The command of every group that shows help. -/
def helpWord : String := "help"

/-- What is wrong with a word for which there is no place. -/
def strayWord (l : Level) (s : Scan) (word : String) : Usage :=
  if l.isGroup ∧ ¬(s.verbatim ∧ ((l.child? word).isSome ∨ word = helpWord)) then
    .unknownCommand word
  else .unknownArgument word

/-- Reads a word that is no option: the value of the option before it, or else an argument that is
told by its place. -/
def readWord (l : Level) (s : Scan) (word : String) : Except Usage Scan :=
  match s.awaitsValue, s.pending, s.places with
  | true, some (a, _), _ => .ok { s with pending := some (a, some word) }
  | _, _, a :: places => (s.begin a (some word)).map ({ · with places := places })
  | _, _, [] => .error (strayWord l s word)

/-- What the words behind `help` lead to: help, if they name a command or a group. -/
def readHelp : Level → List String → Usage
  | _, [] => .help
  | l, word :: rest =>
    match l.child? word with
    | some l => readHelp l rest
    | none =>
      if l.isGroup ∧ word = helpWord then
        match rest with
        | [] => .help
        | word :: _ => .unknownCommand word
      else .unknownCommand word

/-! ## Lines -/

/-- What a word of the line is, by its looks. -/
inductive Mark where
  | child (l : Level)
  | help
  | dashes
  | long (cs : List Char)
  | short (letter : Char) (attached : List Char)
  | word

/-- Tells what a word is. A single dash is a word like any other. -/
def markOf (l : Level) (s : Scan) (word : String) : Mark :=
  if s.verbatim then .word
  else
    match (if s.awaitsValue then none else l.child? word) with
    | some l => .child l
    | none =>
      if ¬s.awaitsValue ∧ l.isGroup ∧ word = helpWord then .help
      else
        match word.toList with
        | ['-', '-'] => .dashes
        | '-' :: '-' :: cs => .long cs
        | '-' :: letter :: cs => .short letter cs
        | _ => .word

/-- Reads a line from a level on: its order, and what was given on this level and the ones
below. -/
def readLevel (fallback : Given) (l : Level) (s : Scan) :
    List String → Except Usage (Order × List Given)
  | [] => do
    let s ← s.settle
    let order ← l.order s.given fallback
    return (order, [s.given])
  | word :: rest =>
    match markOf l s word with
    | .child l => do
      let (order, below) ← readLevel fallback l (.start l) rest
      let s ← s.settle
      return (order, s.given :: below)
    | .help => .error (readHelp l rest)
    | .dashes => readLevel fallback l { s with verbatim := true } rest
    | .long cs => do readLevel fallback l (← readLongOption l s cs) rest
    | .short letter cs => do readLevel fallback l (← readShortOption l s letter cs) rest
    | .word => do readLevel fallback l (← readWord l s word) rest

/-- Reads a command line, with what the environment has for arguments that the line leaves out.
A general argument that is given on several levels counts on the lowest. -/
def Invocation.read (fallback : Given) (line : List String) : Except Usage Invocation := do
  let (order, levels) ← readLevel fallback .top (.start .top) line
  let given : Given := levels.reverse.flatten ++ fallback
  return {
    server := (given.get? .server).getD standardServer
    user := given.get? .user
    password := given.get? .password
    timeout := .ofSeconds ((given.get? .timeout).getD standardSeconds : UInt64).toNat
    order := order }

end AcctAdmin.Console
