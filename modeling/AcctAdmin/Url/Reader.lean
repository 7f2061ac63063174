import AcctAdmin.Url.Basic

/-!
# Reading URLs

Reading is forgiving about what people type: blanks at the ends, tabs and line breaks anywhere,
a wrong number of slashes behind a web scheme, and backslashes in web URLs are all put right. A
text without a scheme can only be resolved against a base.

The reading stops short of two things that a full one does. The letters of a domain are lowered and
encoded, but not mapped or checked by the tables of Unicode; and `file` is a scheme like any other.
Whoever lets a stranger say where to go should therefore take the reading as given from outside, as
a client does (`Client.Network.resolve`).
-/

set_option autoImplicit false

namespace AcctAdmin

open AcctAdmin.Text

namespace Url

/-! ## Which characters a part hides -/

/-- Controls and everything beyond ASCII are escaped in every part. -/
def isAlwaysHidden (c : Char) : Bool := Host.isControl c || 128 ≤ c.toNat

def hiddenInFragment (c : Char) : Bool := isAlwaysHidden c || " \"<>`".toList.contains c

def hiddenInPath (c : Char) : Bool := hiddenInFragment c || "#?\x7b\x7d".toList.contains c

def hiddenInUser (c : Char) : Bool := hiddenInPath c || "/:;=@[\\]^|".toList.contains c

def hiddenInQuery (isWeb : Bool) (c : Char) : Bool :=
  isAlwaysHidden c || " \"#<>".toList.contains c || (isWeb && c == '\'')

def escapedText (isHidden : Char → Bool) (cs : List Char) : String :=
  String.ofList (percentEscaped isHidden cs)

/-! ## Separators -/

def isSlash (isWeb : Bool) (c : Char) : Bool := c == '/' || (isWeb && c == '\\')

/-- Whether a character ends the part with user, host and port. -/
def endsAuthority (isWeb : Bool) (c : Char) : Bool := isSlash isWeb c || c == '?' || c == '#'

def endsPath (c : Char) : Bool := c == '?' || c == '#'

/-- The text before the last `@` and the text after it. -/
def splitAtLast? (cs : List Char) : Option (List Char × List Char) :=
  (splitOnce? '@' cs.reverse).map fun (after, before) => (before.reverse, after.reverse)

/-! ## Paths -/

/-- A segment with its escaped dots read as dots, to see whether it means one. -/
def dotted : List Char → List Char
  | '%' :: '2' :: e :: rest =>
    if e = 'e' ∨ e = 'E' then '.' :: dotted rest else '%' :: '2' :: e :: dotted rest
  | c :: rest => c :: dotted rest
  | [] => []

/-- Goes down a path from the segments already passed: a single dot stays where it is, and two
dots go back up. What ends in dots is a directory. -/
def descend (passed : List String) : List (List Char) → List String
  | [] => passed
  | segment :: more =>
    let isLast := more.isEmpty
    match dotted segment with
    | ['.', '.'] => descend (passed.dropLast ++ if isLast then [""] else []) more
    | ['.'] => descend (passed ++ if isLast then [""] else []) more
    | _ => descend (passed ++ [escapedText hiddenInPath segment]) more

def segmentsBelow (isWeb : Bool) (passed : List String) (cs : List Char) : List String :=
  descend passed (splitBy (isSlash isWeb) cs)

/-- The path behind a host. A web URL always has a root; elsewhere a path may be missing. -/
def pathBehindHost (isWeb : Bool) : List Char → UrlPath
  | [] => .rooted (if isWeb then [""] else [])
  | c :: rest => .rooted (segmentsBelow isWeb [] (if isSlash isWeb c then rest else c :: rest))

/-! ## Query and fragment -/

/-- The query and the fragment at the end of a URL, each behind its mark. -/
def readTail (isWeb : Bool) (cs : List Char) : Option String × Option String :=
  let beforeHash := cs.takeWhile (· != '#')
  let query := match beforeHash with
    | '?' :: q => some (escapedText (hiddenInQuery isWeb) q)
    | _ => none
  let fragment := match cs.dropWhile (· != '#') with
    | _ :: f => some (escapedText hiddenInFragment f)
    | [] => none
  (query, fragment)

/-! ## Authorities -/

/-- The user and the password before the `@`; an empty password counts as none. -/
def readUser (cs : List Char) : String × Option String :=
  match splitOnce? ':' cs with
  | none => (escapedText hiddenInUser cs, none)
  | some (user, []) => (escapedText hiddenInUser user, none)
  | some (user, password) =>
    (escapedText hiddenInUser user, some (escapedText hiddenInUser password))

/-- The part of an authority that is the host: up to the first colon outside brackets. -/
def hostLength : Bool → List Char → Nat
  | _, [] => 0
  | inBrackets, c :: rest =>
    if c = ':' ∧ inBrackets = false then 0
    else 1 + hostLength (c == '[' || (inBrackets && c != ']')) rest

/-- Reads a port; none is left when there are no digits. -/
def readPort? (cs : List Char) : Option (Option UInt16) :=
  if cs.all Char.isDigit then
    if cs = [] then some none
    else (readBounded? 65536 cs).map fun n => some (UInt16.ofNat n)
  else none

/-- Reads user, host and port of a URL, and nothing else. -/
def readAuthority? (scheme : String) (cs : List Char) : Option Authority := do
  let isWeb := isWebScheme scheme
  let (userPart, place) := (splitAtLast? cs).getD ([], cs)
  let isAddressed := (splitAtLast? cs).isSome
  let length := hostLength false place
  let hostPart := place.take length
  let portPart := place.drop length
  -- an empty host cannot have a user or a port, and a web URL cannot have an empty host
  if hostPart = [] ∧ (isWeb ∨ isAddressed ∨ portPart ≠ []) then none
  else
    let host ← if isWeb then Host.readWeb? hostPart else Host.readOther? hostPart
    let port ← readPort? (portPart.drop 1)
    let (user, password) := readUser userPart
    some ⟨user, password, host, if port = webPorts.lookup scheme then none else port⟩

/-- Reads everything behind the two slashes of a URL. -/
def readBehindSlashes? (scheme : String) (cs : List Char) : Option Url := do
  let isWeb := isWebScheme scheme
  let authority ← readAuthority? scheme (cs.takeWhile fun c => !endsAuthority isWeb c)
  let rest := cs.dropWhile fun c => !endsAuthority isWeb c
  let (query, fragment) := readTail isWeb (rest.dropWhile fun c => !endsPath c)
  some ⟨scheme, some authority, pathBehindHost isWeb (rest.takeWhile fun c => !endsPath c), query,
    fragment⟩

/-! ## Resolving -/

/-- Resolves a text without a scheme against a base that has a root. -/
def readBelow? (base : Url) (cs : List Char) : Option Url :=
  let isWeb := isWebScheme base.scheme
  let pathPart := cs.takeWhile fun c => !endsPath c
  let (query, fragment) := readTail isWeb (cs.dropWhile fun c => !endsPath c)
  let onPath (path : UrlPath) : Option Url :=
    some { base with path := path, query := query, fragment := fragment }
  let passed := match base.path with
    | .rooted segments => segments.dropLast
    | .rootless _ => []
  match pathPart with
  | [] => some { base with query := if cs.head? = some '?' then query else base.query, fragment }
  | c :: rest =>
    if c = '/' ∨ c = '\\' then
      if rest.head?.any (fun d => d == '/' || d == '\\') then
        let isForced := c = '/' ∧ rest.head? = some '/'
        readBehindSlashes? base.scheme
          (if isForced then cs.drop 2 else cs.dropWhile fun d => d == '/' || d == '\\')
      else onPath (.rooted (segmentsBelow isWeb [] rest))
    else onPath (.rooted (segmentsBelow isWeb passed pathPart))

def readBehindScheme? (base : Option Url) (scheme : String) (cs : List Char) : Option Url :=
  if isWebScheme scheme then
    let isSlash (c : Char) : Bool := c == '/' || c == '\\'
    let slashes := (cs.takeWhile isSlash).length
    match base.filter fun b => b.scheme == scheme && decide (slashes < 2) with
    | some b => readBelow? b cs
    | none => readBehindSlashes? scheme (cs.dropWhile isSlash)
  else
    match cs with
    | '/' :: '/' :: rest => readBehindSlashes? scheme rest
    | _ =>
      let pathPart := cs.takeWhile fun c => !endsPath c
      let (query, fragment) := readTail false (cs.dropWhile fun c => !endsPath c)
      let path := match pathPart with
        | '/' :: rest => .rooted (segmentsBelow false [] rest)
        | text => .rootless (escapedText isAlwaysHidden text)
      some ⟨scheme, none, path, query, fragment⟩

/-- The scheme at the head of a text, in small letters, and what follows its colon. -/
def splitScheme? (cs : List Char) : Option (String × List Char) := do
  let (name, rest) ← splitOnce? ':' cs
  let first ← name.head?
  let isPart (c : Char) : Bool := c.isAlphanum || c == '+' || c == '-' || c == '.'
  if first.isAlpha ∧ name.all isPart then some (String.ofList (name.map lowerAscii), rest) else none

/-- What is read of a text: blanks and controls at its ends do not count, and neither do tabs and
line breaks. -/
def cleaned (s : String) : List Char :=
  let isEdge (c : Char) : Bool := c ≤ ' '
  let inner := ((s.toList.dropWhile isEdge).reverse.dropWhile isEdge).reverse
  inner.filter fun c => c != '\t' && c != '\n' && c != '\r'

/-- Reads a text as a URL, resolved against a base if there is one. -/
def read? (base : Option Url) (s : String) : Option Url :=
  let cs := cleaned s
  match splitScheme? cs, base with
  | some (scheme, rest), _ => readBehindScheme? base scheme rest
  | none, none => none
  | none, some b =>
    if b.isBase then readBelow? b cs
    else if cs.head? = some '#' then some { b with fragment := (readTail false cs).2 }
    else none

/-- Reads a text that stands for itself. -/
def parse? (s : String) : Option Url := read? none s

/-- Reads a text as a reference that is followed from a base. -/
def join? (base : Url) (s : String) : Option Url := read? (some base) s

/-- Where a text leads that is followed from a base. -/
def resolve (base : Url) (s : String) : Except String Url :=
  match base.join? s with
  | some url => .ok url
  | none => .error "the path is no URL"

end Url

end AcctAdmin
