import AcctAdmin.Client.Exchange

/-!
# Conversations

A conversation is the client's side of one login. While it is logged in it remembers the login,
and when the server no longer knows the session it logs in again by itself and repeats the
command, a few times at most. Every other failure is the caller's to deal with, and changes
nothing.
-/

set_option autoImplicit false

namespace AcctAdmin.Client

open AcctAdmin.Protocol

/-- How often one command may log in again. -/
def maxRelogins : Nat := 2

def standardTimeout : Duration := .ofSeconds 30

/-- Where a conversation stands. -/
inductive Standing (Line : Type) where
  /-- Not logged in; a line that was opened may still be there. -/
  | apart (bound : Option Line)
  /-- Logged in over a line, with the login of the last success. -/
  | joined (line : Line) (login : Login)

/-- One client's talk with one server. The timeout holds for each exchange by itself. -/
structure Conversation (Line : Type) where
  standing : Standing Line
  timeout : Duration

namespace Conversation

variable {World Line : Type}

def start (timeout : Duration) : Conversation Line := ⟨.apart none, timeout⟩

def isJoined (t : Conversation Line) : Bool :=
  match t.standing with
  | .joined .. => true
  | .apart _ => false

def line? (t : Conversation Line) : Option Line :=
  match t.standing with
  | .joined line _ => some line
  | .apart bound => bound

/-- The generation that was settled on, if a line has been opened. -/
def generation? (carrier : Carrier World Line) (t : Conversation Line) : Option Generation :=
  t.line?.map carrier.generation

/-! ## Logging in -/

/-- Logs in over an open line. A refusal parts the two sides; any other failure leaves the
standing as it was, which is what `before` makes of the line. -/
def loginOver (carrier : Carrier World Line) (timeout : Duration) (line : Line) (login : Login)
    (before : Line → Standing Line) (w : World) :
    Except Error AccountSummary × Conversation Line × World :=
  match carrier.exchange line (.login login) timeout w with
  | (.ok (.reply user), line, w) => (.ok user, ⟨.joined line login, timeout⟩, w)
  | (.ok (.refused r), line, w) => (.error (.refused r), ⟨.apart (some line), timeout⟩, w)
  | (.error e, line, w) => (.error e, ⟨before line, timeout⟩, w)

/-- Logs in, over a new line if there is none. -/
def login (carrier : Carrier World Line) (t : Conversation Line) (login : Login) (w : World) :
    Except Error AccountSummary × Conversation Line × World :=
  match t.standing with
  | .joined line last => loginOver carrier t.timeout line login (.joined · last) w
  | .apart (some line) => loginOver carrier t.timeout line login (fun l => .apart (some l)) w
  | .apart none =>
    match carrier.connect t.timeout w with
    | (.error e, w) => (.error e, t, w)
    | (.ok line, w) => loginOver carrier t.timeout line login (fun l => .apart (some l)) w

/-! ## Commands -/

/-- Whether a refusal is one that logging in again may mend. -/
def isMendable (c : Command) (r : Refusal) : Bool := r.isAuthentication && !c.kind.isLogin

/-- Sends a command, and again after each new login, of which so many are left. -/
def attempt (carrier : Carrier World Line) (c : Command) :
    Nat → Conversation Line → World → Except Error (Answer c) × Conversation Line × World
  | left, t, w =>
    match t.standing with
    | .apart _ => (.error .notLoggedIn, t, w)
    | .joined line last =>
      match carrier.exchange line c t.timeout w with
      | (.error e, line, w) => (.error e, { t with standing := .joined line last }, w)
      | (.ok (.reply payload), line, w) =>
        (.ok payload, { t with standing := .joined line last }, w)
      | (.ok (.refused r), line, w) =>
        let t := { t with standing := .joined line last }
        if isMendable c r then
          match left with
          | 0 => (.error (.refused r), t, w)
          | left + 1 =>
            match loginOver carrier t.timeout line last (.joined · last) w with
            | (.error e, t, w) => (.error e, t, w)
            | (.ok _, t, w) => attempt carrier c left t w
        else (.error (.refused r), t, w)

def execute (carrier : Carrier World Line) (t : Conversation Line) (c : Command) (w : World) :
    Except Error (Answer c) × Conversation Line × World :=
  attempt carrier c maxRelogins t w

/-- Sends a command that asks for something that may not be there. -/
def executeOptional (carrier : Carrier World Line) (t : Conversation Line) (c : Command)
    (w : World) : Except Error (Option (Answer c)) × Conversation Line × World :=
  match t.execute carrier c w with
  | (.ok payload, t, w) => (.ok (some payload), t, w)
  | (.error e, t, w) => (if e.isNotFound then .ok none else .error e, t, w)

/-! ## Ending -/

def close (carrier : Carrier World Line) (t : Conversation Line) (w : World) :
    Conversation Line × World :=
  let ended : Conversation Line := { t with standing := .apart none }
  match t.line? with
  | some line => (ended, carrier.close line w)
  | none => (ended, w)

/-- Lets a conversation go. The line that it still has is closed. -/
def drop (carrier : Carrier World Line) (t : Conversation Line) (w : World) : World :=
  match t.line? with
  | some line => carrier.close line w
  | none => w

/-- Ends the session and closes the line, whatever the server answers. -/
def logout (carrier : Carrier World Line) (t : Conversation Line) (w : World) :
    Except Error Unit × Conversation Line × World :=
  let (result, t, w) := t.execute carrier .logout w
  let (t, w) := t.close carrier w
  (result, t, w)

end Conversation

end AcctAdmin.Client
