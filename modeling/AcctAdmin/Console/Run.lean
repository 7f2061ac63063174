import AcctAdmin.Client.Link
import AcctAdmin.Console.Reader
import AcctAdmin.Console.Report

/-!
# Runs

Carrying out an order: log in, do it, log out. Logging out is tried whatever came of the order,
and cannot fail a run. What was printed before an error stays printed.
-/

set_option autoImplicit false

namespace AcctAdmin.Console

open AcctAdmin.Protocol AcctAdmin.Client AcctAdmin.Text

/-! ## Printing -/

/-- What has been printed, and why no more was. -/
structure Printed where
  lines : List String
  error : Option Error
deriving DecidableEq, Inhabited

namespace Printed

def nothing : Printed := ⟨[], none⟩

def failed (e : Error) : Printed := ⟨[], some e⟩

/-- The lines that a result is shown in; an error has none. -/
def ofResult {α : Type} (lines : α → List String) : Except Error α → Printed
  | .ok a => ⟨lines a, none⟩
  | .error e => failed e

def behind (lines : List String) (p : Printed) : Printed := ⟨lines ++ p.lines, p.error⟩

end Printed

/-- What a run leaves: its exit status, what it printed, and its report of what went wrong. -/
structure Outcome where
  exit : UInt32
  out : List String
  err : List String
deriving DecidableEq, Inhabited

def Printed.outcome (p : Printed) : Outcome :=
  match p.error with
  | none => ⟨0, p.lines, []⟩
  | some e => ⟨1, p.lines, errorLines e⟩

/-! ## Orders -/

variable {World Line : Type}

/-- What a step of a conversation leads to. -/
abbrev Step (World Line : Type) := Printed × Conversation Line × World

/-- Prints a page, and turns to further ones while so many more are asked for and there are any. -/
def showPages (carrier : Carrier World Line) (s : SearchKind) :
    Nat → (pageKind s).Payload → Conversation Line → World → Step World Line
  | 0, page, t, w => (⟨foundLines s page, none⟩, t, w)
  | more + 1, page, t, w =>
    if isLastFound s page then (⟨foundLines s page, none⟩, t, w)
    else
      match t.execute carrier (.searchTurn s .next) w with
      | (.error e, t, w) => (⟨foundLines s page, some e⟩, t, w)
      | (.ok next, t, w) =>
        let (printed, t, w) := showPages carrier s more next t w
        (printed.behind (foundLines s page), t, w)

def send (carrier : Carrier World Line) (c : Command) (lines : Answer c → List String)
    (t : Conversation Line) (w : World) : Step World Line :=
  let (result, t, w) := t.execute carrier c w
  (.ofResult lines result, t, w)

/-- Carries out an order in a conversation that is logged in. -/
def Order.carryOut (carrier : Carrier World Line) (t : Conversation Line) (w : World) :
    Order → Step World Line
  | .protocols => (.nothing, t, w)
  | .search query pages =>
    match t.execute carrier (.searchBegin query) w with
    | (.error e, t, w) => (.failed e, t, w)
    | (.ok page, t, w) => showPages carrier query.kind (pages - 1) page t w
  | .view user =>
    let (result, t, w) := t.executeOptional carrier (.userGet user) w
    let lines : Option AccountView → List String
      | some found => viewLines found
      | none => ["No user with id " ++ user.text]
    (.ofResult lines result, t, w)
  | .create account => send carrier (.userCreate account) (fun id => [AccountId.text id]) t w
  | .delete user => send carrier (.userDelete user) (fun _ => []) t w
  | .ban user reason expires => send carrier (.userBan user reason expires) (fun _ => []) t w
  | .unban user => send carrier (.userUnban user) (fun _ => []) t w

/-! ## Runs -/

/-- Opens a line, shows what was settled on and closes it. -/
def showProtocols (carrier : Carrier World Line) (spoken : List Generation) (timeout : Duration)
    (w : World) : Printed × World :=
  match carrier.connect timeout w with
  | (.error e, w) => (.failed e, w)
  | (.ok line, w) =>
    (⟨["negotiated: " ++ (carrier.generation line).identifier.text,
       "client supports: " ++ identifiersText (spoken.map Generation.identifier)], none⟩,
     carrier.close line w)

/-- Logs in, carries out an order and logs out. Without a login the line is closed at once. -/
def runLoggedIn (carrier : Carrier World Line) (i : Invocation) (login : Login) (w : World) :
    Printed × World :=
  match (Conversation.start i.timeout).login carrier login w with
  | (.error e, t, w) => (.failed e, (t.close carrier w).2)
  | (.ok _, t, w) =>
    let (printed, t, w) := i.order.carryOut carrier t w
    let (_, _, w) := t.logout carrier w
    (printed, w)

/-- Carries out a command line over a carrier that reaches its server. -/
def Invocation.runOver (i : Invocation) (carrier : Carrier World Line)
    (spoken : List Generation) (w : World) : Printed × World :=
  match i.order, i.user, i.password with
  | .protocols, _, _ => showProtocols carrier spoken i.timeout w
  | _, some user, some password => runLoggedIn carrier i ⟨user, password⟩ w
  | _, _, _ => (.failed .notLoggedIn, w)

def Invocation.run {Channel : Type} (i : Invocation) (net : Network World Channel) (w : World) :
    Outcome × World :=
  let settings := { Settings.ofBase i.server with timeout := i.timeout }
  let (printed, w) := i.runOver (settings.carrier net) settings.spoken w
  (printed.outcome, w)

end AcctAdmin.Console
