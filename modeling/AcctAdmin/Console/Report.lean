import AcctAdmin.Client.Error
import AcctAdmin.Protocol.Message
import AcctAdmin.Text.Split

/-!
# Reports

What the tool prints, line by line: the rows and pages of a search, an account, an event of the
audit log, and what went wrong.
-/

set_option autoImplicit false

namespace AcctAdmin.Console

open AcctAdmin.Text AcctAdmin.Protocol

/-! ## Accounts and events -/

def summaryLine (s : AccountSummary) : String :=
  s.id.text ++ " " ++ s.name ++ " <" ++ s.email ++ "> " ++ s.realName
    ++ if s.admin then " [admin]" else ""

def banLine (b : Ban) : String :=
  let until_ := (b.expires.map fun at_ => "until " ++ decimal at_.toNat).getD "permanent"
  "  banned (" ++ until_ ++ "): " ++ b.reason

def viewLines (v : AccountView) : List String :=
  summaryLine v.summary :: ("  created: " ++ decimal v.created.toNat) :: (v.ban.map banLine).toList

/-- An event, its number and its kind in columns. -/
def eventLine (e : AuditEvent) : String :=
  joinWith " "
    [padLeft 6 (decimal e.id.toNat), decimal e.time.toNat, padRight 14 e.kind, e.owner.text,
     e.message]

/-! ## Pages -/

def heading {Row : Type} (p : Page Row) : String :=
  let rows :=
    match p.shownRange? with
    | some (first, last) => "rows " ++ decimal first.toNat ++ "-" ++ decimal last.toNat
    | none => "no rows"
  "-- page " ++ decimal p.index.toNat ++ "/" ++ decimal p.count.toNat ++ " (" ++ rows ++ ")"

def pageLines {Row : Type} (line : Row → String) (p : Page Row) : List String :=
  heading p :: p.items.map line

/-- The lines of a page, by the search that it is of. -/
def foundLines : (s : SearchKind) → (pageKind s).Payload → List String
  | .accounts, page => pageLines summaryLine page
  | .accountsByEmail, page => pageLines summaryLine page
  | .audit, page => pageLines eventLine page

/-- Whether no page follows, by the search. -/
def isLastFound : (s : SearchKind) → (pageKind s).Payload → Bool
  | .accounts, page => Page.isLast page
  | .accountsByEmail, page => Page.isLast page
  | .audit, page => Page.isLast page

/-! ## Errors -/

/-- An error with its details and what could be done about it. -/
def errorLines (e : Client.Error) : List String :=
  ("Error [" ++ e.code.text ++ "]: " ++ e.message)
    :: e.attributes.entries.map (fun (key, value) => "  " ++ key ++ ": " ++ value)
    ++ (e.remedy.map ("  hint: " ++ ·)).toList
    ++ (if e = .notLoggedIn then
          ["  set --user and --password (or WARDEN_USER and WARDEN_PASSWORD)"]
        else [])

end AcctAdmin.Console
