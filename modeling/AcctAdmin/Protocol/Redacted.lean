import AcctAdmin.Protocol.Message
import AcctAdmin.Text.Quoted

/-!
# Showing what has a password in it

Commands and settings end up in logs. The ones that carry a password are shown with a fixed word
in its place, so that nothing of the password, not even its length, is given away.
-/

set_option autoImplicit false

namespace AcctAdmin.Protocol

open AcctAdmin.Text

/-- What stands in place of a password. -/
def redaction : String := quoted "<redacted>"

/-- A record on one line: its name and its fields with their texts. -/
def shownRecord (name : String) (fields : List (String × String)) : String :=
  let body := joinFields (fields.map fun (field, text) => field ++ ": " ++ text)
  name ++ " \x7b " ++ body ++ " \x7d"
where
  joinFields (parts : List String) : String := ", ".intercalate parts

def shownBool (b : Bool) : String := if b then "true" else "false"

def Login.shown (l : Login) : String :=
  shownRecord "Login" [("user_name", quoted l.userName), ("password", redaction)]

def NewAccount.shown (a : NewAccount) : String :=
  shownRecord "UserCreate"
    [("name", quoted a.name), ("email", quoted a.email), ("real_name", quoted a.realName),
     ("password", redaction), ("admin", shownBool a.admin)]

end AcctAdmin.Protocol
