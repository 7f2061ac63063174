import AcctAdmin.Protocol.Message

/-!
# Protocol generations

The protocol exists in generations. Each has a number, a schema name, a content type and a list
of the commands and replies that may appear on its wire; a server offers each generation at a
path of its own.
-/

set_option autoImplicit false

namespace AcctAdmin.Protocol

open AcctAdmin.Text

/-- The name and the number of a generation. -/
structure Identifier where
  name : String
  major : UInt32
  minor : UInt32
deriving DecidableEq, Inhabited

namespace Identifier

def text (i : Identifier) : String :=
  i.name ++ " " ++ decimal i.major.toNat ++ "." ++ decimal i.minor.toNat

/-- Whether one number comes before another: the major part decides first. -/
def precedes (i j : Identifier) : Bool :=
  i.major < j.major || (i.major == j.major && i.minor < j.minor)

end Identifier

/-- One offer of a server: a generation and the path it is spoken at. -/
structure Offer where
  supported : Identifier
  path : String
deriving DecidableEq, Inhabited

structure Generation where
  name : String
  major : UInt32
  minor : UInt32
  /-- Written into every envelope, for people who read one. -/
  schema : String
  /-- The exact content type of every body. -/
  contentType : String
  commands : List CommandKind
  replies : List ReplyKind
deriving DecidableEq, Inhabited

namespace Generation

def identifier (g : Generation) : Identifier := ⟨g.name, g.major, g.minor⟩

def isNamedBy (g : Generation) (i : Identifier) : Bool := g.identifier == i

def allowsCommand (g : Generation) (k : CommandKind) : Bool := g.commands.contains k

def allowsReply (g : Generation) (k : ReplyKind) : Bool := g.replies.contains k

/-- Where a server speaks the generation, below its base. -/
def endpointPath (g : Generation) : String :=
  "adm/" ++ decimal g.major.toNat ++ "/" ++ decimal g.minor.toNat ++ "/"

end Generation

/-- The name that all generations share. -/
def protocolName : String := "acct-admin"

/-- The first generation: accounts, and one search. -/
def generation10 : Generation where
  name := protocolName
  major := 1
  minor := 0
  schema := "urn:warden:acct-admin:1.0"
  contentType := "application/vnd.warden.acct-admin+json; version=1.0"
  commands :=
    [.login, .logout, .userCreate, .userGet, .userDelete, .userBan, .userUnban,
      .searchBegin .accounts, .searchTurn .accounts .next, .searchTurn .accounts .previous]
  replies := [.loginOk, .done, .userCreated, .user, .userPage]

/-- The second generation adds the searches by e-mail address and of the audit log. -/
def generation11 : Generation where
  name := protocolName
  major := 1
  minor := 1
  schema := "urn:warden:acct-admin:1.1"
  contentType := "application/vnd.warden.acct-admin+json; version=1.1"
  commands := CommandKind.all
  replies := ReplyKind.all

def generations : List Generation := [generation10, generation11]

def Identifier.generation? (i : Identifier) : Option Generation :=
  generations.find? (·.isNamedBy i)

end AcctAdmin.Protocol
