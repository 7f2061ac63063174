import AcctAdmin.Uuid

/-!
# Accounts

The accounts that the server administers: what an administrator sees of one, what a search shows
of one, and what is stored. Times are unix seconds.
-/

set_option autoImplicit false

namespace AcctAdmin

/-- Names an account for good; a deleted account's identifier is never used again. -/
structure AccountId where
  uuid : Uuid
deriving DecidableEq, Inhabited

namespace AccountId

def text (id : AccountId) : String := id.uuid.hyphenated

def parse? (s : String) : Option AccountId := (Uuid.parse? s).map AccountId.mk

def order (a b : AccountId) : Ordering := a.uuid.order b.uuid

end AccountId

/-- Why and how long an account is shut out. Without an expiry the ban is for good. -/
structure Ban where
  reason : String
  expires : Option UInt64
deriving DecidableEq, Inhabited

/-- A ban counts until its expiry, that second excluded. -/
def Ban.activeAt (ban : Ban) (now : UInt64) : Bool :=
  match ban.expires with
  | none => true
  | some expires => now < expires

/-- What a search shows of an account. -/
structure AccountSummary where
  id : AccountId
  name : String
  email : String
  realName : String
  admin : Bool
  created : UInt64
deriving DecidableEq, Inhabited

/-- All of an account that an administrator sees. -/
structure AccountView where
  id : AccountId
  name : String
  email : String
  realName : String
  admin : Bool
  created : UInt64
  ban : Option Ban
deriving DecidableEq, Inhabited

def AccountView.summary (v : AccountView) : AccountSummary :=
  ⟨v.id, v.name, v.email, v.realName, v.admin, v.created⟩

/-- What is kept to check a password against. How a password is hashed is not part of this
library; all that matters of a hash is that it accepts the password it was made from and no
other. A stored text that is no hash accepts none. -/
inductive Credential where
  | ofPassword (password : String)
  | unusable
deriving DecidableEq, Inhabited

def Credential.accepts (c : Credential) (password : String) : Bool :=
  match c with
  | .ofPassword p => p == password
  | .unusable => false

structure Account where
  id : AccountId
  name : String
  email : String
  realName : String
  admin : Bool
  created : UInt64
  credential : Credential
  ban : Option Ban
deriving DecidableEq, Inhabited

namespace Account

def view (a : Account) : AccountView :=
  ⟨a.id, a.name, a.email, a.realName, a.admin, a.created, a.ban⟩

def summary (a : Account) : AccountSummary :=
  ⟨a.id, a.name, a.email, a.realName, a.admin, a.created⟩

/-- The ban that shuts the account out at a time, if there is one. -/
def activeBan? (a : Account) (now : UInt64) : Option Ban :=
  a.ban.filter (·.activeAt now)

end Account

end AcctAdmin
