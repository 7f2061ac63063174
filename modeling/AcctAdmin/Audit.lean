import AcctAdmin.Account

/-!
# Audit events

What the server remembers of who did what. Events are numbered from 1 in the order in which
they were recorded.
-/

set_option autoImplicit false

namespace AcctAdmin

/-- What is to be remembered, before it has its number. -/
structure AuditNote where
  time : UInt64
  owner : AccountId
  kind : String
  message : String
deriving DecidableEq, Inhabited

structure AuditEvent where
  id : UInt64
  time : UInt64
  owner : AccountId
  kind : String
  message : String
deriving DecidableEq, Inhabited

/-- The event that a note becomes under a number. -/
def AuditNote.numbered (note : AuditNote) (id : UInt64) : AuditEvent :=
  ⟨id, note.time, note.owner, note.kind, note.message⟩

end AcctAdmin
