import AcctAdmin.Server.Failure

/-!
# Login attempts

Each host may try to log in so many times within a sliding window of time. Only attempts that
were let through count. Times are milliseconds.
-/

set_option autoImplicit false

namespace AcctAdmin.Server

/-- The attempts that were let through, per host and oldest first. -/
structure Attempts where
  allowed : Nat
  window : Nat
  hits : List (String × List Nat)
deriving DecidableEq, Inhabited

namespace Attempts

def empty (allowed window : Nat) : Attempts := ⟨allowed, window, []⟩

/-- The attempts of a host that still count. Old ones lie in front. -/
def recent (a : Attempts) (host : String) (now : Nat) : List Nat :=
  ((a.hits.lookup host).getD []).dropWhile fun hit => a.window ≤ now - hit

def setHits (a : Attempts) (host : String) (hits : List Nat) : Attempts :=
  { a with hits := (host, hits) :: a.hits.filter (·.1 != host) }

/-- Lets an attempt through, or says how long to wait: until the oldest attempt that counts no
longer does. -/
def check (a : Attempts) (host : String) (now : Nat) :
    Except TooManyAttempts Unit × Attempts :=
  let recent := a.recent host now
  if a.allowed ≤ recent.length then
    let oldest := recent.head?.getD now
    (.error ⟨host, a.window - (now - oldest)⟩, a.setHits host recent)
  else (.ok (), a.setHits host (recent ++ [now]))

/-- Forgets hosts whose latest attempt no longer counts. -/
def prune (a : Attempts) (now : Nat) : Attempts :=
  { a with hits := a.hits.filter fun (_, hits) =>
      match hits.getLast? with
      | some latest => now - latest < a.window
      | none => false }

end Attempts

end AcctAdmin.Server
