import AcctAdmin.Server.Handler

/-!
# Executing commands

A server is its store, its sessions, its count of login attempts and its limits. A command is
attempted in a transaction of its own; an attempt that loses a race is made again on fresh
ground, three times at most. Every command is answered: with its reply, or with a refusal that
says what went wrong. A command that is refused leaves store and mail as they were.

Opening, working and closing an attempt are steps of their own, so that attempts of different
callers can be interleaved; `Service.attempt` takes the three in one go.
-/

set_option autoImplicit false

namespace AcctAdmin.Server

open AcctAdmin.Protocol AcctAdmin.Text

/-- What a server has between two commands. -/
structure Service where
  store : Store
  sessions : Sessions
  attempts : Attempts
  limits : PageLimits
deriving DecidableEq, Inhabited

/-- How a command went. -/
structure Execution where
  response : Response
  status : Nat
  session : Option SessionChange
  mail : List Mail
  /-- How many passwords were hashed, over all attempts. -/
  hashed : Nat
deriving DecidableEq, Inhabited

/-! ## One attempt -/

/-- Works on a command in an open transaction. -/
def Service.work (server : Service) (tx : Transaction) (r : Request) (c : Command) (draw : Draw) :
    Except Halt Reply × Desk :=
  (Handling.dispatch server.limits r draw c).run
    ⟨server.store, tx, server.sessions, server.attempts, .none⟩

/-- Ends the sessions of accounts that were banned or deleted. -/
def Sessions.revoke (s : Sessions) (principals : List AccountId) : Sessions :=
  principals.foldl (fun s p => (s.removePrincipal p).2) s

/-- Commits after a command was carried out, and ends the sessions that it revoked. -/
def Service.settle (server : Service) (desk : Desk) : Service :=
  { server with
    store := desk.tx.commit desk.store
    sessions := desk.sessions.revoke desk.effects.revoked
    attempts := desk.attempts }

/-- Gives the transaction up after a command stopped short. -/
def Service.abandon (server : Service) (desk : Desk) : Service :=
  { server with
    store := desk.tx.drop desk.store
    sessions := desk.sessions
    attempts := desk.attempts }

/-- Closes an attempt as its outcome demands. -/
def Service.close (server : Service) : Except Halt Reply × Desk → Service
  | (.ok _, desk) => server.settle desk
  | (.error _, desk) => server.abandon desk

def Service.attempt (server : Service) (r : Request) (c : Command) (draw : Draw) :
    Except Halt Reply × Effects × Service :=
  let done := server.work server.store.begin r c draw
  (done.1, done.2.effects, server.close done)

/-! ## All attempts -/

/-- How often a command is tried before a conflict is reported. -/
def maxAttempts : Nat := 3

/-- Whether another attempt could help. -/
def isConflict : Except Halt Reply → Bool
  | .error (.fault (.storage e)) => e.isConflict
  | _ => false

/-- Makes the attempt with number `n`, and up to `left` more after it as long as each loses a
race. -/
def Service.run (r : Request) (c : Command) (draws : Nat → Draw) :
    (left n : Nat) → Service → Except Halt Reply × Effects × Service
  | 0, n, server => server.attempt r c (draws n)
  | left + 1, n, server =>
    let (outcome, effects, server) := server.attempt r c (draws n)
    if isConflict outcome then
      let (outcome, later, server) := Service.run r c draws left (n + 1) server
      (outcome, { later with hashed := effects.hashed + later.hashed }, server)
    else (outcome, effects, server)

def Halt.failure (id : RequestId) : Halt → Failure
  | .fault f => .ofFault id f
  | .panic payload => .ofPanic id payload

/-- What is answered when the last attempt at a command ended so. -/
def Execution.ofOutcome (r : Request) (effects : Effects) : Except Halt Reply → Execution
  | .ok reply =>
    ⟨.success r.requestId reply, 200, effects.session, effects.mail, effects.hashed⟩
  | .error halt =>
    let failure := halt.failure r.requestId
    ⟨.refused failure.refusal, failure.status, none, [], effects.hashed⟩

/-- Executes a command. Attempt `n` is given `draws n`, counted from 0. -/
def Service.execute (server : Service) (r : Request) (c : Command) (draws : Nat → Draw) :
    Execution × Service :=
  let (outcome, effects, server) := Service.run r c draws (maxAttempts - 1) 0 server
  (.ofOutcome r effects outcome, server)

/-! ## Upkeep -/

/-- Sweeps idle sessions and forgets quiet hosts. -/
def Service.sweep (server : Service) (now : Nat) : Nat × Service :=
  let (evicted, sessions) := server.sessions.sweep now fun _ => false
  (evicted, { server with sessions := sessions, attempts := server.attempts.prune now })

/-! ## The first administrator -/

/-- The administrator that a server starts with. -/
structure FirstAdmin where
  name : String
  email : String
  realName : String
  password : String
deriving DecidableEq, Inhabited

/-- Creates the first administrator in a transaction of its own, unless there is an account of
that name. Says whether one was created. -/
def Handling.firstAdmin (admin : FirstAdmin) (now : UInt64) (draw : Draw) : Handling Bool := do
  let desk ← get
  if (desk.tx.accountByName? admin.name).isSome then return false
  let credential ← hash draw admin.password
  write fun tx store =>
    tx.insert store
      ⟨draw.account, admin.name, admin.email, admin.realName, true, now, credential, none⟩
  note now draw.account "USER_CREATED" ("bootstrap administrator " ++ admin.name)
  return true

def Service.bootstrap (server : Service) (admin : FirstAdmin) (now : Nat) (draw : Draw) :
    Except Halt Bool × Effects × Service :=
  let desk : Desk :=
    ⟨server.store, server.store.begin, server.sessions, server.attempts, .none⟩
  match (Handling.firstAdmin admin (UInt64.ofNat (now / 1000)) draw).run desk with
  | (.ok true, desk) => (.ok true, desk.effects, server.settle desk)
  | (.ok false, desk) => (.ok false, desk.effects, server.abandon desk)
  | (.error halt, desk) => (.error halt, desk.effects, server.abandon desk)

end AcctAdmin.Server
