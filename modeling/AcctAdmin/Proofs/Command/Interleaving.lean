import AcctAdmin.Proofs.Command.Success

/-!
# Commands interleaved

Any number of commands on one server, each of which goes through its attempts one step at a time:
it opens a transaction, finds its caller, does what it asks for, closes the transaction, ends the
sessions that it revoked or begins another attempt. Any order of the steps of different commands is
a schedule. What a step does is what `Service.execute` does in that place; a step that would have to
wait for the writer's place is not taken.

Beside the state that the program has, a command remembers the accounts that its attempt began on
and the sessions in which its caller was found, and the server remembers which identifiers were
given to accounts, and with which rights. Nothing the program does depends on these, except that an
identifier is not given twice.
-/

set_option autoImplicit false

namespace AcctAdmin.Server

open AcctAdmin.Protocol

/-- How far an attempt at a command has come: its transaction is open, its caller was found, it was
worked on, its transaction is over, and it was the last one, whose outcome is the answer. -/
inductive Stage where
  | opened (tx : Transaction)
  | identified (tx : Transaction) (caller : Session)
  | worked (outcome : Except Halt Reply) (tx : Transaction) (effects : Effects)
  | closed (outcome : Except Halt Reply) (effects : Effects)
  | answered (outcome : Except Halt Reply) (effects : Effects)

/-- A command on its way, and its history. -/
structure OpenCommand where
  request : Request
  command : Command
  stage : Stage
  /-- How many attempts were begun. -/
  tries : Nat
  /-- How many passwords were hashed in the attempts before this one. -/
  hashed : Nat
  /-- The accounts that were committed when this attempt began. -/
  ground : List Account
  /-- The sessions in which the caller was looked up. -/
  seen : Sessions

/-- What a command's work finds on its desk. -/
def Service.desk (server : Service) (tx : Transaction) : Desk :=
  ⟨server.store, tx, server.sessions, server.attempts, .none⟩

def Service.adopt (server : Service) (desk : Desk) : Service :=
  { server with store := desk.store, sessions := desk.sessions, attempts := desk.attempts }

/-- Ends the sessions that a command revoked, if it was carried out. -/
def Service.finish (server : Service) (effects : Effects) : Except Halt Reply → Service
  | .ok _ => { server with sessions := server.sessions.revoke effects.revoked }
  | .error _ => server

/-- A caller's session as it stands: what other commands did to it while it was live is seen. -/
def Sessions.current (s : Sessions) (caller : Session) : Session :=
  (s.find? caller.key).getD caller

theorem Sessions.current_key (s : Sessions) (caller : Session) :
    (s.current caller).key = caller.key := by
  unfold current
  cases hfound : s.find? caller.key with
  | none => rfl
  | some x => simpa using List.find?_some hfound

/-- Draws for one step, during which nothing else happens. -/
def Draw.quiet (account : AccountId) (session : Uuid) (hashing : HashResult) : Draw :=
  ⟨account, session, hashing, fun s => s⟩

namespace OpenCommand

def begin (o : OpenCommand) (s : Store) : OpenCommand :=
  { o with stage := .opened s.begin, tries := o.tries + 1, ground := s.table.rows }

def arrive (r : Request) (c : Command) (server : Service) : OpenCommand :=
  OpenCommand.begin ⟨r, c, .opened server.store.begin, 0, 0, [], server.sessions⟩ server.store

/-- Takes what came of the work on a command. A conflict met while the writer's place is taken is
none yet: the command waits for the place. -/
def work (o : OpenCommand) (server : Service) (done : Except Halt Reply × Desk) :
    Option (OpenCommand × Service) :=
  if server.store.writing && isConflict done.1 then none
  else some ({ o with stage := .worked done.1 done.2.tx done.2.effects }, server.adopt done.2)

def identify (o : OpenCommand) (server : Service) (tx : Transaction) : OpenCommand × Service :=
  match (Handling.identify o.request o.command).outcome (server.desk tx) with
  | (.ok caller, desk) =>
    ({ o with stage := .identified desk.tx caller, seen := server.sessions }, server.adopt desk)
  | (.error halt, desk) =>
    ({ o with stage := .worked (.error halt) desk.tx desk.effects }, server.adopt desk)

/-- Closes the transaction of an attempt, unless it has to wait. -/
def close (o : OpenCommand) (server : Service) (outcome : Except Halt Reply) (tx : Transaction)
    (effects : Effects) : Option (OpenCommand × Service) :=
  let closed := { o with stage := .closed outcome effects }
  match outcome with
  | .ok _ =>
    if tx.mayCommit server.store then
      some (closed, { server with store := tx.commit server.store })
    else none
  | .error _ => some (closed, { server with store := tx.drop server.store })

def conclude (o : OpenCommand) (server : Service) (outcome : Except Halt Reply)
    (effects : Effects) : OpenCommand × Service :=
  if isConflict outcome && o.tries < maxAttempts then
    ({ o with hashed := o.hashed + effects.hashed }.begin server.store, server)
  else ({ o with stage := .answered outcome effects }, server.finish effects outcome)

/-- Takes a command's next step, unless it has to wait or the command is answered. -/
def next (o : OpenCommand) (server : Service) (draw : Draw) : Option (OpenCommand × Service) :=
  match o.stage with
  | .opened tx =>
    if needsCaller o.command then some (o.identify server tx)
    else
      o.work server
        ((Handling.dispatch server.limits o.request draw o.command).outcome (server.desk tx))
  | .identified tx caller =>
    o.work server
      ((Handling.carryOut server.limits o.request draw (server.sessions.current caller)
        o.command).outcome (server.desk tx))
  | .worked outcome tx effects => o.close server outcome tx effects
  | .closed outcome effects => some (o.conclude server outcome effects)
  | .answered _ _ => none

/-- The rights of the account that a command's next step may add. -/
def adds? (o : OpenCommand) : Option Bool :=
  match o.stage, o.command with
  | .identified _ _, .userCreate new => some new.admin
  | _, _ => none

def execution? (o : OpenCommand) : Option Execution :=
  match o.stage with
  | .answered outcome effects =>
    some (.ofOutcome o.request { effects with hashed := o.hashed + effects.hashed } outcome)
  | _ => none

/-- Whether the command has been carried out and its transaction has committed. -/
def committed (o : OpenCommand) : Bool :=
  match o.stage with
  | .closed (.ok _) _ => true
  | .answered (.ok _) _ => true
  | _ => false

end OpenCommand

/-! ## What a command's step can be -/

namespace OpenCommand

variable {o o' : OpenCommand} {server server' : Service} {draw : Draw}

/-- All that a command's next step can be. -/
inductive Advances (draw : Draw) (o : OpenCommand) (server : Service) :
    OpenCommand → Service → Prop where
  | identified {tx : Transaction} {caller : Session} {desk : Desk} (hst : o.stage = .opened tx)
    (hrun : (Handling.identify o.request o.command).outcome (server.desk tx) = (.ok caller, desk)) :
    Advances draw o server
      { o with stage := .identified desk.tx caller, seen := server.sessions } (server.adopt desk)
  | unidentified {tx : Transaction} {halt : Halt} {desk : Desk} (hst : o.stage = .opened tx)
    (hrun : (Handling.identify o.request o.command).outcome (server.desk tx) =
      (.error halt, desk)) :
    Advances draw o server
      { o with stage := .worked (.error halt) desk.tx desk.effects } (server.adopt desk)
  | worked {tx : Transaction} {caller : Session} {outcome : Except Halt Reply} {desk : Desk}
    (hst : o.stage = .opened tx ∧ needsCaller o.command = false ∨
      ∃ found, o.stage = .identified tx found ∧ caller = server.sessions.current found)
    (hrun : (Handling.carryOut server.limits o.request draw caller o.command).outcome
      (server.desk tx) = (outcome, desk)) :
    Advances draw o server
      { o with stage := .worked outcome desk.tx desk.effects } (server.adopt desk)
  | committed {reply : Reply} {tx : Transaction} {effects : Effects}
    (hst : o.stage = .worked (.ok reply) tx effects) :
    Advances draw o server { o with stage := .closed (.ok reply) effects }
      { server with store := tx.commit server.store }
  | dropped {halt : Halt} {tx : Transaction} {effects : Effects}
    (hst : o.stage = .worked (.error halt) tx effects) :
    Advances draw o server { o with stage := .closed (.error halt) effects }
      { server with store := tx.drop server.store }
  | again {halt : Halt} {effects : Effects} (hst : o.stage = .closed (.error halt) effects) :
    Advances draw o server
      ({ o with hashed := o.hashed + effects.hashed }.begin server.store) server
  | answered {outcome : Except Halt Reply} {effects : Effects}
    (hst : o.stage = .closed outcome effects) :
    Advances draw o server { o with stage := .answered outcome effects }
      (server.finish effects outcome)

theorem work_eq_some {done : Except Halt Reply × Desk}
    (h : o.work server done = some (o', server')) :
    o' = { o with stage := .worked done.1 done.2.tx done.2.effects } ∧
      server' = server.adopt done.2 := by
  unfold work at h
  split at h
  · cases h
  · cases h
    exact ⟨rfl, rfl⟩

/-- An attempt that is over is the last one, unless it lost its race and may be made again. -/
theorem next_of_closed {outcome : Except Halt Reply} {effects : Effects}
    (hst : o.stage = .closed outcome effects) (h : o.next server draw = some (o', server')) :
    (isConflict outcome = true ∧ o.tries < maxAttempts ∧ server' = server ∧
      o' = { o with hashed := o.hashed + effects.hashed }.begin server.store) ∨
    ((isConflict outcome = true → maxAttempts ≤ o.tries) ∧
      server' = server.finish effects outcome ∧
      o' = { o with stage := .answered outcome effects }) := by
  simp only [next, hst, conclude, Option.some.injEq] at h
  by_cases hagain : isConflict outcome = true ∧ o.tries < maxAttempts
  · obtain ⟨hlost, hmore⟩ := hagain
    simp only [hlost, hmore, decide_true, Bool.and_self, if_true] at h
    cases h
    exact .inl ⟨hlost, hmore, rfl, rfl⟩
  · have hlast : (isConflict outcome && decide (o.tries < maxAttempts)) = false := by
      simpa using hagain
    simp only [hlast, Bool.false_eq_true, if_false] at h
    cases h
    refine .inr ⟨fun hlost => Nat.le_of_not_lt fun hmore => hagain ⟨hlost, hmore⟩, rfl, rfl⟩

theorem advances_of_next (h : o.next server draw = some (o', server')) :
    Advances draw o server o' server' := by
  have hnext := h
  unfold next at h
  cases hst : o.stage with
  | opened tx =>
    simp only [hst] at h
    cases hneeds : needsCaller o.command with
    | true =>
      simp only [hneeds, if_true, Option.some.injEq, identify] at h
      split at h
      · rename_i caller desk hrun
        cases h
        exact .identified hst hrun
      · rename_i halt desk hrun
        cases h
        exact .unidentified hst hrun
    | false =>
      simp only [hneeds, Bool.false_eq_true, if_false] at h
      rw [Handling.dispatch_of_not_needsCaller _ _ _ default hneeds] at h
      obtain ⟨rfl, rfl⟩ := work_eq_some h
      exact .worked (.inl ⟨hst, hneeds⟩) rfl
  | identified tx caller =>
    simp only [hst] at h
    obtain ⟨rfl, rfl⟩ := work_eq_some h
    exact .worked (.inr ⟨caller, hst, rfl⟩) rfl
  | worked outcome tx effects =>
    simp only [hst, close] at h
    cases outcome with
    | ok reply =>
      simp only at h
      split at h
      · cases h
        exact .committed hst
      · cases h
    | error halt =>
      cases h
      exact .dropped hst
  | closed outcome effects =>
    rcases next_of_closed hst hnext with ⟨hlost, -, rfl, rfl⟩ | ⟨-, rfl, rfl⟩
    · cases outcome with
      | ok reply => cases hlost
      | error halt => exact .again hst
    · exact .answered hst
  | answered outcome effects =>
    simp only [hst] at h
    cases h

/-- The answer to a command is that of its last attempt. -/
theorem answered_of_execution {e : Execution} (he : o.execution? = some e) :
    ∃ outcome effects, o.stage = .answered outcome effects ∧
      e = .ofOutcome o.request { effects with hashed := o.hashed + effects.hashed } outcome := by
  unfold execution? at he
  split at he
  · rename_i outcome effects hst
    exact ⟨outcome, effects, hst, (Option.some.inj he).symm⟩
  · cases he

end OpenCommand

/-! ## All commands on a server -/

/-- What holds at first and is kept by every step holds after all of them. -/
theorem foldlM_induction {S A : Type} {step : S → A → Option S} {P : S → Prop} {steps : List A}
    {s s' : S} (hstart : P s)
    (hstep : ∀ s a s', a ∈ steps → P s → step s a = some s' → P s')
    (h : steps.foldlM step s = some s') : P s' := by
  induction steps generalizing s with
  | nil =>
    cases h
    exact hstart
  | cons a rest ih =>
    rw [List.foldlM_cons] at h
    obtain ⟨s₁, hs, h⟩ := Option.bind_eq_some_iff.1 h
    refine ih (hstep s a s₁ List.mem_cons_self hstart hs) ?_ h
    intro s b s' hb
    exact hstep s b s' (List.mem_cons_of_mem a hb)

/-- The identifiers that were given to accounts, and whether to an administrator. -/
abbrev Registry := AccountId → Option Bool

def Registry.issue (issued : Registry) (account : AccountId) (rights : Option Bool) : Registry :=
  fun id => if id = account then rights.or (issued id) else issued id

structure OpenService where
  server : Service
  commands : Nat → Option OpenCommand
  issued : Registry

/-- What can happen next. -/
inductive ServiceStep where
  | arrive (n : Nat) (r : Request) (c : Command)
  | advance (n : Nat) (account : AccountId) (session : Uuid) (hashing : HashResult)
  | sweep (now : Nat) (inUse : SessionKey → Bool)

namespace OpenService

def put (σ : OpenService) (n : Nat) (o : OpenCommand) : OpenService :=
  { σ with commands := fun m => if m = n then some o else σ.commands m }

def start (idleTimeout : Nat) (attempts : Attempts) (limits : PageLimits) : OpenService :=
  ⟨⟨.empty, .empty idleTimeout, attempts, limits⟩, fun _ => none, fun _ => none⟩

/-- A server whose only account is the first administrator. -/
def bootstrapped (idleTimeout : Nat) (attempts : Attempts) (limits : PageLimits)
    (admin : FirstAdmin) (now : Nat) (account : AccountId) (session : Uuid) : OpenService :=
  let σ := start idleTimeout attempts limits
  let draw := Draw.quiet account session .made
  ⟨(σ.server.bootstrap admin now draw).2.2, σ.commands, σ.issued.issue account (some true)⟩

/-- How a server begins: without accounts, or with its first administrator. -/
inductive Begins : OpenService → Prop where
  | empty (idleTimeout : Nat) (attempts : Attempts) (limits : PageLimits) :
    Begins (start idleTimeout attempts limits)
  | administered (idleTimeout : Nat) (attempts : Attempts) (limits : PageLimits)
    (admin : FirstAdmin) (now : Nat) (account : AccountId) (session : Uuid) :
    Begins (bootstrapped idleTimeout attempts limits admin now account session)

/-- Takes a step, unless it has to wait, there is no such command, or it would give an identifier
twice. -/
def step (σ : OpenService) : ServiceStep → Option OpenService
  | .arrive n r c =>
    match σ.commands n with
    | some _ => none
    | none => some (σ.put n (.arrive r c σ.server))
  | .advance n account session hashing =>
    match σ.commands n with
    | none => none
    | some o =>
      if o.adds?.isSome && (σ.issued account).isSome then none
      else
        match o.next σ.server (.quiet account session hashing) with
        | none => none
        | some (o', server) =>
          let σ : OpenService := ⟨server, σ.commands, σ.issued.issue account o.adds?⟩
          some (σ.put n o')
  | .sweep now inUse =>
    let server := { σ.server with
      sessions := (σ.server.sessions.sweep now inUse).2
      attempts := σ.server.attempts.prune now }
    some { σ with server := server }

def run (σ : OpenService) (schedule : List ServiceStep) : Option OpenService :=
  schedule.foldlM step σ

/-! ## What a step of a schedule can be -/

variable {σ σ' : OpenService} {n : Nat}

@[simp] theorem put_server (σ : OpenService) (n : Nat) (o : OpenCommand) :
    (σ.put n o).server = σ.server := rfl

@[simp] theorem put_issued (σ : OpenService) (n : Nat) (o : OpenCommand) :
    (σ.put n o).issued = σ.issued := rfl

theorem put_commands {o u : OpenCommand} {m : Nat} (h : (σ.put n o).commands m = some u) :
    (m = n ∧ u = o) ∨ (m ≠ n ∧ σ.commands m = some u) := by
  by_cases hm : m = n
  · simp only [put, hm, if_true, Option.some.injEq] at h
    exact .inl ⟨hm, h.symm⟩
  · simp only [put, hm, if_false] at h
    exact .inr ⟨hm, h⟩

theorem step_arrive {r : Request} {c : Command} (h : σ.step (.arrive n r c) = some σ') :
    σ.commands n = none ∧ σ' = σ.put n (.arrive r c σ.server) := by
  simp only [step] at h
  split at h
  · cases h
  · rename_i hn
    exact ⟨hn, (Option.some.inj h).symm⟩

theorem step_advance {account : AccountId} {session : Uuid} {hashing : HashResult}
    (h : σ.step (.advance n account session hashing) = some σ') :
    ∃ o o' server, σ.commands n = some o ∧ (o.adds?.isSome && (σ.issued account).isSome) = false ∧
      o.next σ.server (.quiet account session hashing) = some (o', server) ∧
      σ' = (⟨server, σ.commands, σ.issued.issue account o.adds?⟩ : OpenService).put n o' := by
  simp only [step] at h
  split at h
  · cases h
  · rename_i o hn
    split at h
    · cases h
    · rename_i hfresh
      split at h
      · cases h
      · rename_i o' server hnext
        exact ⟨o, o', server, hn, by simpa using hfresh, hnext, (Option.some.inj h).symm⟩

/-! ## A server to try schedules on -/

def sampleAdmin : AccountId := ⟨⟨1⟩⟩

def sampleKey : SessionKey := ⟨sampleAdmin, ⟨10⟩⟩

def sampleRequest (session : Option SessionKey) : Request := ⟨default, "192.0.2.1", session, 5000⟩

def sample : OpenService :=
  bootstrapped 600000 (.empty 10 60000) ⟨10, 25⟩
    ⟨"root", "root@example.org", "Root", "correct horse"⟩ 0 sampleAdmin default

def sampleLogin : List ServiceStep :=
  [.arrive 0 (sampleRequest none) (.login ⟨"root", "correct horse"⟩),
    .advance 0 default ⟨10⟩ .made, .advance 0 default default .made,
    .advance 0 default default .made]

end OpenService

end AcctAdmin.Server
