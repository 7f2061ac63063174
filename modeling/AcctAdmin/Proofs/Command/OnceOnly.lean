import AcctAdmin.Proofs.Command.Course

/-!
# Done once or not at all

A command that is refused has changed nothing that is committed and ended nobody's session but its
caller's. One that succeeds has committed once, in its last attempt, however many it took; the
attempts before lost their races, and left nothing behind. What is done to the log, the mail and the
sessions of others is settled by the command.

`Course.FitsAt` is what is known of a course at each stage of its command.
-/

set_option autoImplicit false

namespace AcctAdmin.Server

open AcctAdmin.Protocol

/-- All of a store but the place of whoever is writing. -/
def Store.committed (s : Store) : Table × Nat × List AuditEvent := (s.table, s.version, s.log)

namespace Deed

/-- A step that leaves alone what is committed, and all sessions but the caller's own and one that
began instead. -/
structure Harmless (own : Option SessionKey) (change : Option SessionChange) (d : Deed) :
    Prop where
  committed : d.after.store.committed = d.before.store.committed
  sessions : d.before.sessions.Spares own change d.after.sessions

/-- A step that commits a transaction, in which a command was carried out and noted. -/
structure Commits (c : Command) (d : Deed) : Prop where
  publishes : ∃ reply tx effects, d.stage = .worked (.ok reply) tx effects ∧
    d.after = { d.before with store := tx.commit d.before.store }
  log : ∃ events, d.after.store.log = d.before.store.log ++ events ∧
    events.map (·.kind) = (auditKind? c).toList

/-- A step that ends the sessions of the account that a command takes away or bans, and does nothing
else. -/
def Revokes (c : Command) (d : Deed) : Prop :=
  d.after = { d.before with sessions := { d.before.sessions with
    live := d.before.sessions.live.filter fun x => revokes? c ≠ some x.key.principal } }

variable {own : Option SessionKey} {change : Option SessionChange} {d : Deed}

theorem Harmless.mono (h : d.Harmless own none) : d.Harmless own change :=
  ⟨h.committed, h.sessions.mono⟩

theorem harmless_of_sessions (hcommitted : d.after.store.committed = d.before.store.committed)
    (hsessions : d.after.sessions = d.before.sessions) : d.Harmless own change := by
  refine ⟨hcommitted, ?_⟩
  rw [hsessions]
  exact .refl own change d.before.sessions

theorem harmless_adopt {stage : Stage} {server : Service} {tx : Transaction} {desk : Desk}
    {rows : List Account} (hfollows : Desk.Follows rows (server.desk tx) desk)
    (hsessions : server.sessions.Spares own change desk.sessions) :
    Harmless own change ⟨stage, server, server.adopt desk⟩ := by
  refine ⟨?_, hsessions⟩
  show desk.store.committed = server.store.committed
  rw [hfollows.store]
  rfl

theorem kind_numberFrom (count : Nat) (notes : List AuditNote) :
    (Transaction.numberFrom count notes).map (·.kind) = notes.map (·.kind) := by
  induction notes generalizing count with
  | nil => rfl
  | cons n rest ih =>
    rw [Transaction.numberFrom, List.map_cons, List.map_cons, ih]
    rfl

theorem commits_of_worked {c : Command} {reply : Reply} {server : Service} {tx : Transaction}
    {effects : Effects} (hnotes : tx.notes.map (·.kind) = (auditKind? c).toList) :
    Commits c ⟨.worked (.ok reply) tx effects, server,
      { server with store := tx.commit server.store }⟩ := by
  refine ⟨⟨reply, tx, effects, rfl, rfl⟩, Transaction.numberFrom server.store.log.length tx.notes,
    ?_, ?_⟩
  · show (tx.commit server.store).log = _
    rw [Transaction.commit_eq]
  · rw [kind_numberFrom]
    exact hnotes

theorem revokes_of_finish {c : Command} (stage : Stage) (server : Service) {effects : Effects}
    (reply : Reply) (hrevoked : effects.revoked = (revokes? c).toList) :
    Revokes c ⟨stage, server, server.finish effects (.ok reply)⟩ := by
  show { server with sessions := server.sessions.revoke effects.revoked } = _
  rw [hrevoked]
  cases hc : revokes? c with
  | none =>
    have hall : server.sessions.live.filter (fun x => none ≠ some x.key.principal) =
        server.sessions.live := List.filter_eq_self.2 (by simp)
    rw [hall]
    rfl
  | some id =>
    have hothers : server.sessions.live.filter (fun x => some id ≠ some x.key.principal) =
        server.sessions.live.filter (·.key.principal != id) :=
      List.filter_congr fun x _ => by simp [eq_comm, bne, Bool.beq_eq_decide_eq]
    rw [hothers]
    rfl

end Deed

namespace Course

/-! ## What was tried -/

/-- An attempt is under way, and all before it lost their races. -/
structure Trying (tries : Nat) (attempts : List (Except Halt Reply)) : Prop where
  lost : ∀ a ∈ attempts, isConflict a = true
  count : tries = attempts.length + 1
  few : tries ≤ maxAttempts

/-- The last of some attempts has come to an outcome, and all before it lost their races. -/
structure Tried (outcome : Except Halt Reply) (tries : Nat) (attempts : List (Except Halt Reply)) :
    Prop where
  last : ∃ lost, attempts = lost ++ [outcome] ∧ ∀ a ∈ lost, isConflict a = true
  count : tries = attempts.length
  few : tries ≤ maxAttempts

section Attempts

variable {tries : Nat} {attempts : List (Except Halt Reply)} {outcome : Except Halt Reply}

theorem Trying.over (h : Trying tries attempts) (outcome : Except Halt Reply) :
    Tried outcome tries (attempts ++ [outcome]) := by
  refine ⟨⟨attempts, rfl, h.lost⟩, ?_, h.few⟩
  rw [List.length_append]
  exact h.count

theorem Tried.all_lost (h : Tried outcome tries attempts) (hlost : isConflict outcome = true) :
    ∀ a ∈ attempts, isConflict a = true := by
  obtain ⟨lost, rfl, hearlier⟩ := h.last
  intro a ha
  rcases List.mem_append.1 ha with ha | ha
  · exact hearlier a ha
  · rw [List.mem_singleton.1 ha]
    exact hlost

/-- After a lost race there is another attempt, as long as there may be one. -/
theorem Tried.again (h : Tried outcome tries attempts) (hlost : isConflict outcome = true)
    (hmore : tries < maxAttempts) : Trying (tries + 1) attempts := by
  refine ⟨h.all_lost hlost, ?_, hmore⟩
  rw [h.count]

end Attempts

/-! ## What was done -/

def Harmless (own : Option SessionKey) (change : Option SessionChange) (x : Course) : Prop :=
  ∀ d ∈ x.deeds, d.Harmless own change

variable {x : Course} {server : Service} {own : Option SessionKey} {change : Option SessionChange}

theorem attempts_took (x : Course) (o : OpenCommand) (server : Service) :
    (x.took o server).attempts =
      x.attempts ++ (Deed.attempt? ⟨x.command.stage, x.server, server⟩).toList := by
  simp only [attempts, took, List.filterMap_append]
  rfl

theorem attempts_took_of_worked (o : OpenCommand) (server : Service)
    {outcome : Except Halt Reply} {tx : Transaction} {effects : Effects}
    (hst : x.command.stage = .worked outcome tx effects) :
    (x.took o server).attempts = x.attempts ++ [outcome] := by
  rw [attempts_took, hst]
  rfl

theorem attempts_took_of_not_worked (o : OpenCommand) (server : Service)
    (hst : ∀ outcome tx effects, x.command.stage ≠ .worked outcome tx effects) :
    (x.took o server).attempts = x.attempts := by
  rw [attempts_took]
  cases hstage : x.command.stage with
  | worked outcome tx effects => exact absurd hstage (hst outcome tx effects)
  | _ => exact List.append_nil _

theorem Harmless.took {o : OpenCommand} (h : x.Harmless own change)
    (hd : Deed.Harmless own change ⟨x.command.stage, x.server, server⟩) :
    (x.took o server).Harmless own change := by
  intro d hmem
  rcases List.mem_append.1 hmem with hold | hnew
  · exact h d hold
  · rw [List.mem_singleton.1 hnew]
    exact hd

theorem Harmless.mono (h : x.Harmless own none) : x.Harmless own change :=
  fun d hd => (h d hd).mono

/-! ## What is known at each stage -/

/-- What a command that was carried out leaves to be done once its transaction has committed. -/
structure Owes (c : Command) (effects : Effects) : Prop where
  mail : effects.mail.map (·.recipient) = (mailTo? c).toList
  revoked : effects.revoked = (revokes? c).toList

/-- All was harmless until a step committed what the command did. -/
def HasCommitted (r : Request) (c : Command) (change : Option SessionChange) (x : Course) : Prop :=
  ∃ earlier commit, x.deeds = earlier ++ [commit] ∧
    (∀ d ∈ earlier, d.Harmless r.session change) ∧ commit.Commits c

/-- All was harmless until a step committed what the command did, and another ended the sessions
that it revokes. -/
def HasConcluded (r : Request) (c : Command) (change : Option SessionChange) (x : Course) : Prop :=
  ∃ earlier commit answer, x.deeds = earlier ++ [commit, answer] ∧
    (∀ d ∈ earlier, d.Harmless r.session change) ∧ commit.Commits c ∧ answer.Revokes c

def FitsAt (r : Request) (c : Command) (x : Course) : Stage → Prop
  | .opened tx => Trying x.command.tries x.attempts ∧ x.Harmless r.session none ∧ tx.notes = []
  | .identified tx caller =>
    Trying x.command.tries x.attempts ∧ x.Harmless r.session none ∧ tx.notes = [] ∧
      r.session = some caller.key
  | .worked (.error halt) _ _ =>
    Trying x.command.tries x.attempts ∧ x.Harmless r.session none ∧ halt.Known
  | .worked (.ok _) tx effects =>
    Trying x.command.tries x.attempts ∧ x.Harmless r.session effects.session ∧ Owes c effects ∧
      tx.notes.map (·.kind) = (auditKind? c).toList
  | .closed (.error halt) _ =>
    Tried (.error halt) x.command.tries x.attempts ∧ x.Harmless r.session none ∧ halt.Known
  | .closed (.ok reply) effects =>
    Tried (.ok reply) x.command.tries x.attempts ∧ x.HasCommitted r c effects.session ∧
      Owes c effects
  | .answered (.error halt) _ =>
    Tried (.error halt) x.command.tries x.attempts ∧ x.Harmless r.session none ∧ halt.Known ∧
      (isConflict (.error halt) = true → maxAttempts ≤ x.command.tries)
  | .answered (.ok reply) effects =>
    Tried (.ok reply) x.command.tries x.attempts ∧ x.HasConcluded r c effects.session ∧
      Owes c effects

structure Fits (r : Request) (c : Command) (x : Course) : Prop where
  request : x.command.request = r
  command : x.command.command = c
  stage : x.FitsAt r c x.command.stage

theorem Fits.of_stage {r : Request} {c : Command} {stage : Stage} (h : x.Fits r c)
    (hst : x.command.stage = stage) : x.FitsAt r c stage := by
  rw [← hst]
  exact h.stage

end Course

/-! ## One step -/

namespace Course

variable {r : Request} {c : Command} {x x' : Course} {o : OpenCommand} {server : Service}
  {draw : Draw}

theorem fits_start (r : Request) (c : Command) (server : Service) : (start r c server).Fits r c :=
  have hfew : 1 ≤ maxAttempts := by decide
  ⟨rfl, rfl, ⟨fun _ h => (nomatch h), rfl, hfew⟩, fun _ h => (nomatch h), rfl⟩

theorem fits_of_identified {tx : Transaction} {caller : Session} {desk : Desk} (h : x.Fits r c)
    (hst : x.command.stage = .opened tx)
    (hrun : (Handling.identify x.command.request x.command.command).outcome (x.server.desk tx) =
      (.ok caller, desk)) :
    (x.took { x.command with stage := .identified desk.tx caller, seen := x.server.sessions }
      (x.server.adopt desk)).Fits r c := by
  obtain ⟨htrying, hharmless, hnotes⟩ := h.of_stage hst
  rw [h.request, h.command] at hrun
  have hreads : Desk.Reads tx.table.rows (x.server.desk tx) desk :=
    (Handling.leads_identify r c).of_outcome hrun
  obtain ⟨hadmitted, hdesk⟩ := Handling.identify_ok hrun
  refine ⟨h.request, h.command, ?_, ?_, ?_, hadmitted.key⟩
  · rw [attempts_took_of_not_worked _ _ (by simp [hst])]
    exact htrying
  · refine hharmless.took (Deed.harmless_adopt hreads.follows ?_)
    rw [hdesk]
    exact Sessions.spares_get hadmitted.key
  · rw [hdesk]
    exact hnotes

theorem fits_of_unidentified {tx : Transaction} {halt : Halt} {desk : Desk} (h : x.Fits r c)
    (hst : x.command.stage = .opened tx)
    (hrun : (Handling.identify x.command.request x.command.command).outcome (x.server.desk tx) =
      (.error halt, desk)) :
    (x.took { x.command with stage := .worked (.error halt) desk.tx desk.effects }
      (x.server.adopt desk)).Fits r c := by
  obtain ⟨htrying, hharmless, -⟩ := h.of_stage hst
  rw [h.request, h.command] at hrun
  have hreads : Desk.Reads tx.table.rows (x.server.desk tx) desk :=
    (Handling.leads_identify r c).of_outcome hrun
  have hstops := (Handling.ends_identify r c).error hrun
  refine ⟨h.request, h.command, ?_, ?_, hstops.known⟩
  · rw [attempts_took_of_not_worked _ _ (by simp [hst])]
    exact htrying
  · exact hharmless.took (Deed.harmless_adopt hreads.follows hstops.sessions)

/-- Before a command is worked on, its attempt has done nothing, and whose session is used is the
caller's. -/
theorem ready_of_fits {tx : Transaction} {caller : Session} (h : x.Fits r c)
    (hst : x.command.stage = .opened tx ∧ needsCaller x.command.command = false ∨
      ∃ found, x.command.stage = .identified tx found ∧
        caller = x.server.sessions.current found) :
    (∀ outcome tx effects, x.command.stage ≠ .worked outcome tx effects) ∧
      Trying x.command.tries x.attempts ∧ x.Harmless r.session none ∧ tx.notes = [] ∧
      (needsCaller c = true → r.session = some caller.key) := by
  rcases hst with ⟨hst, hneeds⟩ | ⟨found, hst, rfl⟩
  · obtain ⟨htrying, hharmless, hnotes⟩ := h.of_stage hst
    rw [h.command] at hneeds
    refine ⟨by simp [hst], htrying, hharmless, hnotes, fun hneeds' => ?_⟩
    rw [hneeds] at hneeds'
    cases hneeds'
  · obtain ⟨htrying, hharmless, hnotes, hkey⟩ := h.of_stage hst
    refine ⟨by simp [hst], htrying, hharmless, hnotes, fun _ => ?_⟩
    rw [Sessions.current_key]
    exact hkey

theorem fits_of_worked {tx : Transaction} {caller : Session} {outcome : Except Halt Reply}
    {desk : Desk} (h : x.Fits r c) (hquiet : ∀ s, draw.meanwhile s = s)
    (hst : x.command.stage = .opened tx ∧ needsCaller x.command.command = false ∨
      ∃ found, x.command.stage = .identified tx found ∧ caller = x.server.sessions.current found)
    (hrun : (Handling.carryOut x.server.limits x.command.request draw caller
      x.command.command).outcome (x.server.desk tx) = (outcome, desk)) :
    (x.took { x.command with stage := .worked outcome desk.tx desk.effects }
      (x.server.adopt desk)).Fits r c := by
  obtain ⟨hworking, htrying, hharmless, hnotes, hcaller⟩ := ready_of_fits h hst
  rw [h.request, h.command] at hrun
  have hfollows := (Handling.leads_carryOut x.server.limits hquiet c).of_outcome hrun
  have hends := Handling.ends_carryOut (d := x.server.desk tx) x.server.limits draw c hcaller
  rw [← attempts_took_of_not_worked
    { x.command with stage := .worked outcome desk.tx desk.effects } (x.server.adopt desk)
    hworking] at htrying
  refine ⟨h.request, h.command, ?_⟩
  cases outcome with
  | error halt =>
    have hstops := hends.error hrun
    refine ⟨htrying, ?_, hstops.known⟩
    exact hharmless.took (Deed.harmless_adopt hfollows hstops.sessions)
  | ok reply =>
    have hleaves := hends.ok hrun
    refine ⟨htrying, ?_, ⟨hleaves.mail, hleaves.revoked⟩, ?_⟩
    · exact hharmless.mono.took (Deed.harmless_adopt hfollows hleaves.sessions)
    · rw [hleaves.notes]
      show tx.notes.map (·.kind) ++ _ = _
      rw [hnotes]
      rfl

theorem fits_of_committed {reply : Reply} {tx : Transaction} {effects : Effects} (h : x.Fits r c)
    (hst : x.command.stage = .worked (.ok reply) tx effects) :
    (x.took { x.command with stage := .closed (.ok reply) effects }
      { x.server with store := tx.commit x.server.store }).Fits r c := by
  obtain ⟨htrying, hharmless, howes, hnotes⟩ := h.of_stage hst
  refine ⟨h.request, h.command, ?_, ⟨x.deeds, _, rfl, hharmless, ?_⟩, howes⟩
  · rw [attempts_took_of_worked _ _ hst]
    exact htrying.over (.ok reply)
  · rw [hst]
    exact Deed.commits_of_worked hnotes

theorem fits_of_dropped {halt : Halt} {tx : Transaction} {effects : Effects} (h : x.Fits r c)
    (hst : x.command.stage = .worked (.error halt) tx effects) :
    (x.took { x.command with stage := .closed (.error halt) effects }
      { x.server with store := tx.drop x.server.store }).Fits r c := by
  obtain ⟨htrying, hharmless, hknown⟩ := h.of_stage hst
  refine ⟨h.request, h.command, ?_, ?_, hknown⟩
  · rw [attempts_took_of_worked _ _ hst]
    exact htrying.over (.error halt)
  · exact hharmless.took (Deed.harmless_of_sessions rfl rfl)

theorem fits_of_closed {outcome : Except Halt Reply} {effects : Effects} (h : x.Fits r c)
    (hst : x.command.stage = .closed outcome effects)
    (hnext : x.command.next x.server draw = some (o, server)) : (x.took o server).Fits r c := by
  have hsame := attempts_took_of_not_worked o server (x := x) (by simp [hst])
  rcases OpenCommand.next_of_closed hst hnext with ⟨hlost, hmore, rfl, rfl⟩ | ⟨hlast, rfl, rfl⟩
  · cases outcome with
    | ok reply => cases hlost
    | error halt =>
      obtain ⟨htried, hharmless, -⟩ := h.of_stage hst
      refine ⟨h.request, h.command, ?_, ?_, rfl⟩
      · rw [hsame]
        exact htried.again hlost hmore
      · exact hharmless.took (Deed.harmless_of_sessions rfl rfl)
  · refine ⟨h.request, h.command, ?_⟩
    cases outcome with
    | error halt =>
      obtain ⟨htried, hharmless, hknown⟩ := h.of_stage hst
      refine ⟨?_, ?_, hknown, hlast⟩
      · rw [hsame]
        exact htried
      · exact hharmless.took (Deed.harmless_of_sessions rfl rfl)
    | ok reply =>
      obtain ⟨htried, ⟨earlier, commit, hdeeds, hearlier, hcommits⟩, howes⟩ := h.of_stage hst
      refine ⟨?_, ⟨earlier, commit, _, ?_, hearlier, hcommits,
        Deed.revokes_of_finish x.command.stage x.server reply howes.revoked⟩, howes⟩
      · rw [hsame]
        exact htried
      · show x.deeds ++ _ = _
        rw [hdeeds, List.append_assoc]
        rfl

/-- **One step keeps what is known**, whoever takes it. -/
theorem fits_step {a : CourseStep} (h : x.Fits r c) (hs : x.step a = some x') : x'.Fits r c := by
  cases a with
  | others server =>
    cases hs
    exact ⟨h.request, h.command, h.stage⟩
  | own account session hashing =>
    obtain ⟨o, server, hnext, rfl⟩ := step_own hs
    cases OpenCommand.advances_of_next hnext with
    | identified hst hrun => exact fits_of_identified h hst hrun
    | unidentified hst hrun => exact fits_of_unidentified h hst hrun
    | worked hst hrun => exact fits_of_worked h (fun _ => rfl) hst hrun
    | committed hst => exact fits_of_committed h hst
    | dropped hst => exact fits_of_dropped h hst
    | again hst => exact fits_of_closed h hst hnext
    | answered hst => exact fits_of_closed h hst hnext

/-! ## Every course -/

variable {steps : List CourseStep} {e : Execution}

theorem fits_run (hrun : (start r c server).run steps = some x) : x.Fits r c :=
  foldlM_induction (fits_start r c server) (fun _ _ _ _ h hs => fits_step h hs) hrun

theorem refused_of_fits {refusal : Refusal} (h : x.Fits r c) (he : x.command.execution? = some e)
    (hresponse : e.response = .refused refusal) :
    (∃ halt, Tried (.error halt) x.command.tries x.attempts) ∧ x.Harmless r.session none ∧
      e.mail = [] ∧
      (refusal.code.text = "40001" →
        x.attempts.length = 3 ∧ ∀ a ∈ x.attempts, isConflict a = true) := by
  obtain ⟨outcome, effects, hst, rfl⟩ := OpenCommand.answered_of_execution he
  cases outcome with
  | ok reply => cases hresponse
  | error halt =>
    obtain ⟨htried, hharmless, hknown, hlast⟩ := h.of_stage hst
    refine ⟨⟨halt, htried⟩, hharmless, rfl, fun hcode => ?_⟩
    cases hresponse
    have hlost := isConflict_of_code hknown hcode
    have hthree : x.command.tries = 3 := Nat.le_antisymm htried.few (hlast hlost)
    rw [← htried.count]
    exact ⟨hthree, htried.all_lost hlost⟩

theorem succeeded_of_fits {id : RequestId} {reply : Reply} (h : x.Fits r c)
    (he : x.command.execution? = some e) (hresponse : e.response = .success id reply) :
    Tried (.ok reply) x.command.tries x.attempts ∧ x.HasConcluded r c e.session ∧
      e.mail.map (·.recipient) = (mailTo? c).toList := by
  obtain ⟨outcome, effects, hst, rfl⟩ := OpenCommand.answered_of_execution he
  cases outcome with
  | error halt => cases hresponse
  | ok reply =>
    cases hresponse
    obtain ⟨htried, hconcluded, howes⟩ := h.of_stage hst
    exact ⟨htried, hconcluded, howes.mail⟩

/-- **Done once or not at all**, whatever others do to the server meanwhile. A refused command has
had no attempt that ended well, and has left what is committed, everybody's mail and the sessions of
others alone; it is told of a lost race only after it has lost three. A successful one has committed
in its last attempt and only there, with as much to note, to send and to revoke as belongs to the
command. -/
theorem done_once_or_not_at_all (hrun : (start r c server).run steps = some x)
    (he : x.command.execution? = some e) :
    (∀ refusal, e.response = .refused refusal →
      (∃ halt, Tried (.error halt) x.command.tries x.attempts) ∧ x.Harmless r.session none ∧
        e.mail = [] ∧
        (refusal.code.text = "40001" →
          x.attempts.length = 3 ∧ ∀ a ∈ x.attempts, isConflict a = true)) ∧
    (∀ id reply, e.response = .success id reply →
      Tried (.ok reply) x.command.tries x.attempts ∧ x.HasConcluded r c e.session ∧
        e.mail.map (·.recipient) = (mailTo? c).toList) := by
  have h := fits_run hrun
  exact ⟨fun _ hresponse => refused_of_fits h he hresponse,
    fun _ _ hresponse => succeeded_of_fits h he hresponse⟩

/-! ## A race -/

/-- A server whose first administrator has logged in. -/
def administered : Service :=
  ((OpenService.sample.run OpenService.sampleLogin).getD OpenService.sample).server

def administratorAsks : Request := OpenService.sampleRequest (some OpenService.sampleKey)

def createUser (name : String) : Command :=
  .userCreate ⟨name, name ++ "@example.org", "A. N. Other", "lovelace1815", false⟩

/-- The same server after somebody else has created an account. -/
def overtaken : Service :=
  (administered.execute administratorAsks (createUser "ada") fun _ =>
    .quiet ⟨⟨2⟩⟩ default .made).2

/-- An account is created while another is about to be. -/
def overtaking : List CourseStep :=
  let own : CourseStep := .own ⟨⟨3⟩⟩ default .made
  [own, .others overtaken, own, own, own, own, own, own, own]

theorem second_attempt_succeeds :
    ∃ x e, (start administratorAsks (createUser "grace") administered).run overtaking = some x ∧
      x.command.execution? = some e ∧ e.response = .success default (.userCreated ⟨⟨3⟩⟩) ∧
      x.attempts.length = 2 ∧
      x.server.store.log.map (·.kind) = ["USER_CREATED", "LOGIN", "USER_CREATED", "USER_CREATED"] ∧
      x.HasConcluded administratorAsks (createUser "grace") e.session ∧
      e.mail.map (·.recipient) = ["grace@example.org"] := by
  have hrun : ∃ x e,
      (start administratorAsks (createUser "grace") administered).run overtaking = some x ∧
      x.command.execution? = some e ∧ e.response = .success default (.userCreated ⟨⟨3⟩⟩) ∧
      x.attempts.length = 2 ∧ x.server.store.log.map (·.kind) =
        ["USER_CREATED", "LOGIN", "USER_CREATED", "USER_CREATED"] :=
    ⟨_, _, rfl, rfl, rfl, rfl, rfl⟩
  obtain ⟨x, e, hx, he, hresponse, htwo, hlog⟩ := hrun
  obtain ⟨-, hconcluded, hmail⟩ := (done_once_or_not_at_all hx he).2 _ _ hresponse
  exact ⟨x, e, hx, he, hresponse, htwo, hlog, hconcluded, hmail⟩

end Course

end AcctAdmin.Server
