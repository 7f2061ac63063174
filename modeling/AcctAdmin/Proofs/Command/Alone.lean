import AcctAdmin.Proofs.Command.Interleaving
import AcctAdmin.Proofs.Sessions.Lookup

/-!
# A command by itself

A command whose steps are not mixed with those of others goes as `Service.execute` says: it gets the
same answer and leaves the same server. So the schedules are about the same program, and differ from
it in nothing but the order of steps.
-/

set_option autoImplicit false

namespace AcctAdmin.Server

open AcctAdmin.Protocol

namespace Sessions

variable {s : Sessions} {key : SessionKey} {now : Nat} {x : Session}

theorem current_get (h : (s.get key now).1 = some x) : (s.get key now).2.current x = x := by
  unfold get at h ⊢
  cases hfound : s.find? key with
  | none => simp [hfound] at h
  | some y =>
    have hy : y.key = key := by simpa using List.find?_some hfound
    subst hy
    simp only [hfound] at h ⊢
    split at h
    · simp at h
    · rename_i hfresh
      obtain rfl := Option.some.inj h
      have hused : (s.update y.key fun x => { x with lastSeen := now }).find? y.key = _ :=
        find?_update fun _ => rfl
      simp only [hfresh, Bool.false_eq_true, if_false, current, hused, hfound, Option.map_some,
        if_true, Option.getD_some]

end Sessions

namespace OpenCommand

/-- What becomes of a command and the server when nothing else happens. Each attempt has its own
draws, counted from 0. -/
inductive Alone (draws : Nat → Draw) : OpenCommand × Service → OpenCommand × Service → Prop where
  | done (x : OpenCommand × Service) : Alone draws x x
  | step {o : OpenCommand} {server : Service} {x y : OpenCommand × Service}
    (hnext : o.next server (draws (o.tries - 1)) = some x) (rest : Alone draws x y) :
    Alone draws (o, server) y

theorem Alone.trans {draws : Nat → Draw} {x y z : OpenCommand × Service} (h : Alone draws x y)
    (h' : Alone draws y z) : Alone draws x z := by
  induction h with
  | done => exact h'
  | step hnext _ ih => exact .step hnext (ih h')

variable {o : OpenCommand} {server : Service} {draws : Nat → Draw}

/-! ## One attempt -/

theorem work_of_free {done : Except Halt Reply × Desk} (hfree : server.store.writing = false) :
    o.work server done =
      some ({ o with stage := .worked done.1 done.2.tx done.2.effects }, server.adopt done.2) := by
  simp [work, hfree]

theorem work_alone {tx : Transaction} (hfree : server.store.writing = false)
    (hst : o.stage = .opened tx) {done : Except Halt Reply × Desk}
    (hdone : done = server.work tx o.request o.command (draws (o.tries - 1))) :
    ∃ seen, Alone draws (o, server)
      ({ o with stage := .worked done.1 done.2.tx done.2.effects, seen := seen },
        server.adopt done.2) := by
  have hwork : done = (Handling.dispatch server.limits o.request (draws (o.tries - 1))
      o.command).outcome (server.desk tx) := hdone
  cases hneeds : needsCaller o.command with
  | false =>
    refine ⟨o.seen, .step ?_ (.done _)⟩
    simp only [next, hst, hneeds, Bool.false_eq_true, if_false]
    rw [← hwork]
    exact work_of_free hfree
  | true =>
    rw [Handling.dispatch_of_needsCaller _ _ _ hneeds, Handling.outcome_bind] at hwork
    have hnext : o.next server (draws (o.tries - 1)) = some (o.identify server tx) := by
      simp only [next, hst, hneeds, if_true]
    cases hrun : (Handling.identify o.request o.command).outcome (server.desk tx) with
    | mk outcome desk =>
      rw [hrun] at hwork
      cases outcome with
      | error halt =>
        refine ⟨o.seen, .step (x := _) ?_ (.done _)⟩
        rw [hnext, identify, hrun, hwork]
      | ok caller =>
        obtain ⟨hadmitted, hdesk⟩ := Handling.identify_ok hrun
        refine ⟨server.sessions, .step hnext ?_⟩
        rw [identify, hrun]
        refine .step (x := _) ?_ (.done _)
        -- what is worked on next is what finding the caller left
        have hcurrent : (server.adopt desk).sessions.current caller = caller := by
          rw [hdesk]
          exact Sessions.current_get hadmitted.live
        have hsame : (server.adopt desk).desk desk.tx = desk := by
          rw [hdesk]
          rfl
        have hstill : (server.adopt desk).store.writing = false := by
          rw [hdesk]
          exact hfree
        show OpenCommand.work _ _ _ = _
        rw [hcurrent, hsame, hwork]
        exact work_of_free hstill

/-- The writer's place is not taken for anybody else. -/
theorem place_of_work {tx : Transaction} {r : Request} {c : Command} {draw : Draw}
    {done : Except Halt Reply × Desk} (hfree : server.store.writing = false)
    (hquiet : ∀ s, draw.meanwhile s = s) (hdone : done = server.work tx r c draw) :
    done.2.store.writing = true → done.2.tx.writing = true := by
  have hleads : Handling.Leads (Desk.Follows (server.desk tx).tx.table.rows) (server.desk tx)
      (Handling.dispatch server.limits r draw c) := Handling.leads_dispatch _ hquiet c
  rw [hdone]
  refine Desk.Follows.place hleads fun h => ?_
  rw [show (server.desk tx).store.writing = false from hfree] at h
  cases h

/-- An attempt up to the end of its transaction, which leaves the writer's place free. All that is
left to do is to end the sessions that were revoked. -/
theorem attempt_alone (hquiet : ∀ n s, (draws n).meanwhile s = s)
    (hfree : server.store.writing = false) (hst : o.stage = .opened server.store.begin)
    {a : Except Halt Reply × Effects × Service}
    (ha : a = server.attempt o.request o.command (draws (o.tries - 1))) :
    ∃ seen closed, Alone draws (o, server)
        ({ o with stage := .closed a.1 a.2.1, seen := seen }, closed) ∧
      closed.store.writing = false ∧
      a.2.2 = closed.finish a.2.1 a.1 := by
  obtain ⟨done, hdone⟩ : ∃ done,
      done = server.work server.store.begin o.request o.command (draws (o.tries - 1)) := ⟨_, rfl⟩
  obtain ⟨seen, hworked⟩ := work_alone hfree hst hdone
  have hplace := place_of_work hfree (hquiet _) hdone
  obtain rfl : a = (done.1, done.2.effects, server.close done) := by
    rw [ha, Service.attempt, ← hdone]
  rcases done with ⟨outcome, desk⟩
  simp only at hplace
  have hdropped : (desk.store.writing && !desk.tx.writing) = false := by
    cases hs : desk.store.writing with
    | false => rfl
    | true => simp [hplace hs]
  cases outcome with
  | error halt =>
    refine ⟨seen, _, hworked.trans (.step rfl (.done _)), hdropped, rfl⟩
  | ok reply =>
    have hmay : desk.tx.mayCommit desk.store = true := by
      cases hs : desk.store.writing with
      | false => simp [Transaction.mayCommit, hs]
      | true => simp [Transaction.mayCommit, hplace hs]
    refine ⟨seen, _, hworked.trans (.step (if_pos hmay) (.done _)), ?_, rfl⟩
    show (desk.tx.commit desk.store).writing = false
    rw [Transaction.commit_eq]
    exact hdropped

/-! ## All attempts -/

theorem answer_alone (draws : Nat → Draw) (server : Service) {outcome : Except Halt Reply}
    {effects : Effects}
    (hst : o.stage = .closed outcome effects)
    (hlast : (isConflict outcome && decide (o.tries < maxAttempts)) = false) :
    ∃ o', Alone draws (o, server) (o', server.finish effects outcome) ∧
      o'.execution? = some
        (.ofOutcome o.request { effects with hashed := o.hashed + effects.hashed } outcome) := by
  have hnext : o.next server (draws (o.tries - 1)) = some (o.conclude server outcome effects) := by
    simp only [next, hst]
  refine ⟨{ o with stage := .answered outcome effects }, .step hnext ?_, rfl⟩
  simp only [conclude, hlast, Bool.false_eq_true, if_false]
  exact .done _

theorem last_attempt_alone (hquiet : ∀ n s, (draws n).meanwhile s = s)
    (hfree : server.store.writing = false) (hst : o.stage = .opened server.store.begin)
    {a : Except Halt Reply × Effects × Service}
    (ha : a = server.attempt o.request o.command (draws (o.tries - 1)))
    (hlast : (isConflict a.1 && decide (o.tries < maxAttempts)) = false) :
    ∃ o', Alone draws (o, server) (o', a.2.2) ∧
      o'.execution? = some
        (.ofOutcome o.request { a.2.1 with hashed := o.hashed + a.2.1.hashed } a.1) := by
  obtain ⟨seen, closed, hclosed, -, hserver⟩ := attempt_alone hquiet hfree hst ha
  obtain ⟨o', halone, hexecution⟩ := answer_alone draws closed
    (o := { o with stage := .closed a.1 a.2.1, seen := seen }) rfl hlast
  rw [hserver]
  exact ⟨o', hclosed.trans halone, hexecution⟩

/-- All attempts from one on, of which there may be so many more. -/
theorem run_alone (hquiet : ∀ n s, (draws n).meanwhile s = s) (left n : Nat)
    (hleft : left + n + 1 = maxAttempts) (htries : o.tries = n + 1)
    (hfree : server.store.writing = false) (hst : o.stage = .opened server.store.begin)
    {a : Except Halt Reply × Effects × Service}
    (ha : a = Service.run o.request o.command draws left n server) :
    ∃ o', Alone draws (o, server) (o', a.2.2) ∧
      o'.execution? = some
        (.ofOutcome o.request { a.2.1 with hashed := o.hashed + a.2.1.hashed } a.1) := by
  have hdraw : ∀ {o : OpenCommand} {n : Nat}, o.tries = n + 1 → draws (o.tries - 1) = draws n :=
    fun h => by rw [h]; rfl
  -- by induction on the attempts that may follow; those that were begun are counted on
  induction left generalizing n o server a with
  | zero =>
    have hlast : ¬ o.tries < maxAttempts := by omega
    refine last_attempt_alone hquiet hfree hst ?_ (by simp [hlast])
    rw [ha, Service.run, hdraw htries]
  | succ left ih =>
    obtain ⟨first, hfirst⟩ : ∃ first,
        first = server.attempt o.request o.command (draws (o.tries - 1)) := ⟨_, rfl⟩
    rw [Service.run, ← hdraw htries, ← hfirst] at ha
    cases hconflict : isConflict first.1 with
    | false =>
      obtain rfl : a = first := by
        rw [ha]
        simp [hconflict]
      exact last_attempt_alone hquiet hfree hst hfirst (by simp [hconflict])
    | true =>
      obtain ⟨seen, closed, hclosed, hfree', hserver⟩ := attempt_alone hquiet hfree hst hfirst
      have hsame : first.2.2 = closed := by
        rw [hserver]
        cases hout : first.1 with
        | ok reply => simp [hout, isConflict] at hconflict
        | error halt => rfl
      obtain ⟨later, hlater⟩ : ∃ later,
          later = Service.run o.request o.command draws left (n + 1) closed := ⟨_, rfl⟩
      have hboth : a = (later.1, { later.2.1 with
          hashed := first.2.1.hashed + later.2.1.hashed }, later.2.2) := by
        rw [ha]
        simp only [hconflict, if_true, hsame, ← hlater]
      -- the next attempt begins on what this one left
      let lost : OpenCommand := { o with stage := .closed first.1 first.2.1, seen := seen }
      let again := { lost with hashed := o.hashed + first.2.1.hashed }.begin closed.store
      have hbegin : lost.next closed (draws (lost.tries - 1)) = some (again, closed) := by
        have hmore : o.tries < maxAttempts := by omega
        simp [lost, again, next, conclude, hconflict, hmore]
      have htries' : again.tries = n + 1 + 1 := congrArg (· + 1) htries
      obtain ⟨o', halone, hexecution⟩ :=
        ih (o := again) (n + 1) (by omega) htries' hfree' rfl hlater
      refine ⟨o', hclosed.trans (.step hbegin ?_), ?_⟩
      · rw [hboth]
        exact halone
      · rw [hexecution, hboth]
        simp [lost, again, begin, Nat.add_assoc]

end OpenCommand

/-- **A command by itself is executed as the server executes it**: it gets the same answer, and
leaves the same server. -/
theorem execute_alone {server : Service} {draws : Nat → Draw} (r : Request) (c : Command)
    (hquiet : ∀ n s, (draws n).meanwhile s = s) (hfree : server.store.writing = false) :
    ∃ o, OpenCommand.Alone draws (.arrive r c server, server) (o, (server.execute r c draws).2) ∧
      o.execution? = some (server.execute r c draws).1 := by
  obtain ⟨o, halone, hexecution⟩ := OpenCommand.run_alone (o := .arrive r c server) hquiet
    (maxAttempts - 1) 0 rfl rfl hfree rfl rfl
  refine ⟨o, halone, hexecution.trans ?_⟩
  simp [Service.execute, OpenCommand.arrive, OpenCommand.begin]

end AcctAdmin.Server
