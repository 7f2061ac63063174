import AcctAdmin.Proofs.Command.Effects
import AcctAdmin.Proofs.Command.Interleaving

/-!
# The course of a command

One command, and a server to which anything may happen between its steps. That is more than other
commands can do: every command of every schedule takes a course (`OpenService.course_of_run`). What
happens while a password is hashed may as well happen right before, since until then a command looks
at nothing but its caller's session and its own words. A course remembers what the command did to
the server, step by step.
-/

set_option autoImplicit false

namespace AcctAdmin.Server

open AcctAdmin.Protocol

/-- What happens next in the course of a command: it takes its own next step, or others leave the
server as it then is. -/
inductive CourseStep where
  | own (account : AccountId) (session : Uuid) (hashing : HashResult)
  | others (server : Service)

/-- A step that the command took. -/
structure Deed where
  /-- How far the command had come. -/
  stage : Stage
  before : Service
  after : Service

structure Course where
  command : OpenCommand
  server : Service
  deeds : List Deed

/-- What came of an attempt, if this is the step that ended it. -/
def Deed.attempt? (d : Deed) : Option (Except Halt Reply) :=
  match d.stage with
  | .worked outcome _ _ => some outcome
  | _ => none

namespace Course

def start (r : Request) (c : Command) (server : Service) : Course :=
  ⟨.arrive r c server, server, []⟩

/-- The course after a step of the command. -/
def took (x : Course) (o : OpenCommand) (server : Service) : Course :=
  ⟨o, server, x.deeds ++ [⟨x.command.stage, x.server, server⟩]⟩

def step (x : Course) : CourseStep → Option Course
  | .own account session hashing =>
    match x.command.next x.server (.quiet account session hashing) with
    | none => none
    | some (o, server) => some (x.took o server)
  | .others server => some { x with server := server }

def run (x : Course) (steps : List CourseStep) : Option Course := steps.foldlM step x

/-- What came of the attempts that are over, in order. -/
def attempts (x : Course) : List (Except Halt Reply) := x.deeds.filterMap Deed.attempt?

variable {x x' : Course} {account : AccountId} {session : Uuid} {hashing : HashResult}

theorem step_own (h : x.step (.own account session hashing) = some x') :
    ∃ o server, x.command.next x.server (.quiet account session hashing) = some (o, server) ∧
      x' = x.took o server := by
  simp only [step] at h
  split at h
  · cases h
  · rename_i o server hnext
    exact ⟨o, server, hnext, (Option.some.inj h).symm⟩

theorem step_of_next {o : OpenCommand} {server : Service}
    (h : x.command.next x.server (.quiet account session hashing) = some (o, server)) :
    x.step (.own account session hashing) = some (x.took o server) := by
  simp only [step, h]

theorem run_cons {a : CourseStep} {steps : List CourseStep} (h : x.step a = some x') :
    x.run (a :: steps) = x'.run steps := by
  simp only [run, List.foldlM_cons, h]
  rfl

end Course

/-! ## Schedules are courses -/

namespace OpenService

variable {σ σ' : OpenService} {n : Nat}

/-- What a step of a schedule is to one of the commands. -/
theorem course_of_step {a : ServiceStep} {x : Course} (hn : σ.commands n = some x.command)
    (hserver : x.server = σ.server) (hs : σ.step a = some σ') :
    ∃ b x', x.step b = some x' ∧ σ'.commands n = some x'.command ∧ x'.server = σ'.server := by
  cases a with
  | arrive m r c =>
    obtain ⟨hm, rfl⟩ := step_arrive hs
    have hother : n ≠ m := fun h => by
      rw [← h, hn] at hm
      cases hm
    exact ⟨.others σ.server, _, rfl, (if_neg hother).trans hn, rfl⟩
  | advance m account session hashing =>
    obtain ⟨o, o', server, hm, -, hnext, rfl⟩ := step_advance hs
    by_cases hown : n = m
    · subst hown
      obtain rfl := Option.some.inj (hn.symm.trans hm)
      rw [← hserver] at hnext
      exact ⟨.own account session hashing, _, Course.step_of_next hnext, if_pos rfl, rfl⟩
    · exact ⟨.others server, _, rfl, (if_neg hown).trans hn, rfl⟩
  | sweep now inUse =>
    refine ⟨.others σ'.server, { x with server := σ'.server }, rfl, ?_, rfl⟩
    cases Option.some.inj hs
    exact hn

/-- **Every command of every schedule takes a course**, with all that others do as what happens
between its steps. -/
theorem course_of_run {r : Request} {c : Command} {schedule : List ServiceStep}
    (hrun : σ.run (.arrive n r c :: schedule) = some σ') :
    ∃ steps x, (Course.start r c σ.server).run steps = some x ∧
      σ'.commands n = some x.command ∧ x.server = σ'.server := by
  have hrest : ∀ (σ : OpenService) (x : Course), σ.commands n = some x.command →
      x.server = σ.server → σ.run schedule = some σ' →
      ∃ steps x', x.run steps = some x' ∧ σ'.commands n = some x'.command ∧
        x'.server = σ'.server := by
    clear hrun
    induction schedule with
    | nil =>
      intro σ x hn hserver hrun
      cases hrun
      exact ⟨[], x, rfl, hn, hserver⟩
    | cons a rest ih =>
      intro σ x hn hserver hrun
      simp only [run, List.foldlM_cons] at hrun
      obtain ⟨σ₁, hs, hrun⟩ := Option.bind_eq_some_iff.1 hrun
      obtain ⟨b, x₁, hb, hn₁, hserver₁⟩ := course_of_step hn hserver hs
      obtain ⟨steps, x', hx', hend⟩ := ih σ₁ x₁ hn₁ hserver₁ hrun
      exact ⟨b :: steps, x', (Course.run_cons hb).trans hx', hend⟩
  simp only [run, List.foldlM_cons] at hrun
  obtain ⟨σ₁, hs, hrun⟩ := Option.bind_eq_some_iff.1 hrun
  obtain ⟨-, rfl⟩ := step_arrive hs
  exact hrest (σ.put n (.arrive r c σ.server)) (.start r c σ.server) (if_pos rfl) rfl hrun

end OpenService

end AcctAdmin.Server
