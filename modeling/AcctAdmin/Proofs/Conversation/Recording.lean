import AcctAdmin.Client.Conversation

/-!
# What is sent

A carrier can be watched: `Carrier.recorded` is any carrier in a world that has, beside what it had,
a list of all that was sent and of what came back. Nothing else about it differs, so a property of
the list is one of the carrier itself. A carrier may do anything at all, so whatever is shown of
every carrier is shown of every behaviour of a server and of the way there.
-/

set_option autoImplicit false

namespace AcctAdmin.Client

open AcctAdmin.Protocol

variable {World Line : Type}

/-- A command that was sent. -/
structure Sending (Line : Type) where
  command : Command
  timeout : Duration
  result : Except Error Response
  /-- The line as it was left. -/
  line : Line

namespace Sending

/-- The server refused the command. -/
def Refused (x : Sending Line) : Prop := ∃ r, x.result = .ok (.refused r)

/-- The server refused the command because it does not know who is asking. -/
def Unauthenticated (x : Sending Line) : Prop :=
  ∃ r, x.result = .ok (.refused r) ∧ r.code = .authentication

end Sending

/-- The same carrier, with everything written down that is sent. -/
def Carrier.recorded (carrier : Carrier World Line) :
    Carrier (World × List (Sending Line)) Line where
  connect timeout w :=
    let (opened, world) := carrier.connect timeout w.1
    (opened, world, w.2)
  generation := carrier.generation
  send line c timeout w :=
    let (result, line, world) := carrier.send line c timeout w.1
    (result, line, world, w.2 ++ [⟨c, timeout, result, line⟩])
  close line w := (carrier.close line w.1, w.2)

/-- What the outcome of an exchange is to whoever asked for it. -/
def Outcome.toAnswer {Payload : Type} : Except Error (Outcome Payload) → Except Error Payload
  | .ok (.reply payload) => .ok payload
  | .ok (.refused r) => .error (.refused r)
  | .error e => .error e

/-- What a command comes to when it has brought this back: the typed reply, the refusal, or what
went wrong. -/
def answerTo (c : Command) (result : Except Error Response) : Except Error (Answer c) :=
  Outcome.toAnswer (result.bind (Outcome.ofResponse c))

/-! ## Exchanges -/

variable {carrier : Carrier World Line} {line line' : Line} {c : Command} {timeout : Duration}
  {w w' : World} {result : Except Error Response}

theorem exchange_of_send (h : carrier.send line c timeout w = (result, line', w')) :
    carrier.exchange line c timeout w = (result.bind (Outcome.ofResponse c), line', w') := by
  unfold Carrier.exchange
  rw [h]
  cases result with
  | error e => rfl
  | ok response => rfl

theorem recorded_send (log : List (Sending Line))
    (h : carrier.send line c timeout w = (result, line', w')) :
    carrier.recorded.send line c timeout (w, log) =
      (result, line', w', log ++ [⟨c, timeout, result, line'⟩]) := by
  simp only [Carrier.recorded, h]

/-- An outcome that is a refusal is the server's. -/
theorem bind_ofResponse_eq_refused {r : Refusal} :
    result.bind (Outcome.ofResponse c) = .ok (.refused r) ↔ result = .ok (.refused r) := by
  cases result with
  | error e => simp [Except.bind]
  | ok response =>
    cases response with
    | refused refusal => simp [Except.bind, Outcome.ofResponse]
    | success id reply =>
      have hnot : Outcome.ofResponse c (.success id reply) ≠ .ok (.refused r) := by
        simp only [Outcome.ofResponse]
        split <;> simp
      simp [Except.bind, hnot]

end AcctAdmin.Client
