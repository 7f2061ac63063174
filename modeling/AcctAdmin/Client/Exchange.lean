import AcctAdmin.Client.Error

/-!
# Exchanges

A carrier takes commands to a server and brings its responses. Everything above it works with any
carrier: the ones that can be thought of differ only in what a step of theirs does to the world.
-/

set_option autoImplicit false

namespace AcctAdmin.Client

open AcctAdmin.Protocol

/-- How commands reach a server. A carrier opens lines in a world, and a line carries commands
until it is closed. -/
structure Carrier (World Line : Type) where
  connect : Duration → World → Except Error Line × World
  generation : Line → Generation
  send : Line → Command → Duration → World → Except Error Response × Line × World
  close : Line → World → World

/-- What came of an exchange that went through. -/
inductive Outcome (Payload : Type) where
  | reply (payload : Payload)
  | refused (refusal : Refusal)

/-- What a command is promised. -/
abbrev Answer (c : Command) : Type := c.kind.replyKind.Payload

/-- The error of a reply that is not of the kind that its command is promised. -/
def replyMismatch (c : Command) (id : RequestId) (reply : Reply) : Error :=
  let promised := c.kind.replyKind.word
  let received := reply.kind.word
  .protocol (c.kind.word ++ " answered with " ++ received ++ ", expected " ++ promised)
    (.ofList
      [("expected_type", promised), ("received_type", received), ("request_id", id.text)])

/-- Takes a response for the outcome of its command. -/
def Outcome.ofResponse (c : Command) : Response → Except Error (Outcome (Answer c))
  | .refused refusal => .ok (.refused refusal)
  | .success id answer =>
    match answer.payload? c.kind.replyKind with
    | some payload => .ok (.reply payload)
    | none => .error (replyMismatch c id answer)

def Carrier.exchange {World Line : Type} (carrier : Carrier World Line) (line : Line) (c : Command)
    (timeout : Duration) (w : World) : Except Error (Outcome (Answer c)) × Line × World :=
  match carrier.send line c timeout w with
  | (.error e, line, w) => (.error e, line, w)
  | (.ok response, line, w) => (Outcome.ofResponse c response, line, w)

end AcctAdmin.Client
