import AcctAdmin.Protocol.Envelope

/-!
# Messages on the wire

Each generation writes and reads messages of its own kinds only. What a message is gets settled
by its word alone: a word that nobody knows, a word of the wrong direction and a word that the
generation does not speak are refused before the body is looked at. The schema is never looked
at.
-/

set_option autoImplicit false

namespace AcctAdmin.Protocol

open AcctAdmin.Text

/-- Which way a message goes. -/
inductive Heading where
  | command | response
deriving DecidableEq, Inhabited

def Heading.text : Heading → String
  | .command => "command"
  | .response => "response"

/-- Why a message cannot be written or read. -/
inductive CodecError where
  | malformed
  | unknownType (word : String)
  | notPermitted (word : String) (generation : Identifier)
  | unexpectedType (expected : Heading) (word : String)
  | missingRequestId (word : String)
  | invalidBody (word : String)
deriving DecidableEq, Inhabited

namespace CodecError

def message : CodecError → String
  | .malformed => "malformed envelope: the text is not an envelope"
  | .unknownType word => "unknown message type " ++ quoted word
  | .notPermitted word generation =>
    "message type " ++ word ++ " is not part of protocol " ++ generation.text
  | .unexpectedType expected word =>
    "expected a " ++ expected.text ++ ", received message type " ++ word
  | .missingRequestId word => "response of type " ++ word ++ " carries no request id"
  | .invalidBody word => "invalid body for message type " ++ word ++ ": not what the type asks for"

/-- The details for whoever has to find out what went wrong. -/
def attributes : CodecError → Attributes
  | .malformed => .empty
  | .unknownType word => .ofList [("received_type", word)]
  | .notPermitted word generation =>
    .ofList [("received_type", word), ("protocol", generation.text)]
  | .unexpectedType expected word =>
    .ofList [("expected_type", expected.text), ("received_type", word)]
  | .missingRequestId word => .ofList [("received_type", word)]
  | .invalidBody word => .ofList [("received_type", word)]

/-- The error of a word that names nothing in the direction expected. -/
def unrecognized (expected : Heading) (word : String) : CodecError :=
  if word = errorWord ∨ (CommandKind.ofWord? word).isSome ∨ (ReplyKind.ofWord? word).isSome then
    .unexpectedType expected word
  else .unknownType word

end CodecError

namespace Generation

/-! ## Commands -/

def commandText (g : Generation) (c : Command) : Except CodecError String :=
  if g.allowsCommand c.kind then
    .ok (Envelope.render ⟨g.schema, c.kind.word, none, c.body⟩)
  else .error (.notPermitted c.kind.word g.identifier)

def readCommand (g : Generation) (bytes : ByteArray) : Except CodecError Command :=
  match Envelope.ofBytes? bytes with
  | none => .error .malformed
  | some e =>
    match CommandKind.ofWord? e.word with
    | none => .error (.unrecognized .command e.word)
    | some kind =>
      if g.allowsCommand kind then
        match Command.ofBody? kind e.body with
        | some c => .ok c
        | none => .error (.invalidBody e.word)
      else .error (.notPermitted e.word g.identifier)

/-! ## Responses -/

def responseText (g : Generation) : Response → Except CodecError String
  | .success id reply =>
    if g.allowsReply reply.kind then
      .ok (Envelope.render ⟨g.schema, reply.kind.word, some id, reply.body⟩)
    else .error (.notPermitted reply.kind.word g.identifier)
  | .refused r => .ok (Envelope.render ⟨g.schema, errorWord, some r.requestId, refusalValue r⟩)

/-- Reads the rest of a response whose word is settled. -/
def readNamedResponse (e : Envelope) (ofBody? : RequestId → Option Response) :
    Except CodecError Response :=
  match e.requestId with
  | none => .error (.missingRequestId e.word)
  | some id =>
    match ofBody? id with
    | some r => .ok r
    | none => .error (.invalidBody e.word)

def readResponse (g : Generation) (bytes : ByteArray) : Except CodecError Response :=
  match Envelope.ofBytes? bytes with
  | none => .error .malformed
  | some e =>
    if e.word = errorWord then
      readNamedResponse e fun id => (readRefusal? id e.body).map .refused
    else
      match ReplyKind.ofWord? e.word with
      | none => .error (.unrecognized .response e.word)
      | some kind =>
        if g.allowsReply kind then
          readNamedResponse e fun id => (Reply.ofBody? kind e.body).map (.success id)
        else .error (.notPermitted e.word g.identifier)

end Generation

end AcctAdmin.Protocol
