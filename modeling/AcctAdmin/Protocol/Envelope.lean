import AcctAdmin.Protocol.Body

/-!
# Envelopes

The outside of every message: the schema, the word for what is inside, the request it answers,
and the body. An envelope is taken in one pass over the text, so its four members may stand
once each; other members are skipped without a second look.
-/

set_option autoImplicit false

namespace AcctAdmin.Protocol

open AcctAdmin.Json

/-- The outside of a message and its body. -/
structure Envelope where
  schema : String
  word : String
  requestId : Option RequestId
  body : Value
deriving Inhabited

namespace Envelope

/-- How deep a body may be nested. The envelope itself is one level more. -/
def bodyDepth : Nat := 126

def readRequestId? (n : Node) : Option RequestId := n.text?.bind fun s =>
  (Uuid.parse? s).map RequestId.mk

def ofNode? (n : Node) : Option Envelope := do
  let r ← n.record? ["schema", "type", "request_id", "body"]
  let schema ← r.required "schema" Node.text?
  let word ← r.required "type" Node.text?
  let requestId ← r.defaulted "request_id" (Node.option? readRequestId?) none
  let body ← r.defaulted "body" (Node.value? bodyDepth) .null
  some ⟨schema, word, requestId, body⟩

def ofBytes? (bytes : ByteArray) : Option Envelope := (Node.ofBytes? bytes).bind ofNode?

/-- The envelope as a JSON value. A command has no request to answer, so the member is left out. -/
def value (e : Envelope) : Value :=
  .object
    ([("schema", .text e.schema), ("type", .text e.word)]
     ++ (match e.requestId with
         | some id => [("request_id", .text id.text)]
         | none => [])
     ++ [("body", e.body)])

def render (e : Envelope) : String := e.value.render

end Envelope

end AcctAdmin.Protocol
