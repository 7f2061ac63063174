import AcctAdmin.Client.Error
import AcctAdmin.Url.Reader

/-!
# Channels

A channel takes one HTTP request to its place and brings the reply. Sessions live in a channel,
which keeps the cookies, so that closing it ends the client's side of a session.
-/

set_option autoImplicit false

namespace AcctAdmin.Client

/-- What a channel brings back. -/
structure HttpReply where
  status : Nat
  /-- The whole value of the header, parameters included. -/
  contentType : Option String
  body : ByteArray
deriving Inhabited

/-- Whether a status says that a request went well. -/
def isSuccessStatus (status : Nat) : Bool := 200 ≤ status && status < 300

/-- What becomes of one request: a result, the channel after it and the world after it. -/
abbrev Delivery (World Channel : Type) := Except ChannelError HttpReply × Channel × World

/-- How channels are opened in a world, how requests go through them, and where paths lead. -/
structure Network (World Channel : Type) where
  dial : World → Channel × World
  get : Channel → Url → Duration → World → Delivery World Channel
  post : Channel → Url → (contentType : String) → (body : ByteArray) → Duration → World →
    Delivery World Channel
  close : Channel → World → World
  /-- Where a path leads that is followed from a URL, or why it leads nowhere. -/
  resolve : Url → String → Except String Url := Url.resolve

end AcctAdmin.Client
