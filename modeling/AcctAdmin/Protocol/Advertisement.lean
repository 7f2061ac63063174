import AcctAdmin.Protocol.Body

/-!
# Advertisements

The document that a server shows at its base: the generations it speaks, and where.
-/

set_option autoImplicit false

namespace AcctAdmin.Protocol

open AcctAdmin.Json

/-- What a server offers, in its order of preference for equal numbers. -/
structure Advertisement where
  offers : List Offer
deriving DecidableEq, Inhabited

namespace Advertisement

/-! ## Writing -/

def identifierValue (i : Identifier) : Value :=
  .object
    [("name", .text i.name),
     ("version_major", .ofNat i.major.toNat),
     ("version_minor", .ofNat i.minor.toNat)]

def offerValue (o : Offer) : Value :=
  .object [("supported", identifierValue o.supported), ("path", .text o.path)]

def value (a : Advertisement) : Value := .object [("protocols", .array (a.offers.map offerValue))]

def render (a : Advertisement) : String := a.value.render

/-! ## Reading -/

def readIdentifier? (n : Node) : Option Identifier := do
  let r ← n.record? ["name", "version_major", "version_minor"]
  let name ← r.required "name" Node.text?
  let major ← r.required "version_major" Node.uint32?
  let minor ← r.required "version_minor" Node.uint32?
  some ⟨name, major, minor⟩

def readOffer? (n : Node) : Option Offer := do
  let r ← n.record? ["supported", "path"]
  let supported ← r.required "supported" readIdentifier?
  let path ← r.required "path" Node.text?
  some ⟨supported, path⟩

def ofNode? (n : Node) : Option Advertisement := do
  let r ← n.record? ["protocols"]
  let offers ← r.required "protocols" (Node.list? readOffer?)
  some ⟨offers⟩

def ofBytes? (bytes : ByteArray) : Option Advertisement := (Node.ofBytes? bytes).bind ofNode?

end Advertisement

end AcctAdmin.Protocol
