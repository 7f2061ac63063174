import AcctAdmin.Protocol.Generation

/-!
# Choosing a generation

Of the generations that both sides speak the one with the greatest number is chosen. Between equal
numbers the client's order decides, and between two offers of one generation the server's.
-/

set_option autoImplicit false

namespace AcctAdmin.Client

open AcctAdmin.Protocol

/-- An entry of a client's list, and the offer that is taken for it. -/
structure Choice (Entry : Type) where
  entry : Entry
  offer : Offer
deriving DecidableEq, Inhabited

section

variable {Entry : Type} (generation : Entry → Generation)

/-- The first offer of an entry's generation. -/
def Choice.of? (offers : List Offer) (entry : Entry) : Option (Choice Entry) :=
  (offers.find? fun o => (generation entry).isNamedBy o.supported).map (⟨entry, ·⟩)

/-- The better of two choices, which is the first unless the second has a greater number. -/
def Choice.better : Option (Choice Entry) → Choice Entry → Option (Choice Entry)
  | none, c => some c
  | some best, c => some (if best.offer.supported.precedes c.offer.supported then c else best)

/-- The choice among what a server offers and what a client has on its list, each entry of which
speaks one generation. -/
def choose? (offers : List Offer) (supported : List Entry) : Option (Choice Entry) :=
  (supported.filterMap (Choice.of? generation offers)).foldl Choice.better none

end

/-- A generation that the client speaks, and the offer of it that it takes. -/
abbrev Selection := Choice Generation

def Choice.generation (s : Selection) : Generation := s.entry

/-- The choice among what a server offers and the generations that a client speaks. -/
def select? (offers : List Offer) (spoken : List Generation) : Option Selection :=
  choose? id offers spoken

end AcctAdmin.Client
