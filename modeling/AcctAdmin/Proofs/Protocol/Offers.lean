import AcctAdmin.Client.Link
import AcctAdmin.Proofs.Protocol.Choice
import AcctAdmin.Server.Front

/-!
# Offers

Of the generations that a server offers and a client speaks as well, the client takes the last.
-/

set_option autoImplicit false

namespace AcctAdmin.Client

open AcctAdmin.Protocol AcctAdmin.Server

variable {spoken : List Generation} {g : Generation}

theorem isNamedBy_iff {g' : Generation} (hg : g ∈ generations) (hg' : g' ∈ generations) :
    g.isNamedBy g'.identifier = true ↔ g = g' := by
  have hall : ∀ g ∈ generations, ∀ g' ∈ generations,
      (g.isNamedBy g'.identifier = true ↔ g = g') := by decide
  exact hall g hg g' hg'

/-- The offer of a generation that is spoken is the one that is found, and there is none of any
other. -/
theorem of?_advertisement (hspoken : spoken ⊆ generations) (hg : g ∈ generations) :
    Choice.of? id (advertisementOf spoken).offers g =
      if g ∈ spoken then some ⟨g, g.identifier, g.endpointPath⟩ else none := by
  simp only [Choice.of?, advertisementOf, id]
  split
  · rename_i hmem
    rw [List.find?_map]
    cases hfound : spoken.find? ((fun o : Offer => g.isNamedBy o.supported) ∘ fun g' : Generation =>
        ⟨g'.identifier, g'.endpointPath⟩) with
    | none => simpa [(isNamedBy_iff hg hg).2 rfl] using List.find?_eq_none.1 hfound g hmem
    | some g' =>
      have hnamed := List.find?_some hfound
      obtain rfl := (isNamedBy_iff hg (hspoken (List.mem_of_find?_eq_some hfound))).1 hnamed
      rfl
  · rename_i habsent
    rw [List.find?_eq_none.2]
    · rfl
    · intro o ho hnamed
      obtain ⟨g', hg', rfl⟩ := List.mem_map.1 ho
      obtain rfl := (isNamedBy_iff hg (hspoken hg')).1 hnamed
      exact habsent hg'

/-- The generation that a client takes: the last one that is spoken. -/
def latest (spoken : List Generation) : Generation :=
  if generation11 ∈ spoken then generation11 else generation10

theorem latest_mem (hspoken : spoken ⊆ generations) (hsome : spoken ≠ []) :
    latest spoken ∈ spoken := by
  unfold latest
  split
  · assumption
  · rename_i hlast
    obtain ⟨g, rest, rfl⟩ := List.exists_cons_of_ne_nil hsome
    have hg := hspoken List.mem_cons_self
    rcases List.mem_cons.1 hg with rfl | hg
    · exact List.mem_cons_self
    · rw [List.mem_singleton.1 hg] at hlast
      exact absurd List.mem_cons_self hlast

/-- The last generation has all commands that any has. -/
theorem latest_allows (hspoken : spoken ⊆ generations) (hg : g ∈ spoken) {k : CommandKind}
    (hallows : g.allowsCommand k = true) : (latest spoken).allowsCommand k = true := by
  unfold latest
  split
  · have hmost : ∀ g ∈ generations, g.commands ⊆ generation11.commands := by decide
    exact List.contains_iff_mem.2 (hmost g (hspoken hg) (List.contains_iff_mem.1 hallows))
  · rename_i hlast
    rcases List.mem_cons.1 (hspoken hg) with rfl | hother
    · exact hallows
    · rw [List.mem_singleton.1 hother] at hg
      exact absurd hg hlast

/-- A client takes the last generation that the server speaks. -/
theorem select?_advertisement (hspoken : spoken ⊆ generations) (hsome : spoken ≠ []) :
    select? (advertisementOf spoken).offers standardGenerations =
      some ⟨latest spoken, (latest spoken).identifier, (latest spoken).endpointPath⟩ := by
  have hmem := latest_mem hspoken hsome
  have hfirst := of?_advertisement (g := generation10) hspoken (by decide)
  have hlast := of?_advertisement (g := generation11) hspoken (by decide)
  have hchoices : standardGenerations.filterMap
      (Choice.of? id (advertisementOf spoken).offers) =
        ((Choice.of? id (advertisementOf spoken).offers generation11).toList ++
          (Choice.of? id (advertisementOf spoken).offers generation10).toList) := by
    simp only [standardGenerations, generations, List.reverse_cons, List.reverse_nil,
      List.nil_append, List.cons_append, List.filterMap_cons, List.filterMap_nil]
    cases Choice.of? id (advertisementOf spoken).offers generation11 <;>
      cases Choice.of? id (advertisementOf spoken).offers generation10 <;> rfl
  unfold latest at hmem ⊢
  rw [select?, choose?, hchoices, hfirst, hlast]
  by_cases hnewest : generation11 ∈ spoken
  · rw [if_pos hnewest, if_pos hnewest]
    split
    · decide
    · rfl
  · rw [if_neg hnewest] at hmem
    rw [if_neg hnewest, if_neg hnewest, if_pos hmem]
    rfl

end AcctAdmin.Client
