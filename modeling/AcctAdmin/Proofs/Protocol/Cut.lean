import AcctAdmin.Proofs.Json.Exactness
import AcctAdmin.Proofs.Protocol.Codec
import AcctAdmin.Proofs.Text.Cut

/-!
# Messages that are cut off

No object is the beginning of another one: its last brace stands at the end. So nothing is read of a
message that was cut off, wherever that was.
-/

set_option autoImplicit false

namespace AcctAdmin.Json

open AcctAdmin.Text

/-! ## Objects -/

/-- An object is read as it is spelled, whatever stands behind it. -/
theorem readNode_object {members : List (Option String × Node)} {cs : List Char}
    (h : Spells (.value (.object members)) cs) {fuel : Nat} (hfuel : cs.length ≤ fuel)
    (rest : List Glyph) : readNode fuel (cs.map some ++ rest) = some (.object members, rest) := by
  cases h with
  | emptyObject hblanks =>
    obtain ⟨fuel, rfl⟩ := Nat.exists_eq_add_of_le' (Nat.zero_lt_of_lt hfuel)
    simpa using readNode_blankObject hblanks fuel rest
  | object hmembers =>
    obtain ⟨fuel, rfl⟩ := Nat.exists_eq_add_of_le' (Nat.zero_lt_of_lt hfuel)
    simp only [List.length_cons, List.length_append] at hfuel
    have hread := reads_of_spells hmembers fuel rest (by omega)
    simp only [List.map_cons, List.map_append, List.map_nil, List.cons_append, List.append_assoc,
      List.nil_append]
    rw [readNode_fullObject (begins_of_spells hmembers _), hread, Option.map_some]

theorem brace_of_object {members : List (Option String × Node)} {cs : List Char}
    (h : Spells (.value (.object members)) cs) : ∃ tail, cs = '\x7b' :: tail := by
  cases h with
  | emptyObject => exact ⟨_, rfl⟩
  | object => exact ⟨_, rfl⟩

theorem object_of_brace {node : Node} {cs : List Char} (h : Spells (.value node) ('\x7b' :: cs)) :
    ∃ members, node = .object members := by
  cases h with
  | number hn =>
    obtain ⟨c, tail, heq, hc⟩ := opens_of_number hn
    cases heq
    exact absurd hc (by decide)
  | emptyObject => exact ⟨_, rfl⟩
  | object => exact ⟨_, rfl⟩

/-- No object is the beginning of another one. -/
theorem eq_nil_of_objects {members members' : List (Option String × Node)} {cs more : List Char}
    (h : Spells (.value (.object members)) cs)
    (hwhole : Spells (.value (.object members')) (cs ++ more)) : more = [] := by
  have hshort : cs.length ≤ (cs ++ more).length := by simp
  have hread := readNode_object hwhole (Nat.le_refl _) []
  rw [List.map_append, List.append_nil, readNode_object h hshort] at hread
  obtain ⟨-, hmore⟩ : members = members' ∧ more = [] := by simpa using hread
  exact hmore

/-- The beginning of an object is no document. -/
theorem not_spells_of_cut {members : List (Option String × Node)} {kept lost : List Char}
    (h : Spells (.value (.object members)) (kept ++ lost)) (hlost : lost ≠ []) (node : Node) :
    ¬ Spells (.padded node) kept := by
  intro hkept
  obtain ⟨whole, hbrace⟩ := brace_of_object h
  cases hkept with
  | @padded _ before used after hbefore hused hafter =>
    obtain ⟨c, tail, rfl, -⟩ := begins_of_spells hused
    cases before with
    | nil =>
      obtain ⟨rfl, -⟩ : c = '\x7b' ∧ _ := by simpa using hbrace
      obtain ⟨members', rfl⟩ := object_of_brace hused
      rw [List.nil_append, List.append_assoc] at h
      exact hlost (List.append_eq_nil_iff.1 (eq_nil_of_objects hused h)).2
    | cons b before =>
      obtain ⟨rfl, -⟩ : b = '\x7b' ∧ _ := by simpa using hbrace
      exact absurd (hbefore '\x7b' List.mem_cons_self) (by decide)

/-- **Nothing is read of an object that was cut off.** -/
theorem Node.ofBytes?_cut {depth : Nat} {members : List (String × Value)}
    (h : (Value.object members).Sound depth) {n : Nat}
    (hn : n < (Value.object members).render.toUTF8.size) :
    Node.ofBytes? ((Value.object members).render.toUTF8.extract 0 n) = none := by
  obtain ⟨kept, lost, behind, hchars, hlost, hstrays, hglyphs⟩ := glyphs_cut _ hn
  rw [Value.render, String.toList_ofList] at hchars
  rw [Node.ofBytes?, hglyphs, Option.eq_none_iff_forall_ne_some]
  intro node hread
  have hspells := spells_chars h
  rw [hchars, Value.node] at hspells
  exact not_spells_of_cut hspells hlost node (spells_of_ofGlyphs? hstrays hread).1

end AcctAdmin.Json

namespace AcctAdmin.Protocol

open AcctAdmin.Json

/-! ## Messages -/

theorem Envelope.ofBytes?_cut {e : Envelope} (h : e.body.Sound bodyDepth) {n : Nat}
    (hn : n < e.render.toUTF8.size) : ofBytes? (e.render.toUTF8.extract 0 n) = none := by
  have hnone : Node.ofBytes? (e.value.render.toUTF8.extract 0 n) = none :=
    Node.ofBytes?_cut (sound_value h) hn
  rw [ofBytes?, render, hnone]
  rfl

/-- No client takes a part of an advertisement for the whole. -/
theorem Advertisement.ofBytes?_cut {a : Advertisement} {n : Nat} (hn : n < a.render.toUTF8.size) :
    ofBytes? (a.render.toUTF8.extract 0 n) = none := by
  have hnone : Node.ofBytes? (a.value.render.toUTF8.extract 0 n) = none :=
    Node.ofBytes?_cut (sound_value a) hn
  rw [ofBytes?, render, hnone]
  rfl

namespace Generation

variable {g : Generation} {text : String} {n : Nat}

/-- **A command that was cut off is malformed.** -/
theorem readCommand_cut {c : Command} (htext : g.commandText c = .ok text)
    (hn : n < text.toUTF8.size) :
    g.readCommand (text.toUTF8.extract 0 n) = .error .malformed := by
  unfold commandText at htext
  split at htext
  · cases htext
    rw [readCommand, Envelope.ofBytes?_cut (fits_commandBody c) hn]
  · cases htext

/-- **A response that was cut off is malformed.** -/
theorem readResponse_cut {response : Response} (htext : g.responseText response = .ok text)
    (hn : n < text.toUTF8.size) :
    g.readResponse (text.toUTF8.extract 0 n) = .error .malformed := by
  unfold responseText at htext
  split at htext
  · split at htext
    · cases htext
      rw [readResponse, Envelope.ofBytes?_cut (fits_replyBody _) hn]
    · cases htext
  · cases htext
    rw [readResponse, Envelope.ofBytes?_cut (fits_refusalValue _) hn]

end Generation

end AcctAdmin.Protocol
