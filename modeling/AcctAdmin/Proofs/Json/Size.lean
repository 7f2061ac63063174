import AcctAdmin.Protocol.Codec
import Mathlib.Algebra.Order.BigOperators.Group.List
import Mathlib.Algebra.Order.Ring.Nat
import Mathlib.Data.String.Basic

/-!
# How long a message is

What is written of a value is no shorter than what is written of its parts, and no text is shortened
by being written down.
-/

set_option autoImplicit false

namespace AcctAdmin.Json

theorem length_text_le (s : String) : s.toList.length ≤ (Value.text s).chars.length := by
  have hescaped : ∀ cs : List Char, cs.length ≤ (cs.flatMap escapeChar).length := by
    intro cs
    induction cs with
    | nil => exact Nat.le_refl 0
    | cons c cs ih =>
      have hone : 1 ≤ (escapeChar c).length := by
        unfold escapeChar
        split <;> try split
        all_goals simp
      rw [List.flatMap_cons, List.length_append, List.length_cons]
      omega
  rw [Value.chars, textChars, List.length_append, List.length_cons]
  exact Nat.le_add_right_of_le (Nat.le_add_right_of_le (hescaped s.toList))

theorem length_member_le {name : String} {v : Value} {members : List (String × Value)}
    (h : (name, v) ∈ members) : v.chars.length ≤ (Value.object members).chars.length := by
  have hmembers : v.chars.length ≤ (memberChars members).length := by
    induction members with
    | nil => cases h
    | cons member rest ih =>
      obtain ⟨other, value⟩ := member
      rcases List.mem_cons.1 h with hfirst | hlater
      · cases hfirst
        cases rest <;> simp only [memberChars, List.length_append, List.length_cons] <;> omega
      · cases rest with
        | nil => cases hlater
        | cons next rest =>
          have hrest := ih hlater
          simp only [memberChars, List.length_append, List.length_cons]
          omega
  rw [Value.chars, List.length_append, List.length_cons]
  omega

theorem length_items_le (items : List Value) :
    (items.map (·.chars.length)).sum ≤ (Value.array items).chars.length := by
  have hitems : (items.map (·.chars.length)).sum ≤ (itemChars items).length := by
    induction items with
    | nil => exact Nat.le_refl 0
    | cons item rest ih =>
      cases rest with
      | nil => simp [itemChars]
      | cons next rest =>
        rw [List.map_cons, List.sum_cons, itemChars, List.length_append, List.length_cons]
        omega
  rw [Value.chars, List.length_append, List.length_cons]
  omega

theorem length_le_size_ofList (cs : List Char) : cs.length ≤ (String.ofList cs).toUTF8.size := by
  change cs.length ≤ (String.ofList cs).utf8ByteSize
  rw [String.utf8ByteSize_ofList]
  induction cs with
  | nil => exact Nat.zero_le _
  | cons c cs ih =>
    rw [String.utf8Len_cons, List.length_cons]
    exact Nat.add_le_add ih c.utf8Size_pos

end AcctAdmin.Json

namespace AcctAdmin.Protocol

open AcctAdmin.Json

/-- A message is no shorter than its body. -/
theorem Envelope.length_body_le (e : Envelope) : e.body.chars.length ≤ e.render.toUTF8.size := by
  refine Nat.le_trans ?_ (length_le_size_ofList e.value.chars)
  exact length_member_le (List.mem_append_right _ List.mem_cons_self)

/-- A search for a text is no shorter than the text. -/
theorem length_text_le_size {g : Generation} {q : AccountQuery} {part text : String}
    (hpart : q.text = some part) (h : g.commandText (.searchBegin (.accounts q)) = .ok text) :
    part.toList.length ≤ text.toUTF8.size := by
  unfold Generation.commandText at h
  split at h
  · obtain rfl := Except.ok.inj h
    have hmember : ("query", Value.text part) ∈ [("limit", Value.ofNat q.limit.toNat),
        ("ordering", orderingValue accountColumnWord q.ordering),
        ("query", .ofOption .text q.text), ("time_range", timeRangeValue q.timeRange)] := by
      rw [hpart]
      exact List.mem_cons_of_mem _ (List.mem_cons_of_mem _ List.mem_cons_self)
    have hbody : (Value.text part).chars.length ≤
        (Command.searchBegin (.accounts q)).body.chars.length := length_member_le hmember
    exact (length_text_le part).trans (hbody.trans (Envelope.length_body_le ⟨_, _, _, _⟩))
  · cases h

/-- How much events have to say, all together. -/
def messagesLength (events : List AuditEvent) : Nat :=
  (events.map (·.message.toList.length)).sum

/-- A page of the audit log is no shorter than all that its events say. -/
theorem messagesLength_le_size {g : Generation} {id : RequestId} {page : Page AuditEvent}
    {text : String} (h : g.responseText (.success id (.auditPage page)) = .ok text) :
    messagesLength page.items ≤ text.toUTF8.size := by
  rw [Generation.responseText] at h
  split at h
  · obtain rfl := Except.ok.inj h
    have hevent (e : AuditEvent) : e.message.toList.length ≤ (eventValue e).chars.length := by
      have hmember : ("message", Value.text e.message) ∈ [("id", Value.ofNat e.id.toNat),
          ("kind", .text e.kind), ("message", .text e.message), ("owner", idValue e.owner),
          ("time", .ofNat e.time.toNat)] :=
        List.mem_cons_of_mem _ (List.mem_cons_of_mem _ List.mem_cons_self)
      exact (length_text_le e.message).trans (length_member_le hmember)
    have hitems : (Value.array (page.items.map eventValue)).chars.length ≤
        (Reply.auditPage page).body.chars.length := length_member_le List.mem_cons_self
    calc messagesLength page.items
      _ ≤ (page.items.map fun e => (eventValue e).chars.length).sum :=
          List.sum_le_sum fun e _ => hevent e
      _ = ((page.items.map eventValue).map (·.chars.length)).sum := by rw [List.map_map]; rfl
      _ ≤ (Reply.auditPage page).body.chars.length := (length_items_le _).trans hitems
      _ ≤ _ := Envelope.length_body_le ⟨_, _, _, _⟩
  · cases h

end AcctAdmin.Protocol
