import Mathlib.Data.List.Basic

/-!
# Lists with keys, and times in order

Accounts, sessions and hosts stand in lists in which no key occurs twice. What is looked up by its
key in such a list is the one entry that has the key, and an entry that is filtered out is not
replaced by another. What happens to sessions and hosts happens at times that do not decrease.
-/

set_option autoImplicit false

namespace AcctAdmin

/-! ## Keys -/

section Keys

variable {α Key : Type} [BEq Key] [LawfulBEq Key] {key : α → Key} {l : List α}

/-- Who is looked up by a key is the one entry that has it. -/
theorem find?_key_eq_some (h : (l.map key).Nodup) {k : Key} {a : α} :
    l.find? (key · == k) = some a ↔ a ∈ l ∧ key a = k := by
  constructor
  · intro hfound
    exact ⟨List.mem_of_find?_eq_some hfound, by simpa using List.find?_some hfound⟩
  · rintro ⟨ha, hk⟩
    induction l with
    | nil => cases ha
    | cons b rest ih =>
      rw [List.map_cons, List.nodup_cons] at h
      rcases List.mem_cons.1 ha with rfl | hrest
      · simp [hk]
      · have hother : key b ≠ k := by
          intro hb
          exact h.1 (List.mem_map.2 ⟨a, hrest, hk.trans hb.symm⟩)
        rw [List.find?_cons_of_neg (by simpa using hother)]
        exact ih h.2 hrest

theorem find?_key_filter (h : (l.map key).Nodup) (p : α → Bool) (k : Key) :
    (l.filter p).find? (key · == k) = (l.find? (key · == k)).filter p := by
  have hkept : ((l.filter p).map key).Nodup := h.sublist (List.filter_sublist.map key)
  ext a
  rw [find?_key_eq_some hkept, Option.filter_eq_some_iff, find?_key_eq_some h, List.mem_filter]
  exact and_right_comm

/-- In a list of pairs the key is the first of the two. -/
theorem lookup_eq_find? {β : Type} (l : List (Key × β)) (k : Key) :
    l.lookup k = (l.find? (·.1 == k)).map (·.2) := by
  induction l with
  | nil => rfl
  | cons e rest ih =>
    rw [List.lookup_cons, List.find?_cons, Bool.beq_comm]
    cases e.1 == k with
    | true => rfl
    | false => exact ih

theorem lookup_cons_eq_ite {β : Type} [DecidableEq Key] {k k' : Key} {b : β}
    {l : List (Key × β)} : ((k', b) :: l).lookup k = if k = k' then some b else l.lookup k := by
  rw [List.lookup_cons]
  split
  · rename_i h
    rw [if_pos (eq_of_beq h)]
  · rename_i h
    rw [if_neg (ne_of_beq_false h)]

end Keys

/-! ## Times -/

/-- Whether times do not decrease, from one time on until another. -/
def Chronological (start : Nat) (times : List Nat) (stop : Nat) : Prop :=
  (start :: times ++ [stop]).Pairwise (· ≤ ·)

namespace Chronological

variable {start stop time : Nat} {times before after : List Nat}

instance : Decidable (Chronological start times stop) :=
  inferInstanceAs (Decidable (List.Pairwise ..))

theorem le (h : Chronological start times stop) : start ≤ stop :=
  (List.pairwise_cons.1 h).1 stop (List.mem_append_right _ List.mem_cons_self)

theorem cons (h : Chronological start (time :: times) stop) :
    start ≤ time ∧ Chronological time times stop := by
  obtain ⟨hfirst, hrest⟩ := List.pairwise_cons.1 h
  exact ⟨hfirst time List.mem_cons_self, hrest⟩

theorem sublist (h : Chronological start before stop) (hsub : after.Sublist before) :
    Chronological start after stop :=
  List.Pairwise.sublist ((hsub.cons_cons start).append_right [stop]) h

theorem split (h : Chronological start (before ++ time :: after) stop) :
    Chronological start before time ∧ Chronological time after stop ∧
      Chronological start (before ++ after) stop := by
  unfold Chronological at *
  exact ⟨h.sublist (by simp), h.sublist (by simp), h.sublist (by simp)⟩

end Chronological

end AcctAdmin
