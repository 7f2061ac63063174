import AcctAdmin.Proofs.Lists
import AcctAdmin.Server.Sessions

/-!
# What is found of a session

One equation for each operation on sessions: what a key finds afterwards. No key occurs twice, which
every operation keeps.
-/

set_option autoImplicit false

namespace AcctAdmin.Server.Sessions

/-- Whether no two sessions have the same key. -/
def Distinct (s : Sessions) : Prop := (s.live.map (·.key)).Nodup

variable {s : Sessions} {key other : SessionKey} {x : Session} {now : Nat}

theorem key_of_find? (h : s.find? key = some x) : x.key = key := by
  simpa using List.find?_some h

/-! ## Sessions that are taken away -/

theorem Distinct.filtered (h : s.Distinct) (p : Session → Bool) :
    ({ s with live := s.live.filter p } : Sessions).Distinct :=
  h.sublist (List.filter_sublist.map _)

theorem find?_filtered (h : s.Distinct) (p : Session → Bool) :
    ({ s with live := s.live.filter p } : Sessions).find? key = (s.find? key).filter p :=
  find?_key_filter h p key

/-- Where it depends on the key whether a session is taken away. -/
theorem find?_filtered_of_key (h : s.Distinct) {p : Session → Bool} {gone : Prop} [Decidable gone]
    (hp : ∀ x, x.key = key → (p x = true ↔ ¬ gone)) :
    ({ s with live := s.live.filter p } : Sessions).find? key =
      if gone then none else s.find? key := by
  rw [find?_filtered h]
  cases hfound : s.find? key with
  | none => simp
  | some x =>
    have hx := hp x (key_of_find? hfound)
    by_cases hgone : gone
    · simp [Option.filter, hx, hgone]
    · simp [Option.filter, hx, hgone]

theorem find?_remove (h : s.Distinct) :
    (s.remove other).2.find? key = if other = key then none else s.find? key := by
  refine find?_filtered_of_key h fun x hx => ?_
  rw [hx, bne_iff_ne]
  exact not_congr eq_comm

theorem find?_removePrincipal (h : s.Distinct) (principal : AccountId) :
    (s.removePrincipal principal).2.find? key =
      if principal = key.principal then none else s.find? key := by
  refine find?_filtered_of_key h fun x hx => ?_
  rw [hx, bne_iff_ne]
  exact not_congr eq_comm

/-! ## Sessions that are begun -/

theorem Distinct.create (h : s.Distinct) (userName : String) (admin : Bool) :
    (s.create other userName admin now).Distinct := by
  rw [Distinct, Sessions.create, List.map_append, List.nodup_append]
  refine ⟨h.sublist (List.filter_sublist.map _), List.pairwise_singleton .., ?_⟩
  intro k hk k' hk'
  obtain ⟨y, hy, rfl⟩ := List.mem_map.1 hk
  obtain rfl : k' = other := by simpa using hk'
  simpa using (List.mem_filter.1 hy).2

theorem find?_create (h : s.Distinct) (userName : String) (admin : Bool) :
    (s.create other userName admin now).find? key =
      if other = key then some ⟨other, userName, admin, .none, now⟩ else s.find? key := by
  have hothers := @find?_remove s key other h
  simp only [remove, find?] at hothers
  simp only [create, find?, List.find?_append, hothers]
  by_cases hother : other = key
  · simp [hother]
  · simp [hother]

/-! ## Sessions that are used -/

section Update

variable {f : Session → Session}

theorem keys_update (hkey : ∀ x, (f x).key = x.key) :
    (s.update other f).live.map (·.key) = s.live.map (·.key) := by
  rw [update, List.map_map]
  refine List.map_congr_left fun y _ => ?_
  by_cases hy : y.key = other
  · simp [hy, hkey]
  · simp [hy]

theorem Distinct.update (h : s.Distinct) (hkey : ∀ x, (f x).key = x.key) :
    (s.update other f).Distinct := by
  rw [Distinct, keys_update hkey]
  exact h

theorem find?_update (hkey : ∀ x, (f x).key = x.key) :
    (s.update other f).find? key =
      (s.find? key).map fun x => if other = key then f x else x := by
  have hsame : (fun y : Session => (if y.key = other then f y else y).key == key) =
      fun y => y.key == key := by
    funext y
    split
    · rw [hkey]
    · rfl
  simp only [find?, update, List.find?_map, Function.comp_def, hsame]
  refine Option.map_congr fun x hx => ?_
  simp only [key_of_find? hx, eq_comm]

end Update

/-- What a lookup says of a session that is known. -/
def look (timeout : Nat) (known : Option Session) (now : Nat) : Option Session :=
  known.bind fun x => if now - x.lastSeen < timeout then some { x with lastSeen := now } else none

theorem get_eq : (s.get key now).1 = look s.idleTimeout (s.find? key) now := by
  unfold get look
  cases s.find? key with
  | none => rfl
  | some x =>
    by_cases hidle : s.idleTimeout ≤ now - x.lastSeen
    · simp [isIdle, hidle]
    · simp [isIdle, hidle, Nat.lt_of_not_le hidle]

theorem Distinct.get (h : s.Distinct) : (s.get other now).2.Distinct := by
  unfold Sessions.get
  cases s.find? other with
  | none => exact h
  | some x =>
    dsimp only
    split
    · exact h.filtered _
    · exact h.update fun _ => rfl

/-- What a lookup finds is what stays. -/
theorem find?_get (h : s.Distinct) :
    (s.get other now).2.find? key =
      if other = key then (s.get key now).1 else s.find? key := by
  by_cases hother : other = key
  · subst hother
    unfold get
    cases hfound : s.find? other with
    | none => simpa using hfound
    | some x =>
      cases hidle : s.isIdle now x with
      | true => simp [hidle, find?_remove h]
      | false => simp [hidle, find?_update, hfound]
  · unfold get
    cases s.find? other with
    | none => simp [hother]
    | some x =>
      cases hidle : s.isIdle now x with
      | true => simp [hidle, find?_remove h, hother]
      | false => simp [hidle, find?_update, hother]

end AcctAdmin.Server.Sessions
