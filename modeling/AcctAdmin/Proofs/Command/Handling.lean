import AcctAdmin.Server.Execution

/-!
# Reasoning about handling

How a step of a command ends, and three ways to reason about it. A step that succeeded is taken
apart into the steps it is made of (`outcome_bind_eq_ok` and its kin), each of which succeeded.
Where success and stopping short come to different things, a step is followed from its beginning to
both (`Ends`). What holds of a step however it ends, such as that it leaves the committed accounts
alone, is put together from the same property of its parts (`Leads`).
-/

set_option autoImplicit false

namespace AcctAdmin.Server

open AcctAdmin.Protocol

namespace Handling

/-- How a step ends, and what it leaves. -/
def outcome {α : Type} (m : Handling α) (d : Desk) : Except Halt α × Desk := m.run d

variable {α β : Type} {m : Handling α} {f : α → Handling β} {d d' : Desk}

/-! ## Ends -/

theorem outcome_bind (m : Handling α) (f : α → Handling β) (d : Desk) :
    (m >>= f).outcome d =
      match m.outcome d with
      | (.ok a, d') => (f a).outcome d'
      | (.error h, d') => (.error h, d') := by
  have hcont : (m >>= f).outcome d = ExceptT.bindCont f (m.outcome d).1 (m.outcome d).2 := rfl
  rw [hcont]
  rcases m.outcome d with ⟨r, d'⟩
  cases r <;> rfl

theorem outcome_map (g : α → β) (m : Handling α) (d : Desk) :
    (g <$> m).outcome d = ((m.outcome d).1.map g, (m.outcome d).2) := by
  rw [map_eq_pure_bind, outcome_bind]
  rcases m.outcome d with ⟨r, d'⟩
  cases r <;> rfl

@[simp] theorem outcome_pure (a : α) (d : Desk) :
    (pure a : Handling α).outcome d = (.ok a, d) := rfl

@[simp] theorem outcome_refuse (x : Fault) (d : Desk) :
    (refuse x : Handling α).outcome d = (.error (.fault x), d) := rfl

@[simp] theorem outcome_refuse_bind (x : Fault) (d : Desk) :
    (refuse x >>= f).outcome d = (.error (.fault x), d) := by
  rw [outcome_bind, outcome_refuse]

@[simp] theorem outcome_get_bind {f : Desk → Handling β} (d : Desk) :
    (get >>= f).outcome d = (f d).outcome d := by
  rw [outcome_bind]
  rfl

@[simp] theorem outcome_set_bind {f : PUnit → Handling β} (new d : Desk) :
    (set new >>= f).outcome d = (f ⟨⟩).outcome new := by
  rw [outcome_bind]
  rfl

@[simp] theorem outcome_modify (g : Desk → Desk) (d : Desk) :
    (modify g : Handling PUnit).outcome d = (.ok ⟨⟩, g d) := rfl

theorem outcome_bind_admin {f : AccountId → Handling β} {caller : Session}
    (h : caller.admin = false) (d : Desk) :
    (admin caller >>= f).outcome d =
      (.error (.fault (.security "this command requires an administrator")), d) := by
  rw [outcome_bind, admin, h]
  rfl

/-! ## Steps that succeeded -/

theorem outcome_bind_eq_ok {b : β} :
    (m >>= f).outcome d = (.ok b, d') ↔
      ∃ a d₁, m.outcome d = (.ok a, d₁) ∧ (f a).outcome d₁ = (.ok b, d') := by
  rw [outcome_bind]
  rcases m.outcome d with ⟨r, d₁⟩
  cases r with
  | error halt => simp
  | ok a =>
    constructor
    · intro h
      exact ⟨a, d₁, rfl, h⟩
    · rintro ⟨_, _, hm, h⟩
      cases hm
      exact h

theorem outcome_map_eq_ok {g : α → β} {b : β} :
    (g <$> m).outcome d = (.ok b, d') ↔ ∃ a, m.outcome d = (.ok a, d') ∧ g a = b := by
  rw [outcome_map]
  rcases m.outcome d with ⟨r, d₁⟩
  cases r with
  | error halt => simp [Except.map]
  | ok a =>
    constructor
    · intro h
      obtain ⟨hb, rfl⟩ := Prod.mk.inj h
      exact ⟨a, rfl, Except.ok.inj hb⟩
    · rintro ⟨_, hm, rfl⟩
      cases hm
      rfl

theorem outcome_pure_eq_ok {a b : α} :
    (pure a : Handling α).outcome d = (.ok b, d') ↔ a = b ∧ d = d' := by
  simp

theorem outcome_modify_eq_ok {g : Desk → Desk} {u : PUnit} :
    (modify g : Handling PUnit).outcome d = (.ok u, d') ↔ g d = d' := by
  simp

theorem outcome_ofStorage_eq_ok {x : Except StorageError α} {a : α} :
    (ofStorage x).outcome d = (.ok a, d') ↔ x = .ok a ∧ d = d' := by
  cases x with
  | error e => simp [ofStorage]
  | ok a => simp [ofStorage]

theorem outcome_write_eq_ok {w : Transaction → Store → Except StorageError (Transaction × Store)}
    {u : Unit} :
    (write w).outcome d = (.ok u, d') ↔
      ∃ tx s, w d.tx d.store = .ok (tx, s) ∧ { d with tx := tx, store := s } = d' := by
  unfold write
  rw [outcome_get_bind, outcome_bind_eq_ok]
  constructor
  · rintro ⟨⟨tx, s⟩, d₁, hw, hset⟩
    obtain ⟨hok, rfl⟩ := outcome_ofStorage_eq_ok.1 hw
    exact ⟨tx, s, hok, (Prod.mk.inj hset).2⟩
  · rintro ⟨tx, s, hw, rfl⟩
    exact ⟨(tx, s), d, outcome_ofStorage_eq_ok.2 ⟨hw, rfl⟩, rfl⟩

theorem outcome_admin_eq_ok {caller : Session} {actor : AccountId} :
    (admin caller).outcome d = (.ok actor, d') ↔
      caller.admin = true ∧ caller.key.principal = actor ∧ d = d' := by
  unfold admin
  cases caller.admin <;> simp

theorem outcome_forbid_eq_ok {p : Prop} [Decidable p] {x : Fault} {u : Unit} :
    (forbid p x).outcome d = (.ok u, d') ↔ ¬p ∧ d = d' := by
  unfold forbid
  split <;> simp [*]

theorem outcome_objectTo_eq_ok {x : Option Fault} {u : Unit} :
    (objectTo x).outcome d = (.ok u, d') ↔ x = none ∧ d = d' := by
  cases x <;> simp [objectTo]

theorem outcome_expect_eq_ok {x : Fault} {o : Option α} {a : α} :
    (expect x o).outcome d = (.ok a, d') ↔ o = some a ∧ d = d' := by
  cases o <;> simp [expect]

theorem outcome_existing_eq_ok {id : AccountId} {account : Account} :
    (existing id).outcome d = (.ok account, d') ↔ d.tx.account? id = some account ∧ d = d' := by
  unfold existing
  rw [outcome_get_bind, outcome_expect_eq_ok]

theorem outcome_remove_eq_ok {id : AccountId} {removed : Option Account} :
    (remove id).outcome d = (.ok removed, d') ↔
      ∃ tx s, d.tx.delete d.store id = .ok (removed, tx, s) ∧
        { d with tx := tx, store := s } = d' := by
  unfold remove
  rw [outcome_get_bind, outcome_bind_eq_ok]
  constructor
  · rintro ⟨⟨found, tx, s⟩, d₁, hdelete, hset⟩
    obtain ⟨hok, rfl⟩ := outcome_ofStorage_eq_ok.1 hdelete
    rw [outcome_set_bind, outcome_pure] at hset
    obtain ⟨hfound, rfl⟩ := Prod.mk.inj hset
    exact ⟨tx, s, Except.ok.inj hfound ▸ hok, rfl⟩
  · rintro ⟨tx, s, hdelete, rfl⟩
    exact ⟨(removed, tx, s), d, outcome_ofStorage_eq_ok.2 ⟨hdelete, rfl⟩, rfl⟩

/-- A password that was hashed. Only the store may have changed meanwhile. -/
theorem outcome_hash_eq_ok {draw : Draw} {password : String} {credential : Credential} :
    (hash draw password).outcome d = (.ok credential, d') ↔
      draw.hashing = .made ∧ credential = .ofPassword password ∧
        { d with
          store := draw.meanwhile d.store
          effects := { d.effects with hashed := d.effects.hashed + 1 } } = d' := by
  unfold hash
  rw [outcome_bind, outcome_modify]
  cases draw.hashing with
  | made => simp [eq_comm]
  | failed reason => simp
  | panicked payload =>
    simp only [reduceCtorEq, false_and, iff_false]
    exact fun h => absurd (Prod.mk.inj h).1 (by simp)

/-! ## Both ends -/

/-- A step that succeeds comes to `Q`, and one that stops short to `E`. -/
structure Ends (Q : α → Desk → Prop) (E : Halt → Desk → Prop) (d : Desk) (m : Handling α) :
    Prop where
  ok : ∀ {a d'}, m.outcome d = (.ok a, d') → Q a d'
  error : ∀ {halt d'}, m.outcome d = (.error halt, d') → E halt d'

section Ends

variable {Q : α → Desk → Prop} {E : Halt → Desk → Prop}

theorem ends_of_ok {a : α} (hm : m.outcome d = (.ok a, d')) (h : Q a d') : Ends Q E d m where
  ok h' := by
    rw [hm] at h'
    cases h'
    exact h
  error h' := by
    rw [hm] at h'
    cases h'

theorem ends_of_error {halt : Halt} (hm : m.outcome d = (.error halt, d')) (h : E halt d') :
    Ends Q E d m where
  ok h' := by
    rw [hm] at h'
    cases h'
  error h' := by
    rw [hm] at h'
    cases h'
    exact h

theorem Ends.imp {P : α → Desk → Prop} (h : Ends P E d m) (himp : ∀ a d', P a d' → Q a d') :
    Ends Q E d m :=
  ⟨fun hm => himp _ _ (h.ok hm), h.error⟩

theorem ends_bind {Q : β → Desk → Prop} (h : Ends (fun a d' => Ends Q E d' (f a)) E d m) :
    Ends Q E d (m >>= f) := by
  cases hrun : m.outcome d with
  | mk r d₁ =>
    have hbind := outcome_bind m f d
    rw [hrun] at hbind
    cases r with
    | error halt => exact ends_of_error hbind (h.error hrun)
    | ok a =>
      have hrest := h.ok hrun
      exact ⟨fun hm => hrest.ok (hbind.symm.trans hm), fun hm => hrest.error (hbind.symm.trans hm)⟩

theorem ends_map {Q : β → Desk → Prop} {g : α → β} (h : Ends (fun a => Q (g a)) E d m) :
    Ends Q E d (g <$> m) := by
  cases hrun : m.outcome d with
  | mk r d₁ =>
    have hmap := outcome_map g m d
    rw [hrun] at hmap
    cases r with
    | error halt => exact ends_of_error hmap (h.error hrun)
    | ok a => exact ends_of_ok hmap (h.ok hrun)

theorem ends_pure {a : α} (h : Q a d) : Ends Q E d (pure a : Handling α) := ends_of_ok rfl h

theorem ends_refuse {x : Fault} (h : E (.fault x) d) : Ends Q E d (refuse x : Handling α) :=
  ends_of_error rfl h

theorem ends_modify {Q : PUnit → Desk → Prop} {g : Desk → Desk} (h : Q ⟨⟩ (g d)) :
    Ends Q E d (modify g : Handling PUnit) := ends_of_ok rfl h

theorem ends_get_bind {Q : β → Desk → Prop} {f : Desk → Handling β} (h : Ends Q E d (f d)) :
    Ends Q E d (get >>= f) := ends_bind (ends_of_ok rfl h)

theorem ends_set_bind {Q : β → Desk → Prop} {new : Desk} {f : PUnit → Handling β}
    (h : Ends Q E new (f ⟨⟩)) : Ends Q E d (set new >>= f) := ends_bind (ends_of_ok rfl h)

theorem ends_ofStorage {x : Except StorageError α} (hok : ∀ a, x = .ok a → Q a d)
    (herror : ∀ e, x = .error e → E (.fault (.storage e)) d) : Ends Q E d (ofStorage x) := by
  cases x with
  | error e => exact ends_refuse (herror e rfl)
  | ok a => exact ends_pure (hok a rfl)

theorem ends_forbid {Q : Unit → Desk → Prop} {p : Prop} [Decidable p] {x : Fault}
    (hok : ¬p → Q () d) (herror : p → E (.fault x) d) : Ends Q E d (forbid p x) := by
  unfold forbid
  by_cases h : p
  · rw [if_pos h]
    exact ends_refuse (herror h)
  · rw [if_neg h]
    exact ends_pure (hok h)

theorem ends_objectTo {Q : Unit → Desk → Prop} {x : Option Fault} (hok : x = none → Q () d)
    (herror : ∀ fault, x = some fault → E (.fault fault) d) : Ends Q E d (objectTo x) := by
  cases x with
  | none => exact ends_pure (hok rfl)
  | some fault => exact ends_refuse (herror fault rfl)

theorem ends_expect {x : Fault} {o : Option α} (hok : ∀ a, o = some a → Q a d)
    (herror : o = none → E (.fault x) d) : Ends Q E d (expect x o) := by
  cases o with
  | none => exact ends_refuse (herror rfl)
  | some a => exact ends_pure (hok a rfl)

theorem ends_existing {Q : Account → Desk → Prop} {id : AccountId}
    (hok : ∀ account, d.tx.account? id = some account → Q account d)
    (herror : E (.fault (noSuchUser id)) d) : Ends Q E d (existing id) :=
  ends_get_bind (ends_expect hok fun _ => herror)

theorem ends_admin {Q : AccountId → Desk → Prop} {caller : Session}
    (hok : Q caller.key.principal d) (herror : ∀ message, E (.fault (.security message)) d) :
    Ends Q E d (admin caller) := by
  unfold admin
  split
  · exact ends_pure hok
  · exact ends_refuse (herror _)

theorem ends_write {Q : Unit → Desk → Prop}
    {w : Transaction → Store → Except StorageError (Transaction × Store)}
    (hok : ∀ tx s, w d.tx d.store = .ok (tx, s) → Q () { d with tx := tx, store := s })
    (herror : ∀ e, w d.tx d.store = .error e → E (.fault (.storage e)) d) :
    Ends Q E d (write w) := by
  refine ends_get_bind (ends_bind (ends_ofStorage (fun a h => ?_) herror))
  exact ends_of_ok rfl (hok a.1 a.2 h)

theorem ends_remove {Q : Option Account → Desk → Prop} {id : AccountId}
    (hok : ∀ removed tx s, d.tx.delete d.store id = .ok (removed, tx, s) →
      Q removed { d with tx := tx, store := s })
    (herror : ∀ e, d.tx.delete d.store id = .error e → E (.fault (.storage e)) d) :
    Ends Q E d (remove id) := by
  refine ends_get_bind (ends_bind (ends_ofStorage (fun a h => ?_) herror))
  exact ends_set_bind (ends_pure (hok a.1 a.2.1 a.2.2 h))

theorem ends_hash {Q : Credential → Desk → Prop} {draw : Draw} {password : String} {hashed : Desk}
    (hhashed : hashed = { d with
      store := draw.meanwhile d.store
      effects := { d.effects with hashed := d.effects.hashed + 1 } })
    (hok : Q (.ofPassword password) hashed)
    (herror : ∀ reason, E (.fault (.hashing reason)) hashed)
    (hpanic : ∀ payload, E (.panic payload) hashed) : Ends Q E d (hash draw password) := by
  subst hhashed
  refine ends_bind (ends_modify ?_)
  cases draw.hashing with
  | made => exact ends_pure hok
  | failed reason => exact ends_refuse (herror reason)
  | panicked payload => exact ends_of_error rfl (hpanic payload)

end Ends

/-! ## What every step keeps -/

/-- However the step ends, its end is related to its beginning. -/
def Leads (R : Desk → Desk → Prop) (d : Desk) (m : Handling α) : Prop := R d (m.outcome d).2

variable {R : Desk → Desk → Prop}

theorem Leads.of_outcome {x : Except Halt α} (h : Leads R d m) (hm : m.outcome d = (x, d')) :
    R d d' := by
  unfold Leads at h
  rw [hm] at h
  exact h

theorem leads_of_ends (h : Ends (fun _ => R d) (fun _ => R d) d m) : Leads R d m := by
  unfold Leads
  cases hrun : m.outcome d with
  | mk r d₁ =>
    cases r with
    | error halt => exact h.error hrun
    | ok a => exact h.ok hrun

theorem leads_pure [Std.Refl R] (a : α) : Leads R d (pure a : Handling α) := Std.Refl.refl d

theorem leads_refuse [Std.Refl R] (x : Fault) : Leads R d (refuse x : Handling α) :=
  Std.Refl.refl d

theorem leads_modify {g : Desk → Desk} (h : R d (g d)) : Leads R d (modify g : Handling PUnit) := h

theorem leads_bind [Trans R R R] (hm : Leads R d m)
    (hf : ∀ a d₁, m.outcome d = (.ok a, d₁) → Leads R d₁ (f a)) : Leads R d (m >>= f) := by
  unfold Leads at hm ⊢
  rw [outcome_bind]
  cases hrun : m.outcome d with
  | mk r d₁ =>
    rw [hrun] at hm
    cases r with
    | error halt => exact hm
    | ok a => exact Trans.trans hm (hf a d₁ hrun)

theorem leads_get_bind {f : Desk → Handling β} (hf : Leads R d (f d)) :
    Leads R d (get >>= f) := by
  unfold Leads at hf ⊢
  rw [outcome_get_bind]
  exact hf

theorem leads_set_bind [Trans R R R] {new : Desk} {f : PUnit → Handling β} (hnew : R d new)
    (hf : Leads R new (f ⟨⟩)) : Leads R d (set new >>= f) := by
  unfold Leads at hf ⊢
  rw [outcome_set_bind]
  exact Trans.trans hnew hf

theorem leads_map {g : α → β} (hm : Leads R d m) : Leads R d (g <$> m) := by
  unfold Leads at hm ⊢
  rw [outcome_map]
  exact hm

theorem leads_ofStorage [Std.Refl R] (x : Except StorageError α) : Leads R d (ofStorage x) :=
  leads_of_ends (ends_ofStorage (fun _ _ => Std.Refl.refl d) fun _ _ => Std.Refl.refl d)

theorem leads_write [Std.Refl R]
    {w : Transaction → Store → Except StorageError (Transaction × Store)}
    (h : ∀ tx s, w d.tx d.store = .ok (tx, s) → R d { d with tx := tx, store := s }) :
    Leads R d (write w) :=
  leads_of_ends (ends_write h fun _ _ => Std.Refl.refl d)

theorem leads_admin [Std.Refl R] (caller : Session) : Leads R d (admin caller) :=
  leads_of_ends (ends_admin (Std.Refl.refl d) fun _ => Std.Refl.refl d)

theorem leads_forbid [Std.Refl R] (p : Prop) [Decidable p] (x : Fault) :
    Leads R d (forbid p x) :=
  leads_of_ends (ends_forbid (fun _ => Std.Refl.refl d) fun _ => Std.Refl.refl d)

theorem leads_objectTo [Std.Refl R] (x : Option Fault) : Leads R d (objectTo x) :=
  leads_of_ends (ends_objectTo (fun _ => Std.Refl.refl d) fun _ _ => Std.Refl.refl d)

theorem leads_expect [Std.Refl R] (x : Fault) (o : Option α) : Leads R d (expect x o) :=
  leads_of_ends (ends_expect (fun _ _ => Std.Refl.refl d) fun _ => Std.Refl.refl d)

theorem leads_existing [Std.Refl R] (id : AccountId) : Leads R d (existing id) :=
  leads_get_bind (leads_expect _ _)

theorem leads_remove [Std.Refl R] {id : AccountId}
    (h : ∀ removed tx s, d.tx.delete d.store id = .ok (removed, tx, s) →
      R d { d with tx := tx, store := s }) :
    Leads R d (remove id) :=
  leads_of_ends (ends_remove h fun _ _ => Std.Refl.refl d)

theorem leads_hash {draw : Draw} (password : String)
    (h : R d { d with
      store := draw.meanwhile d.store
      effects := { d.effects with hashed := d.effects.hashed + 1 } }) :
    Leads R d (hash draw password) :=
  leads_of_ends (ends_hash rfl h (fun _ => h) fun _ => h)

end Handling

end AcctAdmin.Server
