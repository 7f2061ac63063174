import AcctAdmin.Proofs.Lists
import AcctAdmin.Proofs.Transaction.Invariant

/-!
# No two accounts alike

Whether a new account is too much like one that is there is looked up in the view of its
transaction, before the writer's place is taken. That is enough for the committed accounts too: a
table is committed as a whole, and only by the transaction whose view it was.

The three things by which accounts are told apart (identifier, name, and address up to ASCII case)
are keys of the same kind. What a write does to one of them is shown once, in `nodup_rows`.
-/

set_option autoImplicit false

namespace AcctAdmin.Server

open AcctAdmin.Text

/-- No two accounts share an identifier, a name, or an address up to ASCII case. -/
structure Distinct (rows : List Account) : Prop where
  ids : (rows.map (·.id)).Nodup
  names : (rows.map (·.name)).Nodup
  emails : (rows.map (foldAscii ·.email)).Nodup

/-- What an account that is to be added has in common with one that is there, by the name of the
constraint that forbids it. -/
inductive ClashesOn (new old : Account) : String → Prop where
  | name (h : old.name = new.name) : ClashesOn new old "users_name_key"
  | email (h : sameUpToAsciiCase old.email new.email = true) : ClashesOn new old "users_email_key"
  | id (h : old.id = new.id) : ClashesOn new old "users_pkey"

theorem sameUpToAsciiCase_iff {s t : String} :
    sameUpToAsciiCase s t = true ↔ foldAscii s = foldAscii t := by
  unfold sameUpToAsciiCase
  exact beq_iff_eq

theorem clashesOn_iff {new old : Account} :
    (∃ constraint, ClashesOn new old constraint) ↔
      old.name = new.name ∨ sameUpToAsciiCase old.email new.email = true ∨ old.id = new.id := by
  constructor
  · rintro ⟨constraint, hclash⟩
    cases hclash with
    | name h => exact .inl h
    | email h => exact .inr (.inl h)
    | id h => exact .inr (.inr h)
  · rintro (h | h | h)
    · exact ⟨_, .name h⟩
    · exact ⟨_, .email h⟩
    · exact ⟨_, .id h⟩

/-! ## Looking for a clash -/

namespace Transaction

variable {tx : Transaction} {s : Store} {new : Account} {rows : List Account} {e : StorageError}

theorem clash?_eq_some {old : Account} (h : clash? new old = some e) :
    ∃ constraint value, e = .duplicate constraint value ∧ ClashesOn new old constraint := by
  unfold clash? at h
  split at h
  · rename_i hname
    exact ⟨_, _, (Option.some.inj h).symm, .name hname⟩
  · split at h
    · rename_i hemail
      exact ⟨_, _, (Option.some.inj h).symm, .email hemail⟩
    · cases h

theorem clash?_eq_none {old : Account} :
    clash? new old = none ↔
      old.name ≠ new.name ∧ sameUpToAsciiCase old.email new.email = false := by
  unfold clash?
  by_cases hname : old.name = new.name
  · simp [hname]
  · by_cases hemail : sameUpToAsciiCase old.email new.email = true
    · simp [hname, hemail]
    · simp [hname, hemail]

/-- The reported constraint is one that an account in the table really stands in the way of. -/
theorem duplicate?_eq_some (h : duplicate? new rows = some e) :
    ∃ constraint value, e = .duplicate constraint value ∧
      ∃ old ∈ rows, ClashesOn new old constraint := by
  unfold duplicate? at h
  cases hfound : rows.findSome? (clash? new) with
  | some found =>
    rw [hfound] at h
    obtain ⟨old, hold, hclash⟩ := List.exists_of_findSome?_eq_some hfound
    obtain ⟨constraint, value, he, hon⟩ := clash?_eq_some hclash
    exact ⟨constraint, value, (Option.some.inj h).symm.trans he, old, hold, hon⟩
  | none =>
    simp only [hfound] at h
    split at h
    · rename_i hid
      obtain ⟨old, hold, hsame⟩ := List.any_eq_true.1 hid
      exact ⟨_, _, (Option.some.inj h).symm, old, hold, .id (beq_iff_eq.1 hsame)⟩
    · cases h

theorem duplicate?_eq_none :
    duplicate? new rows = none ↔ ∀ old ∈ rows, ¬ ∃ constraint, ClashesOn new old constraint := by
  constructor
  · intro h old hold hclash
    unfold duplicate? at h
    cases hfound : rows.findSome? (clash? new) with
    | some found =>
      rw [hfound] at h
      cases h
    | none =>
      simp only [hfound] at h
      obtain ⟨hname, hemail⟩ := clash?_eq_none.1 (List.findSome?_eq_none_iff.1 hfound old hold)
      rcases clashesOn_iff.1 hclash with h' | h' | h'
      · exact hname h'
      · simp [hemail] at h'
      · have hany : rows.any (·.id == new.id) = true :=
          List.any_eq_true.2 ⟨old, hold, beq_iff_eq.2 h'⟩
        simp [hany] at h
  · intro h
    cases hfound : duplicate? new rows with
    | none => rfl
    | some e =>
      obtain ⟨constraint, _, _, old, hold, hon⟩ := duplicate?_eq_some hfound
      exact absurd ⟨constraint, hon⟩ (h old hold)

/-- An insertion is refused as a duplicate, or because it comes late. -/
theorem insert_eq_error (h : tx.insert s new = .error e) :
    duplicate? new tx.table.rows = some e ∨
      duplicate? new tx.table.rows = none ∧ e = .conflict := by
  unfold insert at h
  cases hfound : duplicate? new tx.table.rows with
  | some found =>
    rw [hfound] at h
    exact .inl (congrArg some (Except.error.inj h))
  | none =>
    rw [hfound] at h
    exact .inr ⟨rfl, modify_error h⟩

theorem insert_of_duplicate (h : duplicate? new tx.table.rows = some e) :
    tx.insert s new = .error e := by
  unfold insert
  rw [h]

/-- **When an account is refused as a duplicate**: exactly when there is one that it clashes with in
the view of its transaction. The constraint that is reported names such a clash. -/
theorem insert_duplicate_iff :
    (∃ e, tx.insert s new = .error e ∧ e.code = "23505") ↔
      ∃ old ∈ tx.table.rows, ∃ constraint, ClashesOn new old constraint := by
  constructor
  · rintro ⟨e, he, hcode⟩
    rcases insert_eq_error he with hfound | ⟨-, rfl⟩
    · obtain ⟨constraint, _, _, old, hold, hon⟩ := duplicate?_eq_some hfound
      exact ⟨old, hold, constraint, hon⟩
    · exact absurd hcode (by decide)
  · rintro ⟨old, hold, hclash⟩
    cases hfound : duplicate? new tx.table.rows with
    | none => exact absurd hclash (duplicate?_eq_none.1 hfound old hold)
    | some e =>
      obtain ⟨_, _, rfl, -⟩ := duplicate?_eq_some hfound
      exact ⟨_, insert_of_duplicate hfound, rfl⟩

theorem constraint_of_duplicate (h : tx.insert s new = .error e) (hcode : e.code = "23505") :
    ∃ constraint, e.constraint = some constraint ∧
      ∃ old ∈ tx.table.rows, ClashesOn new old constraint := by
  rcases insert_eq_error h with hfound | ⟨-, rfl⟩
  · obtain ⟨constraint, _, rfl, hold⟩ := duplicate?_eq_some hfound
    exact ⟨constraint, rfl, hold⟩
  · exact absurd hcode (by decide)

end Transaction

/-! ## Keys -/

section Keys

variable {Key : Type} {key : Account → Key} {rows : List Account} {w : Write}

/-- A key that bans do not touch stays one under a write, if no account is added whose key is
there. -/
theorem nodup_rows (hban : ∀ a ban, key { a with ban := ban } = key a)
    (hnew : ∀ new, w = .insert new → key new ∉ rows.map key) (h : (rows.map key).Nodup) :
    ((w.rows rows).map key).Nodup := by
  cases w with
  | insert new =>
    simp only [Write.rows, List.map_append, List.map_cons, List.map_nil]
    rw [List.nodup_append]
    refine ⟨h, by simp, ?_⟩
    intro k hk l hl heq
    rw [List.mem_singleton.1 hl] at heq
    rw [heq] at hk
    exact hnew new rfl hk
  | delete id => exact h.sublist (List.filter_sublist.map key)
  | setBan id ban =>
    have hsame : ((Write.setBan id ban).rows rows).map key = rows.map key := by
      simp only [Write.rows, List.map_map]
      refine List.map_congr_left fun a _ => ?_
      show key (if a.id = id then { a with ban := ban } else a) = key a
      split
      · exact hban a ban
      · rfl
    rw [hsame]
    exact h

end Keys

/-- A write that has something to change adds no account that is like another. -/
theorem Distinct.write {rows : List Account} {w : Write} {tx : Transaction}
    (htx : tx.table.rows = rows) (heffect : w.hasEffect tx = true) (h : Distinct rows) :
    Distinct (w.rows rows) := by
  have hfree : ∀ new, w = .insert new →
      ∀ old ∈ rows, ¬ ∃ constraint, ClashesOn new old constraint := by
    rintro new rfl
    rw [← htx]
    exact Transaction.duplicate?_eq_none.1 (by simpa [Write.hasEffect] using heffect)
  refine ⟨nodup_rows (fun _ _ => rfl) ?_ h.ids, nodup_rows (fun _ _ => rfl) ?_ h.names,
    nodup_rows (fun _ _ => rfl) ?_ h.emails⟩
  · intro new hw hmem
    obtain ⟨old, hold, hid⟩ := List.mem_map.1 hmem
    exact hfree new hw old hold ⟨_, .id hid⟩
  · intro new hw hmem
    obtain ⟨old, hold, hname⟩ := List.mem_map.1 hmem
    exact hfree new hw old hold ⟨_, .name hname⟩
  · intro new hw hmem
    obtain ⟨old, hold, hemail⟩ := List.mem_map.1 hmem
    exact hfree new hw old hold ⟨_, .email (sameUpToAsciiCase_iff.2 hemail)⟩

/-! ## Every schedule -/

namespace OpenStore

variable {σ σ' : OpenStore} {schedule : List StoreStep}

/-- Whether the committed accounts and those in the view of every open transaction have a
property. -/
def Everywhere (P : List Account → Prop) (σ : OpenStore) : Prop :=
  P σ.store.table.rows ∧ ∀ n t, σ.opened n = some t → P t.tx.table.rows

/-- What writes keep in a view is kept everywhere, because views are all that is ever committed. -/
theorem everywhere_step {P : List Account → Prop}
    (hwrite : ∀ (w : Write) (tx : Transaction), w.hasEffect tx = true → P tx.table.rows →
      P (w.rows tx.table.rows))
    {a : StoreStep} (h : σ.Everywhere P) (hs : σ.step a = some σ') : σ'.Everywhere P := by
  obtain ⟨hstore, hviews⟩ := h
  cases a with
  | begin n =>
    obtain ⟨-, rfl⟩ := step_begin hs
    refine ⟨hstore, fun m t hm => ?_⟩
    rcases put_some hm with ⟨-, rfl⟩ | ⟨-, hold⟩
    · exact hstore
    · exact hviews m t hold
  | write n w =>
    rcases step_write hs with rfl | ⟨t, tx, store, hn, heffect, hok, rfl⟩
    · exact ⟨hstore, hviews⟩
    · obtain ⟨htx, hs⟩ := Transaction.modify_frame hok
      refine ⟨?_, fun m u hm => ?_⟩
      · show P store.table.rows
        rw [hs]
        exact hstore
      · rcases put_some hm with ⟨-, rfl⟩ | ⟨-, hold⟩
        · show P tx.table.rows
          rw [htx]
          exact hwrite w t.tx heffect (hviews n t hn)
        · exact hviews m u hold
  | note n note =>
    obtain ⟨t, hn, rfl⟩ := step_note hs
    refine ⟨hstore, fun m u hm => ?_⟩
    rcases put_some hm with ⟨-, rfl⟩ | ⟨-, hold⟩
    · exact hviews n t hn
    · exact hviews m u hold
  | commit n =>
    obtain ⟨t, hn, -, rfl⟩ := step_commit hs
    refine ⟨?_, fun m u hm => hviews m u (put_none hm).2⟩
    show P (t.tx.commit σ.store).table.rows
    rcases t.tx.commit_table (s := σ.store) with hsame | hnew
    · rw [hsame]
      exact hstore
    · rw [hnew]
      exact hviews n t hn
  | drop n =>
    obtain ⟨t, -, rfl⟩ := step_drop hs
    exact ⟨hstore, fun m u hm => hviews m u (put_none hm).2⟩

theorem distinct_run (h : run schedule = some σ) : σ.Everywhere Distinct := by
  refine run_induction (P := fun _ σ => σ.Everywhere Distinct) ?_ ?_ h
  · refine ⟨⟨List.nodup_nil, List.nodup_nil, List.nodup_nil⟩, ?_⟩
    intro n t hn
    cases hn
  · intro earlier σ a σ' _ hall hs
    exact everywhere_step (fun w tx heffect hrows => hrows.write rfl heffect) hall hs

/-- What is refused as a duplicate is refused at once and changes nothing; what is refused because
it comes late may have to wait for that. -/
theorem step_of_refused_insert {n : Nat} {t : OpenTransaction} {new : Account} {e : StorageError}
    (hn : σ.opened n = some t) (he : t.tx.insert σ.store new = .error e) :
    (e.code = "23505" → σ.step (.write n (.insert new)) = some σ) ∧
      ∀ σ', σ.step (.write n (.insert new)) = some σ' → σ' = σ := by
  have hattempt : (Write.insert new).attempt t.tx σ.store = .error e := he
  have hstep : σ.step (.write n (.insert new)) =
      if (Write.insert new).hasEffect t.tx && !t.tx.mayWrite σ.store then none else some σ := by
    simp only [step, hn, hattempt]
  constructor
  · intro hcode
    have hfound : (Transaction.duplicate? new t.tx.table.rows).isNone = false := by
      rcases Transaction.insert_eq_error he with hfound | ⟨-, rfl⟩
      · rw [hfound]
        rfl
      · exact absurd hcode (by decide)
    rw [hstep]
    simp [Write.hasEffect, hfound]
  · intro σ' hs
    rw [hstep] at hs
    split at hs
    · cases hs
    · exact (Option.some.inj hs).symm

/-- **Accounts stay apart**, in what is committed and in what any open transaction sees, in whatever
order transactions take their steps. So whoever is looked up by identifier or by name is the only
one it can be. An account that is to be added is refused as a duplicate exactly when the
transaction sees one that it clashes with; the constraint that is reported is one that such an
account breaks; and an account that is refused changes nothing. -/
theorem accounts_stay_apart (h : run schedule = some σ) :
    (Distinct σ.store.table.rows ∧ ∀ n t, σ.opened n = some t → Distinct t.tx.table.rows) ∧
    ∀ n t, σ.opened n = some t →
      (∀ id a, t.tx.account? id = some a ↔ a ∈ t.tx.table.rows ∧ a.id = id) ∧
      (∀ name a, t.tx.accountByName? name = some a ↔ a ∈ t.tx.table.rows ∧ a.name = name) ∧
      ∀ new,
        ((∃ e, t.tx.insert σ.store new = .error e ∧ e.code = "23505") ↔
          ∃ old ∈ t.tx.table.rows, old.name = new.name ∨
            sameUpToAsciiCase old.email new.email = true ∨ old.id = new.id) ∧
        ∀ e, t.tx.insert σ.store new = .error e →
          (e.code = "23505" → ∃ constraint, e.constraint = some constraint ∧
            ∃ old ∈ t.tx.table.rows, ClashesOn new old constraint) ∧
          (e.code = "23505" → σ.step (.write n (.insert new)) = some σ) ∧
          ∀ σ', σ.step (.write n (.insert new)) = some σ' → σ' = σ := by
  obtain ⟨hstore, hviews⟩ := distinct_run h
  refine ⟨⟨hstore, hviews⟩, fun n t hn => ?_⟩
  have hdistinct := hviews n t hn
  refine ⟨?_, ?_, fun new => ⟨?_, fun e he => ⟨?_, step_of_refused_insert hn he⟩⟩⟩
  · intro id a
    exact find?_key_eq_some hdistinct.ids
  · intro name a
    exact find?_key_eq_some hdistinct.names
  · rw [Transaction.insert_duplicate_iff]
    simp only [clashesOn_iff]
  · exact Transaction.constraint_of_duplicate he

def grace : Account :=
  ⟨⟨.ofNat 7⟩, "grace", "grace@example.org", "Grace", false, 101, .unusable, none⟩

def graceInCapitals : Account :=
  ⟨⟨.ofNat 8⟩, "hopper", "GRACE@example.ORG", "Grace", false, 102, .unusable, none⟩

/-- An account is committed, and one with the same address in capitals is refused in a later
transaction. -/
theorem capitals_are_no_difference :
    ∃ σ t e, run [.begin 0, .write 0 (.insert grace), .commit 0, .begin 1] = some σ ∧
      σ.opened 1 = some t ∧ t.tx.insert σ.store graceInCapitals = .error e ∧ e.code = "23505" ∧
      e.constraint = some "users_email_key" ∧
      σ.step (.write 1 (.insert graceInCapitals)) = some σ := by
  have hrun : ∃ σ t e, run [.begin 0, .write 0 (.insert grace), .commit 0, .begin 1] = some σ ∧
      σ.opened 1 = some t ∧ t.tx.insert σ.store graceInCapitals = .error e ∧ e.code = "23505" ∧
      e.constraint = some "users_email_key" := ⟨_, _, _, rfl, rfl, rfl, rfl, rfl⟩
  obtain ⟨σ, t, e, hσ, ht, he, hcode, hconstraint⟩ := hrun
  obtain ⟨-, -, hinsert⟩ := (accounts_stay_apart hσ).2 1 t ht
  obtain ⟨-, hstep, -⟩ := (hinsert graceInCapitals).2 e he
  exact ⟨σ, t, e, hσ, ht, he, hcode, hconstraint, hstep hcode⟩

end OpenStore

end AcctAdmin.Server
