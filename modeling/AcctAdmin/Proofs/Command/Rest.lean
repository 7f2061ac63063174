import AcctAdmin.Proofs.Command.Caller
import AcctAdmin.Proofs.Search.Cursors
import AcctAdmin.Proofs.Transaction.Uniqueness

/-!
# Between two commands

Where commands are given one at a time, the store is at rest between them: nobody has the writer's
place, the version tells the table that is committed, and no two accounts are alike
(`Store.AtRest`). An attempt that finds it so loses no race. So a command is tried once, and either
makes the writes that it is for or leaves the store as it was (`execute_at_rest`).
-/

set_option autoImplicit false

namespace AcctAdmin.Server

open AcctAdmin.Protocol

/-- Whether nobody is about to change a store. -/
structure Store.AtRest (s : Store) : Prop where
  free : s.writing = false
  edition : s.table.edition = s.version
  distinct : Distinct s.table.rows

/-- Whether a command is worked on for which the store was at rest: it has seen all there is, and
if it wrote anything it has the writer's place and a table of its own. -/
structure Desk.Working (s : Store) (d : Desk) : Prop where
  base : d.tx.base = s.version
  distinct : Distinct d.tx.table.rows
  place : (d.tx.writing = false ∧ d.store = s ∧ d.tx.table = s.table) ∨
    (d.tx.writing = true ∧ d.store = { s with writing := true } ∧
      d.tx.table.edition = s.version + 1)

namespace Desk.Working

variable {s : Store} {d d' : Desk}

theorem begin {server : Service} (h : server.store.AtRest) :
    (server.desk server.store.begin).Working server.store :=
  ⟨rfl, h.distinct, .inl ⟨rfl, rfl, rfl⟩⟩

theorem of_eq (h : d.Working s) (hstore : d'.store = d.store)
    (htx : d'.tx = { d.tx with notes := d'.tx.notes }) : d'.Working s where
  base := by rw [htx]; exact h.base
  distinct := by rw [htx]; exact h.distinct
  place := by rw [hstore, htx]; exact h.place

/-- A write that has something to change is made. -/
theorem attempt_of_hasEffect (hs : s.AtRest) (h : d.Working s) {w : Write}
    (heffect : w.hasEffect d.tx = true) :
    ∃ tx store, w.attempt d.tx d.store = .ok (tx, store) ∧
      { d with tx := tx, store := store }.Working s := by
  rw [Write.attempt_eq_modify d.store heffect]
  have hdistinct := h.distinct.write rfl heffect
  -- the first write takes the place, which is free, and those after it have it already
  rcases h.place with ⟨hw, hstore, htable⟩ | ⟨hw, hstore, hedition⟩
  · have hplace : d.tx.takePlace d.store = .ok
        ({ d.tx with writing := true, table := { d.tx.table with edition := s.version + 1 } },
          { s with writing := true }) := by
      simp [Transaction.takePlace, hw, hstore, hs.free, h.base]
    simp only [Transaction.modify, hplace]
    exact ⟨_, _, rfl, h.base, hdistinct, .inr ⟨rfl, rfl, rfl⟩⟩
  · have hplace : d.tx.takePlace d.store = .ok (d.tx, d.store) := by
      simp [Transaction.takePlace, hw]
    simp only [Transaction.modify, hplace]
    exact ⟨_, _, rfl, h.base, hdistinct, .inr ⟨hw, hstore, hedition⟩⟩

end Desk.Working

/-- A write that has nothing to change is refused for what it is, if at all. -/
theorem Write.isConflict_of_not_hasEffect {w : Write} {tx : Transaction} {s : Store}
    {e : StorageError} (heffect : w.hasEffect tx = false) (h : w.attempt tx s = .error e) :
    e.isConflict = false := by
  cases w with
  | insert new =>
    rcases Transaction.insert_eq_error h with hfound | ⟨hnone, -⟩
    · obtain ⟨constraint, value, rfl, -⟩ := Transaction.duplicate?_eq_some hfound
      rfl
    · simp [hasEffect, hnone] at heffect
  | delete id =>
    have hgone : tx.account? id = none := by simpa [hasEffect] using heffect
    simp [attempt, Transaction.delete, hgone, Except.map] at h
  | setBan id ban =>
    have hgone : tx.account? id = none := by simpa [hasEffect] using heffect
    simp only [attempt, Transaction.setBan, hgone] at h
    cases h
    rfl

namespace Desk.Working

variable {s : Store} {d : Desk} {w : Write}

theorem attempt_ok (hs : s.AtRest) (h : d.Working s) {tx : Transaction} {store : Store}
    (hok : w.attempt d.tx d.store = .ok (tx, store)) :
    { d with tx := tx, store := store }.Working s := by
  cases heffect : w.hasEffect d.tx with
  | true =>
    obtain ⟨_, _, hmade, hworking⟩ := h.attempt_of_hasEffect hs heffect
    cases hmade.symm.trans hok
    exact hworking
  | false =>
    rcases Write.attempt_of_not_hasEffect heffect with hsame | ⟨e, he⟩
    · cases hsame.symm.trans hok
      exact h
    · cases he.symm.trans hok

/-- Nobody else is there to lose a race to. -/
theorem attempt_error (hs : s.AtRest) (h : d.Working s) {e : StorageError}
    (he : w.attempt d.tx d.store = .error e) : e.isConflict = false := by
  cases heffect : w.hasEffect d.tx with
  | true =>
    obtain ⟨_, _, hmade, -⟩ := h.attempt_of_hasEffect hs heffect
    cases hmade.symm.trans he
  | false => exact Write.isConflict_of_not_hasEffect heffect he

end Desk.Working

namespace Handling

variable {α : Type} {s : Store} {d : Desk} {r : Request} {draw : Draw} {caller : Session}

/-- Whether a step loses no race, and leaves a desk that is worked on. -/
abbrev Peaceful (s : Store) (d : Desk) (m : Handling α) : Prop :=
  Ends (fun _ d' => d'.Working s) (fun halt d' => isConflict (.error halt) = false ∧ d'.Working s)
    d m

/-- What only reads leaves everything as it was. -/
theorem peaceful_of_reads {m : Handling α} (rows : List Account) (h : d.Working s)
    (hreads : Leads (Desk.Reads rows) d m)
    (hlost : ∀ halt d', m.outcome d = (.error halt, d') → isConflict (.error halt) = false) :
    Peaceful s d m where
  ok hm := h.of_eq (hreads.of_outcome hm).store (hreads.of_outcome hm).tx
  error hm := ⟨hlost _ _ hm, h.of_eq (hreads.of_outcome hm).store (hreads.of_outcome hm).tx⟩

theorem peaceful_write (hs : s.AtRest) (h : d.Working s) (w : Write) :
    Peaceful s d (write fun tx store => w.attempt tx store) :=
  ends_write (fun _ _ hok => h.attempt_ok hs hok) fun _ he => ⟨h.attempt_error hs he, h⟩

theorem peaceful_remove (hs : s.AtRest) (h : d.Working s) (id : AccountId) :
    Peaceful s d (remove id) := by
  have hattempt : (Write.delete id).attempt d.tx d.store =
      (d.tx.delete d.store id).map (·.2) := rfl
  refine ends_remove (fun removed tx store hdelete => ?_) fun e he => ⟨?_, h⟩
  · rw [hdelete] at hattempt
    exact h.attempt_ok hs hattempt
  · rw [he] at hattempt
    exact h.attempt_error hs hattempt

/-! ### Commands that write -/

theorem not_conflict_objection? {name email realName password : String} {fault : Fault}
    (h : objection? name email realName password = some fault) :
    isConflict (.error (.fault fault)) = false := by
  unfold objection? at h
  repeat' split at h
  all_goals cases h
  all_goals rfl

theorem peaceful_userCreate (hs : s.AtRest) (h : d.Working s)
    (hquiet : ∀ s, draw.meanwhile s = s) (new : NewAccount) :
    Peaceful s d (userCreate r draw caller new) := by
  refine ends_bind (ends_admin ?_ fun _ => ⟨rfl, h⟩)
  refine ends_bind (ends_objectTo (fun _ => ?_) fun fault hfault =>
    ⟨not_conflict_objection? hfault, h⟩)
  have hhashed : Desk.Working s { d with
      store := draw.meanwhile d.store
      effects := { d.effects with hashed := d.effects.hashed + 1 } } :=
    h.of_eq (hquiet d.store) rfl
  refine ends_bind (ends_hash rfl ?_ (fun _ => ⟨rfl, hhashed⟩) fun _ => ⟨rfl, hhashed⟩)
  refine ends_bind ((peaceful_write hs hhashed (.insert _)).imp fun _ d₁ hd₁ => ?_)
  exact ends_bind (ends_modify (ends_bind (ends_modify (ends_pure (hd₁.of_eq rfl rfl)))))

theorem peaceful_userDelete (hs : s.AtRest) (h : d.Working s) (id : AccountId) :
    Peaceful s d (userDelete r caller id) := by
  refine ends_bind (ends_admin ?_ fun _ => ⟨rfl, h⟩)
  refine ends_bind (ends_forbid (fun _ => ?_) fun _ => ⟨rfl, h⟩)
  refine ends_bind ((peaceful_remove hs h id).imp fun found d₁ hd₁ => ?_)
  refine ends_bind (ends_expect (fun removed _ => ?_) fun _ => ⟨rfl, hd₁⟩)
  exact ends_bind (ends_modify (ends_bind (ends_modify (ends_pure (hd₁.of_eq rfl rfl)))))

theorem peaceful_userBan (hs : s.AtRest) (h : d.Working s) (id : AccountId) (reason : String)
    (expires : Option UInt64) : Peaceful s d (userBan r caller id reason expires) := by
  refine ends_bind (ends_admin ?_ fun _ => ⟨rfl, h⟩)
  refine ends_bind (ends_forbid (fun _ => ?_) fun _ => ⟨rfl, h⟩)
  refine ends_bind (ends_forbid (fun _ => ?_) fun _ => ⟨rfl, h⟩)
  refine ends_bind (ends_forbid (fun _ => ?_) fun _ => ⟨rfl, h⟩)
  refine ends_bind (ends_existing (fun account _ => ?_) ⟨rfl, h⟩)
  refine ends_bind ((peaceful_write hs h (.setBan id _)).imp fun _ d₁ hd₁ => ?_)
  exact ends_bind (ends_modify (ends_bind (ends_modify (ends_pure (hd₁.of_eq rfl rfl)))))

theorem peaceful_userUnban (hs : s.AtRest) (h : d.Working s) (id : AccountId) :
    Peaceful s d (userUnban r caller id) := by
  refine ends_bind (ends_admin ?_ fun _ => ⟨rfl, h⟩)
  refine ends_bind (ends_existing (fun account _ => ?_) ⟨rfl, h⟩)
  refine ends_bind ((peaceful_write hs h (.setBan id none)).imp fun _ d₁ hd₁ => ?_)
  exact ends_bind (ends_modify (ends_pure (hd₁.of_eq rfl rfl)))

/-! ### All commands -/

instance : Desk.Lasting fun _ _ => True where
  trans _ _ := trivial
  aside _ _ := trivial
  used _ _ _ := trivial
  ended _ _ := trivial

theorem peaceful_identify (h : d.Working s) (r : Request) (c : Command) :
    Peaceful s d (identify r c) :=
  peaceful_of_reads [] h (leads_identify r c) fun _ _ hm =>
    ((ends_identify_eq (R := fun _ _ => True) r c).error hm).1

theorem peaceful_logout (h : d.Working s) (r : Request) : Peaceful s d (logout r) := by
  refine ends_bind (ends_expect (fun key _ => ?_) fun _ => ⟨rfl, h⟩)
  refine ends_bind (ends_lookUp fun d₁ hd₁ => ends_bind (ends_modify ?_))
  subst hd₁
  exact ends_bind (ends_modify (ends_pure (h.of_eq rfl rfl)))

theorem peaceful_userGet (h : d.Working s) (id : AccountId) : Peaceful s d (userGet caller id) := by
  refine ends_bind (ends_forbid (fun _ => ?_) fun _ => ⟨rfl, h⟩)
  exact ends_bind (ends_existing (fun account _ => ends_pure h) ⟨rfl, h⟩)

/-- What is stored can always be counted and read. -/
theorem peaceful_search (h : d.Working s) (limits : PageLimits) {c : Command}
    (hc : searches? c ≠ none) : Peaceful s d (dispatch limits r draw c) := by
  cases c with
  | searchBegin query =>
    obtain ⟨q, hq⟩ := SearchKind.exists_query query
    rw [← hq]
    refine peaceful_of_reads [] h ?_ fun _ _ hm =>
      ((ends_searchBegin_eq (fun _ _ => True) d r draw limits q).error hm).1
    rw [dispatch_of_needsCaller limits r draw rfl]
    refine leads_bind (leads_identify r _) fun caller d₁ _ => ?_
    rw [SearchKind.carryOut_searchBegin]
    exact leads_map (leads_searchBegin ..)
  | searchTurn k turn =>
    refine peaceful_of_reads [] h ?_ fun _ _ hm =>
      ((ends_searchTurn_eq (fun _ _ => True) d r draw limits k turn).error hm).1
    rw [dispatch_of_needsCaller limits r draw rfl]
    refine leads_bind (leads_identify r _) fun caller d₁ _ => ?_
    rw [SearchKind.carryOut_searchTurn]
    exact leads_map (leads_searchTurn ..)
  | _ => exact absurd rfl hc

/-- **Nobody who is alone loses a race**, whatever is asked for. -/
theorem peaceful_dispatch (hs : s.AtRest) (h : d.Working s) (limits : PageLimits)
    (hquiet : ∀ s, draw.meanwhile s = s) (c : Command) :
    Peaceful s d (dispatch limits r draw c) := by
  have hidentified : ∀ {m : Session → Handling Reply},
      (∀ caller d₁, d₁.Working s → Peaceful s d₁ (m caller)) →
      Peaceful s d (identify r c >>= m) :=
    fun hm => ends_bind ((peaceful_identify h r c).imp hm)
  cases c with
  | login l =>
    exact peaceful_of_reads _ h (leads_login l) fun _ _ hm =>
      ((ends_login_eq l).error hm).not_conflict
  | logout => exact peaceful_logout h r
  | userCreate new => exact hidentified fun _ _ hd => peaceful_userCreate hs hd hquiet new
  | userGet id => exact hidentified fun _ _ hd => peaceful_userGet hd id
  | userDelete id => exact hidentified fun _ _ hd => peaceful_userDelete hs hd id
  | userBan id reason expires =>
    exact hidentified fun _ _ hd => peaceful_userBan hs hd id reason expires
  | userUnban id => exact hidentified fun _ _ hd => peaceful_userUnban hs hd id
  | searchBegin query => exact peaceful_search h limits nofun
  | searchTurn k turn => exact peaceful_search h limits nofun

/-- What a command that succeeds has made of the accounts is what it is to make of them. -/
theorem rows_of_dispatch {limits : PageLimits} {c : Command} {reply : Reply} {d' : Desk}
    (h : (dispatch limits r draw c).outcome d = (.ok reply, d')) :
    d'.tx.table.rows = Write.replay (writesOf r draw c) d.tx.table.rows := by
  cases hneeds : needsCaller c with
  | false =>
    rw [dispatch_of_not_needsCaller limits r draw default hneeds] at h
    exact (carryOut_ok h).rows
  | true =>
    rw [dispatch_of_needsCaller limits r draw hneeds] at h
    obtain ⟨caller, d₁, hidentify, hdone⟩ := outcome_bind_eq_ok.1 h
    obtain ⟨-, rfl⟩ := identify_ok hidentify
    exact (carryOut_ok hdone).rows

end Handling

/-! ## Closing -/

namespace Desk.Working

variable {s : Store} {d : Desk}

theorem commit (hs : s.AtRest) (h : d.Working s) :
    (d.tx.commit d.store).AtRest ∧ (d.tx.commit d.store).table.rows = d.tx.table.rows := by
  rcases h.place with ⟨hw, hstore, htable⟩ | ⟨hw, hstore, hedition⟩
  · have hnone : d.tx.publishes d.store = false := by
      simp [Transaction.publishes, hstore, htable]
    rw [Transaction.commit_eq, hnone, hstore, htable]
    exact ⟨⟨by simp [hs.free], hs.edition, hs.distinct⟩, rfl⟩
  · have hsome : d.tx.publishes d.store = true := by
      simp [Transaction.publishes, hw, hstore, hedition, hs.edition]
    rw [Transaction.commit_eq, hsome, hstore, hw]
    exact ⟨⟨rfl, hedition, h.distinct⟩, rfl⟩

theorem drop (hs : s.AtRest) (h : d.Working s) : d.tx.drop d.store = s := by
  rcases s with ⟨table, version, log, writing⟩
  obtain rfl : writing = false := hs.free
  rcases h.place with ⟨hw, hstore, -⟩ | ⟨hw, hstore, -⟩ <;> simp [Transaction.drop, hw, hstore]

end Desk.Working

namespace Service

variable {server : Service} {draws : Nat → Draw}

/-- **A command that finds the store at rest** is tried once. If it succeeds it has made its writes,
and the store is at rest again; if it does not, the store is as it was. -/
theorem execute_at_rest (hs : server.store.AtRest) (hquiet : ∀ s, (draws 0).meanwhile s = s)
    (r : Request) (c : Command) :
    (∃ reply d', (Handling.dispatch server.limits r (draws 0) c).outcome
        (server.desk server.store.begin) = (.ok reply, d') ∧
      server.execute r c draws = (.ofOutcome r d'.effects (.ok reply), server.settle d') ∧
      (server.settle d').store.AtRest ∧
      (server.settle d').store.table.rows =
        Write.replay (writesOf r (draws 0) c) server.store.table.rows) ∨
    (∃ halt d', (Handling.dispatch server.limits r (draws 0) c).outcome
        (server.desk server.store.begin) = (.error halt, d') ∧
      server.execute r c draws = (.ofOutcome r d'.effects (.error halt), server.abandon d') ∧
      (server.abandon d').store = server.store) := by
  have hpeaceful := Handling.peaceful_dispatch (r := r) hs (.begin hs) server.limits hquiet c
  rcases hrun : (Handling.dispatch server.limits r (draws 0) c).outcome
    (server.desk server.store.begin) with ⟨outcome, d'⟩
  cases outcome with
  | ok reply =>
    obtain ⟨hrest, hrows⟩ := (hpeaceful.ok hrun).commit hs
    exact .inl ⟨reply, d', rfl, execute_of_outcome hrun rfl, hrest,
      hrows.trans (Handling.rows_of_dispatch hrun)⟩
  | error halt =>
    obtain ⟨hlost, hworking⟩ := hpeaceful.error hrun
    exact .inr ⟨halt, d', rfl, execute_of_outcome hrun hlost, hworking.drop hs⟩

/-! ## Runs -/

/-- Whether nothing else goes on while a command is executed. -/
def Event.Quiet : Event → Prop
  | .command _ _ draws => ∀ n s, (draws n).meanwhile s = s
  | .sweep _ => True

theorem atRest_execute (hs : server.store.AtRest) (hquiet : ∀ s, (draws 0).meanwhile s = s)
    (r : Request) (c : Command) : (server.execute r c draws).2.store.AtRest := by
  rcases execute_at_rest hs hquiet r c with ⟨_, _, -, he, hrest, -⟩ | ⟨_, _, -, he, hsame⟩
  · rw [he]
    exact hrest
  · rw [he, hsame]
    exact hs

theorem atRest_advance {e : Event} (hs : server.store.AtRest) (hquiet : e.Quiet) :
    (server.advance e).store.AtRest := by
  cases e with
  | command r c draws => exact atRest_execute hs (hquiet 0) r c
  | sweep now => exact hs

theorem atRest_advanceAll {events : List Event} (hs : server.store.AtRest)
    (hquiet : ∀ e ∈ events, e.Quiet) : (server.advanceAll events).store.AtRest := by
  induction events generalizing server with
  | nil => exact hs
  | cons e rest ih =>
    obtain ⟨hfirst, hrest⟩ := List.forall_mem_cons.1 hquiet
    exact ih (atRest_advance hs hfirst) hrest

end Service

theorem OpenService.Begins.atRest {σ : OpenService} (h : OpenService.Begins σ) :
    σ.server.store.AtRest := by
  cases h with
  | empty idleTimeout attempts limits =>
    exact ⟨rfl, rfl, ⟨List.nodup_nil, List.nodup_nil, List.nodup_nil⟩⟩
  | administered idleTimeout attempts limits admin now account session =>
    exact ⟨rfl, rfl, List.nodup_singleton _, List.nodup_singleton _, List.nodup_singleton _⟩

end AcctAdmin.Server
