import AcctAdmin.Proofs.Command.Keeping

/-!
# Searches keep to themselves

A page that is asked for next depends on the search that it belongs to: on what was asked for when
it was last begun in that session, on the moves since then, and on what was stored each time
(`Browse`). What the history of a server says of a search is what the session has of it
(`Sessions.Knows`), whatever else was executed meanwhile: every command that has nothing to do with
a search leaves its cursor alone (`Sessions.Undisturbed`).
-/

set_option autoImplicit false

namespace AcctAdmin.Server

open AcctAdmin.Protocol

variable {k : SearchKind} {key : SessionKey}

/-! ## The course of a search -/

/-- A search as its reader knows it: what was asked for, how much room a page has, and which moves
were made, with what was stored at the time. -/
structure Browse (k : SearchKind) where
  terms : k.Terms
  size : UInt32
  moves : List (Move × k.Stored)

namespace Browse

def start (terms : k.Terms) (size : UInt32) (rows : k.Stored) : Browse k :=
  ⟨terms, size, [(.stay, rows)]⟩

def moved (b : Browse k) (m : Move) (rows : k.Stored) : Browse k :=
  { b with moves := b.moves ++ [(m, rows)] }

/-- Where the moves have brought the reader. -/
def cursor (b : Browse k) : Cursor k.Terms :=
  b.moves.foldl (fun c (m, rows) => (c.move m (k.source rows b.terms)).2) (.start b.terms b.size)

/-- The page that one more move shows. -/
def page (b : Browse k) (m : Move) (rows : k.Stored) : Except StorageError (Page k.Row) :=
  (b.cursor.move m (k.source rows b.terms)).1

theorem cursor_moved (b : Browse k) (m : Move) (rows : k.Stored) :
    (b.moved m rows).cursor = (b.cursor.move m (k.source rows b.terms)).2 := by
  simp [cursor, moved]

/-- A reader goes on looking for what was asked for. -/
theorem query_cursor (b : Browse k) : b.cursor.query = b.terms := by
  have hmove : ∀ (c : Cursor k.Terms) (m : Move) (source : Source k.Row),
      (c.move m source).2.query = c.query := by
    intro c m source
    unfold Cursor.move
    cases source.count with
    | error e => rfl
    | ok total =>
      change ((c.settle total).step m).query = c.query
      rw [Cursor.step_eq]
      rfl
  unfold cursor
  induction b.moves using List.reverseRecOn with
  | nil => rfl
  | append_singleton moves last ih =>
    rw [List.foldl_append]
    exact (hmove ..).trans ih

end Browse

/-! ## Histories -/

/-- A command that was executed: what it found, and how it went. -/
structure Executed where
  found : Service
  request : Request
  command : Command
  execution : Execution

def Service.record (server : Service) : List Service.Event → List Executed
  | [] => []
  | .command r c draws :: rest =>
    ⟨server, r, c, (server.execute r c draws).1⟩ ::
      (server.advance (.command r c draws)).record rest
  | .sweep now :: rest => (server.advance (.sweep now)).record rest

namespace Executed

/-- Whether a command succeeded that was given in a session. -/
def servedIn (e : Executed) (key : SessionKey) : Bool :=
  match e.execution.response with
  | .success _ _ => e.request.session == some key
  | .refused _ => false

/-- What is known of a search of a session after one more command. -/
def extend (k : SearchKind) (key : SessionKey) (known : Option (Browse k)) (e : Executed) :
    Option (Browse k) :=
  match e.command with
  | .login _ => if e.execution.session = some (.started key) then none else known
  | .searchBegin query =>
    match k.terms? query with
    | some terms =>
      if e.servedIn key then
        some (.start terms (e.found.limits.sizeFor (k.limit terms)) (k.stored e.found.store))
      else known
    | none => known
  | .searchTurn other turn =>
    if other = k ∧ e.servedIn key then
      known.map (·.moved (.ofTurn turn) (k.stored e.found.store))
    else known
  | _ => known

/-- Whether a command has to do with a search of a session: it began the session, or it was carried
out for the session and began the search or turned a page of it. -/
def concerns (k : SearchKind) (key : SessionKey) (e : Executed) : Bool :=
  e.command.kind.isLogin && e.execution.session == some (.started key) ||
    searches? e.command == some k && e.servedIn key

end Executed

/-- What a history says of a search of a session. -/
def browsed (k : SearchKind) (key : SessionKey) (history : List Executed) : Option (Browse k) :=
  history.foldl (Executed.extend k key) none

namespace Executed

variable {e : Executed}

theorem not_concerns (hlogin : e.command.kind.isLogin = false)
    (hother : searches? e.command = some k → e.request.session ≠ some key) :
    e.concerns k key = false := by
  have hserved : e.servedIn key = true → e.request.session = some key := by
    unfold servedIn
    split
    · exact beq_iff_eq.1
    · exact fun h => by cases h
  by_contra hconcerns
  simp only [concerns, hlogin, Bool.false_and, Bool.false_or, Bool.not_eq_false,
    Bool.and_eq_true, beq_iff_eq] at hconcerns
  exact hother hconcerns.1 (hserved hconcerns.2)

theorem extend_of_not_concerns {known : Option (Browse k)} (h : e.concerns k key = false) :
    e.extend k key known = known := by
  rcases e with ⟨found, r, c, execution⟩
  simp only [concerns, Bool.or_eq_false_iff, Bool.and_eq_false_iff, beq_eq_false_iff_ne] at h
  obtain ⟨hlogin, hsearch⟩ := h
  cases c with
  | login l =>
    rcases hlogin with hkind | hstarted
    · cases hkind
    · exact if_neg hstarted
  | searchBegin query =>
    cases hterms : k.terms? query with
    | none => simp only [extend, hterms]
    | some terms =>
      obtain rfl := SearchKind.terms?_eq_some.1 hterms
      rcases hsearch with hkind | hserved
      · simp [searches?] at hkind
      · simp only [extend, hterms, hserved, Bool.false_eq_true, if_false]
  | searchTurn other turn =>
    refine if_neg ?_
    rintro ⟨rfl, hserved⟩
    rcases hsearch with hkind | hrefused
    · exact hkind rfl
    · exact absurd (hserved.symm.trans hrefused) (by decide)
  | _ => rfl

end Executed

/-- What does not concern a search may as well not have been. -/
theorem browsed_filter (k : SearchKind) (key : SessionKey) (history : List Executed) :
    browsed k key (history.filter (·.concerns k key)) = browsed k key history := by
  unfold browsed
  rw [List.foldl_filter]
  congr 1
  funext known e
  cases hconcerns : e.concerns k key with
  | true => rfl
  | false => exact (Executed.extend_of_not_concerns hconcerns).symm

/-! ## What a session has of a search -/

namespace Sessions

variable {s s' s'' : Sessions} {known : Option (Browse k)} {other : SessionKey} {now : Nat}

/-- Whether the search of a session is as it was, unless the session is gone. -/
def Undisturbed (k : SearchKind) (key : SessionKey) (s s' : Sessions) : Prop :=
  s.Distinct → s'.Distinct ∧ ∀ x', s'.find? key = some x' →
    ∃ x, s.find? key = some x ∧ k.slot.get x'.cursors = k.slot.get x.cursors

theorem Undisturbed.trans (h : s.Undisturbed k key s') (h' : s'.Undisturbed k key s'') :
    s.Undisturbed k key s'' := Keeps.trans h h'

theorem undisturbed_filtered (p : Session → Bool) :
    s.Undisturbed k key { s with live := s.live.filter p } := keeps_filtered p

theorem undisturbed_without (own : Option SessionKey) : s.Undisturbed k key (s.without own) :=
  keeps_without own

theorem undisturbed_create (hother : other ≠ key) (userName : String) (admin : Bool) :
    s.Undisturbed k key (s.create other userName admin now) := keeps_create hother userName admin

/-- Whether the session, if it is still there, has of a search what is known of it. -/
structure Knows (k : SearchKind) (key : SessionKey) (s : Sessions) (known : Option (Browse k)) :
    Prop where
  distinct : s.Distinct
  cursor : ∀ x, s.find? key = some x → k.slot.get x.cursors = known.map Browse.cursor

theorem knows_fresh (k : SearchKind) (key : SessionKey) (h : s.live = []) :
    s.Knows k key none where
  distinct := by
    rw [Distinct, h]
    exact List.nodup_nil
  cursor x hx := by
    rw [find?, h] at hx
    cases hx

theorem Knows.undisturbed (h : s.Knows k key known) (hs : s.Undisturbed k key s') :
    s'.Knows k key known := by
  obtain ⟨hdistinct, hsame⟩ := hs h.distinct
  refine ⟨hdistinct, fun x' hx' => ?_⟩
  obtain ⟨x, hx, hcursor⟩ := hsame x' hx'
  rw [hcursor, h.cursor x hx]

/-- Nothing is known of the searches of a session that has just begun. -/
theorem Knows.create (h : s.Knows k key known) (userName : String) (admin : Bool) :
    (s.create key userName admin now).Knows k key none where
  distinct := h.distinct.create userName admin
  cursor x hx := by
    rw [find?_create h.distinct, if_pos rfl] at hx
    cases hx
    exact SearchKind.get_none

/-- The sessions after one has been given another cursor. -/
def keep (s : Sessions) (key : SessionKey) (cursor : Option (Cursor k.Terms)) : Sessions :=
  s.update key fun x => { x with cursors := k.slot.set cursor x.cursors }

theorem Distinct.keep (h : s.Distinct) (cursor : Option (Cursor k.Terms)) :
    (s.keep other cursor).Distinct := h.update fun _ => rfl

/-- The cursor that a session has been given is the one to know. -/
theorem knows_keep (h : s.Distinct) (b : Browse k) :
    (s.keep key (some b.cursor)).Knows k key b where
  distinct := h.keep _
  cursor x hx := by
    rw [keep, find?_update (by exact fun _ => rfl)] at hx
    obtain ⟨y, -, rfl⟩ := Option.map_eq_some_iff.1 hx
    simp

/-- A caller who is found has what is known. -/
theorem Knows.found (h : s.Knows k key known) {caller : Session}
    (hfound : (s.get key now).1 = some caller) :
    k.slot.get caller.cursors = known.map Browse.cursor := by
  rw [get_eq] at hfound
  obtain ⟨x, hx, hlook⟩ := Option.bind_eq_some_iff.1 hfound
  split at hlook
  · cases hlook
    exact h.cursor x hx
  · cases hlook

end Sessions

/-! ## How a search ends -/

instance (k : SearchKind) (key : SessionKey) :
    Desk.Lasting fun d d' => d.sessions.Undisturbed k key d'.sessions :=
  Desk.lasting_keeps fun _ _ => rfl

namespace Handling

variable {R : Desk → Desk → Prop} [Desk.Lasting R] {d : Desk} {r : Request} {draw : Draw}
  {limits : PageLimits}

theorem Admitted.unique {sessions : Sessions} {rows : List Account} {caller other : Session}
    (h : Admitted r sessions rows caller) (h' : Admitted r sessions rows other) :
    caller = other := by
  have hkey : caller.key = other.key := Option.some.inj (h.key.symm.trans h'.key)
  exact Option.some.inj (h.live.symm.trans (hkey ▸ h'.live))

theorem ends_session_eq (r : Request) :
    Ends (fun caller d' => Admitted r d.sessions d.tx.table.rows caller ∧
        d' = { d with sessions := (d.sessions.get caller.key r.now).2 })
      (fun halt d' => isConflict (.error halt) = false ∧ R d d' ∧
        ∀ caller, ¬ Admitted r d.sessions d.tx.table.rows caller)
      d (session r) where
  ok := session_ok
  error {halt d'} h := by
    have hkind : Ends (fun _ _ => True) (fun halt _ => isConflict (.error halt) = false) d
        (session r) := by
      refine ends_bind (ends_expect (fun key _ => ?_) fun _ => rfl)
      refine ends_bind (ends_lookUp fun d₁ _ => ?_)
      refine ends_bind (ends_expect (fun caller _ => ends_get_bind ?_) fun _ => rfl)
      cases hobjection : sessionObjection? d₁.tx key.principal r.seconds with
      | none => exact ends_pure trivial
      | some fault =>
        refine ends_bind (ends_modify (ends_refuse ?_))
        unfold sessionObjection? at hobjection
        split at hobjection
        · cases hobjection
          rfl
        · obtain ⟨ban, -, rfl⟩ := Option.map_eq_some_iff.1 hobjection
          rfl
    refine ⟨hkind.error h, (tacit_session r).of_outcome h, fun caller hadmitted => ?_⟩
    rw [session_of_admitted hadmitted] at h
    cases h

theorem ends_identify_eq (r : Request) (c : Command) :
    Ends (fun caller d' => Admitted r d.sessions d.tx.table.rows caller ∧
        d' = { d with sessions := (d.sessions.get caller.key r.now).2 })
      (fun halt d' => isConflict (.error halt) = false ∧ R d d') d (identify r c) where
  ok := identify_ok
  error {halt d'} h := by
    refine ⟨?_, (tacit_identify r c).of_outcome h⟩
    have hsession : Ends (fun _ _ => True) (fun halt _ => isConflict (.error halt) = false) d
        (session r) :=
      ⟨fun _ => trivial, fun h => ((ends_session_eq (R := R) r).error h).1⟩
    unfold identify at h
    split at h
    · exact (ends_bind (ends_forbid (fun _ => hsession) fun _ => rfl)).error h
    · exact hsession.error h

theorem outcome_keepCursor (own : SessionKey) (cursor : Option (Cursor k.Terms)) :
    (keepCursor k.slot own cursor).outcome d =
      (.ok (), { d with sessions := d.sessions.keep own cursor }) := rfl

theorem outcome_searchBegin {caller : Session} {q : k.Terms} {size : UInt32}
    {cursor : Cursor k.Terms} {page : Page k.Row} (hadmin : caller.admin = true)
    (hmove : (Cursor.start q size).move .stay (k.source (k.seen d) q) = (.ok page, cursor)) :
    (searchBegin caller k.slot q size fun d => k.source (k.seen d) q).outcome d =
      (.ok page, { d with
        sessions := (d.sessions.keep caller.key (none : Option (Cursor k.Terms))).keep caller.key
          (some cursor) }) := by
  refine outcome_bind_eq_ok.2 ⟨_, _, outcome_admin_eq_ok.2 ⟨hadmin, rfl, rfl⟩, ?_⟩
  refine outcome_bind_eq_ok.2 ⟨_, _, outcome_keepCursor caller.key none, ?_⟩
  simp only [outcome_get_bind, SearchKind.seen_sessions, hmove]
  refine outcome_bind_eq_ok.2 ⟨page, _, outcome_ofStorage_eq_ok.2 ⟨rfl, rfl⟩, ?_⟩
  exact outcome_bind_eq_ok.2 ⟨_, _, outcome_keepCursor caller.key (some cursor), rfl⟩

theorem outcome_searchTurn {caller : Session} {name : String} {turn : Turn}
    {cursor cursor' : Cursor k.Terms} {page : Page k.Row} (hadmin : caller.admin = true)
    (hcursor : k.slot.get caller.cursors = some cursor)
    (hmove : cursor.move (.ofTurn turn) (k.source (k.seen d) cursor.query) = (.ok page, cursor')) :
    (searchTurn caller name k.slot turn fun d => k.source (k.seen d)).outcome d =
      (.ok page, { d with sessions := d.sessions.keep caller.key (some cursor') }) := by
  refine outcome_bind_eq_ok.2 ⟨_, _, outcome_admin_eq_ok.2 ⟨hadmin, rfl, rfl⟩, ?_⟩
  refine outcome_bind_eq_ok.2 ⟨_, _, outcome_expect_eq_ok.2 ⟨hcursor, rfl⟩, ?_⟩
  rw [outcome_get_bind, hmove]
  refine outcome_bind_eq_ok.2 ⟨_, _, outcome_keepCursor caller.key (some cursor'), ?_⟩
  exact outcome_ofStorage_eq_ok.2 ⟨rfl, rfl⟩

theorem outcome_searchTurn_of_none {caller : Session} {name : String} {turn : Turn}
    (hadmin : caller.admin = true) (hcursor : k.slot.get caller.cursors = none) :
    (searchTurn caller name k.slot turn fun d => k.source (k.seen d)).outcome d =
      (.error (.fault (.searchNotStarted name)), d) := by
  unfold searchTurn
  rw [outcome_bind, outcome_admin_eq_ok.2 ⟨hadmin, rfl, rfl⟩, hcursor]
  rfl

/-- **A search that is begun** shows what it would show if there had been none before it. -/
theorem ends_searchBegin_eq (R : Desk → Desk → Prop) [Desk.Lasting R] (d : Desk) (r : Request)
    (draw : Draw) (limits : PageLimits) (q : k.Terms) :
    Ends (fun reply d' => ∃ caller cursor page,
        Admitted r d.sessions d.tx.table.rows caller ∧ caller.admin = true ∧
        (Cursor.start q (limits.sizeFor (k.limit q))).move .stay (k.source (k.seen d) q) =
          (.ok page, cursor) ∧
        reply = k.reply page ∧
        d'.sessions = ((d.sessions.get caller.key r.now).2.keep caller.key
          (none : Option (Cursor k.Terms))).keep caller.key (some cursor))
      (fun halt d' => isConflict (.error halt) = false ∧ R d d') d
      (dispatch limits r draw (.searchBegin (k.query q))) := by
  rw [dispatch_of_needsCaller limits r draw rfl]
  refine ends_bind ((ends_identify_eq (R := R) r _).imp ?_)
  rintro caller d₁ ⟨hadmitted, rfl⟩
  rw [SearchKind.carryOut_searchBegin]
  refine ends_map ?_
  cases hadmin : caller.admin with
  | false =>
    exact ends_of_error (outcome_bind_admin hadmin _)
      ⟨rfl, Desk.Lasting.used d caller.key r.now⟩
  | true =>
    -- what is stored can always be counted and read
    obtain ⟨page, cursor, hmove⟩ := SearchKind.move_source
      (Cursor.start q (limits.sizeFor (k.limit q))) .stay (k.seen d) q
    exact ends_of_ok
      (outcome_searchBegin hadmin (by rw [SearchKind.seen_sessions]; exact hmove))
      ⟨caller, cursor, page, hadmitted, hadmin, hmove, rfl, rfl⟩

/-- A page that is asked for next comes of the cursor that the caller's session has. If it has none,
that is what the caller is told. -/
theorem ends_searchTurn_eq (R : Desk → Desk → Prop) [Desk.Lasting R] (d : Desk) (r : Request)
    (draw : Draw) (limits : PageLimits) (k : SearchKind) (turn : Turn) :
    Ends (fun reply d' => ∃ caller cursor cursor' page,
        Admitted r d.sessions d.tx.table.rows caller ∧ caller.admin = true ∧
        k.slot.get caller.cursors = some cursor ∧
        cursor.move (.ofTurn turn) (k.source (k.seen d) cursor.query) = (.ok page, cursor') ∧
        reply = k.reply page ∧
        d'.sessions = (d.sessions.get caller.key r.now).2.keep caller.key (some cursor'))
      (fun halt d' => isConflict (.error halt) = false ∧ R d d' ∧
        ∀ caller, Admitted r d.sessions d.tx.table.rows caller → caller.admin = true →
          k.slot.get caller.cursors = none ∧ halt = .fault (.searchNotStarted (searchName k)) ∧
          d'.sessions = (d.sessions.get caller.key r.now).2) d
      (dispatch limits r draw (.searchTurn k turn)) := by
  rw [dispatch_of_needsCaller limits r draw rfl]
  refine ends_bind (m := session r) ⟨fun h => ?_, fun h => ?_⟩
  · obtain ⟨hadmitted, rfl⟩ := session_ok h
    rename_i caller
    have hused : R d _ := Desk.Lasting.used d caller.key r.now
    rw [SearchKind.carryOut_searchTurn]
    refine ends_map ?_
    cases hadmin : caller.admin with
    | false =>
      refine ends_of_error (outcome_bind_admin hadmin _)
        ⟨rfl, hused, fun other hother hotherAdmin => ?_⟩
      rw [hother.unique hadmitted, hadmin] at hotherAdmin
      cases hotherAdmin
    | true =>
      cases hcursor : k.slot.get caller.cursors with
      | none =>
        refine ends_of_error (outcome_searchTurn_of_none hadmin hcursor)
          ⟨rfl, hused, fun other hother _ => ?_⟩
        rw [hother.unique hadmitted]
        exact ⟨hcursor, rfl, rfl⟩
      | some cursor =>
        obtain ⟨page, cursor', hmove⟩ := SearchKind.move_source cursor (.ofTurn turn) (k.seen d)
          cursor.query
        exact ends_of_ok
          (outcome_searchTurn hadmin hcursor (by rw [SearchKind.seen_sessions]; exact hmove))
          ⟨caller, cursor, cursor', page, hadmitted, hadmin, hcursor, hmove, rfl, rfl⟩
  · obtain ⟨hlost, hkept, hnobody⟩ := (ends_session_eq (R := R) r).error h
    exact ⟨hlost, hkept, fun caller hadmitted => absurd hadmitted (hnobody caller)⟩

end Handling

/-! ## One command -/

namespace Service

variable {server : Service} {r : Request} {c : Command} {draws : Nat → Draw}
  {known : Option (Browse k)}

theorem undisturbed_close (done : Except Halt Reply × Desk) :
    done.2.sessions.Undisturbed k key (server.close done).sessions := keeps_close done

/-- Whatever is executed leaves a search alone that it is not about. -/
theorem undisturbed_execute (hlogin : c.kind.isLogin = false)
    (hother : searches? c = some k → r.session ≠ some key) :
    server.sessions.Undisturbed k key (server.execute r c draws).2.sessions := by
  refine keeps_execute (fun _ _ => rfl) hlogin fun other hsearch hkey cursor x => ?_
  refine SearchKind.get_set_of_ne ?_ cursor x.cursors
  rintro rfl
  exact hother hsearch hkey

theorem knows_execute_login (h : server.sessions.Knows k key known) (l : Login) :
    (server.execute r (.login l) draws).2.sessions.Knows k key
      (Executed.extend k key known
        ⟨server, r, .login l, (server.execute r (.login l) draws).1⟩) := by
  rcases execute_login server r l draws with ⟨reply, d', hlogs, he⟩ | ⟨halt, d', hturns, he⟩
  · obtain ⟨account, hsessions, hchange⟩ := hlogs.session
    have hstarted : (Execution.ofOutcome r d'.effects (.ok reply)).session =
        some (.started ⟨account.id, (draws 0).session⟩) := hchange
    have hwithout : (server.sessions.without r.session).Knows k key known :=
      h.undisturbed (Sessions.undisturbed_without r.session)
    rw [he]
    refine Sessions.Knows.undisturbed ?_ (undisturbed_close _)
    simp only [Executed.extend, hstarted]
    rw [show d'.sessions = _ from hsessions]
    by_cases hkey : (⟨account.id, (draws 0).session⟩ : SessionKey) = key
    · subst hkey
      rw [if_pos rfl]
      exact hwithout.create account.name account.admin
    · rw [if_neg (by simpa using hkey)]
      exact hwithout.undisturbed (Sessions.undisturbed_create hkey _ _)
  · rw [he]
    refine Sessions.Knows.undisturbed ?_ (undisturbed_close _)
    rw [hturns.sessions]
    exact h

theorem servedIn_ok (hkey : r.session = some key) (effects : Effects) (reply : Reply) :
    Executed.servedIn ⟨server, r, c, .ofOutcome r effects (.ok reply)⟩ key = true :=
  beq_iff_eq.2 hkey

theorem servedIn_error (effects : Effects) (halt : Halt) :
    Executed.servedIn ⟨server, r, c, .ofOutcome r effects (.error halt)⟩ key = false := rfl

theorem seen_desk (server : Service) :
    k.seen (server.desk server.store.begin) = k.stored server.store :=
  SearchKind.seen_begin rfl rfl

/-- How it is answered that a search is begun. -/
theorem execute_searchBegin (R : Desk → Desk → Prop) [Desk.Lasting R] (server : Service)
    (r : Request) (draws : Nat → Draw) (q : k.Terms) :
    (∃ caller cursor page d',
      Handling.Admitted r server.sessions server.store.table.rows caller ∧
      (Cursor.start q (server.limits.sizeFor (k.limit q))).move .stay
        (k.source (k.stored server.store) q) = (.ok page, cursor) ∧
      d'.sessions = ((server.sessions.get caller.key r.now).2.keep caller.key
        (none : Option (Cursor k.Terms))).keep caller.key (some cursor) ∧
      server.execute r (.searchBegin (k.query q)) draws =
        (.ofOutcome r d'.effects (.ok (k.reply page)), server.close (.ok (k.reply page), d'))) ∨
    (∃ halt d', R (server.desk server.store.begin) d' ∧
      server.execute r (.searchBegin (k.query q)) draws =
        (.ofOutcome r d'.effects (.error halt), server.close (.error halt, d'))) := by
  have hends := Handling.ends_searchBegin_eq R (server.desk server.store.begin) r (draws 0)
    server.limits q
  rw [seen_desk] at hends
  rcases execute_of_ends hends fun _ _ hend => hend.1 with
    ⟨reply, d', ⟨caller, cursor, page, hadmitted, -, hmove, rfl, hsessions⟩, he⟩ |
    ⟨halt, d', ⟨-, hkept⟩, he⟩
  · exact .inl ⟨caller, cursor, page, d', hadmitted, hmove, hsessions, he⟩
  · exact .inr ⟨halt, d', hkept, he⟩

/-- How it is answered that a page is asked for next. -/
theorem execute_searchTurn (R : Desk → Desk → Prop) [Desk.Lasting R] (server : Service)
    (r : Request) (draws : Nat → Draw) (k : SearchKind) (turn : Turn) :
    (∃ caller cursor cursor' page d',
      Handling.Admitted r server.sessions server.store.table.rows caller ∧ caller.admin = true ∧
      k.slot.get caller.cursors = some cursor ∧
      cursor.move (.ofTurn turn) (k.source (k.stored server.store) cursor.query) =
        (.ok page, cursor') ∧
      d'.sessions = (server.sessions.get caller.key r.now).2.keep caller.key (some cursor') ∧
      server.execute r (.searchTurn k turn) draws =
        (.ofOutcome r d'.effects (.ok (k.reply page)), server.close (.ok (k.reply page), d'))) ∨
    (∃ halt d', R (server.desk server.store.begin) d' ∧
      (∀ caller, Handling.Admitted r server.sessions server.store.table.rows caller →
        caller.admin = true →
        k.slot.get caller.cursors = none ∧
        halt = .fault (.searchNotStarted (Handling.searchName k)) ∧
        d'.sessions = (server.sessions.get caller.key r.now).2) ∧
      server.execute r (.searchTurn k turn) draws =
        (.ofOutcome r d'.effects (.error halt), server.close (.error halt, d'))) := by
  have hends := Handling.ends_searchTurn_eq R (server.desk server.store.begin) r (draws 0)
    server.limits k turn
  rw [seen_desk] at hends
  rcases execute_of_ends hends fun _ _ hend => hend.1 with
    ⟨reply, d', ⟨caller, cursor, cursor', page, hadmitted, hadmin, hcursor, hmove, rfl,
      hsessions⟩, he⟩ |
    ⟨halt, d', ⟨-, hkept, htold⟩, he⟩
  · exact .inl ⟨caller, cursor, cursor', page, d', hadmitted, hadmin, hcursor, hmove, hsessions, he⟩
  · exact .inr ⟨halt, d', hkept, htold, he⟩

theorem knows_execute_searchBegin (h : server.sessions.Knows k key known)
    (hkey : r.session = some key) (q : k.Terms) :
    (server.execute r (.searchBegin (k.query q)) draws).2.sessions.Knows k key
      (Executed.extend k key known ⟨server, r, .searchBegin (k.query q),
        (server.execute r (.searchBegin (k.query q)) draws).1⟩) := by
  rcases execute_searchBegin (fun d d' => d.sessions.Undisturbed k key d'.sessions) server r draws q
    with ⟨caller, cursor, page, d', hadmitted, hmove, hsessions, he⟩ | ⟨halt, d', hkept, he⟩
  · rw [he]
    refine Sessions.Knows.undisturbed ?_ (undisturbed_close (.ok (k.reply page), d'))
    obtain rfl : caller.key = key := Option.some.inj (hadmitted.key.symm.trans hkey)
    simp only [Executed.extend, SearchKind.terms?_query, servedIn_ok hkey, if_true]
    obtain rfl : cursor = (Browse.start q (server.limits.sizeFor (k.limit q))
        (k.stored server.store)).cursor := (congrArg Prod.snd hmove).symm
    rw [hsessions]
    exact Sessions.knows_keep (h.distinct.get.keep _) _
  · rw [he]
    refine (Sessions.Knows.undisturbed ?_ hkept).undisturbed
      (undisturbed_close (.error halt, d'))
    simp only [Executed.extend, SearchKind.terms?_query, servedIn_error, Bool.false_eq_true,
      if_false]
    exact h

theorem knows_execute_searchTurn (h : server.sessions.Knows k key known)
    (hkey : r.session = some key) (turn : Turn) :
    (server.execute r (.searchTurn k turn) draws).2.sessions.Knows k key
      (Executed.extend k key known ⟨server, r, .searchTurn k turn,
        (server.execute r (.searchTurn k turn) draws).1⟩) := by
  rcases execute_searchTurn (fun d d' => d.sessions.Undisturbed k key d'.sessions) server r draws k
    turn with ⟨caller, cursor, cursor', page, d', hadmitted, -, hcursor, hmove, hsessions, he⟩ |
      ⟨halt, d', hkept, -, he⟩
  · rw [he]
    refine Sessions.Knows.undisturbed ?_ (undisturbed_close (.ok (k.reply page), d'))
    obtain rfl : caller.key = key := Option.some.inj (hadmitted.key.symm.trans hkey)
    have hfound := h.found hadmitted.live
    rw [hcursor] at hfound
    obtain ⟨b, rfl, rfl⟩ := Option.map_eq_some_iff.1 hfound.symm
    rw [Browse.query_cursor] at hmove
    simp only [Executed.extend, servedIn_ok hkey, and_self, if_true, Option.map_some]
    obtain rfl : cursor' = (b.moved (.ofTurn turn) (k.stored server.store)).cursor := by
      rw [Browse.cursor_moved, hmove]
    rw [hsessions]
    exact Sessions.knows_keep h.distinct.get _
  · rw [he]
    refine (Sessions.Knows.undisturbed ?_ hkept).undisturbed
      (undisturbed_close (.error halt, d'))
    simp only [Executed.extend, servedIn_error, Bool.false_eq_true, and_false, if_false]
    exact h

/-- **One command** leaves in a session what is then known of its search. -/
theorem knows_execute (h : server.sessions.Knows k key known) :
    (server.execute r c draws).2.sessions.Knows k key
      (Executed.extend k key known ⟨server, r, c, (server.execute r c draws).1⟩) := by
  -- a login may begin the session anew; any other command matters as a step of the search only
  by_cases hsearch : searches? c = some k ∧ r.session = some key
  · obtain ⟨hsearch, hkey⟩ := hsearch
    cases c with
    | searchBegin query =>
      obtain ⟨q, rfl⟩ : ∃ q : k.Terms, k.query q = query := by
        obtain rfl := Option.some.inj hsearch
        exact SearchKind.exists_query query
      exact knows_execute_searchBegin h hkey q
    | searchTurn other turn =>
      obtain rfl : other = k := Option.some.inj hsearch
      exact knows_execute_searchTurn h hkey turn
    | _ => cases hsearch
  · cases hlogin : c.kind.isLogin with
    | true =>
      cases c with
      | login l => exact knows_execute_login h l
      | _ => cases hlogin
    | false =>
      have hother : searches? c = some k → r.session ≠ some key :=
        fun hkind hkey => hsearch ⟨hkind, hkey⟩
      rw [Executed.extend_of_not_concerns (Executed.not_concerns hlogin hother)]
      exact h.undisturbed (undisturbed_execute hlogin hother)

end Service

/-! ## First pages -/

theorem pageCount_pos (total : UInt64) (size : UInt32) : 0 < (pageCount total size).toNat := by
  rw [pageCount, UInt32.toNat_ofNat_of_lt' (Nat.lt_of_le_of_lt (Nat.min_le_left ..) (by decide))]
  exact Nat.lt_min.2 ⟨by decide, Nat.le_max_left ..⟩

/-- A search that has just been begun shows its first page. -/
theorem move_start {rows : k.Stored} {q : k.Terms} {size : UInt32} {all : List k.Row}
    (hserves : (k.source rows q).Serves all) :
    ((Cursor.start q size).move .stay (k.source rows q)).1 =
      .ok (pageAt all (Cursor.start q size).size 0) := by
  have hon : (Cursor.start q size).On q (Cursor.start q size).size 0 := ⟨rfl, rfl, rfl⟩
  have hpos := pageCount_pos (UInt64.ofNat all.length) (Cursor.start q size).size
  have hmove : (Cursor.start q size).move .stay (k.source rows q) = _ :=
    Cursor.move_of_serves hserves rfl (hon.settle hpos) hpos
  exact congrArg Prod.fst hmove

/-! ## Whole runs -/

namespace Sessions

variable {s : Sessions} {now : Nat}

/-- Using a session changes no cursor, neither its own nor another's. -/
theorem cursors_get (h : s.Distinct) {caller : Session}
    (hfound : (s.get caller.key now).1 = some caller) (other : SessionKey) :
    ((s.get caller.key now).2.find? other).map (·.cursors) =
      (s.find? other).map (·.cursors) := by
  rw [find?_get h]
  split
  · rename_i hother
    subst hother
    rw [hfound]
    rw [get_eq] at hfound
    obtain ⟨x, hx, hlook⟩ := Option.bind_eq_some_iff.1 hfound
    split at hlook
    · rw [hx, ← Option.some.inj hlook]
      rfl
    · cases hlook
  · rfl

end Sessions

namespace Service

variable {server : Service} {r : Request} {known : Option (Browse k)}

theorem knows_advanceAll (h : server.sessions.Knows k key known) (events : List Event) :
    (server.advanceAll events).sessions.Knows k key
      ((server.record events).foldl (Executed.extend k key) known) := by
  induction events generalizing server known with
  | nil => exact h
  | cons e rest ih =>
    cases e with
    | command r c draws => exact ih (knows_execute h)
    | sweep now => exact ih (h.undisturbed (Sessions.undisturbed_filtered _))

/-- What is answered to somebody who may turn pages. -/
theorem turn_of_knows {caller : Session} (h : server.sessions.Knows k caller.key known)
    (hadmitted : Handling.Admitted r server.sessions server.store.table.rows caller)
    (hadmin : caller.admin = true) (turn : Turn) (draws : Nat → Draw) :
    let done := server.execute r (.searchTurn k turn) draws
    (∀ b, known = some b → ∃ page, b.page (.ofTurn turn) (k.stored server.store) = .ok page ∧
      done.1.response = .success r.requestId (k.reply page)) ∧
    (known = none →
      done.1.response =
        .refused (Failure.ofFault r.requestId (.searchNotStarted (Handling.searchName k))).refusal ∧
      ∀ other, (done.2.sessions.find? other).map (·.cursors) =
        (server.sessions.find? other).map (·.cursors)) := by
  intro done
  have hfound := h.found hadmitted.live
  rcases execute_searchTurn (fun d d' => d.sessions.Undisturbed k caller.key d'.sessions) server r
    draws k turn with ⟨other, cursor, cursor', page, d', hother, -, hcursor, hmove, -, he⟩ |
      ⟨halt, d', -, htold, he⟩
  · obtain rfl : other = caller := hother.unique hadmitted
    rw [hfound] at hcursor
    obtain ⟨b, rfl, rfl⟩ := Option.map_eq_some_iff.1 hcursor
    rw [Browse.query_cursor] at hmove
    refine ⟨fun b' hb => ⟨page, ?_, ?_⟩, nofun⟩
    · cases hb
      exact congrArg Prod.fst hmove
    · simp only [done, he]
      rfl
  · obtain ⟨hnone, rfl, hsessions⟩ := htold caller hadmitted hadmin
    rw [hfound] at hnone
    rw [Option.map_eq_none_iff.1 hnone]
    refine ⟨nofun, fun _ => ⟨?_, fun other => ?_⟩⟩
    · simp only [done, he]
      rfl
    · have hafter : done.2.sessions = (server.sessions.get caller.key r.now).2 := by
        simp only [done, he]
        exact hsessions
      rw [hafter]
      exact Sessions.cursors_get h.distinct hadmitted.live other

/-- Pages are shown to nobody else. -/
theorem admitted_of_turn {turn : Turn} {draws : Nat → Draw} {id : RequestId} {reply : Reply}
    (h : (server.execute r (.searchTurn k turn) draws).1.response = .success id reply) :
    ∃ caller, Handling.Admitted r server.sessions server.store.table.rows caller ∧
      caller.admin = true := by
  rcases execute_searchTurn (fun d d' => d.sessions.Undisturbed k default d'.sessions) server r
    draws k turn with ⟨caller, _, _, _, _, hadmitted, hadmin, -⟩ | ⟨halt, d', -, -, he⟩
  · exact ⟨caller, hadmitted, hadmin⟩
  · rw [he] at h
    cases h

theorem first_page_of_begin {q : k.Terms} {draws : Nat → Draw} {id : RequestId} {reply : Reply}
    (h : (server.execute r (.searchBegin (k.query q)) draws).1.response = .success id reply) :
    ∃ all, (k.source (k.stored server.store) q).Serves all ∧
      reply = k.reply
        (pageAt all (Cursor.start q (server.limits.sizeFor (k.limit q))).size 0) := by
  obtain ⟨all, hserves⟩ := SearchKind.serves_source (k.stored server.store) q
  rcases execute_searchBegin (fun d d' => d.sessions.Undisturbed k default d'.sessions) server r
    draws q with ⟨_, cursor, page, d', -, hmove, -, he⟩ | ⟨halt, d', -, he⟩
  · rw [he] at h
    obtain ⟨-, rfl⟩ := Response.success.inj h
    have hpage := (congrArg Prod.fst hmove).symm.trans (move_start hserves)
    exact ⟨all, hserves, by rw [Except.ok.inj hpage]⟩
  · rw [he] at h
    cases h

/-- **Searches keep to themselves.** On a server that began without sessions, a page that is asked
for next is what the search alone makes of what is stored: of its terms, its page size and the moves
since it was last begun in that session. Whoever has not begun one is told so, and nothing comes of
it; a search that is begun shows its first page. All that was executed and does not concern the
search may as well not have been. -/
theorem searches_keep_to_themselves (hfresh : server.sessions.live = [])
    (events : List Service.Event) (k : SearchKind) (hkey : r.session = some key) :
    let history := server.record events
    let found := server.advanceAll events
    let rows := k.stored found.store
    (∀ caller turn draws,
      Handling.Admitted r found.sessions found.store.table.rows caller → caller.admin = true →
      let done := found.execute r (.searchTurn k turn) draws
      (∀ b, browsed k key history = some b → ∃ page, b.page (.ofTurn turn) rows = .ok page ∧
        done.1.response = .success r.requestId (k.reply page)) ∧
      (browsed k key history = none →
        done.1.response = .refused
          (Failure.ofFault r.requestId (.searchNotStarted (Handling.searchName k))).refusal ∧
        ∀ other, (done.2.sessions.find? other).map (·.cursors) =
          (found.sessions.find? other).map (·.cursors))) ∧
    (∀ turn draws id reply,
      (found.execute r (.searchTurn k turn) draws).1.response = .success id reply →
      ∃ caller, Handling.Admitted r found.sessions found.store.table.rows caller ∧
        caller.admin = true) ∧
    (∀ q draws id reply,
      (found.execute r (.searchBegin (k.query q)) draws).1.response = .success id reply →
      ∃ all, (k.source rows q).Serves all ∧
        reply = k.reply
          (pageAt all (Cursor.start q (found.limits.sizeFor (k.limit q))).size 0)) ∧
    browsed k key (history.filter (·.concerns k key)) = browsed k key history := by
  intro history found rows
  have hknows := knows_advanceAll (Sessions.knows_fresh k key hfresh) events
  refine ⟨fun caller turn draws hadmitted hadmin => ?_, fun _ _ _ _ => admitted_of_turn,
    fun _ _ _ _ => first_page_of_begin, browsed_filter k key history⟩
  obtain rfl : caller.key = key := Option.some.inj (hadmitted.key.symm.trans hkey)
  exact turn_of_knows hknows hadmitted hadmin turn draws

/-! ## Two searches at a time -/

def oneAPage : AccountQuery := { AccountQuery.standard with limit := 1 }

/-- A search of two accounts is begun, and another one in another session. -/
def twoSearches : List Event :=
  [administratorDoes none (.login ⟨"root", "correct horse"⟩) 11,
    administratorDoes none (.login ⟨"root", "correct horse"⟩) 12,
    administratorDoes firstSession
      (.userCreate ⟨"ada", "ada@example.org", "Ada", "lovelace1815", false⟩) 2,
    administratorDoes firstSession (.searchBegin (.accounts oneAPage)) 0,
    administratorDoes secondSession (.searchBegin (.accounts .standard)) 0]

theorem first_search_goes_on :
    let history := OpenService.sample.server.record twoSearches
    let found := OpenService.sample.server.advanceAll twoSearches
    ∃ b page, browsed .accounts firstSession history = some b ∧ b.size = 1 ∧
      b.page .next found.store.table.rows = .ok page ∧
      (found.execute (OpenService.sampleRequest firstSession) (.searchTurn .accounts .next)
        (fun _ => .quiet default default .made)).1.response =
          .success default (.userPage page) := by
  intro history found
  have hfresh : OpenService.sample.server.sessions.live = [] := rfl
  have hsession : (OpenService.sampleRequest firstSession).session = some firstSession := rfl
  obtain ⟨hturns, -⟩ := searches_keep_to_themselves hfresh twoSearches .accounts hsession
  have hlive : (found.sessions.get firstSession 5000).1.map (fun x => (x.key, x.admin)) =
      some (firstSession, true) := by decide +kernel
  have haccount : (found.store.table.rows.find? (·.id == OpenService.sampleAdmin)).map
      (·.activeBan? 5) = some none := by decide +kernel
  obtain ⟨caller, hlive, hcaller⟩ := Option.map_eq_some_iff.1 hlive
  obtain ⟨hkey, hadmin⟩ := Prod.mk.inj hcaller
  have hadmitted : Handling.Admitted (OpenService.sampleRequest firstSession) found.sessions
      found.store.table.rows caller := by
    refine ⟨congrArg some hkey.symm, ?_, ?_⟩
    · rw [hkey]
      exact hlive
    · rw [hkey]
      exact Option.map_eq_some_iff.1 haccount
  have hbrowsed : ((browsed .accounts firstSession history).map (·.size)) = some 1 := by
    decide +kernel
  obtain ⟨b, hb, hsize⟩ := Option.map_eq_some_iff.1 hbrowsed
  obtain ⟨hsome, -⟩ := hturns caller .next (fun _ => .quiet default default .made) hadmitted hadmin
  obtain ⟨page, hpage, hresponse⟩ := hsome b hb
  exact ⟨b, page, hb, hsize, hpage, hresponse⟩

end Service

end AcctAdmin.Server
