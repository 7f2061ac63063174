import AcctAdmin.Proofs.Command.LoggingIn
import AcctAdmin.Proofs.Command.Revocation
import AcctAdmin.Proofs.Search.Cursors

/-!
# Reading a search among others

A reader who begins a search sees its first page, and each time that they turn to the next page they
see the one that follows, as long as there is one and what is found does not change. Nothing that
others do matters to this, unless they use the reader's session.
-/

set_option autoImplicit false

namespace AcctAdmin

open Server Protocol

/-! ## What is found -/

/-- What a search finds, in its order. -/
def SearchKind.listing : (k : SearchKind) → k.Stored → k.Terms → List k.Row
  | .accounts, rows, q =>
    (sortedBy (compareAccounts (AccountQuery.ordering q)) (rows.filter (matchesAccount q))).map
      (·.summary)
  | .accountsByEmail, rows, q =>
    (sortedBy (compareAccounts (EmailQuery.ordering q)) (rows.filter (matchesEmail q))).map
      (·.summary)
  | .audit, log, q => sortedBy (compareEvents (AuditQuery.ordering q)) (log.filter (matchesEvent q))

theorem SearchKind.serves_listing (k : SearchKind) (rows : k.Stored) (q : k.Terms) :
    (k.source rows q).Serves (k.listing rows q) := by
  cases k with
  | accounts => exact serves_ofRows ..
  | accountsByEmail => exact serves_ofRows ..
  | audit =>
    have hserves := serves_ofRows (matchesEvent q) (compareEvents (AuditQuery.ordering q)) id rows
    rwa [List.map_id] at hserves

namespace Query

/-- What is asked for, as the kind of search has it. -/
def terms : (query : Query) → query.kind.Terms
  | .accounts q => q
  | .accountsByEmail q => q
  | .audit q => q

@[simp] theorem query_terms (query : Query) : query.kind.query query.terms = query := by
  cases query <;> rfl

def listing (query : Query) (s : Store) : List query.kind.Row :=
  query.kind.listing (query.kind.stored s) query.terms

/-- Whether rows are what a search finds in a store: all that match, each as often as it is there,
and one before the other as the order allows. -/
def Answers (s : Store) : (query : Query) → List query.kind.Row → Prop
  | .accounts q, rows => ∃ found : List Account,
    found.Perm (s.table.rows.filter (q.Matches ·)) ∧
      found.Pairwise (InOrder AccountColumn.Less .id q.ordering) ∧ rows = found.map (·.summary)
  | .accountsByEmail q, rows => ∃ found : List Account,
    found.Perm (s.table.rows.filter (q.Matches ·)) ∧
      found.Pairwise (InOrder AccountColumn.Less .id q.ordering) ∧ rows = found.map (·.summary)
  | .audit q, rows => ∃ found : List AuditEvent, found.Perm (s.log.filter (q.Matches ·)) ∧
      found.Pairwise (InOrder AuditColumn.Less .id q.ordering) ∧ rows = found

/-- What a search lists is what it is to find. -/
theorem answers_listing (query : Query) (s : Store) : query.Answers s (query.listing s) := by
  cases query with
  | accounts q =>
    refine ⟨_, ?_, sorted_accounts q.ordering _, rfl⟩
    rw [← filter_of_matches matchesAccount_iff]
    exact sortedBy_perm ..
  | accountsByEmail q =>
    refine ⟨_, ?_, sorted_accounts q.ordering _, rfl⟩
    rw [← filter_of_matches matchesEmail_iff]
    exact sortedBy_perm ..
  | audit q =>
    refine ⟨_, ?_, sorted_events q.ordering _, rfl⟩
    rw [← filter_of_matches matchesEvent_iff]
    exact sortedBy_perm ..

/-- Nothing is found that is not stored. -/
theorem length_listing_le (query : Query) (s : Store) :
    (query.listing s).length ≤ s.table.rows.length + s.log.length := by
  have hanswers := query.answers_listing s
  cases query with
  | accounts q | accountsByEmail q =>
    obtain ⟨found, hperm, -, hrows⟩ := hanswers
    have hlength := (congrArg List.length hrows).trans (List.length_map _)
    exact (hlength.trans hperm.length_eq).trans_le
      (Nat.le_add_right_of_le (List.length_filter_le ..))
  | audit q =>
    obtain ⟨found, hperm, -, hrows⟩ := hanswers
    have hlength := congrArg List.length hrows
    exact (hlength.trans hperm.length_eq).trans_le
      (Nat.le_add_left_of_le (List.length_filter_le ..))

/-- How many rows a page of the search has room for. -/
def pageSize (limits : PageLimits) (query : Query) : UInt32 :=
  (Cursor.start query.terms (limits.sizeFor (query.kind.limit query.terms))).size

theorem one_le_pageSize (limits : PageLimits) (query : Query) : 1 ≤ query.pageSize limits := by
  unfold pageSize Cursor.start
  dsimp only
  split
  · exact UInt32.le_refl 1
  · rename_i h
    rw [UInt32.le_iff_toNat_le]
    exact Nat.one_le_iff_ne_zero.2 fun hzero => h (UInt32.toNat_inj.1 hzero)

end Query

namespace Server

variable {k : SearchKind} {key : SessionKey} {q : k.Terms} {rows : k.Stored} {all : List k.Row}
  {size : UInt32} {i : Nat}

/-! ## Cursors -/

namespace Browse

theorem on_start (n : UInt32) (hserves : (k.source rows q).Serves all) :
    (start q n rows).cursor.On q (Cursor.start q n).size 0 := by
  have hon : (Cursor.start q n).On q (Cursor.start q n).size 0 := ⟨rfl, rfl, rfl⟩
  have hpos := pageCount_pos (UInt64.ofNat all.length) (Cursor.start q n).size
  have hmove : (Cursor.start q n).move .stay (k.source rows q) = _ :=
    Cursor.move_of_serves hserves rfl (hon.settle hpos) hpos
  have hcursor : (start q n rows).cursor =
      ((Cursor.start q n).move .stay (k.source rows q)).2 := rfl
  rw [hcursor, hmove]
  exact hon.settle hpos

/-- Who turns to the next page sees it, and is on it. -/
theorem next_of_on {b : Browse k} (hon : b.cursor.On q size i)
    (hserves : (k.source rows q).Serves all)
    (hmore : i + 1 < (pageCount (UInt64.ofNat all.length) size).toNat) :
    b.page .next rows = .ok (pageAt all size (i + 1)) ∧
      (b.moved .next rows).cursor.On q size (i + 1) := by
  have hterms : b.terms = q := b.query_cursor.symm.trans hon.query
  have hsettled := hon.settle (Nat.lt_of_succ_lt hmore)
  have hcount : (b.cursor.settle (UInt64.ofNat all.length)).count =
      pageCount (UInt64.ofNat all.length) size := by
    rw [Cursor.settle, hon.size]
  have hnext := hsettled.next (by rwa [hcount])
  have hmove := Cursor.move_of_serves (c := b.cursor) hserves rfl hnext hmore
  rw [b.query_cursor] at hmove
  rw [cursor_moved, page, hmove]
  exact ⟨rfl, hnext⟩

end Browse

/-! ## Sessions -/

namespace Sessions

variable {s s' : Sessions} {now : Nat}

/-- Whether a session, if it is still there, is an administrator's. -/
structure Privileged (key : SessionKey) (s : Sessions) : Prop where
  distinct : s.Distinct
  admin : ∀ x, s.find? key = some x → x.admin = true

theorem Privileged.keeps (h : s.Privileged key) (hs : s.Keeps (·.admin) key s') :
    s'.Privileged key := by
  obtain ⟨hdistinct, hsame⟩ := hs h.distinct
  refine ⟨hdistinct, fun x' hx' => ?_⟩
  obtain ⟨x, hx, hadmin⟩ := hsame x' hx'
  exact hadmin.trans (h.admin x hx)

theorem Distinct.privileged (h : s.Distinct) (userName : String) :
    (s.create key userName true now).Privileged key := by
  refine ⟨h.create userName true, fun x hx => ?_⟩
  rw [find?_create h, if_pos rfl] at hx
  rw [← Option.some.inj hx]

theorem Privileged.found (h : s.Privileged key) {caller : Session}
    (hfound : (s.get key now).1 = some caller) : caller.admin = true := by
  rw [get_eq] at hfound
  obtain ⟨x, hx, hlook⟩ := Option.bind_eq_some_iff.1 hfound
  split at hlook
  · rw [← Option.some.inj hlook]
    exact h.admin x hx
  · cases hlook

/-- Whether a session, if it is still there, has so many pages of a search behind it. -/
def OnPage (key : SessionKey) (q : k.Terms) (size : UInt32) (i : Nat) (s : Sessions) : Prop :=
  ∃ b : Browse k, b.cursor.On q size i ∧ s.Knows k key (some b)

theorem OnPage.keeps (h : s.OnPage key q size i)
    (hs : s.Keeps (fun x => k.slot.get x.cursors) key s') : s'.OnPage key q size i := by
  obtain ⟨b, hon, hknows⟩ := h
  exact ⟨b, hon, hknows.undisturbed hs⟩

end Sessions

/-! ## Commands -/

namespace Service

variable {server : Service} {r : Request} {caller : Session} {draws : Nat → Draw}

/-- **A search that is begun** by somebody who may search shows its first page. -/
theorem begin_of_admitted (draws : Nat → Draw) (hdistinct : server.sessions.Distinct)
    (hadmitted : Handling.Admitted r server.sessions server.store.table.rows caller)
    (hadmin : caller.admin = true)
    (hfilled : Handling.objectionTo? (.searchBegin (k.query q)) = none)
    (hserves : (k.source (k.stored server.store) q).Serves all)
    (hsize : (Cursor.start q (server.limits.sizeFor (k.limit q))).size = size) :
    let done := server.execute r (.searchBegin (k.query q)) draws
    done.1.response = .success r.requestId (k.reply (pageAt all size 0)) ∧
      done.2.sessions.OnPage caller.key q size 0 := by
  subst hsize
  intro done
  let size := (Cursor.start q (server.limits.sizeFor (k.limit q))).size
  let d := server.desk server.store.begin
  let used := (server.sessions.get caller.key r.now).2
  let b : Browse k := Browse.start q (server.limits.sizeFor (k.limit q)) (k.stored server.store)
  have hmove : (Cursor.start q (server.limits.sizeFor (k.limit q))).move .stay
      (k.source (k.seen { d with sessions := used }) q) = (.ok (pageAt all size 0), b.cursor) := by
    rw [SearchKind.seen_sessions, seen_desk]
    exact Prod.ext (move_start hserves) rfl
  have hrun : (Handling.dispatch server.limits r (draws 0) (.searchBegin (k.query q))).outcome d =
      (.ok (k.reply (pageAt all size 0)), { d with
        sessions := (used.keep caller.key (none : Option (Cursor k.Terms))).keep caller.key
          (some b.cursor) }) := by
    rw [Handling.outcome_dispatch_of_admitted server.limits (draws 0) rfl hfilled hadmitted,
      SearchKind.carryOut_searchBegin]
    exact Handling.outcome_map_eq_ok.2 ⟨_, Handling.outcome_searchBegin hadmin hmove, rfl⟩
  have hdone : done = _ := execute_of_outcome hrun rfl
  refine ⟨by rw [hdone]; rfl, b, Browse.on_start _ hserves, ?_⟩
  rw [hdone]
  refine Sessions.Knows.undisturbed ?_ (undisturbed_close (.ok (k.reply (pageAt all size 0)), _))
  exact Sessions.knows_keep (hdistinct.get.keep _) b

/-- **Turning to the next page** shows the page that follows, if there is one. -/
theorem next_of_admitted (draws : Nat → Draw) (hon : server.sessions.OnPage caller.key q size i)
    (hadmitted : Handling.Admitted r server.sessions server.store.table.rows caller)
    (hadmin : caller.admin = true)
    (hserves : (k.source (k.stored server.store) q).Serves all)
    (hmore : i + 1 < (pageCount (UInt64.ofNat all.length) size).toNat) :
    let done := server.execute r (.searchTurn k .next) draws
    done.1.response = .success r.requestId (k.reply (pageAt all size (i + 1))) ∧
      done.2.sessions.OnPage caller.key q size (i + 1) := by
  intro done
  obtain ⟨b, hon, hknows⟩ := hon
  obtain ⟨hpage, hnext⟩ := Browse.next_of_on hon hserves hmore
  obtain ⟨hturn, -⟩ := turn_of_knows hknows hadmitted hadmin .next draws
  obtain ⟨page, hturned, hresponse⟩ := hturn b rfl
  obtain rfl := Except.ok.inj (hpage.symm.trans hturned)
  refine ⟨hresponse, b.moved .next (k.stored server.store), hnext, ?_⟩
  have hafter : (server.execute r (.searchTurn k .next) draws).2.sessions.Knows k caller.key _ :=
    knows_execute_searchTurn hknows hadmitted.key .next
  have hserved : Executed.servedIn ⟨server, r, .searchTurn k .next,
      (server.execute r (.searchTurn k .next) draws).1⟩ caller.key = true := by
    simp only [Executed.servedIn, hresponse, hadmitted.key, beq_self_eq_true]
  simp only [Executed.extend, hserved, and_self, if_true] at hafter
  exact hafter

/-- A login that is answered with an administrator's account has begun a session of theirs. -/
theorem login_of_administrator {l : Login} {id : RequestId} {account : AccountSummary}
    (hdistinct : server.sessions.Distinct) (hadmin : account.admin = true)
    (h : (server.execute r (.login l) draws).1.response = .success id (.loginOk account)) :
    let key : SessionKey := ⟨account.id, (draws 0).session⟩
    (server.execute r (.login l) draws).1.session = some (.started key) ∧
      (server.execute r (.login l) draws).2.sessions.Privileged key := by
  obtain ⟨a, -, -, he⟩ := execute_login_of_accepted draws (loginFault?_of_success h)
  rw [he] at h
  have hsummary : a.summary = account := by
    cases h
    rfl
  subst hsummary
  rw [he]
  refine ⟨rfl, ?_⟩
  have hadmin : a.admin = true := hadmin
  change Sessions.Privileged _ ((server.sessions.without r.session).create _ a.name a.admin r.now)
  rw [hadmin]
  exact (hdistinct.without r.session).privileged a.name

/-! ## Others -/

/-- Whether somebody else's command, or a sweep, has nothing to do with a session: the session is
not shown, and not begun anew. -/
def Event.Spares (key : SessionKey) (e : Event) : Prop :=
  ¬ e.Issues key.session ∧ ∀ r c draws, e = .command r c draws → r.session ≠ some key

/-- **A session keeps what it has** as long as others go about their own business. -/
theorem keeps_of_spares {α : Type} {f : Session → α}
    (hused : ∀ (x : Session) now, f { x with lastSeen := now } = f x)
    {events : List Event} (hspares : ∀ e ∈ events, e.Spares key) :
    server.sessions.Keeps f key (server.advanceAll events).sessions := by
  induction events generalizing server with
  | nil => exact .refl f key server.sessions
  | cons e rest ih =>
    obtain ⟨⟨hissued, hother⟩, hrest⟩ := List.forall_mem_cons.1 hspares
    refine Sessions.Keeps.trans ?_ (ih hrest)
    cases e with
    | sweep now => exact Sessions.keeps_filtered _
    | command r c draws =>
      cases hlogin : c.kind.isLogin with
      | false =>
        exact keeps_execute hused hlogin fun _ _ hkey => absurd hkey (hother r c draws rfl)
      | true =>
        cases c with
        | login l => exact keeps_execute_login fun n h => hissued ⟨n, h⟩
        | _ => cases hlogin

theorem limits_close (server : Service) (done : Except Halt Reply × Desk) :
    (server.close done).limits = server.limits := by
  rcases done with ⟨outcome, desk⟩
  cases outcome <;> rfl

/-- How many rows a page has is settled once and for all. -/
theorem limits_execute (server : Service) (r : Request) (c : Command) (draws : Nat → Draw) :
    (server.execute r c draws).2.limits = server.limits := by
  let R (server after : Service) : Prop := after.limits = server.limits
  have : Trans R R R := ⟨fun h h' => h'.trans h⟩
  refine execute_induction (R := R) fun server n => ?_
  rw [attempt_eq]
  exact limits_close server _

theorem limits_advanceAll (server : Service) (events : List Event) :
    (server.advanceAll events).limits = server.limits := by
  induction events generalizing server with
  | nil => rfl
  | cons e rest ih =>
    refine (ih _).trans ?_
    cases e with
    | command r c draws => exact limits_execute server r c draws
    | sweep now => rfl

end Service

end Server

end AcctAdmin
