import AcctAdmin.Proofs.Command.Caller

/-!
# What ordinary callers learn

Somebody who is no administrator is answered from their session, their own account and the time;
nothing else that a server knows comes into it (`ordinaryAnswer`). The reason is the order in which
things are looked at: who is asking, whether their account may be used, whether they are an
administrator, and only then what the command is about.
-/

set_option autoImplicit false

namespace AcctAdmin.Server

open AcctAdmin.Protocol AcctAdmin.Text

namespace Handling

def accountGone : Fault := .authentication "account no longer exists"

/-- What ordinary callers are told for all that they may not do. -/
def administratorsOnly : Command → Fault
  | .userGet _ => .security "only administrators may view other accounts"
  | _ => .security "this command requires an administrator"

/-- What an ordinary caller is answered: the command, the caller's session, and the caller's own
account are all that matters. -/
def ordinaryAnswer (live : Bool) (principal : AccountId) (own : Option Account) (now : UInt64)
    (c : Command) : Except Fault Reply :=
  match objectionTo? c with
  | some fault => .error fault
  | none =>
    if live then
      match own with
      | none => .error accountGone
      | some account =>
        match account.activeBan? now with
        | some ban => .error (.banned ban)
        | none =>
          if c = .userGet principal then .ok (.user account.view)
          else .error (administratorsOnly c)
    else .error sessionExpired

/-- Whether a fault is the same for everybody. -/
def Impersonal (fault : Fault) : Prop :=
  fault ∈ [emptySearch, sessionExpired, accountGone,
    .security "only administrators may view other accounts",
    .security "this command requires an administrator"]

section Answer

variable {live : Bool} {principal : AccountId} {own : Option Account} {now : UInt64} {c : Command}

theorem impersonal_administratorsOnly (c : Command) : Impersonal (administratorsOnly c) := by
  cases c <;> simp [Impersonal, administratorsOnly]

/-- The one account that is shown is the caller's own. -/
theorem ordinaryAnswer_ok {reply : Reply}
    (h : ordinaryAnswer live principal own now c = .ok reply) :
    ∃ account, own = some account ∧ reply = .user account.view := by
  unfold ordinaryAnswer at h
  repeat' split at h
  all_goals cases h
  exact ⟨_, rfl, rfl⟩

/-- The one thing that is said of an account is why the caller's own is banned. -/
theorem ordinaryAnswer_error {fault : Fault}
    (h : ordinaryAnswer live principal own now c = .error fault) :
    Impersonal fault ∨
      ∃ account ban, own = some account ∧ account.ban = some ban ∧ fault = .banned ban := by
  unfold ordinaryAnswer at h
  cases hobjection : objectionTo? c with
  | some found =>
    rw [hobjection] at h
    cases h
    rw [objectionTo?_eq_some hobjection]
    exact .inl (by simp [Impersonal])
  | none =>
    simp only [hobjection] at h
    cases live with
    | false =>
      cases h
      exact .inl (by simp [Impersonal])
    | true =>
      cases own with
      | none =>
        cases h
        exact .inl (by simp [Impersonal])
      | some account =>
        cases hban : account.activeBan? now with
        | some ban =>
          simp only [hban] at h
          cases h
          exact .inr ⟨account, ban, rfl, (Option.filter_eq_some_iff.1 hban).1, rfl⟩
        | none =>
          simp only [hban, if_true] at h
          split at h
          · cases h
          · cases h
            exact .inl (impersonal_administratorsOnly c)

/-- Nothing is written that could lose a race. -/
theorem not_conflict_ordinaryAnswer (live : Bool) (principal : AccountId) (own : Option Account)
    (now : UInt64) (c : Command) :
    isConflict ((ordinaryAnswer live principal own now c).mapError .fault) = false := by
  cases hanswer : ordinaryAnswer live principal own now c with
  | ok reply => rfl
  | error fault =>
    rcases ordinaryAnswer_error hanswer with himpersonal | ⟨account, ban, -, -, rfl⟩
    · simp only [Impersonal, List.mem_cons, List.not_mem_nil, or_false] at himpersonal
      rcases himpersonal with rfl | rfl | rfl | rfl | rfl <;> rfl
    · rfl

end Answer

variable {d : Desk} {r : Request} {caller : Session} {c : Command}

/-- What is done for an ordinary caller whose account may be used. -/
theorem outcome_carryOut_of_ordinary (limits : PageLimits) (draw : Draw)
    (hneeds : needsCaller c = true) (hadmin : caller.admin = false) {account : Account}
    (hown : d.tx.account? caller.key.principal = some account) :
    (carryOut limits r draw caller c).outcome d =
      (if c = .userGet caller.key.principal then .ok (.user account.view)
        else .error (.fault (administratorsOnly c)), d) := by
  -- all commands but one begin with asking whether the caller is an administrator
  have hrefused : ∀ {f : AccountId → Handling Reply},
      (admin caller >>= f).outcome d = (.error (.fault (administratorsOnly .logout)), d) :=
    outcome_bind_admin hadmin d
  have hsearch : ∀ {α : Type} {g : α → Reply} {f : AccountId → Handling α},
      (g <$> (admin caller >>= f)).outcome d =
        (.error (.fault (administratorsOnly .logout)), d) := by
    intro α g f
    rw [outcome_map, outcome_bind_admin hadmin d]
    rfl
  cases c with
  | login l => cases hneeds
  | logout => cases hneeds
  | userGet id =>
    by_cases hid : caller.key.principal = id
    · subst hid
      have hview : (userGet caller caller.key.principal).outcome d =
          (.ok (.user account.view), d) := by
        simp [userGet, forbid, existing, hown, expect]
      rw [if_pos rfl]
      exact hview
    · have hother : (userGet caller id).outcome d =
          (.error (.fault (administratorsOnly (.userGet id))), d) := by
        simp [userGet, forbid, hadmin, hid, administratorsOnly]
      rw [if_neg fun h => hid (by cases h; rfl)]
      exact hother
  | userCreate new => exact hrefused
  | userDelete id => exact hrefused
  | userBan id reason expires => exact hrefused
  | userUnban id => exact hrefused
  | searchBegin query => cases query <;> exact hsearch
  | searchTurn k turn => cases k <;> exact hsearch

/-- All that is done for an ordinary caller. -/
theorem outcome_dispatch_of_ordinary (limits : PageLimits) (draw : Draw)
    (hneeds : needsCaller c = true) {key : SessionKey} (hkey : r.session = some key)
    (hordinary : ∀ x, (d.sessions.get key r.now).1 = some x → x.admin = false) :
    ∃ sessions, (dispatch limits r draw c).outcome d =
      ((ordinaryAnswer (d.sessions.get key r.now).1.isSome key.principal
        (d.tx.account? key.principal) r.seconds c).mapError .fault,
        { d with sessions := sessions }) := by
  rw [dispatch_of_needsCaller limits r draw hneeds, outcome_bind]
  unfold ordinaryAnswer
  cases hobjection : objectionTo? c with
  | some fault =>
    rw [outcome_identify_of_objection hobjection]
    exact ⟨_, rfl⟩
  | none =>
    rw [outcome_identify hobjection]
    cases hlive : (d.sessions.get key r.now).1 with
    | none =>
      rw [outcome_session_of_absent hkey hlive]
      exact ⟨_, rfl⟩
    | some caller =>
      obtain ⟨y, -, -, hy, hcaller⟩ := Sessions.get_eq_some hlive
      have hprincipal : caller.key = key := by rw [hcaller]; exact hy
      cases hown : d.tx.account? key.principal with
      | none =>
        have hfault : sessionObjection? d.tx key.principal r.seconds = some accountGone := by
          simp only [sessionObjection?, hown]
          rfl
        rw [outcome_session_of_objection hkey hlive hfault]
        exact ⟨_, rfl⟩
      | some account =>
        cases hban : account.activeBan? r.seconds with
        | some ban =>
          have hfault : sessionObjection? d.tx key.principal r.seconds = some (.banned ban) := by
            simp [sessionObjection?, hown, hban]
          rw [outcome_session_of_objection hkey hlive hfault]
          refine ⟨((d.sessions.get key r.now).2.remove key).2, ?_⟩
          simp [hban, Except.mapError]
        | none =>
          have hadmitted : Admitted r d.sessions d.tx.table.rows caller := by
            subst hprincipal
            exact ⟨hkey, hlive, account, hown, hban⟩
          rw [session_of_admitted hadmitted]
          subst hprincipal
          have hdone := outcome_carryOut_of_ordinary (r := r) limits draw hneeds
            (d := { d with sessions := (d.sessions.get caller.key r.now).2 })
            (hordinary caller hlive) hown
          refine ⟨(d.sessions.get caller.key r.now).2, hdone.trans ?_⟩
          simp only [hban, Option.isSome_some, if_true]
          split <;> rfl

theorem outcome_logout {key : SessionKey} (hkey : r.session = some key) :
    ∃ sessions, (logout r).outcome d =
      (.ok .done, { d with
        sessions := sessions
        effects := { d.effects with session := some .ended } }) := by
  unfold logout
  rw [hkey]
  exact ⟨_, rfl⟩

end Handling

namespace Service

variable {r : Request} {c : Command} {key : SessionKey}

/-- How a command of an ordinary caller is executed. -/
def ordinaryExecution (r : Request) (live : Bool) (principal : AccountId) (own : Option Account) :
    Command → Execution
  | .logout => .ofOutcome r { Effects.none with session := some .ended } (.ok .done)
  | c => .ofOutcome r .none
      ((Handling.ordinaryAnswer live principal own r.seconds c).mapError .fault)

section Execution

variable {live : Bool} {principal : AccountId} {own : Option Account}

theorem ordinaryExecution_of_needsCaller (h : needsCaller c = true) :
    ordinaryExecution r live principal own c =
      .ofOutcome r .none
        ((Handling.ordinaryAnswer live principal own r.seconds c).mapError .fault) := by
  cases c with
  | logout => cases h
  | _ => rfl

theorem ordinaryExecution_success (hlogin : c.kind.isLogin = false) {id : RequestId} {reply : Reply}
    (h : (ordinaryExecution r live principal own c).response = .success id reply) :
    reply = .done ∨ ∃ account, own = some account ∧ reply = .user account.view := by
  cases hneeds : needsCaller c with
  | false =>
    cases c with
    | login l => cases hlogin
    | logout =>
      cases h
      exact .inl rfl
    | _ => cases hneeds
  | true =>
    rw [ordinaryExecution_of_needsCaller hneeds] at h
    cases hanswer : Handling.ordinaryAnswer live principal own r.seconds c with
    | error fault =>
      rw [hanswer] at h
      cases h
    | ok shown =>
      rw [hanswer] at h
      cases h
      exact .inr (Handling.ordinaryAnswer_ok hanswer)

theorem ordinaryExecution_refused {refusal : Refusal}
    (h : (ordinaryExecution r live principal own c).response = .refused refusal) :
    ∃ fault, refusal = (Failure.ofFault r.requestId fault).refusal ∧
      (Handling.Impersonal fault ∨
        ∃ account ban, own = some account ∧ account.ban = some ban ∧ fault = .banned ban) := by
  cases hanswer : Handling.ordinaryAnswer live principal own r.seconds c with
  | ok shown =>
    cases c <;> simp only [ordinaryExecution, hanswer] at h <;> cases h
  | error fault =>
    refine ⟨fault, ?_, Handling.ordinaryAnswer_error hanswer⟩
    cases c <;> simp only [ordinaryExecution, hanswer] at h <;> cases h <;> rfl

end Execution

theorem execute_of_ordinary (server : Service) (draws : Nat → Draw) (hkey : r.session = some key)
    (hlogin : c.kind.isLogin = false)
    (hordinary : ∀ x, (server.sessions.get key r.now).1 = some x → x.admin = false) :
    (server.execute r c draws).1 =
        ordinaryExecution r (server.sessions.get key r.now).1.isSome key.principal
          (server.store.begin.account? key.principal) c ∧
      (server.execute r c draws).2.store = server.store := by
  cases hneeds : needsCaller c with
  | false =>
    obtain rfl : c = .logout := by
      cases c with
      | login l => cases hlogin
      | logout => rfl
      | _ => cases hneeds
    obtain ⟨sessions, hlogout⟩ := Handling.outcome_logout (d := server.desk server.store.begin) hkey
    have hrun : (Handling.dispatch server.limits r (draws 0) .logout).outcome
        (server.desk server.store.begin) = _ := hlogout
    rw [execute_of_outcome hrun rfl]
    exact ⟨rfl, store_close_of_begin rfl rfl _⟩
  | true =>
    obtain ⟨sessions, hrun⟩ := Handling.outcome_dispatch_of_ordinary
      (d := server.desk server.store.begin) server.limits (draws 0) hneeds hkey hordinary
    rw [execute_of_outcome hrun (Handling.not_conflict_ordinaryAnswer ..),
      ordinaryExecution_of_needsCaller hneeds]
    exact ⟨rfl, store_close_of_begin rfl rfl _⟩

/-- **Ordinary callers learn nothing of others.** Whatever two servers hold besides, if a session is
live on both or on neither and is not an administrator's, and its own account is the same on both,
then a command that is given with it, and does not log in, goes the same way on both and leaves what
is stored as it was. If it shows an account, that is the caller's own, and so is the ban that it
speaks of if it is refused for one; all other refusals are the same for everybody. -/
theorem ordinary_callers_learn_nothing {one other : Service} {draws draws' : Nat → Draw}
    (hkey : r.session = some key) (hlogin : c.kind.isLogin = false)
    (hsession : (one.sessions.get key r.now).1 = (other.sessions.get key r.now).1)
    (hordinary : ∀ x, (one.sessions.get key r.now).1 = some x → x.admin = false)
    (hown : one.store.begin.account? key.principal = other.store.begin.account? key.principal) :
    (one.execute r c draws).1 = (other.execute r c draws').1 ∧
      (one.execute r c draws).2.store = one.store ∧
      (other.execute r c draws').2.store = other.store ∧
      (∀ id reply, (one.execute r c draws).1.response = .success id reply →
        reply = .done ∨ ∃ account, one.store.begin.account? key.principal = some account ∧
          reply = .user account.view) ∧
      ∀ refusal, (one.execute r c draws).1.response = .refused refusal →
        ∃ fault, refusal = (Failure.ofFault r.requestId fault).refusal ∧
          (Handling.Impersonal fault ∨
            ∃ account ban, one.store.begin.account? key.principal = some account ∧
              account.ban = some ban ∧ fault = .banned ban) := by
  obtain ⟨hone, hstore⟩ := execute_of_ordinary one draws hkey hlogin hordinary
  obtain ⟨hother, hstore'⟩ := execute_of_ordinary other draws' hkey hlogin (hsession ▸ hordinary)
  rw [hone, hother, ← hsession, ← hown]
  exact ⟨rfl, hstore, hstore', fun _ _ => ordinaryExecution_success hlogin,
    fun _ => ordinaryExecution_refused⟩

def graceComes : List Event :=
  [administratorDoes firstSession
    (.userCreate ⟨"grace", "grace@example.org", "Grace", "cobol1959", false⟩) 3]

/-- Whether there is an account that she may not see is nothing that Ada is told. -/
theorem grace_is_not_given_away :
    let one := OpenService.sample.server.advanceAll adaLogsIn
    let other := one.advanceAll graceComes
    let r := OpenService.sampleRequest (some adasSession)
    let draws := fun _ => Draw.quiet default default .made
    one.store.begin.account? ⟨⟨3⟩⟩ = none ∧ (other.store.begin.account? ⟨⟨3⟩⟩).isSome = true ∧
      (one.sessions.get adasSession r.now).1.map (·.admin) = some false ∧
      (one.execute r (.userGet ⟨⟨3⟩⟩) draws).1 = (other.execute r (.userGet ⟨⟨3⟩⟩) draws).1 ∧
      (other.execute r (.userGet ⟨⟨3⟩⟩) draws).2.store = other.store := by
  intro one other r draws
  have hadmin : (one.sessions.get adasSession r.now).1.map (·.admin) = some false := by
    decide +kernel
  have hsession : (one.sessions.get adasSession r.now).1 =
      (other.sessions.get adasSession r.now).1 := by decide +kernel
  have hown : one.store.begin.account? adasSession.principal =
      other.store.begin.account? adasSession.principal := by decide +kernel
  have hordinary : ∀ x, (one.sessions.get adasSession r.now).1 = some x → x.admin = false := by
    intro x hx
    rw [hx] at hadmin
    exact Option.some.inj hadmin
  obtain ⟨hsame, -, hstore, -⟩ := @ordinary_callers_learn_nothing r (.userGet ⟨⟨3⟩⟩) adasSession
    one other draws draws rfl rfl hsession hordinary hown
  exact ⟨by decide +kernel, by decide +kernel, hadmin, hsame, hstore⟩

end Service

end AcctAdmin.Server
