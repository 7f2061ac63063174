import AcctAdmin.Proofs.Command.Classification
import AcctAdmin.Proofs.Command.Success

/-!
# What a command leaves to be done

A command that succeeds notes what it did, and leaves mail to be sent and sessions to be ended; how
much of each is settled by the command alone (`auditKind?`, `mailTo?`, `revokes?`). One that stops
short says why. Either way the sessions of others are as they were: a command uses, turns and ends
only the session that its caller presented, and begins one at most.
-/

set_option autoImplicit false

namespace AcctAdmin.Server

open AcctAdmin.Protocol AcctAdmin.Text

/-- What the audit log says that a command did. -/
def auditKind? : Command → Option String
  | .login _ => some "LOGIN"
  | .userCreate _ => some "USER_CREATED"
  | .userDelete _ => some "USER_DELETED"
  | .userBan .. => some "USER_BANNED"
  | .userUnban _ => some "USER_UNBANNED"
  | _ => none

/-- To whom a command sends a mail. -/
def mailTo? : Command → Option String
  | .userCreate new => some (trim new.email)
  | _ => none

/-- Whose sessions a command ends. -/
def revokes? : Command → Option AccountId
  | .userDelete id => some id
  | .userBan id _ _ => some id
  | _ => none

/-! ## The sessions of others -/

namespace Sessions

variable {own : Option SessionKey} {change : Option SessionChange} {s s' s'' : Sessions}

/-- All sessions are still there and as they were, but for one of a caller's own and one that began
instead. -/
def Spares (own : Option SessionKey) (change : Option SessionChange) (s s' : Sessions) : Prop :=
  ∀ x ∈ s.live, own ≠ some x.key → change ≠ some (.started x.key) → x ∈ s'.live

theorem Spares.refl (own : Option SessionKey) (change : Option SessionChange) (s : Sessions) :
    s.Spares own change s := fun _ hx _ _ => hx

theorem Spares.trans (h : s.Spares own change s') (h' : s'.Spares own change s'') :
    s.Spares own change s'' :=
  fun x hx hown hchange => h' x (h x hx hown hchange) hown hchange

theorem Spares.mono (h : s.Spares own none s') : s.Spares own change s' :=
  fun x hx hown _ => h x hx hown (by simp)

theorem spares_remove {key : SessionKey} (hown : own = some key) :
    s.Spares own change (s.remove key).2 := by
  intro x hx hother _
  refine List.mem_filter.2 ⟨hx, ?_⟩
  have hne : x.key ≠ key := fun h => hother (by rw [hown, h])
  simpa using hne

theorem spares_update {key : SessionKey} {f : Session → Session} (hown : own = some key) :
    s.Spares own change (s.update key f) := by
  intro x hx hother _
  have hne : x.key ≠ key := fun h => hother (by rw [hown, h])
  exact List.mem_map.2 ⟨x, hx, if_neg hne⟩

theorem spares_get {key : SessionKey} {now : Nat} (hown : own = some key) :
    s.Spares own change (s.get key now).2 := by
  unfold get
  cases hfound : s.find? key with
  | none => exact .refl own change s
  | some x =>
    by_cases hidle : s.isIdle now x = true
    · simp only [hidle, if_true]
      exact spares_remove hown
    · simp only [hidle, Bool.false_eq_true, if_false]
      exact spares_update hown

theorem spares_create {key : SessionKey} (s : Sessions) (name : String) (admin : Bool) (now : Nat)
    (hchange : change = some (.started key)) :
    s.Spares own change (s.create key name admin now) := by
  intro x hx _ hother
  have hne : x.key ≠ key := fun h => hother (by rw [hchange, h])
  exact List.mem_append_left _ (List.mem_filter.2 ⟨hx, by simpa using hne⟩)

end Sessions

/-! ## Two ways to end -/

/-- Whether a halt is of one of the kinds that commands stop short for. The kind that is left is for
codes that somebody else made up. -/
def Halt.Known : Halt → Prop
  | .fault (.other _ _) => False
  | _ => True

/-- Whether, on top of that, a storage error has a code of the form that storage codes have. -/
def Halt.Speakable : Halt → Prop
  | .fault (.storage e) => Code.isStorageCode e.code = true
  | .fault (.other _ _) => False
  | _ => True

theorem Halt.Speakable.known {halt : Halt} (h : halt.Speakable) : halt.Known := by
  cases halt with
  | panic payload => trivial
  | fault fault =>
    cases fault with
    | other code message => exact h
    | _ => trivial

/-- What a caller is told has the storage error's own code, or else a code that is a fixed word. -/
theorem Halt.code_of_known {halt : Halt} (h : halt.Known) (id : RequestId) :
    (∃ e, halt = .fault (.storage e) ∧ (halt.failure id).code = .storage e.code) ∨
      (halt.failure id).code ∈ Code.named := by
  cases halt with
  | panic payload => exact .inr (show Code.internal ∈ Code.named by decide)
  | fault fault =>
    obtain ⟨code, status, _, _, htold, htells⟩ := Failure.exists_tells id fault
    have hcode : (Halt.failure id (.fault fault)).code = code := htells.code
    rw [hcode]
    cases htold with
    | duplicate | storage => exact .inl ⟨_, rfl, rfl⟩
    | coded | uncoded => exact h.elim
    | _ => exact .inr (by decide)

/-- Nobody is told of a lost race when there was none. -/
theorem isConflict_of_code {halt : Halt} {id : RequestId} (h : halt.Known)
    (hcode : (halt.failure id).code.text = StorageError.serializationFailure) :
    isConflict (.error halt) = true := by
  rcases Halt.code_of_known h id with ⟨e, rfl, he⟩ | hnamed
  · rw [he] at hcode
    exact beq_iff_eq.2 hcode
  · have hnone : ∀ code ∈ Code.named, code.text ≠ StorageError.serializationFailure := by decide
    exact absurd hcode (hnone _ hnamed)

/-- How a command stops short. -/
structure Desk.Stops (own : Option SessionKey) (d : Desk) (halt : Halt) (d' : Desk) : Prop where
  known : halt.Known
  sessions : d.sessions.Spares own none d'.sessions

/-- How a command ends that is carried out. -/
structure Desk.Leaves (own : Option SessionKey) (c : Command) (d d' : Desk) : Prop where
  notes : d'.tx.notes.map (·.kind) = d.tx.notes.map (·.kind) ++ (auditKind? c).toList
  mail : d'.effects.mail.map (·.recipient) =
    d.effects.mail.map (·.recipient) ++ (mailTo? c).toList
  revoked : d'.effects.revoked = d.effects.revoked ++ (revokes? c).toList
  sessions : d.sessions.Spares own d'.effects.session d'.sessions

namespace Handling

variable {α : Type} {d d₀ : Desk} {r : Request} {draw : Draw} {caller : Session}
  {own : Option SessionKey}

theorem stops_of_eq {halt : Halt} (known : halt.Known) (h : d.sessions = d₀.sessions) :
    d₀.Stops own halt d := by
  refine ⟨known, ?_⟩
  rw [h]
  exact .refl own none d₀.sessions

/-! ## Who is asking -/

theorem sessionObjection?_speakable {tx : Transaction} {principal : AccountId} {now : UInt64}
    {fault : Fault} (h : sessionObjection? tx principal now = some fault) :
    (Halt.fault fault).Speakable := by
  unfold sessionObjection? at h
  cases hfound : tx.account? principal with
  | none =>
    simp only [hfound] at h
    cases h
    trivial
  | some account =>
    simp only [hfound] at h
    obtain ⟨ban, -, rfl⟩ := Option.map_eq_some_iff.1 h
    trivial

theorem ends_lookUp {Q : Option Session → Desk → Prop} {E : Halt → Desk → Prop} {key : SessionKey}
    {now : Nat}
    (h : ∀ d', d' = { d with sessions := (d.sessions.get key now).2 } →
      Q (d.sessions.get key now).1 d') :
    Ends Q E d (lookUp key now) :=
  ends_get_bind (ends_set_bind (ends_pure (h _ rfl)))

theorem ends_session (r : Request) :
    Ends (fun _ _ => True) (d.Stops r.session) d (session r) := by
  refine ends_bind (ends_expect (fun key hkey => ?_) fun _ => stops_of_eq trivial rfl)
  refine ends_bind (ends_lookUp fun d₁ hd₁ => ?_)
  have hused : d.sessions.Spares r.session none d₁.sessions := by
    rw [hd₁]
    exact Sessions.spares_get hkey
  refine ends_bind (ends_expect (fun caller _ => ?_) fun _ => ⟨trivial, hused⟩)
  refine ends_get_bind ?_
  cases hobjection : sessionObjection? d₁.tx key.principal r.seconds with
  | none => exact ends_pure trivial
  | some fault =>
    -- the session ends that the caller presented
    have hknown := (sessionObjection?_speakable hobjection).known
    refine ends_bind (ends_modify (ends_refuse ⟨hknown, ?_⟩))
    exact hused.trans (Sessions.spares_remove hkey)

theorem ends_identify (r : Request) (c : Command) :
    Ends (fun _ _ => True) (d.Stops r.session) d (identify r c) := by
  unfold identify
  split
  · exact ends_bind (ends_forbid (fun _ => ends_session r) fun _ => stops_of_eq trivial rfl)
  · exact ends_session r

/-! ## Logging in and out -/

theorem ends_countAttempt {Q : Unit → Desk → Prop} {E : Halt → Desk → Prop}
    (hok : ∀ attempts, Q () { d with attempts := attempts })
    (herror : ∀ attempts e, E (.fault (.tooManyAttempts e)) { d with attempts := attempts }) :
    Ends Q E d (countAttempt r) := by
  refine ends_get_bind ?_
  generalize d.attempts.check r.host r.now = checked
  rcases checked with ⟨verdict, attempts⟩
  refine ends_set_bind ?_
  cases verdict with
  | error e => exact ends_refuse (herror attempts e)
  | ok u => exact ends_pure (hok attempts)

/-- Beginning a session comes to an end that spares all others, and goes wrong in no way. -/
theorem ends_beginSession {E : Halt → Desk → Prop} (account : Account) :
    Ends (fun _ d' => d'.tx = d.tx ∧ d'.effects.mail = d.effects.mail ∧
        d'.effects.revoked = d.effects.revoked ∧
        d.sessions.Spares r.session d'.effects.session d'.sessions)
      E d (beginSession r draw account) := by
  have hcreate {s : Sessions} {key : SessionKey}
      (h : d.sessions.Spares r.session (some (.started key)) s) :=
    h.trans (s.spares_create account.name account.admin r.now rfl)
  refine ends_bind ?_
  cases hsession : r.session with
  | none =>
    refine ends_pure (ends_bind (ends_modify (ends_modify ⟨rfl, rfl, rfl, ?_⟩)))
    rw [hsession] at hcreate
    exact hcreate (.refl _ _ d.sessions)
  | some previous =>
    refine ends_modify (ends_bind (ends_modify (ends_modify ⟨rfl, rfl, rfl, ?_⟩)))
    rw [hsession] at hcreate
    exact hcreate (Sessions.spares_remove rfl)

theorem ends_login (l : Login) :
    Ends (fun _ => d.Leaves r.session (.login l)) (d.Stops r.session) d (login r draw l) := by
  refine ends_bind (ends_countAttempt (fun attempts => ?_) fun _ _ => stops_of_eq trivial rfl)
  refine ends_get_bind (ends_bind (ends_expect (fun account _ => ?_) fun _ =>
    stops_of_eq trivial rfl))
  refine ends_bind (ends_forbid (fun _ => ?_) fun _ => stops_of_eq trivial rfl)
  refine ends_bind (ends_objectTo (fun _ => ?_) fun fault hfault => ?_)
  · refine ends_bind (ends_modify (ends_bind ((ends_beginSession account).imp ?_)))
    rintro ⟨⟩ d' ⟨htx, hmail, hrevoked, hsessions⟩
    refine ends_pure ⟨?_, ?_, ?_, hsessions⟩
    · rw [htx]
      exact List.map_append
    · rw [hmail]
      exact (List.append_nil _).symm
    · rw [hrevoked]
      exact (List.append_nil _).symm
  · obtain ⟨ban, -, rfl⟩ := Option.map_eq_some_iff.1 hfault
    exact stops_of_eq trivial rfl

theorem ends_logout (r : Request) :
    Ends (fun _ => d.Leaves r.session .logout) (d.Stops r.session) d (logout r) := by
  refine ends_bind (ends_expect (fun key hkey => ?_) fun _ => stops_of_eq trivial rfl)
  refine ends_bind (ends_lookUp fun d₁ hd₁ => ?_)
  refine ends_bind (ends_modify (ends_bind (ends_modify (ends_pure ?_))))
  subst hd₁
  refine ⟨(List.append_nil _).symm, (List.append_nil _).symm, (List.append_nil _).symm, ?_⟩
  exact (Sessions.spares_get hkey).trans (Sessions.spares_remove hkey)

/-! ## Accounts -/

theorem leaves_of_eq {c : Command} {d' : Desk} (hsessions : d'.sessions = d.sessions)
    (hnotes : d'.tx.notes.map (·.kind) = d.tx.notes.map (·.kind) ++ (auditKind? c).toList)
    (hmail : d'.effects.mail.map (·.recipient) =
      d.effects.mail.map (·.recipient) ++ (mailTo? c).toList)
    (hrevoked : d'.effects.revoked = d.effects.revoked ++ (revokes? c).toList) :
    d.Leaves own c d' := by
  refine ⟨hnotes, hmail, hrevoked, ?_⟩
  rw [hsessions]
  exact .refl own _ d.sessions

theorem objection?_speakable {name email realName password : String} {fault : Fault}
    (h : objection? name email realName password = some fault) :
    (Halt.fault fault).Speakable := by
  unfold objection? at h
  repeat' split at h
  all_goals cases h
  all_goals trivial

theorem ends_userCreate (new : NewAccount) :
    Ends (fun _ => d.Leaves own (.userCreate new)) (d.Stops own) d
      (userCreate r draw caller new) := by
  have hstop {halt : Halt} {d' : Desk} (hknown : halt.Known) (h : d'.sessions = d.sessions) :
      d.Stops own halt d' := stops_of_eq hknown h
  refine ends_bind (ends_admin ?_ fun _ => hstop trivial rfl)
  refine ends_bind (ends_objectTo (fun _ => ?_) fun fault hfault =>
    hstop (objection?_speakable hfault).known rfl)
  refine ends_bind (ends_hash rfl ?_ (fun _ => hstop trivial rfl) fun _ => hstop trivial rfl)
  refine ends_bind (ends_write (fun tx s hinsert => ?_) fun _ _ => hstop trivial rfl)
  have hnotes : tx.notes = d.tx.notes := Write.attempt_notes (w := .insert _) hinsert
  refine ends_bind (ends_modify (ends_bind (ends_modify (ends_pure ?_))))
  refine leaves_of_eq rfl ?_ List.map_append (List.append_nil _).symm
  rw [← hnotes]
  exact List.map_append

theorem ends_userGet (id : AccountId) :
    Ends (fun _ => d.Leaves own (.userGet id)) (d.Stops own) d (userGet caller id) := by
  refine ends_bind (ends_forbid (fun _ => ?_) fun _ => stops_of_eq trivial rfl)
  refine ends_bind (ends_existing (fun account _ => ?_) (stops_of_eq trivial rfl))
  exact ends_pure (leaves_of_eq rfl (List.append_nil _).symm (List.append_nil _).symm
    (List.append_nil _).symm)

theorem ends_userDelete (id : AccountId) :
    Ends (fun _ => d.Leaves own (.userDelete id)) (d.Stops own) d (userDelete r caller id) := by
  refine ends_bind (ends_admin ?_ fun _ => stops_of_eq trivial rfl)
  refine ends_bind (ends_forbid (fun _ => ?_) fun _ => stops_of_eq trivial rfl)
  refine ends_bind (ends_remove (fun found tx s hdelete => ?_) fun _ _ => stops_of_eq trivial rfl)
  refine ends_bind (ends_expect (fun removed _ => ?_) fun _ => stops_of_eq trivial rfl)
  have hattempt : (Write.delete id).attempt d.tx d.store = .ok (tx, s) := by
    simp only [Write.attempt, hdelete, Except.map]
  have hnotes : tx.notes = d.tx.notes := Write.attempt_notes hattempt
  refine ends_bind (ends_modify (ends_bind (ends_modify (ends_pure ?_))))
  refine leaves_of_eq rfl ?_ (List.append_nil _).symm rfl
  rw [← hnotes]
  exact List.map_append

theorem ends_userBan (id : AccountId) (reason : String) (expires : Option UInt64) :
    Ends (fun _ => d.Leaves own (.userBan id reason expires)) (d.Stops own) d
      (userBan r caller id reason expires) := by
  refine ends_bind (ends_admin ?_ fun _ => stops_of_eq trivial rfl)
  refine ends_bind (ends_forbid (fun _ => ?_) fun _ => stops_of_eq trivial rfl)
  refine ends_bind (ends_forbid (fun _ => ?_) fun _ => stops_of_eq trivial rfl)
  refine ends_bind (ends_forbid (fun _ => ?_) fun _ => stops_of_eq trivial rfl)
  refine ends_bind (ends_existing (fun account _ => ?_) (stops_of_eq trivial rfl))
  refine ends_bind (ends_write (fun tx s hban => ?_) fun _ _ => stops_of_eq trivial rfl)
  have hnotes : tx.notes = d.tx.notes := Write.attempt_notes (w := .setBan id _) hban
  refine ends_bind (ends_modify (ends_bind (ends_modify (ends_pure ?_))))
  refine leaves_of_eq rfl ?_ (List.append_nil _).symm rfl
  rw [← hnotes]
  exact List.map_append

theorem ends_userUnban (id : AccountId) :
    Ends (fun _ => d.Leaves own (.userUnban id)) (d.Stops own) d (userUnban r caller id) := by
  refine ends_bind (ends_admin ?_ fun _ => stops_of_eq trivial rfl)
  refine ends_bind (ends_existing (fun account _ => ?_) (stops_of_eq trivial rfl))
  refine ends_bind (ends_write (fun tx s hban => ?_) fun _ _ => stops_of_eq trivial rfl)
  have hnotes : tx.notes = d.tx.notes := Write.attempt_notes (w := .setBan id none) hban
  refine ends_bind (ends_modify (ends_pure ?_))
  refine leaves_of_eq rfl ?_ (List.append_nil _).symm (List.append_nil _).symm
  rw [← hnotes]
  exact List.map_append

/-! ## Searches -/

/-- What a search leaves: another cursor in the caller's own session. -/
def Turns (own : Option SessionKey) (d d' : Desk) : Prop :=
  d'.tx = d.tx ∧ d'.effects = d.effects ∧ d.sessions.Spares own none d'.sessions

theorem leaves_of_turns {c : Command} {d' : Desk} (h : Turns own d d')
    (hnone : auditKind? c = none ∧ mailTo? c = none ∧ revokes? c = none) :
    d.Leaves own c d' := by
  obtain ⟨htx, heffects, hsessions⟩ := h
  obtain ⟨hkind, hmail, hrevokes⟩ := hnone
  refine ⟨?_, ?_, ?_, hsessions.mono⟩
  · rw [htx, hkind]
    exact (List.append_nil _).symm
  · rw [heffects, hmail]
    exact (List.append_nil _).symm
  · rw [heffects, hrevokes]
    exact (List.append_nil _).symm

theorem ends_searchBegin {Query Row : Type} (hown : own = some caller.key) (slot : Slot Query)
    (query : Query) (size : UInt32) (source : Desk → Source Row) :
    Ends (fun _ => Turns own d) (d.Stops own) d (searchBegin caller slot query size source) := by
  have hkeep {s : Sessions} {f : Session → Session} :
      s.Spares own none (s.update caller.key f) := Sessions.spares_update hown
  refine ends_bind (ends_admin ?_ fun _ => stops_of_eq trivial rfl)
  refine ends_bind (ends_modify (ends_get_bind ?_))
  refine ends_bind (ends_ofStorage (fun page _ => ?_) fun _ _ => ⟨trivial, hkeep⟩)
  exact ends_bind (ends_modify (ends_pure ⟨rfl, rfl, hkeep.trans hkeep⟩))

theorem ends_searchTurn {Query Row : Type} (hown : own = some caller.key) (name : String)
    (slot : Slot Query) (turn : Turn) (source : Desk → Query → Source Row) :
    Ends (fun _ => Turns own d) (d.Stops own) d (searchTurn caller name slot turn source) := by
  have hkeep {s : Sessions} {f : Session → Session} :
      s.Spares own none (s.update caller.key f) := Sessions.spares_update hown
  refine ends_bind (ends_admin ?_ fun _ => stops_of_eq trivial rfl)
  refine ends_bind (ends_expect (fun cursor _ => ?_) fun _ => stops_of_eq trivial rfl)
  refine ends_get_bind (ends_bind (ends_modify ?_))
  exact ends_ofStorage (fun page _ => ⟨rfl, rfl, hkeep⟩) fun _ _ => ⟨trivial, hkeep⟩

/-! ## All commands -/

/-- **What a command leaves is settled by the command**, and what it does not leave it does not
touch: nothing is left by one that stops short, and the sessions of others are spared. -/
theorem ends_carryOut (limits : PageLimits) (draw : Draw) (c : Command)
    (hcaller : needsCaller c = true → r.session = some caller.key) :
    Ends (fun _ => d.Leaves r.session c) (d.Stops r.session) d
      (carryOut limits r draw caller c) := by
  have hsearch {α : Type} {m : Handling α} {g : α → Reply} {c : Command}
      (hnone : auditKind? c = none ∧ mailTo? c = none ∧ revokes? c = none)
      (h : Ends (fun _ => Turns r.session d) (d.Stops r.session) d m) :
      Ends (fun _ => d.Leaves r.session c) (d.Stops r.session) d (g <$> m) :=
    ends_map (h.imp fun _ _ hturns => leaves_of_turns hturns hnone)
  cases c with
  | login l => exact ends_login l
  | logout => exact ends_logout r
  | userCreate new => exact ends_userCreate new
  | userGet id => exact ends_userGet id
  | userDelete id => exact ends_userDelete id
  | userBan id reason expires => exact ends_userBan id reason expires
  | userUnban id => exact ends_userUnban id
  | searchBegin search =>
    cases search <;> exact hsearch ⟨rfl, rfl, rfl⟩ (ends_searchBegin (hcaller rfl) ..)
  | searchTurn kind turn =>
    cases kind <;> exact hsearch ⟨rfl, rfl, rfl⟩ (ends_searchTurn (hcaller rfl) ..)

end Handling

end AcctAdmin.Server
