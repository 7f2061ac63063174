import AcctAdmin.Proofs.Protocol.Codec
import AcctAdmin.Server.Failure

/-!
# What callers are told of a fault

The kind of a fault settles the code and the status under which the caller is told of it, and the
status settles who is to blame. Of a duplicate the caller reads other words than those of the
storage layer, which are kept for the log; of every other fault they read its own.
-/

set_option autoImplicit false

namespace AcctAdmin.Server

open AcctAdmin.Protocol

/-! ## The table -/

/-- Under which code and which status a caller is told of a fault. A fault that nothing better is
known of has the code that it brought along, if it brought one. -/
inductive Fault.ToldAs : Fault → Code → Nat → Prop
  | validity (message : String) (field : Option String) :
    ToldAs (.validity message field) .validity 400
  | security (message : String) : ToldAs (.security message) .security 403
  | duplicate {e : StorageError} (h : e.code = "23505") :
    ToldAs (.storage e) (.storage e.code) 400
  | storage {e : StorageError} (h : e.code ≠ "23505") : ToldAs (.storage e) (.storage e.code) 500
  | password (message : String) : ToldAs (.password message) .password 400
  | authentication (message : String) : ToldAs (.authentication message) .authentication 401
  | tooManyAttempts (error : TooManyAttempts) :
    ToldAs (.tooManyAttempts error) .rateLimitExceeded 429
  | banned (ban : Ban) : ToldAs (.banned ban) .banned 403
  | notFound (message : String) : ToldAs (.notFound message) .notFound 404
  | searchNotStarted (search : String) : ToldAs (.searchNotStarted search) .searchNotStarted 400
  | hashing (reason : String) : ToldAs (.hashing reason) .internal 500
  | coded (code : Code) (message : String) : ToldAs (.other (some code) message) code 500
  | uncoded (message : String) : ToldAs (.other none message) .internal 500

/-- The table has one line for each fault. -/
theorem Fault.ToldAs.unique {fault : Fault} {code code' : Code} {status status' : Nat}
    (h : fault.ToldAs code status) (h' : fault.ToldAs code' status') :
    code' = code ∧ status' = status := by
  cases h with
  | duplicate hcode =>
    cases h' with
    | duplicate => exact ⟨rfl, rfl⟩
    | storage hother => exact absurd hcode hother
  | storage hcode =>
    cases h' with
    | duplicate hother => exact absurd hother hcode
    | storage => exact ⟨rfl, rfl⟩
  | _ => cases h'; exact ⟨rfl, rfl⟩

/-- Whether a fault is that a record with the same key is there already. -/
def Fault.IsDuplicate (fault : Fault) : Prop := ∃ e, fault = .storage e ∧ e.code = "23505"

theorem StorageError.isDuplicate_iff {e : StorageError} :
    e.isDuplicate = true ↔ e.code = "23505" := beq_iff_eq

/-! ## Failures -/

namespace Failure

/-- What a failure says, its details and its remedy apart. -/
structure Tells (f : Failure) (id : RequestId) (code : Code) (status : Nat) (message : String)
    (cause : Option String) : Prop where
  requestId : f.requestId = id
  code : f.code = code
  status : f.status = status
  blame : f.blame = if 500 ≤ f.status then .server else .client
  message : f.message = message
  cause : f.cause = cause

variable {f : Failure} {id : RequestId} {code : Code} {status : Nat} {message : String}
  {cause : Option String}

theorem tells_plain (id : RequestId) (code : Code) (status : Nat) (message : String) :
    (plain id code status message).Tells id code status message none :=
  ⟨rfl, rfl, rfl, rfl, rfl, rfl⟩

theorem Tells.withAttribute (h : f.Tells id code status message cause) (name value : String) :
    (f.withAttribute name value).Tells id code status message cause :=
  ⟨h.requestId, h.code, h.status, h.blame, h.message, h.cause⟩

theorem Tells.withRemedy (h : f.Tells id code status message cause) (remedy : String) :
    (f.withRemedy remedy).Tells id code status message cause :=
  ⟨h.requestId, h.code, h.status, h.blame, h.message, h.cause⟩

theorem Tells.withCause (h : f.Tells id code status message cause) (words : String) :
    { f with cause := some words }.Tells id code status message (some words) :=
  ⟨h.requestId, h.code, h.status, h.blame, h.message, rfl⟩

theorem Tells.blame_eq_server (h : f.Tells id code status message cause) :
    f.blame = .server ↔ 500 ≤ f.status := by
  rw [h.blame]
  by_cases hstatus : 500 ≤ f.status <;> simp [hstatus]

theorem Tells.blame_eq_client (h : f.Tells id code status message cause) :
    f.blame = .client ↔ f.status < 500 := by
  rw [h.blame, ← Nat.not_le]
  by_cases hstatus : 500 ≤ f.status <;> simp [hstatus]

/-! ### Duplicates -/

theorem tells_ofDuplicate (id : RequestId) (e : StorageError) :
    (ofDuplicate id e).Tells id (.storage e.code) 400 (duplicateMessage e.constraint)
      (some e.message) := by
  obtain ⟨code, message, constraint⟩ := e
  have htold := (tells_plain id (.storage code) 400 (duplicateMessage constraint)).withCause message
  apply Tells.withRemedy
  cases constraint with
  | none => exact htold
  | some constraint => exact htold.withAttribute "constraint" constraint

/-- The words of the storage layer are kept for the log, and make no other difference. -/
theorem ofDuplicate_words (id : RequestId) (e : StorageError) (words : String) :
    ofDuplicate id { e with message := words } = { ofDuplicate id e with cause := some words } := by
  obtain ⟨code, message, constraint⟩ := e
  cases constraint <;> rfl

theorem ofFault_of_duplicate {e : StorageError} (h : e.code = "23505") (id : RequestId) :
    ofFault id (.storage e) = ofDuplicate id e := if_pos (StorageError.isDuplicate_iff.2 h)

/-! ### Faults -/

/-- A fault that is no duplicate is told in its own words. -/
theorem exists_tells_of_not_duplicate {fault : Fault} (h : ¬ fault.IsDuplicate) (id : RequestId) :
    ∃ code status, fault.ToldAs code status ∧
      (ofFault id fault).Tells id code status fault.message none := by
  -- each kind adds its details and its remedy, if it has any, to a failure that has neither
  cases fault with
  | validity message field =>
    refine ⟨_, _, .validity message field, ?_⟩
    cases field with
    | none => exact tells_plain ..
    | some field => exact ((tells_plain ..).withAttribute ..).withRemedy _
  | security message => exact ⟨_, _, .security message, tells_plain ..⟩
  | storage e =>
    have hcode : e.code ≠ "23505" := fun hcode => h ⟨e, rfl, hcode⟩
    refine ⟨_, _, .storage hcode, ?_⟩
    have hplain : ofFault id (.storage e) = plain id (.storage e.code) 500 e.message :=
      if_neg fun hduplicate => hcode (StorageError.isDuplicate_iff.1 hduplicate)
    rw [hplain]
    exact tells_plain ..
  | password message => exact ⟨_, _, .password message, (tells_plain ..).withRemedy _⟩
  | authentication message => exact ⟨_, _, .authentication message, (tells_plain ..).withRemedy _⟩
  | tooManyAttempts t =>
    exact ⟨_, _, .tooManyAttempts t, ((tells_plain ..).withAttribute ..).withRemedy _⟩
  | banned ban =>
    refine ⟨_, _, .banned ban, ?_⟩
    obtain ⟨reason, expires⟩ := ban
    cases expires with
    | none => exact ((tells_plain ..).withAttribute ..).withRemedy _
    | some expires =>
      exact (((tells_plain ..).withAttribute ..).withAttribute ..).withRemedy _
  | notFound message => exact ⟨_, _, .notFound message, tells_plain ..⟩
  | searchNotStarted search =>
    exact ⟨_, _, .searchNotStarted search, ((tells_plain ..).withAttribute ..).withRemedy _⟩
  | hashing reason => exact ⟨_, _, .hashing reason, tells_plain ..⟩
  | other code message =>
    cases code with
    | none => exact ⟨_, _, .uncoded message, tells_plain ..⟩
    | some code => exact ⟨_, _, .coded code message, tells_plain ..⟩

/-- Every fault is told under its code and its status. -/
theorem exists_tells (id : RequestId) (fault : Fault) :
    ∃ code status message cause, fault.ToldAs code status ∧
      (ofFault id fault).Tells id code status message cause := by
  by_cases h : fault.IsDuplicate
  · obtain ⟨e, rfl, hcode⟩ := h
    rw [ofFault_of_duplicate hcode]
    exact ⟨_, _, _, _, .duplicate hcode, tells_ofDuplicate id e⟩
  · obtain ⟨code, status, htold, htells⟩ := exists_tells_of_not_duplicate h id
    exact ⟨code, status, _, _, htold, htells⟩

/-- A storage error is the caller's to mend exactly if it is a duplicate. -/
theorem blame_ofFault_storage (id : RequestId) (e : StorageError) :
    (ofFault id (.storage e)).blame = .client ↔ e.code = "23505" := by
  obtain ⟨code, status, message, cause, htold, htells⟩ := exists_tells id (.storage e)
  rw [htells.blame_eq_client, htells.status]
  cases htold with
  | duplicate hcode => simp [hcode]
  | storage hcode => simp [hcode]

/-! ## On the wire -/

/-- A failure is always written, and it is read as it was exactly if its code is canonical. -/
theorem refusal_is_read (f : Failure) (g : Generation) :
    ∃ text, g.responseText (.refused f.refusal) = .ok text ∧
      (g.readResponse text.toUTF8 = .ok (.refused f.refusal) ↔ f.code.Canonical) := by
  obtain ⟨text, htext, hread⟩ := Generation.refusal_comes_back g f.refusal
  refine ⟨text, htext, ?_⟩
  have hcode : f.refusal.code = f.code := rfl
  rw [hread, hcode, ← Code.ofText_text_eq_iff]
  constructor
  · intro h
    exact congrArg Refusal.code (Response.refused.inj (Except.ok.inj h))
  · intro h
    rw [h]
    rfl

/-- **Faults are told by their kind.** The caller is told of a fault under the code and the status
that stand for its kind, with the request's own identifier; the server is to blame exactly from
status 500 on. Of the storage layer's errors only duplicates are the caller's to mend: they keep
their code, and the storage layer's own words go to the log and make no other difference. Every
other fault is told in its own words, and nothing is kept back. What is told comes back through
either generation exactly if its code is canonical. -/
theorem faults_are_told_by_kind (id : RequestId) (fault : Fault) :
    let f := ofFault id fault
    (∀ code status, fault.ToldAs code status ↔ f.code = code ∧ f.status = status) ∧
    f.requestId = id ∧
    (f.blame = .server ↔ 500 ≤ f.status) ∧
    (∀ e, fault = .storage e → (f.blame = .client ↔ e.code = "23505")) ∧
    (∀ e, fault = .storage e → e.code = "23505" →
      f.code = .storage e.code ∧ f.message = duplicateMessage e.constraint ∧
        f.cause = some e.message ∧
        ∀ words, ofFault id (.storage { e with message := words }) =
          { f with cause := some words }) ∧
    (¬ fault.IsDuplicate → f.message = fault.message ∧ f.cause = none) ∧
    ∀ g : Generation, ∃ text, g.responseText (.refused f.refusal) = .ok text ∧
      (g.readResponse text.toUTF8 = .ok (.refused f.refusal) ↔ f.code.Canonical) := by
  intro f
  obtain ⟨code, status, message, cause, htold, htells⟩ := exists_tells id fault
  refine ⟨?_, htells.requestId, htells.blame_eq_server, ?_, ?_, ?_, refusal_is_read f⟩
  · intro code' status'
    constructor
    · intro htold'
      obtain ⟨rfl, rfl⟩ := htold.unique htold'
      exact ⟨htells.code, htells.status⟩
    · rintro ⟨rfl, rfl⟩
      rwa [htells.code, htells.status]
  · rintro e rfl
    exact blame_ofFault_storage id e
  · rintro e rfl hcode
    have hf : f = ofDuplicate id e := ofFault_of_duplicate hcode id
    have htells := tells_ofDuplicate id e
    rw [hf]
    refine ⟨htells.code, htells.message, htells.cause, fun words => ?_⟩
    rw [ofFault_of_duplicate (e := { e with message := words }) hcode, ofDuplicate_words]
  · intro hother
    obtain ⟨_, _, -, htells⟩ := exists_tells_of_not_duplicate hother id
    exact ⟨htells.message, htells.cause⟩

/-- A caller who asks for a name that is taken is told so, and not in which words the storage layer
said it; one whose command ran into something unheard of is told all that there is to tell. -/
theorem taken_name_is_told_as_such :
    let taken := StorageError.duplicate "users_name_key" "ada"
    let told := ofFault default (.storage taken)
    let unheard := ofFault default (.other (some (.storage "XX000")) "boom")
    told.blame = .client ∧ told.message = "a user with this name already exists" ∧
      told.cause = some taken.message ∧
      (∀ words, ofFault default (.storage { taken with message := words }) =
        { told with cause := some words }) ∧
      (∃ text, generation10.responseText (.refused told.refusal) = .ok text ∧
        generation10.readResponse text.toUTF8 = .ok (.refused told.refusal)) ∧
      unheard.status = 500 ∧ unheard.message = "boom" ∧ unheard.cause = none := by
  intro taken told unheard
  obtain ⟨-, -, -, hblame, hduplicate, -, hwire⟩ :=
    faults_are_told_by_kind default (.storage taken)
  obtain ⟨htable, -, -, -, -, hother, -⟩ :=
    faults_are_told_by_kind default (.other (some (.storage "XX000")) "boom")
  obtain ⟨hcode, hmessage, hcause, hwords⟩ := hduplicate taken rfl rfl
  obtain ⟨text, htext, hread⟩ := hwire generation10
  have hcanonical : told.code.Canonical := by
    rw [hcode]
    exact (by decide : Code.isStorageCode "23505" = true)
  have hstatus := ((htable (.storage "XX000") 500).1 (.coded _ _)).2
  have hboom := hother (by rintro ⟨e, he, -⟩; cases he)
  exact ⟨(hblame taken rfl).2 rfl, hmessage, hcause, hwords,
    ⟨text, htext, hread.2 hcanonical⟩, hstatus, hboom⟩

end Failure

end AcctAdmin.Server
