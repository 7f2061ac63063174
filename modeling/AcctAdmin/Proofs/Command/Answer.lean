import AcctAdmin.Proofs.Command.Interleaving
import AcctAdmin.Proofs.Command.Effects
import AcctAdmin.Proofs.Protocol.Codec
import AcctAdmin.Proofs.Transaction.Uniqueness

/-!
# What a command is answered with

A command that is carried out is answered with the kind of reply that it is promised, and one that
stops short does so for a reason with a code that survives the wire: a fixed word, or a storage code
that looks like one. Neither depends on what the command finds on its desk, so that both hold for
every server, however commands are interleaved on it.
-/

set_option autoImplicit false

namespace AcctAdmin.Protocol

/-- Whether a response is one that a command of some kind may get: a reply of the kind promised, or
a refusal whose code survives the wire. -/
def Response.Suits (k : CommandKind) : Response → Prop
  | .success _ reply => reply.kind = k.replyKind
  | .refused refusal => refusal.code.Canonical

end AcctAdmin.Protocol

namespace AcctAdmin.Server

open AcctAdmin.Protocol

/-! ## Reasons that can be told -/

theorem Halt.Speakable.canonical {halt : Halt} (h : halt.Speakable) (id : RequestId) :
    (halt.failure id).code.Canonical := by
  rcases Halt.code_of_known h.known id with ⟨e, rfl, he⟩ | hnamed
  · rw [he]
    exact h
  · have hcanonical : ∀ code ∈ Code.named, Code.ofText code.text = code := by decide
    exact (Code.ofText_text_eq_iff _).1 (hcanonical _ hnamed)

section Store

variable {tx : Transaction} {s : Store} {e : StorageError}

/-- A write that is refused is refused with a storage code. -/
theorem code_of_attempt {w : Write} (h : w.attempt tx s = .error e) :
    Code.isStorageCode e.code = true := by
  have hconflict : Code.isStorageCode StorageError.conflict.code = true := by decide
  cases w with
  | insert new =>
    rcases Transaction.insert_eq_error h with hduplicate | ⟨-, rfl⟩
    · obtain ⟨constraint, value, rfl, -⟩ := Transaction.duplicate?_eq_some hduplicate
      show Code.isStorageCode StorageError.uniqueViolation = true
      decide
    · exact hconflict
  | delete id =>
    simp only [Write.attempt, Transaction.delete] at h
    split at h
    · cases h
    · split at h
      · rename_i hmodify
        rw [← Except.error.inj h, Transaction.modify_error hmodify]
        exact hconflict
      · cases h
  | setBan id ban =>
    simp only [Write.attempt, Transaction.setBan] at h
    split at h
    · rw [← Except.error.inj h]
      show Code.isStorageCode StorageError.noData = true
      decide
    · rw [Transaction.modify_error h]
      exact hconflict

end Store

/-- How a command may end. -/
def Told (c : Command) : Except Halt Reply → Prop
  | .ok reply => reply.kind = c.kind.replyKind
  | .error halt => halt.Speakable

namespace Handling

/-! ## Steps that can be told of -/

/-- Whatever it finds on its desk, the step comes to something of a kind, or stops short for a
reason that can be told. -/
def Comes {α : Type} (P : α → Prop) (m : Handling α) : Prop :=
  ∀ d, Ends (fun a _ => P a) (fun halt _ => halt.Speakable) d m

variable {α β : Type} {P : α → Prop} {Q : β → Prop} {m : Handling α} {f : α → Handling β}

theorem comes_bind (hm : Comes P m) (hf : ∀ a, P a → Comes Q (f a)) : Comes Q (m >>= f) := by
  intro d
  apply ends_bind
  exact (hm d).imp fun a d' ha => hf a ha d'

theorem comes_map {g : α → β} (hm : Comes P m) (hg : ∀ a, P a → Q (g a)) : Comes Q (g <$> m) := by
  intro d
  apply ends_map
  exact (hm d).imp fun a _ ha => hg a ha

theorem comes_get_bind {f : Desk → Handling β} (hf : ∀ d, Comes Q (f d)) : Comes Q (get >>= f) :=
  fun d => ends_get_bind (hf d d)

theorem comes_pure {a : α} (h : P a) : Comes P (pure a) := fun _ => ends_pure h

theorem comes_refuse {x : Fault} (h : (Halt.fault x).Speakable) : Comes P (refuse x) :=
  fun _ => ends_refuse h

theorem comes_modify (g : Desk → Desk) : Comes (fun _ => True) (modify g : Handling PUnit) :=
  fun _ => ends_modify trivial

theorem comes_forbid {p : Prop} [Decidable p] {x : Fault} (h : (Halt.fault x).Speakable) :
    Comes (fun _ => True) (forbid p x) :=
  fun _ => ends_forbid (fun _ => trivial) fun _ => h

theorem comes_objectTo {x : Option Fault}
    (h : ∀ fault, x = some fault → (Halt.fault fault).Speakable) :
    Comes (fun _ => True) (objectTo x) :=
  fun _ => ends_objectTo (fun _ => trivial) h

theorem comes_expect {x : Fault} {o : Option α} (h : (Halt.fault x).Speakable) :
    Comes (fun _ => True) (expect x o) :=
  fun _ => ends_expect (fun _ _ => trivial) fun _ => h

theorem comes_existing (id : AccountId) : Comes (fun _ => True) (existing id) :=
  fun _ => ends_existing (fun _ _ => trivial) trivial

theorem comes_admin (caller : Session) : Comes (fun _ => True) (admin caller) :=
  fun _ => ends_admin trivial fun _ => trivial

theorem comes_write {w : Write} : Comes (fun _ => True) (write w.attempt) :=
  fun _ => ends_write (fun _ _ _ => trivial) fun _ h => code_of_attempt h

theorem comes_remove (id : AccountId) : Comes (fun _ => True) (remove id) := by
  intro d
  refine ends_remove (fun _ _ _ _ => trivial) fun e h => ?_
  have hattempt : (Write.delete id).attempt d.tx d.store = .error e := by
    simp only [Write.attempt, h, Except.map]
  exact code_of_attempt hattempt

theorem comes_hash (draw : Draw) (password : String) :
    Comes (fun _ => True) (hash draw password) :=
  fun _ => ends_hash rfl trivial (fun _ => trivial) fun _ => trivial

theorem comes_lookUp (key : SessionKey) (now : Nat) : Comes (fun _ => True) (lookUp key now) :=
  fun _ => ends_lookUp fun _ _ => trivial

/-! ## Who is asking -/

variable {r : Request} {draw : Draw} {caller : Session}

theorem comes_session (r : Request) : Comes (fun _ => True) (session r) := by
  refine comes_bind (comes_expect trivial) fun key _ => ?_
  refine comes_bind (comes_lookUp key r.now) fun found _ => ?_
  refine comes_bind (comes_expect trivial) fun caller _ => ?_
  refine comes_get_bind fun d => ?_
  cases hobjection : sessionObjection? d.tx key.principal r.seconds with
  | none => exact comes_pure trivial
  | some fault =>
    refine comes_bind (comes_modify _) fun _ _ => ?_
    exact comes_refuse (sessionObjection?_speakable hobjection)

theorem comes_identify (r : Request) (c : Command) : Comes (fun _ => True) (identify r c) := by
  unfold identify
  split
  · exact comes_bind (comes_forbid trivial) fun _ _ => comes_session r
  · exact comes_session r

/-! ## Logging in and out -/

theorem comes_countAttempt (r : Request) : Comes (fun _ => True) (countAttempt r) :=
  fun _ => ends_countAttempt (fun _ => trivial) fun _ _ => trivial

theorem comes_beginSession (account : Account) :
    Comes (fun _ => True) (beginSession r draw account) :=
  fun _ => (ends_beginSession account).imp fun _ _ _ => trivial

theorem comes_login (l : Login) : Comes (·.kind = .loginOk) (login r draw l) := by
  refine comes_bind (comes_countAttempt r) fun _ _ => ?_
  refine comes_get_bind fun d => ?_
  refine comes_bind (comes_expect trivial) fun account _ => ?_
  refine comes_bind (comes_forbid trivial) fun _ _ => ?_
  refine comes_bind (comes_objectTo fun fault hfault => ?_) fun _ _ => ?_
  · obtain ⟨ban, -, rfl⟩ := Option.map_eq_some_iff.1 hfault
    trivial
  refine comes_bind (comes_modify _) fun _ _ => ?_
  exact comes_bind (comes_beginSession account) fun _ _ => comes_pure rfl

theorem comes_logout (r : Request) : Comes (·.kind = .done) (logout r) := by
  refine comes_bind (comes_expect trivial) fun key _ => ?_
  refine comes_bind (comes_lookUp key r.now) fun _ _ => ?_
  refine comes_bind (comes_modify _) fun _ _ => ?_
  exact comes_bind (comes_modify _) fun _ _ => comes_pure rfl

/-! ## Accounts -/

theorem comes_userCreate (new : NewAccount) :
    Comes (·.kind = .userCreated) (userCreate r draw caller new) := by
  refine comes_bind (comes_admin caller) fun actor _ => ?_
  refine comes_bind (comes_objectTo fun fault => objection?_speakable) fun _ _ => ?_
  refine comes_bind (comes_hash draw new.password) fun credential _ => ?_
  refine comes_bind (comes_write (w := .insert _)) fun _ _ => ?_
  refine comes_bind (comes_modify _) fun _ _ => ?_
  exact comes_bind (comes_modify _) fun _ _ => comes_pure rfl

theorem comes_userGet (id : AccountId) : Comes (·.kind = .user) (userGet caller id) := by
  refine comes_bind (comes_forbid trivial) fun _ _ => ?_
  exact comes_bind (comes_existing id) fun account _ => comes_pure rfl

theorem comes_userDelete (id : AccountId) : Comes (·.kind = .done) (userDelete r caller id) := by
  refine comes_bind (comes_admin caller) fun actor _ => ?_
  refine comes_bind (comes_forbid trivial) fun _ _ => ?_
  refine comes_bind (comes_remove id) fun found _ => ?_
  refine comes_bind (comes_expect trivial) fun removed _ => ?_
  refine comes_bind (comes_modify _) fun _ _ => ?_
  exact comes_bind (comes_modify _) fun _ _ => comes_pure rfl

theorem comes_userBan (id : AccountId) (reason : String) (expires : Option UInt64) :
    Comes (·.kind = .done) (userBan r caller id reason expires) := by
  refine comes_bind (comes_admin caller) fun actor _ => ?_
  refine comes_bind (comes_forbid trivial) fun _ _ => ?_
  refine comes_bind (comes_forbid trivial) fun _ _ => ?_
  refine comes_bind (comes_forbid trivial) fun _ _ => ?_
  refine comes_bind (comes_existing id) fun account _ => ?_
  refine comes_bind (comes_write (w := .setBan id _)) fun _ _ => ?_
  refine comes_bind (comes_modify _) fun _ _ => ?_
  exact comes_bind (comes_modify _) fun _ _ => comes_pure rfl

theorem comes_userUnban (id : AccountId) : Comes (·.kind = .done) (userUnban r caller id) := by
  refine comes_bind (comes_admin caller) fun actor _ => ?_
  refine comes_bind (comes_existing id) fun account _ => ?_
  refine comes_bind (comes_write (w := .setBan id none)) fun _ _ => ?_
  exact comes_bind (comes_modify _) fun _ _ => comes_pure rfl

/-! ## Searches -/

theorem comes_searchBegin {Query Row : Type} (slot : Slot Query) (query : Query) (size : UInt32)
    (source : Desk → Source Row)
    (h : ∀ d (c : Cursor Query) m, ∃ page, (c.move m (source d)).1 = .ok page) :
    Comes (fun _ => True) (searchBegin caller slot query size source) := by
  refine comes_bind (comes_admin caller) fun _ _ => ?_
  refine comes_bind (comes_modify _) fun _ _ => ?_
  refine comes_get_bind fun d => ?_
  obtain ⟨page, hpage⟩ := h d (.start query size) .stay
  simp only [hpage, ofStorage]
  refine comes_bind (P := fun _ => True) (comes_pure trivial) fun _ _ => ?_
  exact comes_bind (comes_modify _) fun _ _ => comes_pure trivial

theorem comes_searchTurn {Query Row : Type} (name : String) (slot : Slot Query) (turn : Turn)
    (source : Desk → Query → Source Row)
    (h : ∀ d query (c : Cursor Query) m, ∃ page, (c.move m (source d query)).1 = .ok page) :
    Comes (fun _ => True) (searchTurn caller name slot turn source) := by
  refine comes_bind (comes_admin caller) fun _ _ => ?_
  refine comes_bind (comes_expect trivial) fun cursor _ => ?_
  refine comes_get_bind fun d => ?_
  obtain ⟨page, hpage⟩ := h d cursor.query cursor (.ofTurn turn)
  simp only [hpage, ofStorage]
  exact comes_bind (comes_modify _) fun _ _ => comes_pure trivial

/-! ## All commands -/

/-- **Every command comes to the kind of reply that it is promised**, or stops short for a reason
that can be told. -/
theorem comes_carryOut (limits : PageLimits) (r : Request) (draw : Draw) (caller : Session)
    (c : Command) : Comes (·.kind = c.kind.replyKind) (carryOut limits r draw caller c) := by
  cases c with
  | login l => exact comes_login l
  | logout => exact comes_logout r
  | userCreate new => exact comes_userCreate new
  | userGet id => exact comes_userGet id
  | userDelete id => exact comes_userDelete id
  | userBan id reason expires => exact comes_userBan id reason expires
  | userUnban id => exact comes_userUnban id
  | searchBegin query =>
    cases query with
    | accounts q | accountsByEmail q | audit q =>
      refine comes_map (comes_searchBegin _ _ _ _ fun _ _ _ => ⟨_, rfl⟩) fun _ _ => rfl
  | searchTurn search turn =>
    cases search with
    | accounts | accountsByEmail | audit =>
      refine comes_map (comes_searchTurn _ _ _ _ fun _ _ _ _ => ⟨_, rfl⟩) fun _ _ => rfl

theorem comes_dispatch (limits : PageLimits) (r : Request) (draw : Draw) (c : Command) :
    Comes (·.kind = c.kind.replyKind) (dispatch limits r draw c) := by
  cases hneeds : needsCaller c with
  | false =>
    rw [dispatch_of_not_needsCaller limits r draw default hneeds]
    exact comes_carryOut limits r draw default c
  | true =>
    rw [dispatch_of_needsCaller limits r draw hneeds]
    exact comes_bind (comes_identify r c) fun caller _ => comes_carryOut limits r draw caller c

theorem Comes.told {c : Command} {m : Handling Reply} (h : Comes (·.kind = c.kind.replyKind) m)
    (d : Desk) : Told c (m.outcome d).1 := by
  cases hrun : m.outcome d with
  | mk outcome d' =>
    cases outcome with
    | ok reply => exact (h d).ok hrun
    | error halt => exact (h d).error hrun

end Handling

/-! ## One command by itself -/

theorem told_attempt (server : Service) (r : Request) (c : Command) (draw : Draw) :
    Told c (server.attempt r c draw).1 :=
  (Handling.comes_dispatch server.limits r draw c).told _

/-- However often a command is tried, it is the last attempt that is told of. -/
theorem told_run (r : Request) (c : Command) (draws : Nat → Draw) (left n : Nat)
    (server : Service) : Told c (Service.run r c draws left n server).1 := by
  induction left generalizing n server with
  | zero => exact told_attempt server r c (draws n)
  | succ left ih =>
    simp only [Service.run]
    split
    · exact ih _ _
    · exact told_attempt server r c (draws n)

theorem suits_of_told {c : Command} {outcome : Except Halt Reply} (r : Request)
    (effects : Effects) (h : Told c outcome) :
    (Execution.ofOutcome r effects outcome).response.Suits c.kind := by
  cases outcome with
  | ok reply => exact h
  | error halt => exact Halt.Speakable.canonical h r.requestId

theorem suits_execute (server : Service) (r : Request) (c : Command) (draws : Nat → Draw) :
    (server.execute r c draws).1.response.Suits c.kind :=
  suits_of_told r _ (told_run r c draws (maxAttempts - 1) 0 server)

/-! ## Any number of commands -/

/-- What has come of an attempt so far. -/
def Stage.outcome? : Stage → Option (Except Halt Reply)
  | .opened _ => none
  | .identified _ _ => none
  | .worked outcome _ _ => some outcome
  | .closed outcome _ => some outcome
  | .answered outcome _ => some outcome

namespace OpenCommand

variable {o o' : OpenCommand} {server server' : Service} {draw : Draw}

/-- Whether what has come of a command can be told. -/
def Tells (o : OpenCommand) : Prop :=
  ∀ outcome, o.stage.outcome? = some outcome → Told o.command outcome

theorem tells_of_none (h : o.stage.outcome? = none) : o.Tells := by
  intro outcome houtcome
  rw [h] at houtcome
  cases houtcome

theorem tells_of_some {outcome : Except Halt Reply} (h : o.stage.outcome? = some outcome)
    (htold : Told o.command outcome) : o.Tells := by
  intro outcome' houtcome
  obtain rfl := Option.some.inj (h.symm.trans houtcome)
  exact htold

theorem Tells.of_stage {stage : Stage} {outcome : Except Halt Reply} (h : o.Tells)
    (hst : o.stage = stage) (houtcome : stage.outcome? = some outcome) :
    Told o.command outcome := by
  apply h
  rw [hst]
  exact houtcome

/-- **A step keeps what can be told**: work is done as it is for a command by itself, and what came
of it is passed on. -/
theorem tells_step (h : o.Tells) (hnext : o.next server draw = some (o', server')) : o'.Tells := by
  cases advances_of_next hnext with
  | identified => exact tells_of_none rfl
  | unidentified hst hrun =>
    have hspeakable := (Handling.comes_identify o.request o.command _).error hrun
    exact tells_of_some rfl hspeakable
  | @worked tx caller outcome desk hst hrun =>
    have htold : Told o.command _ :=
      (Handling.comes_carryOut server.limits o.request draw caller o.command).told (server.desk tx)
    rw [hrun] at htold
    exact tells_of_some rfl htold
  | committed hst => exact tells_of_some rfl (h.of_stage hst rfl)
  | dropped hst => exact tells_of_some rfl (h.of_stage hst rfl)
  | again => exact tells_of_none rfl
  | answered hst => exact tells_of_some rfl (h.of_stage hst rfl)

end OpenCommand

namespace OpenService

variable {σ σ' : OpenService} {schedule : List ServiceStep} {n : Nat} {o : OpenCommand}

/-- Whether what has come of the commands on a server can be told. -/
def Tells (σ : OpenService) : Prop := ∀ n o, σ.commands n = some o → o.Tells

theorem Tells.put (h : σ.Tells) (ho : o.Tells) : (σ.put n o).Tells := by
  intro m u hm
  rcases put_commands hm with ⟨-, rfl⟩ | ⟨-, hold⟩
  · exact ho
  · exact h m u hold

theorem Begins.tells (h : Begins σ) : σ.Tells := by
  cases h <;> exact fun n o hn => nomatch hn

theorem tells_server_step {a : ServiceStep} (h : σ.Tells) (hs : σ.step a = some σ') : σ'.Tells := by
  cases a with
  | arrive n r c =>
    obtain ⟨-, rfl⟩ := step_arrive hs
    exact h.put (OpenCommand.tells_of_none rfl)
  | advance n account session hashing =>
    obtain ⟨o, o', server, hn, -, hnext, rfl⟩ := step_advance hs
    have ho' := OpenCommand.tells_step (h n o hn) hnext
    exact Tells.put (σ := ⟨server, σ.commands, σ.issued.issue account o.adds?⟩) h ho'
  | sweep now inUse =>
    cases hs
    exact h

theorem tells_run {σ₀ : OpenService} (hbegins : Begins σ₀) (hrun : σ₀.run schedule = some σ) :
    σ.Tells :=
  foldlM_induction hbegins.tells (fun _ _ _ _ h hs => tells_server_step h hs) hrun

/-- What commands are answered with suits them, in whatever order their steps are taken. -/
theorem suits_of_run {σ₀ : OpenService} (hbegins : Begins σ₀) (hrun : σ₀.run schedule = some σ)
    (hn : σ.commands n = some o) {ex : Execution} (hex : o.execution? = some ex) :
    ex.response.Suits o.command.kind := by
  obtain ⟨outcome, effects, hst, rfl⟩ := OpenCommand.answered_of_execution hex
  exact suits_of_told o.request _ ((tells_run hbegins hrun n o hn).of_stage hst rfl)

end OpenService

end AcctAdmin.Server
