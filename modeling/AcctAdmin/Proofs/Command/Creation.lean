import AcctAdmin.Proofs.Command.LoggingIn
import AcctAdmin.Proofs.Command.Revocation
import AcctAdmin.Proofs.Json.Size
import AcctAdmin.Proofs.Text.Pieces

/-!
# New accounts

Five things are asked of an account that an administrator creates, one after the other: a proper
name, address and real name, a password that is long enough, and that neither name nor address is
taken. The administrator is told of the first that is not so, and nothing is stored. Otherwise there
is one account more, and whoever has its name and its password can log in
(`accounts_are_created_as_asked`).
-/

set_option autoImplicit false

namespace AcctAdmin.Server

open AcctAdmin.Protocol AcctAdmin.Text

/-! ## What is asked of a new account -/

/-- A letter or a digit of ASCII, or one of three other characters. -/
def NameChar (c : Char) : Prop :=
  ('A' ≤ c ∧ c ≤ 'Z') ∨ ('a' ≤ c ∧ c ≤ 'z') ∨ ('0' ≤ c ∧ c ≤ '9') ∨ c = '.' ∨ c = '_' ∨ c = '-'

structure ProperName (name : String) : Prop where
  short : 1 ≤ name.toList.length ∧ name.toList.length ≤ 64
  chars : ∀ c ∈ name.toList, NameChar c

/-- Something before the first at sign, and a point after it. -/
def ProperAddress (email : String) : Prop :=
  ∃ before after, email.toList = before ++ '@' :: after ∧ '@' ∉ before ∧ before ≠ [] ∧ '.' ∈ after

/-- What is asked of a new account. -/
inductive Demand where
  | name | email | realName | password | unlike
deriving DecidableEq

/-- In the order in which a new account is looked at. -/
def Demand.all : List Demand := [.name, .email, .realName, .password, .unlike]

namespace Demand

/-- Whether a new account beside others is as it is asked to be. -/
def Met (rows : List Account) (new : NewAccount) : Demand → Prop
  | name => ProperName (trim new.name)
  | email => ProperAddress (trim new.email)
  | realName => trim new.realName ≠ ""
  | password => 8 ≤ new.password.toList.length
  | unlike => ∀ old ∈ rows, old.name ≠ trim new.name ∧
      sameUpToAsciiCase old.email (trim new.email) = false

/-- Whether a demand is the first that is not met. -/
def FirstUnmet (rows : List Account) (new : NewAccount) (k : Demand) : Prop :=
  ¬ k.Met rows new ∧ ∃ earlier later, all = earlier ++ k :: later ∧ ∀ j ∈ earlier, j.Met rows new

/-- Whether a fault says of a demand that it is not met: it names the field, or says how long a
password has to be, or names a constraint that an account in the table stands in the way of. -/
def ToldBy (rows : List Account) (new : NewAccount) (k : Demand) (fault : Fault) : Prop :=
  match k with
  | name =>
    fault = .validity "user name must be 1 to 64 characters" (some "name") ∨
    fault = .validity "user name may only contain letters, digits, '.', '_' and '-'" (some "name")
  | email => fault = .validity "email address is malformed" (some "email")
  | realName => fault = .validity "real name must not be empty" (some "real_name")
  | password => fault = .password "password must be at least 8 characters"
  | unlike => ∃ old ∈ rows,
      (old.name = trim new.name ∧
        fault = .storage (.duplicate "users_name_key" (trim new.name))) ∨
      (sameUpToAsciiCase old.email (trim new.email) = true ∧
        fault = .storage (.duplicate "users_email_key" (trim new.email)))

end Demand

/-- The account that is stored. -/
def newAccount (r : Request) (draw : Draw) (new : NewAccount) : Account :=
  ⟨draw.account, trim new.name, trim new.email, trim new.realName, new.admin, r.seconds,
    .ofPassword new.password, none⟩

/-! ## Looking at the fields -/

theorem NameChar.isAscii {c : Char} (h : NameChar c) : c.val ≤ 127 := by
  simp only [NameChar, Char.le_def, UInt32.le_iff_toNat_le] at h
  rw [UInt32.le_iff_toNat_le]
  have : 'Z'.val.toNat = 90 := rfl
  have : 'z'.val.toNat = 122 := rfl
  have : '9'.val.toNat = 57 := rfl
  have : (127 : UInt32).toNat = 127 := rfl
  rcases h with h | h | h | rfl | rfl | rfl
  · omega
  · omega
  · omega
  · decide
  · decide
  · decide

/-- A name of such characters has as many bytes as characters. -/
theorem utf8ByteSize_of_nameChars {s : String} (h : ∀ c ∈ s.toList, NameChar c) :
    s.utf8ByteSize = s.toList.length := by
  rw [← String.ofList_toList (s := s), String.utf8ByteSize_ofList, String.toList_ofList]
  generalize s.toList = cs at h
  induction cs with
  | nil => rfl
  | cons c cs ih =>
    obtain ⟨hfirst, hrest⟩ := List.forall_mem_cons.1 h
    rw [String.utf8Len_cons, List.length_cons, ih hrest,
      Char.utf8Size_eq_one_iff.2 hfirst.isAscii]

namespace Handling

theorem isNameChar_iff {c : Char} : isNameChar c = true ↔ NameChar c := by
  have hspan (low high : Char) : (decide (low ≤ c) && decide (c ≤ high)) = true ↔
      low ≤ c ∧ c ≤ high := by
    rw [Bool.and_eq_true, decide_eq_true_iff, decide_eq_true_iff]
  have hupper : c.isUpper = true ↔ 'A' ≤ c ∧ c ≤ 'Z' := decide_eq_true_iff
  have hlower : c.isLower = true ↔ 'a' ≤ c ∧ c ≤ 'z' := hspan 'a' 'z'
  have hdigit : c.isDigit = true ↔ '0' ≤ c ∧ c ≤ '9' := hspan '0' '9'
  have halpha : c.isAlpha = true ↔ c.isUpper = true ∨ c.isLower = true := Bool.or_eq_true_iff
  have halphanum : c.isAlphanum = true ↔ c.isAlpha = true ∨ c.isDigit = true := Bool.or_eq_true_iff
  simp only [isNameChar, NameChar, Bool.or_eq_true, halphanum, halpha, hupper, hlower, hdigit,
    beq_iff_eq, or_assoc]

/-- That a name is too long may be told of its bytes, but only if it has other characters. -/
theorem properName_iff {name : String} :
    ProperName name ↔
      ¬ (name.isEmpty = true ∨ maxNameLength < name.utf8ByteSize) ∧
        name.toList.all isNameChar = true := by
  have hall : name.toList.all isNameChar = true ↔ ∀ c ∈ name.toList, NameChar c := by
    simp only [List.all_eq_true, isNameChar_iff]
  have hempty : name.isEmpty = true ↔ name.toList.length = 0 := by
    rw [String.isEmpty_iff, List.length_eq_zero_iff, String.toList_eq_nil_iff]
  rw [hall, hempty]
  constructor
  · intro h
    refine ⟨?_, h.chars⟩
    rw [utf8ByteSize_of_nameChars h.chars]
    have hshort := h.short
    unfold maxNameLength
    omega
  · rintro ⟨hsize, hchars⟩
    rw [utf8ByteSize_of_nameChars hchars] at hsize
    refine ⟨?_, hchars⟩
    unfold maxNameLength at hsize
    omega

theorem isEmailAddress_iff {email : String} :
    isEmailAddress email = true ↔ ProperAddress email := by
  unfold isEmailAddress ProperAddress
  constructor
  · intro h
    split at h
    · rename_i before after hsplit
      obtain ⟨hemail, hfirst⟩ := splitOnce?_eq_some_iff.1 hsplit
      simp only [Bool.and_eq_true, Bool.not_eq_true', List.isEmpty_eq_false_iff,
        List.contains_iff_mem] at h
      exact ⟨before, after, hemail, hfirst, h.1, h.2⟩
    · cases h
  · rintro ⟨before, after, hemail, hfirst, hbefore, hafter⟩
    rw [splitOnce?_eq_some_iff.2 ⟨hemail, hfirst⟩]
    simp only [Bool.and_eq_true, Bool.not_eq_true', List.isEmpty_eq_false_iff,
      List.contains_iff_mem]
    exact ⟨hbefore, hafter⟩

theorem tooLong_eq :
    "user name must be 1 to " ++ decimal maxNameLength ++ " characters" =
      "user name must be 1 to 64 characters" := by
  decide

theorem tooShort_eq :
    "password must be at least " ++ decimal minPasswordLength ++ " characters" =
      "password must be at least 8 characters" := by
  decide

/-- What comes of looking at the fields: the first that is not as it is asked to be is told of. -/
theorem objection?_tells (rows : List Account) (new : NewAccount) :
    match objection? (trim new.name) (trim new.email) (trim new.realName) new.password with
    | some fault => ∃ k : Demand, k.FirstUnmet rows new ∧ k.ToldBy rows new fault
    | none => ∀ k ∈ [Demand.name, .email, .realName, .password], k.Met rows new := by
  rw [objection?, tooLong_eq, tooShort_eq]
  by_cases hsize : (trim new.name).isEmpty = true ∨ maxNameLength < (trim new.name).utf8ByteSize
  · rw [if_pos hsize]
    have hunmet : ¬ Demand.name.Met rows new := fun h => (properName_iff.1 h).1 hsize
    exact ⟨.name, ⟨hunmet, [], _, rfl, nofun⟩, .inl rfl⟩
  rw [if_neg hsize]
  cases hchars : (trim new.name).toList.all isNameChar with
  | false =>
    rw [if_pos (show (!false) = true from rfl)]
    have hunmet : ¬ Demand.name.Met rows new := fun h =>
      Bool.false_ne_true (hchars.symm.trans (properName_iff.1 h).2)
    exact ⟨.name, ⟨hunmet, [], _, rfl, nofun⟩, .inr rfl⟩
  | true =>
  have hname : Demand.name.Met rows new := properName_iff.2 ⟨hsize, hchars⟩
  rw [if_neg (show ¬ (!true) = true from nofun)]
  cases hemail : isEmailAddress (trim new.email) with
  | false =>
    rw [if_pos (show (!false) = true from rfl)]
    have hunmet : ¬ Demand.email.Met rows new := fun h =>
      Bool.false_ne_true (hemail.symm.trans (isEmailAddress_iff.2 h))
    exact ⟨.email, ⟨hunmet, [.name], _, rfl, List.forall_mem_singleton.2 hname⟩, rfl⟩
  | true =>
  have haddress : Demand.email.Met rows new := isEmailAddress_iff.1 hemail
  rw [if_neg (show ¬ (!true) = true from nofun)]
  have hearlier : ∀ k ∈ [Demand.name, .email], k.Met rows new :=
    List.forall_mem_cons.2 ⟨hname, List.forall_mem_singleton.2 haddress⟩
  by_cases hreal : (trim new.realName).isEmpty = true
  · rw [if_pos hreal]
    have hunmet : ¬ Demand.realName.Met rows new := fun h => h (String.isEmpty_iff.1 hreal)
    exact ⟨.realName, ⟨hunmet, [.name, .email], _, rfl, hearlier⟩, rfl⟩
  rw [if_neg hreal]
  have hrealName : Demand.realName.Met rows new := fun h => hreal (String.isEmpty_iff.2 h)
  have hearlier : ∀ k ∈ [Demand.name, .email, .realName], k.Met rows new :=
    List.forall_mem_append.2 ⟨hearlier, List.forall_mem_singleton.2 hrealName⟩
  by_cases hlength : new.password.toList.length < minPasswordLength
  · rw [if_pos hlength]
    have hunmet : ¬ Demand.password.Met rows new := fun h => Nat.not_lt.2 h hlength
    exact ⟨.password, ⟨hunmet, [.name, .email, .realName], _, rfl, hearlier⟩, rfl⟩
  rw [if_neg hlength]
  have hpassword : Demand.password.Met rows new := Nat.not_lt.1 hlength
  exact List.forall_mem_append.2 ⟨hearlier, List.forall_mem_singleton.2 hpassword⟩

/-! ## Adding the account -/

variable {r : Request} {draw : Draw}

/-- Beside accounts that have another identifier, only name and address can be taken. -/
theorem duplicate?_tells (rows : List Account) (new : NewAccount)
    (hfresh : ∀ old ∈ rows, old.id ≠ draw.account) :
    match Transaction.duplicate? (newAccount r draw new) rows with
    | some e => ¬ Demand.unlike.Met rows new ∧ Demand.unlike.ToldBy rows new (.storage e)
    | none => Demand.unlike.Met rows new := by
  unfold Transaction.duplicate?
  cases hfound : rows.findSome? (Transaction.clash? (newAccount r draw new)) with
  | some e =>
    obtain ⟨old, hold, hclash⟩ := List.exists_of_findSome?_eq_some hfound
    unfold Transaction.clash? at hclash
    split at hclash
    · rename_i hname
      refine ⟨fun h => (h old hold).1 hname, old, hold, .inl ⟨hname, ?_⟩⟩
      rw [← Option.some.inj hclash]
      rfl
    · split at hclash
      · rename_i hemail
        refine ⟨fun h => ?_, old, hold, .inr ⟨hemail, ?_⟩⟩
        · exact Bool.false_ne_true ((h old hold).2.symm.trans hemail)
        · rw [← Option.some.inj hclash]
          rfl
      · cases hclash
  | none =>
    have hother : rows.any (·.id == (newAccount r draw new).id) = false :=
      List.any_eq_false.2 fun old hold hid => hfresh old hold (eq_of_beq hid)
    simp only [hother, Bool.false_eq_true, if_false]
    intro old hold
    exact Transaction.clash?_eq_none.1 (List.findSome?_eq_none_iff.1 hfound old hold)

/-- **What comes of a creation**, where nobody else is at work: it is done just if all that is asked
for is so, and else the first demand that is not met is told of. -/
theorem ends_userCreate_eq {s : Store} {d : Desk} {caller : Session} {new : NewAccount}
    (hs : s.AtRest) (hd : d.Working s) (hquiet : ∀ s, draw.meanwhile s = s)
    (hmade : draw.hashing = .made) (hadmin : caller.admin = true)
    (hfresh : ∀ old ∈ d.tx.table.rows, old.id ≠ draw.account) :
    Ends (fun reply _ => reply = .userCreated draw.account ∧
        ∀ k : Demand, k.Met d.tx.table.rows new)
      (fun halt _ => ∃ (k : Demand) (fault : Fault), halt = .fault fault ∧
        k.FirstUnmet d.tx.table.rows new ∧ k.ToldBy d.tx.table.rows new fault)
      d (userCreate r draw caller new) := by
  refine ends_bind (ends_of_ok (outcome_admin_eq_ok.2 ⟨hadmin, rfl, rfl⟩) ?_)
  have htells := objection?_tells d.tx.table.rows new
  refine ends_bind (ends_objectTo (fun hnone => ?_) fun fault hfault => ?_)
  · rw [hnone] at htells
    refine ends_bind (ends_of_ok (outcome_hash_eq_ok.2 ⟨hmade, rfl, rfl⟩) ?_)
    have hhashed : Desk.Working s { d with
        store := draw.meanwhile d.store
        effects := { d.effects with hashed := d.effects.hashed + 1 } } :=
      hd.of_eq (hquiet d.store) rfl
    have hdistinct := duplicate?_tells (r := r) d.tx.table.rows new hfresh
    refine ends_bind (ends_write (fun tx store hok => ?_) fun e he => ?_)
    · have hunlike : Demand.unlike.Met d.tx.table.rows new := by
        cases hduplicate : Transaction.duplicate? (newAccount r draw new) d.tx.table.rows with
        | none => simpa only [hduplicate] using hdistinct
        | some e => cases (Transaction.insert_of_duplicate hduplicate).symm.trans hok
      refine ends_bind (ends_modify (ends_bind (ends_modify (ends_pure ⟨rfl, fun k => ?_⟩))))
      cases k with
      | unlike => exact hunlike
      | _ => exact htells _ (by simp)
    · rcases Transaction.insert_eq_error he with hduplicate | ⟨-, rfl⟩
      · have hduplicate : Transaction.duplicate? (newAccount r draw new) d.tx.table.rows = some e :=
          hduplicate
        rw [hduplicate] at hdistinct
        exact ⟨.unlike, _, rfl, ⟨hdistinct.1, _, [], rfl, htells⟩, hdistinct.2⟩
      · have hunlike := hhashed.attempt_error hs (w := .insert (newAccount r draw new)) he
        exact absurd hunlike (by decide)
  · rw [hfault] at htells
    obtain ⟨k, hfirst, htold⟩ := htells
    exact ⟨k, fault, rfl, hfirst, htold⟩

end Handling

/-! ## What becomes of an account -/

/-- Whether a command may end an account or shut it out. -/
def Service.Event.Strikes (id : AccountId) : Service.Event → Prop
  | .command _ c _ => revokes? c = some id
  | .sweep _ => False

/-- An account that is not banned stays as it is under all writes of a command that does not aim
at it. -/
theorem mem_replay {r : Request} {draw : Draw} {c : Command} {rows : List Account} {a : Account}
    (hban : a.ban = none) (hspared : revokes? c ≠ some a.id) (ha : a ∈ rows) :
    a ∈ Write.replay (writesOf r draw c) rows := by
  cases c with
  | userCreate new => exact List.mem_append_left _ ha
  | userDelete id =>
    have hother : a.id ≠ id := fun h => hspared (congrArg some h.symm)
    exact List.mem_filter.2 ⟨ha, by simpa using hother⟩
  | userBan id reason expires =>
    have hother : a.id ≠ id := fun h => hspared (congrArg some h.symm)
    exact List.mem_map.2 ⟨a, ha, if_neg hother⟩
  | userUnban id =>
    refine List.mem_map.2 ⟨a, ha, ?_⟩
    split
    · rw [← hban]
    · rfl
  | _ => exact ha

namespace Service

variable {server : Service} {r : Request} {draws : Nat → Draw} {new : NewAccount}

theorem mem_advanceAll {events : List Event} {a : Account} (hs : server.store.AtRest)
    (hquiet : ∀ e ∈ events, e.Quiet) (hban : a.ban = none)
    (hspared : ∀ e ∈ events, ¬ e.Strikes a.id) (ha : a ∈ server.store.table.rows) :
    a ∈ (server.advanceAll events).store.table.rows := by
  induction events generalizing server with
  | nil => exact ha
  | cons e rest ih =>
    obtain ⟨hfirst, hrest⟩ := List.forall_mem_cons.1 hquiet
    obtain ⟨hnot, hlater⟩ := List.forall_mem_cons.1 hspared
    refine ih (atRest_advance hs hfirst) hrest hlater ?_
    cases e with
    | sweep now => exact ha
    | command r c draws =>
      rcases execute_at_rest hs (hfirst 0) r c with ⟨_, _, -, he, -, hrows⟩ | ⟨_, _, -, he, hsame⟩
      · rw [advance, he, hrows]
        exact mem_replay hban hnot ha
      · rw [advance, he, hsame]
        exact ha

/-- Where a name is given once, only its password is needed. -/
theorem loginFault?_of_newAccount {draw : Draw} {r' : Request} {password : String}
    (hdistinct : Distinct server.store.table.rows)
    (ha : newAccount r draw new ∈ server.store.table.rows)
    (hadmitted : (server.attempts.check r'.host r'.now).1 = .ok ()) :
    server.loginFault? r' ⟨trim new.name, password⟩ =
      if new.password = password then none else some Handling.rejected := by
  have hfound : server.store.begin.accountByName? (trim new.name) = some (newAccount r draw new) :=
    (find?_key_eq_some hdistinct.names).2 ⟨ha, rfl⟩
  simp only [loginFault?, hadmitted, Handling.loginObjection?, hfound, newAccount,
    Credential.accepts, Account.activeBan?, beq_iff_eq, Option.filter_none, Option.map_none]

/-- What a creation comes to that is asked for by an administrator. -/
theorem execute_userCreate (hs : server.store.AtRest) (hquiet : ∀ s, (draws 0).meanwhile s = s)
    (hmade : (draws 0).hashing = .made) {caller : Session}
    (hadmitted : Handling.Admitted r server.sessions server.store.table.rows caller)
    (hadmin : caller.admin = true)
    (hfresh : ∀ old ∈ server.store.table.rows, old.id ≠ (draws 0).account) :
    let done := server.execute r (.userCreate new) draws
    ((∀ k : Demand, k.Met server.store.table.rows new) ∧
      done.1.response = .success r.requestId (.userCreated (draws 0).account) ∧
      done.2.store.AtRest ∧
      done.2.store.table.rows = server.store.table.rows ++ [newAccount r (draws 0) new]) ∨
    ∃ (k : Demand) (fault : Fault), k.FirstUnmet server.store.table.rows new ∧
      k.ToldBy server.store.table.rows new fault ∧
      done.1.response = .refused (Failure.ofFault r.requestId fault).refusal ∧
      done.2.store = server.store := by
  intro done
  have hworking : Desk.Working server.store { server.desk server.store.begin with
      sessions := (server.sessions.get caller.key r.now).2 } :=
    (Desk.Working.begin hs).of_eq rfl rfl
  have hdispatch : (Handling.dispatch server.limits r (draws 0) (.userCreate new)).outcome
      (server.desk server.store.begin) = _ :=
    Handling.outcome_dispatch_of_admitted server.limits (draws 0) rfl rfl hadmitted
  rcases execute_at_rest hs hquiet r (.userCreate new) with
    ⟨reply, d', hrun, he, hrest, hrows⟩ | ⟨halt, d', hrun, he, hsame⟩
  · obtain ⟨rfl, hmet⟩ :=
      (Handling.ends_userCreate_eq hs hworking hquiet hmade hadmin hfresh).ok
        (hdispatch.symm.trans hrun)
    simp only [done, he]
    exact .inl ⟨hmet, rfl, hrest, hrows⟩
  · obtain ⟨k, fault, rfl, hfirst, htold⟩ :=
      (Handling.ends_userCreate_eq hs hworking hquiet hmade hadmin hfresh).error
        (hdispatch.symm.trans hrun)
    simp only [done, he]
    exact .inr ⟨k, fault, hfirst, htold, rfl, hsame⟩

/-- **Accounts are created as asked.** On a server that is given one command after the other, an
administrator who has a session creates an account. It is done just if the trimmed name has between
1 and 64 letters, digits, points, underscores and dashes; the trimmed address has something before
its first at sign and a point behind it; there is something in the real name but blanks; the
password has 8 characters or more; and nobody has the trimmed name, or the trimmed address up to
ASCII case. If not, the first of these that is not so is told of, and nothing is stored. If so, the
table has one account more, under the identifier that was drawn for it, with the trimmed fields, the
rights that were given, and no ban. Other commands may follow: as long as none of them deletes or
bans the account, whoever logs in under the trimmed name from a host that has not tried too often
is let in with that password, and turned away with any other. -/
theorem accounts_are_created_as_asked {σ : OpenService} {before rest : List Event} {r : Request}
    {new : NewAccount} {draws : Nat → Draw} {caller : Session} (hstart : OpenService.Begins σ)
    (hquiet : ∀ e ∈ before ++ .command r (.userCreate new) draws :: rest, e.Quiet)
    (hadmitted : Handling.Admitted r (σ.server.advanceAll before).sessions
      (σ.server.advanceAll before).store.table.rows caller)
    (hadmin : caller.admin = true)
    (hmade : (draws 0).hashing = .made)
    (hfresh : ∀ old ∈ (σ.server.advanceAll before).store.table.rows, old.id ≠ (draws 0).account) :
    let found := σ.server.advanceAll before
    let rows := found.store.table.rows
    let done := found.execute r (.userCreate new) draws
    ((∃ id reply, done.1.response = .success id reply) ↔
      ProperName (trim new.name) ∧ ProperAddress (trim new.email) ∧ trim new.realName ≠ "" ∧
        8 ≤ new.password.toList.length ∧
        ∀ old ∈ rows, old.name ≠ trim new.name ∧
          sameUpToAsciiCase old.email (trim new.email) = false) ∧
    ((∀ id reply, done.1.response ≠ .success id reply) →
      ∃ (k : Demand) (fault : Fault), k.FirstUnmet rows new ∧ k.ToldBy rows new fault ∧
        done.1.response = .refused (Failure.ofFault r.requestId fault).refusal ∧
        done.2.store = found.store) ∧
    (∀ id reply, done.1.response = .success id reply →
      id = r.requestId ∧ reply = .userCreated (draws 0).account ∧
      done.2.store.table.rows = rows ++ [⟨(draws 0).account, trim new.name, trim new.email,
        trim new.realName, new.admin, r.seconds, .ofPassword new.password, none⟩] ∧
      ((∀ e ∈ rest, ¬ e.Strikes (draws 0).account) →
        let later := done.2.advanceAll rest
        ∀ r' password draws', (later.attempts.check r'.host r'.now).1 = .ok () →
          let login := later.execute r' (.login ⟨trim new.name, password⟩) draws'
          (password = new.password → login.1.response = .success r'.requestId
            (.loginOk ⟨(draws 0).account, trim new.name, trim new.email, trim new.realName,
              new.admin, r.seconds⟩)) ∧
          (password ≠ new.password → login.1.response =
            .refused (Failure.ofFault r'.requestId Handling.rejected).refusal))) := by
  intro found rows done
  obtain ⟨hquietBefore, hquietFrom⟩ := List.forall_mem_append.1 hquiet
  obtain ⟨hquietNow, hquietRest⟩ := List.forall_mem_cons.1 hquietFrom
  have hrest : found.store.AtRest := atRest_advanceAll hstart.atRest hquietBefore
  rcases execute_userCreate hrest (hquietNow 0) hmade hadmitted hadmin hfresh with
    ⟨hmet, hresponse, hafter, hrows⟩ | ⟨k, fault, hfirst, htold, hresponse, hsame⟩
  · refine ⟨⟨fun _ => ?_, fun _ => ⟨_, _, hresponse⟩⟩, fun hnot => absurd hresponse (hnot _ _), ?_⟩
    · exact ⟨hmet .name, hmet .email, hmet .realName, hmet .password, hmet .unlike⟩
    intro id reply hsuccess
    obtain ⟨rfl, rfl⟩ := Response.success.inj (hresponse.symm.trans hsuccess)
    refine ⟨rfl, rfl, hrows, ?_⟩
    intro hspared later r' password draws' hattempts
    have hlater : later.store.AtRest := atRest_advanceAll hafter hquietRest
    have hstored : newAccount r (draws 0) new ∈ later.store.table.rows := by
      refine mem_advanceAll hafter hquietRest rfl hspared ?_
      rw [hrows]
      exact List.mem_append_right _ List.mem_cons_self
    have hfault : later.loginFault? r' ⟨trim new.name, password⟩ =
        if new.password = password then none else some Handling.rejected :=
      loginFault?_of_newAccount hlater.distinct hstored hattempts
    refine ⟨fun hright => ?_, fun hwrong => ?_⟩
    · rw [if_pos hright.symm] at hfault
      obtain ⟨account, haccount, henters, he⟩ := execute_login_of_accepted draws' hfault
      obtain rfl : account = newAccount r (draws 0) new :=
        hlater.distinct.eq_of_name haccount hstored henters.name
      rw [he]
      rfl
    · rw [if_neg (Ne.symm hwrong)] at hfault
      rw [execute_login_of_fault draws' hfault]
      rfl
  · have hrefused : ∀ id reply, done.1.response ≠ .success id reply := by
      intro id reply hsuccess
      cases hresponse.symm.trans hsuccess
    refine ⟨⟨?_, ?_⟩, fun _ => ⟨k, fault, hfirst, htold, hresponse, hsame⟩, ?_⟩
    · rintro ⟨id, reply, hsuccess⟩
      exact absurd hsuccess (hrefused id reply)
    · rintro ⟨hname, hemail, hrealName, hpassword, hunlike⟩
      refine absurd ?_ hfirst.1
      cases k
      exacts [hname, hemail, hrealName, hpassword, hunlike]
    · intro id reply hsuccess
      exact absurd hsuccess (hrefused id reply)

/-- Ada's account, by somebody who is careless about blanks. -/
def carelessly : NewAccount := ⟨" ada\n", "\tada@example.org", "Ada ", "lovelace1815", false⟩

def rootLogsIn : List Event := [administratorDoes none (.login ⟨"root", "correct horse"⟩) 11]

def rootLooksBack : List Event := [administratorDoes firstSession (.userGet ada) 0]

/-- Whoever is given an account carelessly need not know of the blanks, but has to be careful about
the password. -/
theorem blanks_are_left_out :
    let found := OpenService.sample.server.advanceAll rootLogsIn
    let draws := fun _ => Draw.quiet ada default .made
    let done :=
      found.execute (OpenService.sampleRequest firstSession) (.userCreate carelessly) draws
    let later := done.2.advanceAll rootLooksBack
    let login := fun password => (later.execute (OpenService.sampleRequest none)
      (.login ⟨"ada", password⟩) draws).1.response
    login "lovelace1815" =
      .success default (.loginOk ⟨ada, "ada", "ada@example.org", "Ada", false, 5⟩) ∧
    login "lovelace" = .refused (Failure.ofFault default Handling.rejected).refusal := by
  intro found draws done later login
  have hlive : (found.sessions.get firstSession 5000).1 =
      some ⟨firstSession, "root", true, .none, 5000⟩ := by decide +kernel
  have haccount : (found.store.table.rows.find? (·.id == OpenService.sampleAdmin)).map
      (·.activeBan? 5) = some none := by decide +kernel
  have hadmitted : Handling.Admitted (OpenService.sampleRequest firstSession) found.sessions
      found.store.table.rows ⟨firstSession, "root", true, .none, 5000⟩ :=
    ⟨rfl, hlive, Option.map_eq_some_iff.1 haccount⟩
  have hfresh : ∀ old ∈ found.store.table.rows, old.id ≠ ada := by decide +kernel
  have hsuccess : done.1.response = .success default (.userCreated ada) := by decide +kernel
  have hquiet : ∀ e ∈ rootLogsIn ++ .command (OpenService.sampleRequest firstSession)
      (.userCreate carelessly) draws :: rootLooksBack, e.Quiet := by
    simp [rootLogsIn, rootLooksBack, administratorDoes, Event.Quiet, Draw.quiet, draws]
  have hspared : ∀ e ∈ rootLooksBack, ¬ e.Strikes ada := by
    simp [rootLooksBack, administratorDoes, Event.Strikes, revokes?]
  have hattempts : (later.attempts.check "192.0.2.1" 5000).1 = .ok () := by decide +kernel
  have hname : trim carelessly.name = "ada" := by decide +kernel
  have hemail : trim carelessly.email = "ada@example.org" := by decide +kernel
  have hrealName : trim carelessly.realName = "Ada" := by decide +kernel
  have hstart : OpenService.Begins OpenService.sample := .administered ..
  obtain ⟨-, -, hcreated⟩ := accounts_are_created_as_asked hstart hquiet hadmitted rfl rfl hfresh
  rw [hname, hemail, hrealName] at hcreated
  -- Unfolded, the states are the same as written; unification would have evaluated them instead.
  dsimp only [login, later, done, found] at hsuccess hattempts ⊢
  obtain ⟨-, -, -, hlogin⟩ := hcreated _ _ hsuccess
  have hlogs := fun password =>
    hlogin hspared (OpenService.sampleRequest none) password draws hattempts
  exact ⟨(hlogs _).1 rfl, (hlogs _).2 (by decide)⟩

end Service

end AcctAdmin.Server
