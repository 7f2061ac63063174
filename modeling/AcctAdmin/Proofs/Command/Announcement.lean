import AcctAdmin.Proofs.Command.LoggingIn
import AcctAdmin.Proofs.Command.Revocation
import AcctAdmin.Proofs.Sessions.Lookup

/-!
# What is announced of sessions

A command that was carried out may have something to tell its caller about their session: that it
has begun, or that it was ended. Each step of a command either takes sessions away at most and has
nothing new to tell, or it does the one thing to the sessions that it then has to tell.
-/

set_option autoImplicit false

namespace AcctAdmin.Server

open AcctAdmin.Protocol

/-! ## Sessions that become fewer -/

namespace Sessions

variable {s s' s'' : Sessions} {key : SessionKey} {now : Nat}

/-- Whether sessions were at most taken away, so that none is there twice that was not before. -/
structure Thins (s s' : Sessions) : Prop where
  dwindles : s.Dwindles s'
  distinct : s.Distinct → s'.Distinct

theorem Thins.refl (s : Sessions) : s.Thins s := ⟨.refl s, id⟩

theorem Thins.trans (h : s.Thins s') (h' : s'.Thins s'') : s.Thins s'' :=
  ⟨h.dwindles.trans h'.dwindles, h'.distinct ∘ h.distinct⟩

theorem thins_filtered (s : Sessions) (p : Session → Bool) :
    s.Thins { s with live := s.live.filter p } := ⟨dwindles_filtered s p, (·.filtered p)⟩

theorem thins_update {f : Session → Session} (hkey : ∀ x, (f x).key = x.key) :
    s.Thins (s.update key f) := ⟨dwindles_update hkey, (·.update hkey)⟩

theorem thins_get : s.Thins (s.get key now).2 := ⟨dwindles_get, (·.get)⟩

theorem thins_revoke (s : Sessions) (principals : List AccountId) :
    s.Thins (s.revoke principals) := by
  induction principals generalizing s with
  | nil => exact .refl s
  | cons p rest ih => exact (thins_filtered s _).trans (ih _)

theorem thins_without (s : Sessions) (own : Option SessionKey) : s.Thins (s.without own) := by
  cases own with
  | none => exact .refl s
  | some key => exact thins_filtered s _

theorem not_mem_remove : key ∉ (s.remove key).2.live.map (·.key) := by
  intro h
  obtain ⟨x, hx, rfl⟩ := List.mem_map.1 h
  simpa using (List.mem_filter.1 hx).2

theorem ne_own_of_mem_without {own : Option SessionKey}
    (h : key ∈ (s.without own).live.map (·.key)) : own ≠ some key := by
  rintro rfl
  exact not_mem_remove h

end Sessions

/-- Whether a desk is left with sessions that were at most taken away, and nothing new to tell. -/
structure Desk.Hushes (d d' : Desk) : Prop where
  thins : d.sessions.Thins d'.sessions
  session : d'.effects.session = d.effects.session

instance : Desk.Tacit Desk.Hushes where
  trans h h' := ⟨h.thins.trans h'.thins, h'.session.trans h.session⟩
  aside {d _} hsessions _ hsession := ⟨hsessions ▸ .refl d.sessions, hsession⟩
  used _ _ _ := ⟨Sessions.thins_get, rfl⟩
  ended d _ := ⟨Sessions.thins_filtered d.sessions _, rfl⟩

theorem Handling.hushes_carryOut (d : Desk) (limits : PageLimits) (r : Request) (draw : Draw)
    (caller : Session) {c : Command} (hneeds : needsCaller c = true) :
    Leads Desk.Hushes d (carryOut limits r draw caller c) :=
  tacit_carryOut limits hneeds fun _ _ _ _ => ⟨Sessions.thins_update fun _ => rfl, rfl⟩

/-! ## Announcements -/

/-- What there is to tell about sessions, once a command has been carried out. -/
def Stage.announced : Stage → Option SessionChange
  | .worked (.ok _) _ effects => effects.session
  | .closed (.ok _) effects => effects.session
  | .answered (.ok _) effects => effects.session
  | _ => none

/-- What becomes of sessions that an announcement is made of: the caller's gives way to another, or
is taken away. -/
inductive Sessions.Turns (own : Option SessionKey) (session : Uuid) (s : Sessions) :
    Sessions → SessionChange → Prop where
  | started (account : AccountId) (name : String) (admin : Bool) (now : Nat) :
    Turns own session s ((s.without own).create ⟨account, session⟩ name admin now)
      (.started ⟨account, session⟩)
  | ended {key : SessionKey} {s' : Sessions} (hown : own = some key) (hthins : s.Thins s')
    (hgone : key ∉ s'.live.map (·.key)) : Turns own session s s' .ended

namespace OpenCommand

variable {o o' : OpenCommand} {server server' : Service} {draw : Draw}

theorem session_of_execution {ex : Execution} (h : o.execution? = some ex) :
    ex.session = o.stage.announced := by
  obtain ⟨outcome, effects, hst, rfl⟩ := answered_of_execution h
  rw [hst]
  cases outcome <;> rfl

/-- A command stays the same command. -/
theorem next_keeps (h : o.next server draw = some (o', server')) :
    o'.request = o.request ∧ o'.command = o.command := by
  cases advances_of_next h <;> exact ⟨rfl, rfl⟩

/-- Work that does not have to find a caller is a login or a logout. -/
theorem turns_of_worked {caller : Session} {tx : Transaction} {outcome : Except Halt Reply}
    {desk : Desk} (hneeds : needsCaller o.command = false)
    (hrun : (Handling.carryOut server.limits o.request draw caller o.command).outcome
      (server.desk tx) = (outcome, desk)) :
    (desk.sessions = server.sessions ∧
      (Stage.worked outcome desk.tx desk.effects).announced = none) ∨
    ∃ change, (Stage.worked outcome desk.tx desk.effects).announced = some change ∧
      server.sessions.Turns o.request.session draw.session desk.sessions change := by
  cases hc : o.command with
  | login l =>
    rw [hc] at hrun
    have hends : Handling.Ends _ _ (server.desk tx) (Handling.login o.request draw l) :=
      Handling.ends_login_eq l
    cases outcome with
    | error halt => exact .inl ⟨(hends.error hrun).sessions, rfl⟩
    | ok reply =>
      obtain ⟨account, hsessions, hsession⟩ := (hends.ok hrun).session
      refine .inr ⟨_, hsession, ?_⟩
      rw [hsessions]
      exact .started account.id account.name account.admin o.request.now
  | logout =>
    rw [hc] at hrun
    have hlogout : (Handling.logout o.request).outcome (server.desk tx) = (outcome, desk) := hrun
    cases hkey : o.request.session with
    | none =>
      rw [Handling.outcome_logout_of_stranger hkey] at hlogout
      cases hlogout
      exact .inl ⟨rfl, rfl⟩
    | some key =>
      rw [Handling.outcome_logout_of_key hkey] at hlogout
      cases hlogout
      refine .inr ⟨_, rfl, .ended rfl ?_ Sessions.not_mem_remove⟩
      exact Sessions.thins_get.trans (Sessions.thins_filtered _ _)
  | _ => rw [hc] at hneeds; cases hneeds

/-- **A step is announced if it begins a session**, or if it ends the caller's because it was asked
to. Every other step leaves no more sessions than there were. -/
theorem announces_next (h : o.next server draw = some (o', server')) :
    (server.sessions.Thins server'.sessions ∧ o'.stage.announced = o.stage.announced) ∨
    (o.stage.announced = none ∧ ∃ change, o'.stage.announced = some change ∧
      server.sessions.Turns o.request.session draw.session server'.sessions change) := by
  cases advances_of_next h with
  | @identified tx caller desk hst hrun =>
    have hled : Desk.Hushes (server.desk tx) _ := Handling.tacit_identify o.request o.command
    rw [hrun] at hled
    rw [hst]
    exact .inl ⟨hled.thins, rfl⟩
  | @unidentified tx halt desk hst hrun =>
    have hled : Desk.Hushes (server.desk tx) _ := Handling.tacit_identify o.request o.command
    rw [hrun] at hled
    rw [hst]
    exact .inl ⟨hled.thins, rfl⟩
  | @worked tx caller outcome desk hst hrun =>
    have hnone : o.stage.announced = none := by
      rcases hst with ⟨hst, -⟩ | ⟨found, hst, -⟩ <;> rw [hst] <;> rfl
    cases hneeds : needsCaller o.command with
    | true =>
      have hled : Desk.Hushes (server.desk tx) _ :=
        Handling.hushes_carryOut _ server.limits o.request draw caller hneeds
      rw [hrun] at hled
      rw [hnone]
      refine .inl ⟨hled.thins, ?_⟩
      cases outcome with
      | ok reply => exact hled.session
      | error halt => rfl
    | false =>
      rcases turns_of_worked hneeds hrun with ⟨hsame, hquiet⟩ | hturns
      · rw [hnone]
        exact .inl ⟨show server.sessions.Thins desk.sessions from hsame ▸ .refl _, hquiet⟩
      · exact .inr ⟨hnone, hturns⟩
  | committed hst => rw [hst]; exact .inl ⟨.refl _, rfl⟩
  | dropped hst => rw [hst]; exact .inl ⟨.refl _, rfl⟩
  | again hst => rw [hst]; exact .inl ⟨.refl _, rfl⟩
  | @answered outcome effects hst =>
    rw [hst]
    cases outcome with
    | ok reply => exact .inl ⟨Sessions.thins_revoke _ _, rfl⟩
    | error halt => exact .inl ⟨.refl _, rfl⟩

end OpenCommand

/-! ## No key twice -/

theorem Sessions.Distinct.turns {s s' : Sessions} {other : Option SessionKey} {id : Uuid}
    {change : SessionChange} (h : s.Distinct) (hturns : s.Turns other id s' change) :
    s'.Distinct := by
  cases hturns with
  | started account name admin now => exact ((thins_without s other).distinct h).create name admin
  | ended hown hthins hgone => exact hthins.distinct h

namespace OpenService

variable {σ₀ σ σ' : OpenService} {a : ServiceStep} {schedule : List ServiceStep}

theorem live_begins (h : σ.Begins) : σ.server.sessions.live = [] := by
  cases h <;> rfl

theorem distinct_step (h : σ.server.sessions.Distinct) (hs : σ.step a = some σ') :
    σ'.server.sessions.Distinct := by
  cases a with
  | arrive n r c =>
    obtain ⟨-, rfl⟩ := step_arrive hs
    exact h
  | advance n account session hashing =>
    obtain ⟨o, o', server, -, -, hnext, rfl⟩ := step_advance hs
    rcases OpenCommand.announces_next hnext with ⟨hthins, -⟩ | ⟨-, change, -, hturns⟩
    · exact hthins.distinct h
    · exact h.turns hturns
  | sweep now inUse =>
    cases hs
    exact h.filtered _

/-- Whatever goes on at a server, no two sessions have the same key. -/
theorem distinct_run (hbegins : Begins σ₀) (hrun : σ₀.run schedule = some σ) :
    σ.server.sessions.Distinct := by
  refine foldlM_induction (P := fun σ => σ.server.sessions.Distinct) ?_
    (fun _ _ _ _ h hs => distinct_step h hs) hrun
  rw [Sessions.Distinct, live_begins hbegins]
  exact List.nodup_nil

end OpenService

end AcctAdmin.Server
