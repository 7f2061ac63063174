import AcctAdmin.Proofs.Command.Invariant

/-!
# Nothing succeeds without a right to it

Whoever is told that a command succeeded had a right to it: a session that was live, an account that
was there and not banned, and an administrator's rights unless the command shows them their own
account. That the rights are read from the session and the account from a transaction that may have
been overtaken makes no difference, because all that speak of an account's rights agree.
-/

set_option autoImplicit false

namespace AcctAdmin.Server

open AcctAdmin.Protocol

namespace OpenCommand

variable {issued : Registry} {o : OpenCommand} {e : Execution} {id : RequestId} {reply : Reply}

/-- A command is answered with success only if its last attempt ended well. -/
theorem answered_of_success (he : o.execution? = some e)
    (hsuccess : e.response = .success id reply) :
    ∃ reply effects, o.stage = .answered (.ok reply) effects := by
  obtain ⟨outcome, effects, hst, rfl⟩ := answered_of_execution he
  cases outcome with
  | ok reply => exact ⟨reply, effects, hst⟩
  | error halt => cases hsuccess

theorem Sound.authorized (h : o.Sound issued) (he : o.execution? = some e)
    (hsuccess : e.response = .success id reply) (hneeds : needsCaller o.command = true) :
    o.Authorized := by
  obtain ⟨reply, effects, hst⟩ := answered_of_success he hsuccess
  have hstage := h.stage
  rw [hst] at hstage
  exact hstage hneeds

end OpenCommand

namespace OpenService

variable {σ₀ σ : OpenService} {schedule : List ServiceStep}

/-- A session and an account that it speaks of have the same rights. -/
theorem Inv.session_admin (h : Inv σ) {x : Session} {a : Account} {rows : List Account}
    (hx : x ∈ σ.server.sessions.live) (hrows : σ.issued.Knows rows) (ha : a ∈ rows)
    (hid : a.id = x.key.principal) : x.admin = a.admin := by
  have hknown := hrows a ha
  rw [hid, h.covers.sessions x hx] at hknown
  exact Option.some.inj hknown

/-- **Every success is authorized.** In whatever order the steps of commands are taken, a command
other than logging in or out that is answered with success was given by somebody with a right to it.
The rights that a session remembers are those of its account, wherever that is looked up. -/
theorem success_authorized (hbegins : Begins σ₀) (hrun : σ₀.run schedule = some σ) :
    (∀ n o e id reply, σ.commands n = some o → o.execution? = some e →
      e.response = .success id reply → needsCaller o.command = true → o.Authorized) ∧
    (∀ x ∈ σ.server.sessions.live,
      (∀ a ∈ σ.server.store.table.rows, a.id = x.key.principal → x.admin = a.admin) ∧
      ∀ n o, σ.commands n = some o → ∀ a ∈ o.ground, a.id = x.key.principal →
        x.admin = a.admin) := by
  have hinv := inv_run hbegins.inv hrun
  refine ⟨fun n o e id reply hn he hsuccess hneeds => ?_, fun x hx => ⟨fun a ha hid => ?_, ?_⟩⟩
  · exact (hinv.sound n o hn).authorized he hsuccess hneeds
  · exact hinv.session_admin hx hinv.covers.accounts ha hid
  · intro n o hn a ha hid
    exact hinv.session_admin hx (hinv.sound n o hn).ground ha hid

/-- The administrator logs in and lifts a ban that is not there. -/
theorem administrator_authorized :
    ∃ σ o e, sample.run (sampleLogin ++
        [.arrive 1 (sampleRequest (some sampleKey)) (.userUnban sampleAdmin),
          .advance 1 default default .made, .advance 1 default default .made,
          .advance 1 default default .made, .advance 1 default default .made]) = some σ ∧
      σ.commands 1 = some o ∧ o.execution? = some e ∧ e.response = .success default .done ∧
      o.Authorized := by
  have hrun : ∃ σ o e, sample.run (sampleLogin ++
        [.arrive 1 (sampleRequest (some sampleKey)) (.userUnban sampleAdmin),
          .advance 1 default default .made, .advance 1 default default .made,
          .advance 1 default default .made, .advance 1 default default .made]) = some σ ∧
      σ.commands 1 = some o ∧ o.execution? = some e ∧ e.response = .success default .done ∧
      needsCaller o.command = true := ⟨_, _, _, rfl, rfl, rfl, rfl, rfl⟩
  obtain ⟨σ, o, e, hσ, ho, he, hsuccess, hneeds⟩ := hrun
  exact ⟨σ, o, e, hσ, ho, he, hsuccess,
    (success_authorized (.administered ..) hσ).1 1 o e _ _ ho he hsuccess hneeds⟩

end OpenService

end AcctAdmin.Server
