import AcctAdmin.Proofs.Command.Sequence
import AcctAdmin.Proofs.Sessions.Lookup

/-!
# What a session keeps

A session is changed by being used, and by a search that puts a cursor into it. What does not depend
on when it was used last stays as it is, whatever is executed for others, for as long as the session
is there. The only way to lose it with the key still in use is to log in and to be given that key
again.
-/

set_option autoImplicit false

namespace AcctAdmin.Server

open AcctAdmin.Protocol

variable {α : Type} {f : Session → α} {key : SessionKey}

/-! ## Sessions -/

namespace Sessions

variable {s s' s'' : Sessions} {other : SessionKey} {now : Nat}

/-- Whether something about a session is as it was, unless the session is gone. -/
def Keeps (f : Session → α) (key : SessionKey) (s s' : Sessions) : Prop :=
  s.Distinct → s'.Distinct ∧ ∀ x', s'.find? key = some x' →
    ∃ x, s.find? key = some x ∧ f x' = f x

theorem Keeps.refl (f : Session → α) (key : SessionKey) (s : Sessions) : s.Keeps f key s :=
  fun h => ⟨h, fun x hx => ⟨x, hx, rfl⟩⟩

theorem Keeps.trans (h : s.Keeps f key s') (h' : s'.Keeps f key s'') : s.Keeps f key s'' := by
  intro hdistinct
  obtain ⟨hdistinct', hfirst⟩ := h hdistinct
  obtain ⟨hdistinct'', hsecond⟩ := h' hdistinct'
  refine ⟨hdistinct'', fun x'' hx'' => ?_⟩
  obtain ⟨x', hx', hsame'⟩ := hsecond x'' hx''
  obtain ⟨x, hx, hsame⟩ := hfirst x' hx'
  exact ⟨x, hx, hsame'.trans hsame⟩

theorem keeps_filtered (p : Session → Bool) :
    s.Keeps f key { s with live := s.live.filter p } := by
  intro hdistinct
  refine ⟨hdistinct.filtered p, fun x hx => ⟨x, ?_, rfl⟩⟩
  rw [find?_filtered hdistinct] at hx
  exact (Option.filter_eq_some_iff.1 hx).1

theorem keeps_revoke (principals : List AccountId) : s.Keeps f key (s.revoke principals) := by
  induction principals generalizing s with
  | nil => exact .refl f key s
  | cons principal rest ih => exact (keeps_filtered _).trans ih

theorem keeps_update {g : Session → Session} (hkey : ∀ x, (g x).key = x.key)
    (hsame : other = key → ∀ x, f (g x) = f x) : s.Keeps f key (s.update other g) := by
  intro hdistinct
  refine ⟨hdistinct.update hkey, fun x' hx' => ?_⟩
  rw [find?_update hkey] at hx'
  obtain ⟨x, hx, rfl⟩ := Option.map_eq_some_iff.1 hx'
  refine ⟨x, hx, ?_⟩
  split
  · rename_i hother
    exact hsame hother x
  · rfl

theorem keeps_get (hused : ∀ (x : Session) now, f { x with lastSeen := now } = f x) :
    s.Keeps f key (s.get other now).2 := by
  unfold get
  cases s.find? other with
  | none => exact .refl f key s
  | some x =>
    dsimp only
    split
    · exact keeps_filtered _
    · exact keeps_update (fun _ => rfl) fun _ x => hused x now

theorem keeps_without (own : Option SessionKey) : s.Keeps f key (s.without own) := by
  cases own with
  | none => exact .refl f key s
  | some own => exact keeps_filtered _

theorem Distinct.without (h : s.Distinct) (own : Option SessionKey) : (s.without own).Distinct := by
  cases own with
  | none => exact h
  | some own => exact h.filtered _

theorem keeps_create (hother : other ≠ key) (userName : String) (admin : Bool) :
    s.Keeps f key (s.create other userName admin now) := by
  intro hdistinct
  refine ⟨hdistinct.create userName admin, fun x hx => ⟨x, ?_, rfl⟩⟩
  rwa [find?_create hdistinct, if_neg hother] at hx

end Sessions

/-! ## Commands -/

theorem Desk.lasting_keeps (hused : ∀ (x : Session) now, f { x with lastSeen := now } = f x) :
    Desk.Lasting fun d d' => d.sessions.Keeps f key d'.sessions where
  trans := .trans
  aside {d _} h _ := by
    rw [h]
    exact .refl f key d.sessions
  used _ _ _ := Sessions.keeps_get hused
  ended _ _ := Sessions.keeps_filtered _

namespace Service

variable {server : Service} {r : Request} {c : Command} {draws : Nat → Draw}

theorem keeps_close (done : Except Halt Reply × Desk) :
    done.2.sessions.Keeps f key (server.close done).sessions := by
  obtain ⟨principals, h⟩ := close_sessions server done
  rw [h]
  exact Sessions.keeps_revoke principals

/-- Whatever is executed but a login keeps what it has no cursor to put into. -/
theorem keeps_execute (hused : ∀ (x : Session) now, f { x with lastSeen := now } = f x)
    (hlogin : c.kind.isLogin = false)
    (hsearch : ∀ k, searches? c = some k → r.session = some key → ∀ cursor (x : Session),
      f { x with cursors := k.slot.set cursor x.cursors } = f x) :
    server.sessions.Keeps f key (server.execute r c draws).2.sessions := by
  let R (server after : Service) : Prop := server.sessions.Keeps f key after.sessions
  have : Trans R R R := ⟨.trans⟩
  have : Desk.Lasting fun d d' => d.sessions.Keeps f key d'.sessions := Desk.lasting_keeps hused
  refine execute_induction (R := R) fun server n => ?_
  rw [attempt_eq]
  have hworked : Handling.Leads (fun d d' => d.sessions.Keeps f key d'.sessions)
      (server.desk server.store.begin) (Handling.dispatch server.limits r (draws n) c) := by
    refine Handling.lasts_dispatch server.limits hlogin fun k own hk hown d cursor => ?_
    refine Sessions.keeps_update (fun _ => rfl) ?_
    rintro rfl
    exact hsearch k hk hown cursor
  exact Sessions.Keeps.trans hworked (keeps_close _)

/-- A login keeps all there is of a session that it does not begin. -/
theorem keeps_execute_login {l : Login} (hissued : ∀ n, (draws n).session ≠ key.session) :
    server.sessions.Keeps f key (server.execute r (.login l) draws).2.sessions := by
  rcases execute_login server r l draws with ⟨reply, d', hlogs, he⟩ | ⟨halt, d', hturns, he⟩
  · obtain ⟨account, hsessions, -⟩ := hlogs.session
    have hother : (⟨account.id, (draws 0).session⟩ : SessionKey) ≠ key :=
      fun hkey => hissued 0 (congrArg SessionKey.session hkey)
    have hcreated : server.sessions.Keeps f key d'.sessions := by
      rw [hsessions]
      exact (Sessions.keeps_without r.session).trans (Sessions.keeps_create hother _ _)
    rw [he]
    exact hcreated.trans (keeps_close (.ok reply, d'))
  · have hsame : d'.sessions = server.sessions := hturns.sessions
    rw [he, ← hsame]
    exact keeps_close (.error halt, d')

/-- Whatever is executed, no two sessions get the same key. -/
theorem distinct_execute (h : server.sessions.Distinct) :
    (server.execute r c draws).2.sessions.Distinct := by
  cases hlogin : c.kind.isLogin with
  | false =>
    have hkeeps : server.sessions.Keeps Session.key default (server.execute r c draws).2.sessions :=
      keeps_execute (fun _ _ => rfl) hlogin fun _ _ _ _ _ => rfl
    exact (hkeeps h).1
  | true =>
    have hclosed (done : Except Halt Reply × Desk) :
        done.2.sessions.Keeps Session.key default (server.close done).sessions := keeps_close done
    cases c with
    | login l =>
      rcases execute_login server r l draws with ⟨reply, d', hlogs, he⟩ | ⟨halt, d', hturns, he⟩
      · obtain ⟨account, hsessions, -⟩ := hlogs.session
        have hcreated : d'.sessions.Distinct := by
          rw [hsessions]
          exact (h.without r.session).create account.name account.admin
        rw [he]
        exact (hclosed (.ok reply, d') hcreated).1
      · have hsame : d'.sessions = server.sessions := hturns.sessions
        rw [he]
        exact (hclosed (.error halt, d') (hsame ▸ h)).1
    | _ => cases hlogin

theorem distinct_advanceAll (h : server.sessions.Distinct) (events : List Event) :
    (server.advanceAll events).sessions.Distinct := by
  induction events generalizing server with
  | nil => exact h
  | cons e rest ih =>
    cases e with
    | command r c draws => exact ih (distinct_execute h)
    | sweep now => exact ih (h.filtered _)

end Service

end AcctAdmin.Server
