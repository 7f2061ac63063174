import AcctAdmin.Proofs.Front.Gate

/-!
# What is heard of a request

A request brings a command to an endpoint, or is turned away. What is heard is executed and
answered; what is not changes nothing.
-/

set_option autoImplicit false

namespace AcctAdmin.Server

open AcctAdmin.Protocol

/-- The command that a request brings to an endpoint, and the generation that it is given in. -/
def heard? (spoken : List Generation) (id : RequestId) (r : Http.Request) :
    Option (Generation × Command) :=
  match route? spoken r.path with
  | some (.endpoint g e) =>
    if r.method = "POST" ∧ r.body.size ≤ maxBodySize then
      (receive g e id r).toOption.map fun c => (g, c)
    else none
  | _ => none

variable {spoken : List Generation} {r : Http.Request} {g : Generation} {c : Command}
  {at_ : Circumstances}

theorem mem_of_route? {path : String} {e : Endpoint}
    (h : route? spoken path = some (.endpoint g e)) : g ∈ spoken := by
  unfold route? at h
  split at h
  · cases h
  · obtain ⟨g', hg', hroute⟩ := List.exists_of_findSome?_eq_some h
    split at hroute
    · cases hroute
      exact hg'
    · split at hroute
      · cases hroute
        exact hg'
      · cases hroute

/-- What the server offers it shows at its root only. -/
theorem path_of_route? {path : String} (h : route? spoken path = some .advertisement) :
    path = "/" := by
  unfold route? at h
  split at h
  · assumption
  · obtain ⟨g', -, hroute⟩ := List.exists_of_findSome?_eq_some h
    split at hroute
    · cases hroute
    · split at hroute <;> cases hroute

/-- What is got is shown what the server offers, or it is an error. -/
theorem serve_of_get (server : Service) (hmethod : r.method = "GET") :
    (r.path = "/" ∧ (server.serve spoken at_ r).1 =
      { Http.Reply.bare 200 with
        contentType := some "application/json"
        body := (advertisementOf spoken).render.toUTF8 }) ∨
    Client.isSuccessStatus (server.serve spoken at_ r).1.status = false := by
  unfold Service.serve
  cases hroute : route? spoken r.path with
  | none => exact .inr rfl
  | some route =>
    cases route with
    | advertisement =>
      refine .inl ⟨path_of_route? hroute, ?_⟩
      simp only [hmethod, if_true]
    | endpoint g e =>
      have hother : r.method ≠ "POST" := by
        rw [hmethod]
        decide
      simp only [ne_eq, hother, not_false_eq_true, if_true]
      exact .inr rfl

/-- How it comes that a request is heard. -/
theorem heard?_eq_some {id : RequestId} :
    heard? spoken id r = some (g, c) ↔
      ∃ e, route? spoken r.path = some (.endpoint g e) ∧ r.method = "POST" ∧
        r.body.size ≤ maxBodySize ∧ receive g e id r = .ok c := by
  refine ⟨fun h => ?_, fun ⟨e, hroute, hmethod, hsize, hreceived⟩ => ?_⟩
  swap
  · simp [heard?, hroute, hmethod, hsize, hreceived, Except.toOption]
  unfold heard? at h
  split at h
  · rename_i g' e hroute
    split at h
    · rename_i hposted
      obtain ⟨c', hc, hpair⟩ := Option.map_eq_some_iff.1 h
      cases hpair
      cases hreceived : receive g e id r with
      | error turned => simp [hreceived, Except.toOption] at hc
      | ok c' =>
        obtain rfl : c = c' := by simpa [hreceived, Except.toOption] using hc.symm
        exact ⟨e, hroute, hposted.1, hposted.2, hreceived⟩
    · cases h
  · cases h

/-- What is heard is executed, and the reply tells how that went. -/
theorem serve_of_heard (server : Service) (h : heard? spoken at_.requestId r = some (g, c)) :
    let (execution, after) :=
      server.execute ⟨at_.requestId, at_.host, presentedKey r, at_.now⟩ c at_.draws
    server.serve spoken at_ r =
      (replyIn g execution.status execution.response execution.session, some execution, after) := by
  obtain ⟨e, hroute, hmethod, hsize, hreceived⟩ := heard?_eq_some.1 h
  simp [Service.serve, hroute, hmethod, Nat.not_lt.2 hsize, Service.answer, hreceived]

/-- What is not heard changes nothing, neither at the server nor in anybody's jar. -/
theorem serve_of_unheard (server : Service) (h : heard? spoken at_.requestId r = none) :
    (server.serve spoken at_ r).1.setCookie = none ∧
      (server.serve spoken at_ r).2 = (none, server) := by
  unfold heard? at h
  unfold Service.serve
  cases hroute : route? spoken r.path with
  | none => exact ⟨rfl, rfl⟩
  | some route =>
    cases route with
    | advertisement =>
      dsimp only
      split
      · exact ⟨rfl, rfl⟩
      · split <;> exact ⟨rfl, rfl⟩
    | endpoint g e =>
      rw [hroute] at h
      dsimp only at h ⊢
      split
      · exact ⟨rfl, rfl⟩
      · rename_i hmethod
        split
        · exact ⟨rfl, rfl⟩
        · rename_i hsize
          rw [if_pos ⟨not_not.1 hmethod, Nat.not_lt.1 hsize⟩] at h
          unfold Service.answer
          cases hreceived : receive g e at_.requestId r with
          | ok c => simp [hreceived, Except.toOption] at h
          | error turned =>
            have hspeaks : Speaks g turned.2 := speaks_of_turnedAway hreceived
            exact ⟨(replyIn_eq hspeaks turned.1 none).2, rfl⟩

end AcctAdmin.Server
