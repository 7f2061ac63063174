import AcctAdmin.Proofs.Command.Announcement
import AcctAdmin.Proofs.Front.Premises
import AcctAdmin.Proofs.Search.Reading

/-!
# A reader on the premises

Somebody who has logged in as an administrator, begins a search and turns its pages, while others
are at work on the same server. As long as nobody else uses the session, the session may be used,
and what is found stays the same, each page that is asked for is the one that follows.
-/

set_option autoImplicit false

namespace AcctAdmin.Server

open AcctAdmin.Protocol AcctAdmin.Client

/-- The commands that a reader gives, one for each page. -/
def pageCommand (query : Query) : Nat → Command
  | 0 => .searchBegin query
  | _ + 1 => .searchTurn query.kind .next

namespace Premises

/-- The world in which the page after so many others is asked for. -/
def turned (w : Premises) (own : Option SessionKey) (query : Query) : Nat → Premises
  | 0 => w
  | n + 1 => (w.turned own query n).after own (pageCommand query n)

/-- What it takes to read so many pages of a search in a session: nobody else uses the session,
which may be used each time that it is needed, and the same is found each time. -/
structure Steady (w : Premises) (key : SessionKey) (query : Query) (rows : List query.kind.Row)
    (shown : Nat) : Prop where
  apart : ∀ n < shown, ∀ e ∈ (w.ahead n).events, e.Spares key
  live : ∀ n < shown, ∃ caller,
    Handling.Admitted ((w.turned (some key) query n).request (some key))
      (w.turned (some key) query n).found.server.sessions
      (w.turned (some key) query n).found.server.store.table.rows caller
  rows : ∀ n < shown, query.listing (w.turned (some key) query n).found.server.store = rows

variable {w : Premises} {own : Option SessionKey} {key : SessionKey} {c : Command} {query : Query}
  {rows : List query.kind.Row} {shown n : Nat}

theorem ahead_turned (n m : Nat) : (w.turned own query n).ahead m = w.ahead (n + m) := by
  induction n generalizing m with
  | zero => rw [Nat.zero_add, turned]
  | succ n ih =>
    have hahead : (w.turned own query (n + 1)).ahead m = (w.turned own query n).ahead (m + 1) := rfl
    rw [hahead, ih, Nat.add_right_comm, Nat.add_assoc]

theorem spoken_turned (n : Nat) : (w.turned own query n).hosted.spoken = w.hosted.spoken := by
  induction n with
  | zero => rfl
  | succ n ih => exact ih

theorem limits_found : w.found.server.limits = w.hosted.server.limits :=
  Service.limits_advanceAll _ _

theorem keeps_found {α : Type} {f : Session → α}
    (hused : ∀ (x : Session) now, f { x with lastSeen := now } = f x)
    (hapart : ∀ e ∈ (w.ahead 0).events, e.Spares key) :
    w.hosted.server.sessions.Keeps f key w.found.server.sessions :=
  Service.keeps_of_spares hused hapart

/-- A reader's session after so many pages. -/
structure Reads (w : Premises) (key : SessionKey) (query : Query) (size : UInt32) (n : Nat) :
    Prop where
  privileged : w.hosted.server.sessions.Privileged key
  onPage : ∀ i, n = i + 1 → w.hosted.server.sessions.OnPage key query.terms size i

/-- **Each page that is asked for is the one that follows.** -/
theorem reads_after {size : UInt32} {all : List query.kind.Row} {caller : Session}
    (h : w.Reads key query size n) (hapart : ∀ e ∈ (w.ahead 0).events, e.Spares key)
    (hadmitted : Handling.Admitted (w.request (some key)) w.found.server.sessions
      w.found.server.store.table.rows caller)
    (hfilled : Handling.objectionTo? (.searchBegin query) = none)
    (hsize : n = 0 → size = query.pageSize w.hosted.server.limits)
    (hall : query.listing w.found.server.store = all)
    (hmore : n < (pageCount (UInt64.ofNat all.length) size).toNat) :
    (w.execution (some key) (pageCommand query n)).response =
        .success (w.request (some key)).requestId (query.kind.reply (pageAt all size n)) ∧
      (w.after (some key) (pageCommand query n)).Reads key query size (n + 1) := by
  obtain rfl : caller.key = key := Option.some.inj hadmitted.key.symm
  have hprivileged : w.found.server.sessions.Privileged caller.key :=
    h.privileged.keeps (keeps_found (fun _ _ => rfl) hapart)
  have hadmin : caller.admin = true := hprivileged.found hadmitted.live
  have hserves :
      (query.kind.source (query.kind.stored w.found.server.store) query.terms).Serves all :=
    hall ▸ query.kind.serves_listing _ query.terms
  have hkept (c : Command) (hlogin : c.kind.isLogin = false) :
      (w.after (some caller.key) c).hosted.server.sessions.Privileged caller.key :=
    hprivileged.keeps (Service.keeps_execute (fun _ _ => rfl) hlogin fun _ _ _ _ _ => rfl)
  cases n with
  | zero =>
    have hroom : query.pageSize w.found.server.limits = size := by rw [limits_found, hsize rfl]
    have hbegun := Service.begin_of_admitted w.found.draw hprivileged.distinct hadmitted hadmin
      (by rwa [Query.query_terms]) hserves hroom
    rw [Query.query_terms] at hbegun
    obtain ⟨hresponse, hturned⟩ := hbegun
    refine ⟨hresponse, hkept _ rfl, fun i hi => ?_⟩
    obtain rfl := Nat.succ.inj hi
    exact hturned
  | succ i =>
    have hon : w.found.server.sessions.OnPage caller.key query.terms size i :=
      (h.onPage i rfl).keeps (keeps_found (fun _ _ => rfl) hapart)
    obtain ⟨hresponse, hturned⟩ :=
      Service.next_of_admitted w.found.draw hon hadmitted hadmin hserves hmore
    rw [pageCommand, execution]
    refine ⟨hresponse, hkept _ rfl, fun j hj => ?_⟩
    obtain rfl := Nat.succ.inj hj
    exact hturned

/-- **A steady reader sees page after page.** -/
theorem response_turned (hprivileged : w.hosted.server.sessions.Privileged key)
    (hsteady : w.Steady key query rows shown)
    (hfilled : Handling.objectionTo? (.searchBegin query) = none)
    (hshown : shown ≤
      (pageCount (UInt64.ofNat rows.length) (query.pageSize w.hosted.server.limits)).toNat)
    (hn : n < shown) :
    ((w.turned (some key) query n).execution (some key) (pageCommand query n)).response =
      .success ((w.turned (some key) query n).request (some key)).requestId
        (query.kind.reply (pageAt rows (query.pageSize w.hosted.server.limits) n)) := by
  have hstep {m : Nat} (hm : m < shown) (h : (w.turned (some key) query m).Reads key query
      (query.pageSize w.hosted.server.limits) m) :
      ((w.turned (some key) query m).execution (some key) (pageCommand query m)).response =
          .success ((w.turned (some key) query m).request (some key)).requestId
            (query.kind.reply (pageAt rows (query.pageSize w.hosted.server.limits) m)) ∧
        (w.turned (some key) query (m + 1)).Reads key query
          (query.pageSize w.hosted.server.limits) (m + 1) := by
    obtain ⟨caller, hadmitted⟩ := hsteady.live m hm
    refine reads_after h ?_ hadmitted hfilled ?_ (hsteady.rows m hm) (Nat.lt_of_lt_of_le hm hshown)
    · rw [ahead_turned]
      exact hsteady.apart m hm
    · rintro rfl
      rfl
  -- by induction on the pages that were shown before
  have hreads : ∀ m ≤ n, (w.turned (some key) query m).Reads key query
      (query.pageSize w.hosted.server.limits) m := by
    intro m hm
    induction m with
    | zero => exact ⟨hprivileged, nofun⟩
    | succ m ih => exact (hstep (Nat.lt_trans hm hn) (ih (Nat.le_of_succ_le hm))).2
  exact (hstep hn (hreads n (Nat.le_refl n))).1

end Premises

end AcctAdmin.Server
