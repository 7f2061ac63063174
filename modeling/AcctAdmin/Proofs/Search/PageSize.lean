import AcctAdmin.Proofs.Command.Announcement
import AcctAdmin.Proofs.Search.Cursors

/-!
# The size of pages

A page has room for as many rows as its search asked for, if the server lets it. How much that is
gets settled when the search is begun; a page that is turned to later is as large because the cursor
in the session still is (`Session.Sized`). Each step of a command bears that in mind
(`sized_next`), whatever other commands do between two steps, and so does every run (`sized_run`).
-/

set_option autoImplicit false

namespace AcctAdmin.Server

open AcctAdmin.Protocol

variable {k : SearchKind} {limits : PageLimits} {begun : SessionKey → Query → Prop}

/-! ## One page -/

/-- Whether a page shows a part of what is found for some terms that is no larger than they may have
it. -/
structure Windows (limits : PageLimits) (k : SearchKind) (q : k.Terms) (page : Page k.Row) :
    Prop where
  part : ∃ (stored : k.Stored) (found : List k.Row), (k.source stored q).Serves found ∧
    page.items = window found page.offset (limits.sizeFor (k.limit q))

theorem Windows.length_le {q : k.Terms} {page : Page k.Row} (h : Windows limits k q page) :
    page.items.length ≤ (limits.sizeFor (k.limit q)).toNat := by
  obtain ⟨_, found, -, hitems⟩ := h.part
  rw [hitems, window, List.length_take]
  exact Nat.min_le_left _ _

/-- Whether a cursor is as large as its terms may have it. -/
def Cursor.Sized (limits : PageLimits) (k : SearchKind) (c : Cursor k.Terms) : Prop :=
  c.size = limits.sizeFor (k.limit c.query)

theorem Cursor.sized_start (q : k.Terms) (hpos : limits.sizeFor (k.limit q) ≠ 0) :
    (Cursor.start q (limits.sizeFor (k.limit q))).Sized limits k := if_neg hpos

/-- A cursor that moves shows a page of its size and keeps it. -/
theorem Cursor.Sized.move {c c' : Cursor k.Terms} (h : c.Sized limits k) {m : Move}
    {stored : k.Stored} {page : Page k.Row}
    (hmove : c.move m (k.source stored c.query) = (.ok page, c')) :
    c'.query = c.query ∧ c'.Sized limits k ∧ Windows limits k c.query page := by
  obtain ⟨found, hserves⟩ := SearchKind.serves_source stored c.query
  simp only [Cursor.move, hserves.count, Cursor.read, hserves.fetch] at hmove
  obtain ⟨hpage, rfl⟩ := Prod.mk.inj hmove
  have hstep := Cursor.step_eq (c.settle (UInt64.ofNat found.length)) m
  have hquery := congrArg Cursor.query hstep
  have hsize := congrArg Cursor.size hstep
  refine ⟨hquery, ?_, stored, found, hserves, ?_⟩
  · rw [Cursor.Sized, hsize, hquery]
    exact h
  · rw [← Except.ok.inj hpage, hsize]
    exact congrArg (window found _) h

/-! ## All that is live -/

/-- Whether each search in a session was begun there, and has pages as large as it may. -/
def Session.Sized (limits : PageLimits) (begun : SessionKey → Query → Prop) (x : Session) : Prop :=
  ∀ (k : SearchKind) (c : Cursor k.Terms), k.slot.get x.cursors = some c →
    begun x.key (k.query c.query) ∧ c.Sized limits k

/-- Whether this is so in all sessions. -/
def Sessions.Sized (limits : PageLimits) (begun : SessionKey → Query → Prop)
    (s : Sessions) : Prop :=
  ∀ x ∈ s.live, x.Sized limits begun

namespace Sessions

variable {s : Sessions} {key : SessionKey} {now : Nat}

theorem Sized.filtered (h : s.Sized limits begun) (p : Session → Bool) :
    Sized limits begun { s with live := s.live.filter p } :=
  fun x hx => h x (List.mem_filter.1 hx).1

theorem Sized.update (h : s.Sized limits begun) {f : Session → Session}
    (hf : ∀ x, x.key = key → x.Sized limits begun → (f x).Sized limits begun) :
    (s.update key f).Sized limits begun := by
  intro x hx
  obtain ⟨y, hy, rfl⟩ := List.mem_map.1 hx
  split
  · rename_i hkey
    exact hf y hkey (h y hy)
  · exact h y hy

theorem Sized.get (h : s.Sized limits begun) : (s.get key now).2.Sized limits begun := by
  unfold Sessions.get
  cases s.find? key with
  | none => exact h
  | some x =>
    dsimp only
    split
    · exact h.filtered _
    · exact h.update fun _ _ hx => hx

theorem Sized.found (h : s.Sized limits begun) {x : Session} (hx : (s.get key now).1 = some x) :
    x.Sized limits begun := by
  rw [get_eq] at hx
  obtain ⟨y, hy, hlook⟩ := Option.bind_eq_some_iff.1 hx
  split at hlook
  · cases hlook
    exact h y (List.mem_of_find?_eq_some hy)
  · cases hlook

theorem Sized.current (h : s.Sized limits begun) {caller : Session}
    (hcaller : caller.Sized limits begun) : (s.current caller).Sized limits begun := by
  unfold Sessions.current
  cases hfound : s.find? caller.key with
  | none => exact hcaller
  | some x => exact h x (List.mem_of_find?_eq_some hfound)

theorem Sized.revoke (h : s.Sized limits begun) (principals : List AccountId) :
    (s.revoke principals).Sized limits begun := by
  induction principals generalizing s with
  | nil => exact h
  | cons p rest ih => exact ih (h.filtered _)

theorem Sized.without (h : s.Sized limits begun) (own : Option SessionKey) :
    (s.without own).Sized limits begun := by
  cases own with
  | none => exact h
  | some key => exact h.filtered _

/-- There is no search in a session that has just begun. -/
theorem Sized.create (h : s.Sized limits begun) (name : String) (admin : Bool) :
    (s.create key name admin now).Sized limits begun := by
  intro x hx
  rcases List.mem_append.1 hx with hold | hnew
  · exact h.filtered _ x hold
  · obtain rfl := List.mem_singleton.1 hnew
    intro k c hc
    rw [SearchKind.get_none] at hc
    cases hc

/-- A session that is given a cursor may have other searches too. -/
theorem Sized.keep (h : s.Sized limits begun) {cursor : Option (Cursor k.Terms)}
    (hcursor : ∀ c, cursor = some c → begun key (k.query c.query) ∧ c.Sized limits k) :
    (s.keep key cursor).Sized limits begun := by
  refine h.update fun x hkey hx => ?_
  intro other c hc
  by_cases hother : other = k
  · subst hother
    rw [SearchKind.get_set] at hc
    exact hkey ▸ hcursor c hc
  · rw [SearchKind.get_set_of_ne (Ne.symm hother)] at hc
    exact hx other c hc

end Sessions

/-- What a command finds and leaves, if it begins no search. -/
instance : Desk.Lasting fun d d' =>
    d.sessions.Sized limits begun → d'.sessions.Sized limits begun where
  trans h h' := h' ∘ h
  aside {d _} hsessions _ := by
    rw [hsessions]
    exact id
  used _ _ _ := Sessions.Sized.get
  ended _ _ h := h.filtered _

/-! ## One command -/

/-- What a reply owes to a search: it shows a page of one that was begun in the caller's session, by
the command itself if that begins one. -/
def Owes (limits : PageLimits) (begun : SessionKey → Query → Prop) (key : SessionKey) (c : Command)
    (reply : Reply) : Prop :=
  ∀ k, searches? c = some k → ∃ (q : k.Terms) (page : Page k.Row), reply = k.reply page ∧
    begun key (k.query q) ∧ (∀ query, c = .searchBegin query → query = k.query q) ∧
    Windows limits k q page

namespace Handling

variable {d : Desk} {r : Request} {draw : Draw} {caller : Session}

theorem sized_searchBegin {q : k.Terms} (hd : d.sessions.Sized limits begun)
    (hbegun : begun caller.key (k.query q)) (hpos : limits.sizeFor (k.limit q) ≠ 0) :
    Ends (fun page d' => Windows limits k q page ∧ d'.sessions.Sized limits begun)
      (fun _ d' => d'.sessions.Sized limits begun) d
      (searchBegin caller k.slot q (limits.sizeFor (k.limit q))
        fun d => k.source (k.seen d) q) := by
  refine ends_bind (ends_admin ?_ fun _ => hd)
  have hgiven : (d.sessions.keep (k := k) caller.key none).Sized limits begun := hd.keep nofun
  refine ends_bind (ends_of_ok (outcome_keepCursor caller.key none) (ends_get_bind ?_))
  obtain ⟨page, c, hmove⟩ := SearchKind.move_source
    (Cursor.start q (limits.sizeFor (k.limit q))) .stay
    (k.seen { d with sessions := d.sessions.keep (k := k) caller.key none }) q
  obtain ⟨hquery, hsized, hwindow⟩ := (Cursor.sized_start q hpos).move hmove
  rw [hmove]
  refine ends_bind (ends_of_ok rfl ?_)
  refine ends_bind (ends_of_ok (outcome_keepCursor caller.key (some c)) (ends_pure ⟨hwindow, ?_⟩))
  refine hgiven.keep fun c' hc' => ?_
  cases hc'
  rw [hquery]
  exact ⟨hbegun, hsized⟩

theorem sized_searchTurn {name : String} {turn : Turn} (hd : d.sessions.Sized limits begun)
    (hcaller : caller.Sized limits begun) :
    Ends (fun page d' => (∃ q, begun caller.key (k.query q) ∧ Windows limits k q page) ∧
        d'.sessions.Sized limits begun)
      (fun _ d' => d'.sessions.Sized limits begun) d
      (searchTurn caller name k.slot turn fun d => k.source (k.seen d)) := by
  refine ends_bind (ends_admin ?_ fun _ => hd)
  refine ends_bind (ends_expect (fun cursor hcursor => ends_get_bind ?_) fun _ => hd)
  obtain ⟨hbegun, hcursor⟩ := hcaller k cursor hcursor
  obtain ⟨page, c, hmove⟩ := SearchKind.move_source cursor (.ofTurn turn) (k.seen d) cursor.query
  obtain ⟨hquery, hsized, hwindow⟩ := hcursor.move hmove
  rw [hmove]
  refine ends_bind (ends_of_ok (outcome_keepCursor caller.key (some c)) ?_)
  refine ends_of_ok rfl ⟨⟨cursor.query, hbegun, hwindow⟩, hd.keep fun c' hc' => ?_⟩
  cases hc'
  rw [hquery]
  exact ⟨hbegun, hsized⟩

/-- A command that is about no search owes nothing. -/
theorem sized_of_searchless {c : Command} (hd : d.sessions.Sized limits begun)
    (hneeds : needsCaller c = true) (hsearches : searches? c = none) :
    Ends (fun reply d' => Owes limits begun caller.key c reply ∧ d'.sessions.Sized limits begun)
      (fun _ d' => d'.sessions.Sized limits begun) d (carryOut limits r draw caller c) := by
  have hled : Leads (fun d d' => d.sessions.Sized limits begun → d'.sessions.Sized limits begun) d
      (carryOut limits r draw caller c) :=
    tacit_carryOut limits hneeds fun k hk => by cases hsearches.symm.trans hk
  constructor
  · intro reply d' hm
    refine ⟨fun k hk => ?_, hled.of_outcome hm hd⟩
    cases hsearches.symm.trans hk
  · intro halt d' hm
    exact hled.of_outcome hm hd

/-- **Carrying out a command for a caller** leaves all searches as large as they may be, and shows
no larger page. -/
theorem sized_carryOut (hpos : ∀ limit, limits.sizeFor limit ≠ 0) {c : Command}
    (hd : d.sessions.Sized limits begun) (hcaller : caller.Sized limits begun)
    (hbegun : ∀ q, c = .searchBegin q → begun caller.key q) (hneeds : needsCaller c = true) :
    Ends (fun reply d' => Owes limits begun caller.key c reply ∧ d'.sessions.Sized limits begun)
      (fun _ d' => d'.sessions.Sized limits begun) d (carryOut limits r draw caller c) := by
  cases c with
  | searchBegin query =>
    obtain ⟨q, hq⟩ := SearchKind.exists_query query
    rw [← hq, SearchKind.carryOut_searchBegin]
    have hown : begun caller.key (query.kind.query q) :=
      hbegun _ (congrArg Command.searchBegin hq.symm)
    refine ends_map ((sized_searchBegin hd hown (hpos _)).imp fun page d' h => ⟨?_, h.2⟩)
    intro k hk
    obtain rfl : query.kind = k := by simpa [searches?] using hk
    refine ⟨q, page, rfl, hown, fun query' hquery' => ?_, h.1⟩
    exact (Command.searchBegin.inj hquery').symm
  | searchTurn kind turn =>
    rw [SearchKind.carryOut_searchTurn]
    refine ends_map ((sized_searchTurn hd hcaller).imp fun page d' h => ⟨?_, h.2⟩)
    intro k hk
    obtain rfl := Option.some.inj hk
    obtain ⟨⟨q, hown, hwindow⟩, -⟩ := h
    exact ⟨q, page, rfl, hown, fun _ hbegin => (by cases hbegin), hwindow⟩
  | login l => cases hneeds
  | logout => cases hneeds
  | _ => exact sized_of_searchless hd rfl rfl

/-- Somebody who logs in begins no search, and neither does somebody who logs out. -/
theorem sized_of_not_needsCaller {c : Command} (hd : d.sessions.Sized limits begun)
    (hneeds : needsCaller c = false) :
    Leads (fun _ d' => d'.sessions.Sized limits begun) d (carryOut limits r draw caller c) := by
  cases c with
  | login l =>
    refine leads_of_ends ⟨fun hm => ?_, fun hm => ?_⟩
    · obtain ⟨account, hsessions, -⟩ := ((ends_login_eq l).ok hm).session
      rw [hsessions]
      exact (hd.without _).create _ _
    · rw [((ends_login_eq l).error hm).sessions]
      exact hd
  | logout =>
    have hled : Leads (fun d d' => d.sessions.Sized limits begun → d'.sessions.Sized limits begun) d
        (logout r) := lasts_logout r
    exact hled hd
  | _ => cases hneeds

end Handling

/-! ## One step -/

/-- What is going to be answered to a command that has been carried out. -/
def Stage.reply? : Stage → Option Reply
  | .worked (.ok reply) _ _ => some reply
  | .closed (.ok reply) _ => some reply
  | .answered (.ok reply) _ => some reply
  | _ => none

/-- Whether a command on its way was asked for, has found a caller whose searches are as large as
they may be, and is going to answer no more than it owes. -/
structure OpenCommand.Sized (limits : PageLimits) (begun : SessionKey → Query → Prop)
    (o : OpenCommand) : Prop where
  asked : ∀ key q, o.request.session = some key → o.command = .searchBegin q → begun key q
  caller : ∀ tx caller, o.stage = .identified tx caller →
    o.request.session = some caller.key ∧ caller.Sized limits begun
  reply : ∀ reply, o.stage.reply? = some reply → needsCaller o.command = true →
    ∃ key, o.request.session = some key ∧ Owes limits begun key o.command reply

namespace OpenCommand

variable {o o' : OpenCommand} {server server' : Service} {draw : Draw}

theorem sized_opened {tx : Transaction} (hst : o.stage = .opened tx)
    (hasked : ∀ key q, o.request.session = some key → o.command = .searchBegin q → begun key q) :
    o.Sized limits begun where
  asked := hasked
  caller tx caller h := by cases hst.symm.trans h
  reply reply h := by
    rw [hst] at h
    cases h

/-- A command that only comes further answers what it was going to answer. -/
theorem Sized.of_closed (h : o.Sized limits begun) {outcome : Except Halt Reply} {tx : Transaction}
    {effects : Effects} (hst : o.stage = .worked outcome tx effects) :
    { o with stage := .closed outcome effects }.Sized limits begun where
  asked := h.asked
  caller tx caller h := by cases h
  reply reply hr := by
    refine h.reply reply ?_
    rw [hst]
    cases outcome with
    | ok answer => exact hr
    | error halt => cases hr

theorem Sized.of_answered (h : o.Sized limits begun) {outcome : Except Halt Reply}
    {effects : Effects} (hst : o.stage = .closed outcome effects) :
    { o with stage := .answered outcome effects }.Sized limits begun where
  asked := h.asked
  caller tx caller h := by cases h
  reply reply hr := by
    refine h.reply reply ?_
    rw [hst]
    cases outcome with
    | ok answer => exact hr
    | error halt => cases hr

theorem Sized.of_worked (h : o.Sized limits begun) {outcome : Except Halt Reply} {tx : Transaction}
    {effects : Effects}
    (hreply : ∀ reply, outcome = .ok reply → needsCaller o.command = true →
      ∃ key, o.request.session = some key ∧ Owes limits begun key o.command reply) :
    { o with stage := .worked outcome tx effects }.Sized limits begun where
  asked := h.asked
  caller tx' caller hst := by cases hst
  reply reply hr := by
    cases outcome with
    | ok answer =>
      cases hr
      exact hreply reply rfl
    | error halt => cases hr

/-- **One step** leaves all searches as large as they may be. -/
theorem sized_next (hpos : ∀ limit, limits.sizeFor limit ≠ 0) (hlimits : server.limits = limits)
    (hs : server.sessions.Sized limits begun) (ho : o.Sized limits begun)
    (h : o.next server draw = some (o', server')) :
    server'.limits = limits ∧ server'.sessions.Sized limits begun ∧ o'.Sized limits begun := by
  cases advances_of_next h with
  | @identified tx caller desk hst hrun =>
    obtain ⟨hadmitted, rfl⟩ := Handling.identify_ok hrun
    refine ⟨hlimits, hs.get, ho.asked, fun tx' caller' hst' => ?_, nofun⟩
    cases hst'
    exact ⟨hadmitted.key, hs.found hadmitted.live⟩
  | @unidentified tx halt desk hst hrun =>
    have hled : Handling.Leads
        (fun d d' => d.sessions.Sized limits begun → d'.sessions.Sized limits begun)
        (server.desk tx) (Handling.identify o.request o.command) := Handling.tacit_identify _ _
    exact ⟨hlimits, hled.of_outcome hrun hs, ho.of_worked fun _ hok => by cases hok⟩
  | @worked tx caller outcome desk hst hrun =>
    subst hlimits
    cases hneeds : needsCaller o.command with
    | false =>
      have hled : Handling.Leads (fun _ d' => d'.sessions.Sized server.limits begun)
          (server.desk tx) (Handling.carryOut server.limits o.request draw caller o.command) :=
        Handling.sized_of_not_needsCaller hs hneeds
      refine ⟨rfl, hled.of_outcome hrun, ho.of_worked fun reply _ hcaller => ?_⟩
      cases hneeds.symm.trans hcaller
    | true =>
      rcases hst with ⟨-, hnot⟩ | ⟨found, hst, rfl⟩
      · cases hneeds.symm.trans hnot
      obtain ⟨hkey, hfound⟩ := ho.caller tx found hst
      rw [← server.sessions.current_key] at hkey
      have hasked := fun q => ho.asked (server.sessions.current found).key q hkey
      have hends : Handling.Ends
          (fun reply d' => Owes server.limits begun (server.sessions.current found).key o.command
            reply ∧ d'.sessions.Sized server.limits begun)
          (fun _ d' => d'.sessions.Sized server.limits begun) (server.desk tx)
          (Handling.carryOut server.limits o.request draw (server.sessions.current found)
            o.command) :=
        Handling.sized_carryOut hpos hs (hs.current hfound) hasked hneeds
      cases outcome with
      | error halt => exact ⟨rfl, hends.error hrun, ho.of_worked fun _ hok => by cases hok⟩
      | ok reply =>
        obtain ⟨howes, hsized⟩ := hends.ok hrun
        refine ⟨rfl, hsized, ho.of_worked fun reply' hreply' _ => ?_⟩
        cases hreply'
        exact ⟨_, hkey, howes⟩
  | committed hst => exact ⟨hlimits, hs, ho.of_closed hst⟩
  | dropped hst => exact ⟨hlimits, hs, ho.of_closed hst⟩
  | again hst => exact ⟨hlimits, hs, sized_opened rfl ho.asked⟩
  | @answered outcome effects hst =>
    have ho' := ho.of_answered hst
    cases outcome with
    | ok reply => exact ⟨hlimits, hs.revoke effects.revoked, ho'⟩
    | error halt => exact ⟨hlimits, hs, ho'⟩

end OpenCommand

/-! ## Runs -/

/-- Whether somebody asked in a session that a search be begun. -/
def Begun (schedule : List ServiceStep) (key : SessionKey) (query : Query) : Prop :=
  ∃ n r, .arrive n r (.searchBegin query) ∈ schedule ∧ r.session = some key

/-- Whether this is so everywhere on a server. -/
structure OpenService.Sized (limits : PageLimits) (begun : SessionKey → Query → Prop)
    (σ : OpenService) : Prop where
  allowed : σ.server.limits = limits
  sessions : σ.server.sessions.Sized limits begun
  commands : ∀ n o, σ.commands n = some o → o.Sized limits begun

namespace OpenService

variable {σ₀ σ σ' : OpenService} {schedule : List ServiceStep}

theorem Begins.commands_eq (h : Begins σ) : σ.commands = fun _ => none := by
  cases h <;> rfl

theorem sized_begins (h : Begins σ) (hlimits : σ.server.limits = limits) :
    σ.Sized limits begun where
  allowed := hlimits
  sessions x hx := by
    rw [live_begins h] at hx
    cases hx
  commands n o ho := by
    rw [h.commands_eq] at ho
    cases ho

theorem Sized.put {n : Nat} {o : OpenCommand} (h : σ.Sized limits begun)
    (ho : o.Sized limits begun) : (σ.put n o).Sized limits begun := by
  refine ⟨h.allowed, h.sessions, fun m u hm => ?_⟩
  rcases put_commands hm with ⟨-, rfl⟩ | ⟨-, hold⟩
  · exact ho
  · exact h.commands m u hold

theorem sized_step (hpos : ∀ limit, limits.sizeFor limit ≠ 0) {a : ServiceStep} (ha : a ∈ schedule)
    (h : σ.Sized limits (Begun schedule)) (hs : σ.step a = some σ') :
    σ'.Sized limits (Begun schedule) := by
  cases a with
  | arrive n r c =>
    obtain ⟨-, rfl⟩ := step_arrive hs
    refine h.put (OpenCommand.sized_opened rfl fun key q hkey hc => ⟨n, r, ?_, hkey⟩)
    obtain rfl : c = .searchBegin q := hc
    exact ha
  | advance n account session hashing =>
    obtain ⟨o, o', server, hn, -, hnext, rfl⟩ := step_advance hs
    obtain ⟨hlimits, hsessions, ho'⟩ :=
      OpenCommand.sized_next hpos h.allowed h.sessions (h.commands n o hn) hnext
    exact Sized.put ⟨hlimits, hsessions, h.commands⟩ ho'
  | sweep now inUse =>
    cases hs
    exact ⟨h.allowed, h.sessions.filtered _, h.commands⟩

/-- **Whatever goes on at a server**, searches are as large as they may be. -/
theorem sized_run (hpos : ∀ limit, limits.sizeFor limit ≠ 0) (hbegins : Begins σ₀)
    (hlimits : σ₀.server.limits = limits) (hrun : σ₀.run schedule = some σ) :
    σ.Sized limits (Begun schedule) :=
  foldlM_induction (sized_begins hbegins hlimits)
    (fun _ _ _ ha h hs => sized_step hpos ha h hs) hrun

/-- What is answered to somebody who searches. -/
theorem page_of_execution (hpos : ∀ limit, limits.sizeFor limit ≠ 0) (hbegins : Begins σ₀)
    (hlimits : σ₀.server.limits = limits) (hrun : σ₀.run schedule = some σ) {n : Nat}
    {o : OpenCommand} {e : Execution} {id : RequestId} {reply : Reply} {k : SearchKind}
    (hn : σ.commands n = some o) (he : o.execution? = some e)
    (hsuccess : e.response = .success id reply) (hk : searches? o.command = some k) :
    ∃ key, o.request.session = some key ∧ Owes limits (Begun schedule) key o.command reply := by
  obtain ⟨outcome, effects, hst, rfl⟩ := OpenCommand.answered_of_execution he
  have hneeds : needsCaller o.command = true := by
    cases hc : o.command with
    | login l => cases hc ▸ hk
    | logout => cases hc ▸ hk
    | _ => rfl
  cases outcome with
  | error halt => cases hsuccess
  | ok answer =>
    obtain ⟨-, rfl⟩ := Response.success.inj hsuccess
    exact ((sized_run hpos hbegins hlimits hrun).commands n o hn).reply _ (by rw [hst]; rfl) hneeds

end OpenService

end AcctAdmin.Server
