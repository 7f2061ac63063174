import AcctAdmin.Client.Link
import AcctAdmin.Proofs.Protocol.Body
import Mathlib.Data.List.Induction
import Mathlib.Data.Prod.Lex

/-!
# The best of what both sides have

Whatever a server offers and a client has on its list, with any names and numbers and any of them
twice: what is chosen has the greatest number of all that both have. Among several of that number it
is the first on the client's list, and its path is the first one that the server offers it at. The
client then opens a line there, once and by nothing else than what its list says, or it opens none.
-/

set_option autoImplicit false

namespace AcctAdmin.Protocol

/-- The number of a generation; the major part decides first. -/
def Identifier.number (i : Identifier) : ℕ ×ₗ ℕ := toLex (i.major.toNat, i.minor.toNat)

theorem Identifier.precedes_iff (i j : Identifier) : i.precedes j = true ↔ i.number < j.number := by
  rw [number, number, Prod.Lex.toLex_lt_toLex, precedes, Bool.or_eq_true, Bool.and_eq_true,
    decide_eq_true_eq, decide_eq_true_eq, beq_iff_eq, UInt32.lt_iff_toNat_lt,
    UInt32.lt_iff_toNat_lt, UInt32.toNat_inj]

/-- Some offer has the name and the number of a generation. -/
def Offered (offers : List Offer) (g : Generation) : Prop :=
  ∃ o ∈ offers, o.supported = g.identifier

end AcctAdmin.Protocol

namespace AcctAdmin.Client

open AcctAdmin.Protocol

section Entries

variable {Entry Other : Type} {generation : Entry → Generation} {offers : List Offer}
  {supported : List Entry} {s : Entry} {c : Choice Entry} {place : Nat}

/-! ## One entry -/

theorem Choice.of?_eq_none :
    Choice.of? generation offers s = none ↔ ¬ Offered offers (generation s) := by
  rw [Choice.of?, Option.map_eq_none_iff, List.find?_eq_none, Offered]
  refine ⟨fun h ⟨o, ho, hnamed⟩ => h o ho (beq_iff_eq.2 hnamed.symm), fun h o ho hnamed => ?_⟩
  exact h ⟨o, ho, (eq_of_beq hnamed).symm⟩

/-- The offer that is taken for an entry is the first one with its name and number. -/
structure Choice.Takes (offers : List Offer) (g : Generation) (o : Offer) : Prop where
  named : o.supported = g.identifier
  first : ∃ before after, offers = before ++ o :: after ∧ ∀ o' ∈ before, o'.supported ≠ g.identifier

theorem Choice.takes_of? (h : Choice.of? generation offers s = some c) :
    c.entry = s ∧ Choice.Takes offers (generation s) c.offer := by
  obtain ⟨o, hfound, rfl⟩ := Option.map_eq_some_iff.1 h
  obtain ⟨hnamed, before, after, hsplit, hbefore⟩ := List.find?_eq_some_iff_append.1 hfound
  refine ⟨rfl, (eq_of_beq hnamed).symm, before, after, hsplit, fun o' ho' hnamed' => ?_⟩
  have hnot := hbefore o' ho'
  simp [Generation.isNamedBy, hnamed'] at hnot

theorem Choice.Takes.offered {g : Generation} {o : Offer} (h : Choice.Takes offers g o) :
    Offered offers g := by
  obtain ⟨before, after, rfl, -⟩ := h.first
  exact ⟨o, List.mem_append_right before List.mem_cons_self, h.named⟩

/-! ## One entry more -/

theorem choose?_concat (supported : List Entry) (s : Entry) :
    choose? generation offers (supported ++ [s]) =
      match Choice.of? generation offers s with
      | none => choose? generation offers supported
      | some c => Choice.better (choose? generation offers supported) c := by
  rw [choose?, List.filterMap_append, List.foldl_append, ← choose?]
  cases hof : Choice.of? generation offers s with
  | none => simp only [List.filterMap_cons, List.filterMap_nil, hof, List.foldl_nil]
  | some c => simp only [List.filterMap_cons, List.filterMap_nil, hof, List.foldl_cons,
      List.foldl_nil]

/-- The best of all that an offer can be taken for: the first on the list of those with the greatest
number, and the first offer of it. -/
structure Choice.Best (generation : Entry → Generation) (offers : List Offer)
    (supported : List Entry) (place : Nat) (c : Choice Entry) : Prop where
  entry : supported[place]? = some c.entry
  takes : Choice.Takes offers (generation c.entry) c.offer
  greatest : ∀ s ∈ supported, Offered offers (generation s) →
    (generation s).identifier.number ≤ (generation c.entry).identifier.number
  first : ∀ i < place, ∀ s, supported[i]? = some s → Offered offers (generation s) →
    (generation s).identifier.number < (generation c.entry).identifier.number

/-- What is best stays so beside an entry that is no better. -/
theorem Choice.Best.concat (h : Choice.Best generation offers supported place c)
    (hworse : Offered offers (generation s) →
      (generation s).identifier.number ≤ (generation c.entry).identifier.number) :
    Choice.Best generation offers (supported ++ [s]) place c := by
  obtain ⟨hlt, -⟩ := List.getElem?_eq_some_iff.1 h.entry
  refine ⟨?_, h.takes, fun s' hs' hoffered => ?_, fun i hi s' hs' hoffered => ?_⟩
  · rw [List.getElem?_append_left hlt]
    exact h.entry
  · rcases List.mem_append.1 hs' with hs' | hs'
    · exact h.greatest s' hs' hoffered
    · obtain rfl := List.mem_singleton.1 hs'
      exact hworse hoffered
  · rw [List.getElem?_append_left (Nat.lt_trans hi hlt)] at hs'
    exact h.first i hi s' hs' hoffered

/-- An entry is the best behind others that are all worse. -/
theorem Choice.best_concat (htakes : Choice.Takes offers (generation c.entry) c.offer)
    (hworse : ∀ s ∈ supported, Offered offers (generation s) →
      (generation s).identifier.number < (generation c.entry).identifier.number) :
    Choice.Best generation offers (supported ++ [c.entry]) supported.length c := by
  refine ⟨List.getElem?_concat_length, htakes, fun s' hs' hoffered => ?_,
    fun i hi s' hs' hoffered => ?_⟩
  · rcases List.mem_append.1 hs' with hs' | hs'
    · exact (hworse s' hs' hoffered).le
    · rw [List.mem_singleton.1 hs']
  · rw [List.getElem?_append_left hi] at hs'
    exact hworse s' (List.mem_of_getElem? hs') hoffered

/-- What is chosen is right: nothing if nothing on the list is offered, or else the best. -/
def Choice.Right (generation : Entry → Generation) (offers : List Offer)
    (supported : List Entry) : Option (Choice Entry) → Prop
  | none => ∀ s ∈ supported, ¬ Offered offers (generation s)
  | some c => ∃ place, Choice.Best generation offers supported place c

/-- An entry that is not offered changes nothing. -/
theorem Choice.Right.concat {best : Option (Choice Entry)}
    (h : Choice.Right generation offers supported best) (hnot : ¬ Offered offers (generation s)) :
    Choice.Right generation offers (supported ++ [s]) best := by
  cases best with
  | none =>
    intro s' hs'
    rcases List.mem_append.1 hs' with hs' | hs'
    · exact h s' hs'
    · rwa [List.mem_singleton.1 hs']
  | some best =>
    obtain ⟨place, hbest⟩ := h
    exact ⟨place, hbest.concat fun hoffered => absurd hoffered hnot⟩

/-- The better of what was chosen and one entry more is right. -/
theorem Choice.Right.better {best : Option (Choice Entry)}
    (h : Choice.Right generation offers supported best)
    (htakes : Choice.Takes offers (generation c.entry) c.offer) :
    Choice.Right generation offers (supported ++ [c.entry]) (Choice.better best c) := by
  cases best with
  | none =>
    refine ⟨supported.length, Choice.best_concat htakes fun s' hs' hoffered => ?_⟩
    exact absurd hoffered (h s' hs')
  | some best =>
    obtain ⟨place, hbest⟩ := h
    have hprecedes := Identifier.precedes_iff best.offer.supported c.offer.supported
    rw [hbest.takes.named, htakes.named] at hprecedes
    rw [Choice.better, hbest.takes.named, htakes.named]
    by_cases hlt :
      (generation best.entry).identifier.number < (generation c.entry).identifier.number
    · rw [if_pos (hprecedes.2 hlt)]
      refine ⟨supported.length, Choice.best_concat htakes fun s' hs' hoffered => ?_⟩
      exact (hbest.greatest s' hs' hoffered).trans_lt hlt
    · rw [if_neg (mt hprecedes.1 hlt)]
      exact ⟨place, hbest.concat fun _ => not_lt.1 hlt⟩

/-! ## All entries -/

theorem right_choose? (generation : Entry → Generation) (offers : List Offer)
    (supported : List Entry) :
    Choice.Right generation offers supported (choose? generation offers supported) := by
  induction supported using List.reverseRecOn with
  | nil => exact fun s hs => absurd hs List.not_mem_nil
  | append_singleton supported s ih =>
    rw [choose?_concat]
    cases hof : Choice.of? generation offers s with
    | none => exact ih.concat (Choice.of?_eq_none.1 hof)
    | some c =>
      obtain ⟨rfl, htakes⟩ := Choice.takes_of? hof
      exact ih.better htakes

/-- Nothing is chosen just if nothing on the list is offered. -/
theorem choose?_eq_none_iff :
    choose? generation offers supported = none ↔
      ∀ s ∈ supported, ¬ Offered offers (generation s) := by
  have hright := right_choose? generation offers supported
  refine ⟨fun hnone => ?_, fun hnot => ?_⟩
  · rwa [hnone] at hright
  · cases hchosen : choose? generation offers supported with
    | none => rfl
    | some c =>
      rw [hchosen] at hright
      obtain ⟨place, hbest⟩ := hright
      exact absurd hbest.takes.offered (hnot c.entry (List.mem_of_getElem? hbest.entry))

theorem best_of_choose? (h : choose? generation offers supported = some c) :
    ∃ place, Choice.Best generation offers supported place c := by
  have hright := right_choose? generation offers supported
  rwa [h] at hright

/-! ## Other lists -/

def Choice.map (f : Entry → Other) (c : Choice Entry) : Choice Other := ⟨f c.entry, c.offer⟩

theorem Choice.of?_map (generation : Other → Generation) (f : Entry → Other) (s : Entry) :
    Choice.of? generation offers (f s) =
      (Choice.of? (generation ∘ f) offers s).map (Choice.map f) := by
  rw [Choice.of?, Choice.of?, Option.map_map]
  rfl

theorem Choice.better_map (f : Entry → Other) (best : Option (Choice Entry)) (c : Choice Entry) :
    Choice.better (best.map (Choice.map f)) (c.map f) =
      (Choice.better best c).map (Choice.map f) := by
  cases best with
  | none => rfl
  | some best =>
    simp only [Option.map_some, Choice.better, Choice.map]
    split <;> rfl

/-- What is chosen from a list does not depend on what else its entries are. -/
theorem choose?_map (generation : Other → Generation) (offers : List Offer) (f : Entry → Other)
    (supported : List Entry) :
    choose? generation offers (supported.map f) =
      (choose? (generation ∘ f) offers supported).map (Choice.map f) := by
  induction supported using List.reverseRecOn with
  | nil => rfl
  | append_singleton supported s ih =>
    rw [List.map_append, List.map_cons, List.map_nil, choose?_concat, choose?_concat,
      Choice.of?_map]
    cases Choice.of? (generation ∘ f) offers s with
    | none => exact ih
    | some c =>
      simp only [Option.map_some, ih]
      exact Choice.better_map f _ c

theorem Choice.Best.map {generation : Other → Generation} {f : Entry → Other}
    (h : Choice.Best (generation ∘ f) offers supported place c) :
    Choice.Best generation offers (supported.map f) place (c.map f) := by
  refine ⟨?_, h.takes, fun s hs hoffered => ?_, fun i hi s hs hoffered => ?_⟩
  · rw [List.getElem?_map, h.entry]
    rfl
  · obtain ⟨s', hs', rfl⟩ := List.mem_map.1 hs
    exact h.greatest s' hs' hoffered
  · rw [List.getElem?_map, Option.map_eq_some_iff] at hs
    obtain ⟨s', hs', rfl⟩ := hs
    exact h.first i hi s' hs' hoffered

end Entries

/-! ## What is done for it -/

/-- What is done on the way to a line. -/
inductive Deed where
  | got (url : Url) (timeout : Duration)
  | posted (url : Url) (contentType : String) (body : ByteArray) (timeout : Duration)
  /-- By the entry at a place on the client's list. -/
  | opened (place : Nat) (g : Generation) (endpoint : Url)

variable {World Channel Line : Type}

/-- The same network, with everything written down that goes through it. -/
def Network.watched (net : Network World Channel) : Network (World × List Deed) Channel where
  dial w :=
    let (channel, world) := net.dial w.1
    (channel, world, w.2)
  get channel url timeout w :=
    let (reply, channel, world) := net.get channel url timeout w.1
    (reply, channel, world, w.2 ++ [.got url timeout])
  post channel url contentType body timeout w :=
    let (reply, channel, world) := net.post channel url contentType body timeout w.1
    (reply, channel, world, w.2 ++ [.posted url contentType body timeout])
  close channel w := (net.close channel w.1, w.2)
  resolve := net.resolve

/-- The same entry, with everything written down that it opens. -/
def Supported.watched (s : Supported World Channel Line) (place : Nat) :
    Supported (World × List Deed) Channel Line where
  generation := s.generation
  factory g endpoint channel w :=
    let (line, world) := s.factory g endpoint channel w.1
    (line, world, w.2 ++ [.opened place g endpoint])

def watchedList (supported : List (Supported World Channel Line)) :
    List (Supported (World × List Deed) Channel Line) :=
  supported.zipIdx.map fun entry => entry.1.watched entry.2

theorem identifiers_watchedList (supported : List (Supported World Channel Line)) :
    (watchedList supported).map (·.generation.identifier) =
      supported.map (·.generation.identifier) := by
  rw [watchedList, List.map_map]
  conv_rhs => rw [← List.zipIdx_map_fst 0 supported, List.map_map]
  rfl

/-- What is chosen of a list that is watched is what is chosen of the list. -/
theorem choose?_watchedList (offers : List Offer)
    (supported : List (Supported World Channel Line)) :
    match choose? Supported.generation offers supported with
    | none => choose? Supported.generation offers (watchedList supported) = none
    | some c => ∃ place, Choice.Best Supported.generation offers supported place c ∧
        choose? Supported.generation offers (watchedList supported) =
          some ⟨c.entry.watched place, c.offer⟩ := by
  -- both are what is chosen of the entries with their places
  have hplain : choose? Supported.generation offers supported = _ :=
    (congrArg _ (List.zipIdx_map_fst 0 supported).symm).trans
      (choose?_map Supported.generation offers Prod.fst supported.zipIdx)
  have hwatched : choose? Supported.generation offers (watchedList supported) = _ :=
    choose?_map Supported.generation offers (fun entry => entry.1.watched entry.2)
      supported.zipIdx
  rw [hplain, hwatched]
  cases hchosen : choose? (Supported.generation ∘ Prod.fst) offers supported.zipIdx with
  | none =>
    exact congrArg (Option.map (Choice.map fun entry => entry.1.watched entry.2)) hchosen
  | some c =>
    obtain ⟨place, hbest⟩ := best_of_choose? hchosen
    have hmapped := hbest.map
    rw [List.zipIdx_map_fst] at hmapped
    have hentry := hbest.entry
    rw [List.getElem?_zipIdx, Option.map_eq_some_iff] at hentry
    obtain ⟨s, -, hplace⟩ := hentry
    refine ⟨place, hmapped, ?_⟩
    have hwatch := congrArg (Option.map (Choice.map fun entry => entry.1.watched entry.2)) hchosen
    refine hwatch.trans ?_
    rw [Nat.zero_add] at hplace
    simp only [Option.map_some, Choice.map, ← hplace]

/-- What is settled by an advertisement that can be read. -/
theorem settle_of_read (net : Network World Channel) (base : Url)
    (supported : List (Supported World Channel Line)) {offers : List Offer} {reply : HttpReply}
    (hstatus : isSuccessStatus reply.status = true)
    (hread : Advertisement.ofBytes? reply.body = some ⟨offers⟩) :
    settle net base supported reply =
      match choose? Supported.generation offers supported with
      | none => .error (.noSupportedProtocols (offers.map Offer.supported)
          (supported.map (·.generation.identifier)))
      | some c => (Link.endpointOf net base c.offer.path).map (c.entry, ·) := by
  rw [settle, if_pos hstatus, hread]
  cases hchosen : choose? Supported.generation offers supported with
  | none => simp only [hchosen]
  | some c =>
    simp only [hchosen]
    cases Link.endpointOf net base c.offer.path <;> rfl

/-- **The best of what both sides have is chosen, and opened once.** Nothing is chosen just if no
entry on the client's list is offered. Whatever is chosen has the greatest number of all that are,
is the first such entry on the list, and comes with the first offer of it. If an advertisement can
be read at the base, nothing else is read there and nothing is posted; what stands at that place on
the list is called once, with its generation and the endpoint that the offer's path leads to, and
what comes of it comes of the whole. Nothing is called if nothing is chosen, which is told with what
both sides have, or if the path leads nowhere, which is told with the path and the reason. Where
paths lead is for the network to say. -/
theorem negotiation_takes_best (offers : List Offer)
    (supported : List (Supported World Channel Line)) :
    let chosen := choose? Supported.generation offers supported
    (chosen = none ↔ ∀ s ∈ supported, ∀ o ∈ offers, o.supported ≠ s.generation.identifier) ∧
    (∀ c, chosen = some c →
      ∃ place, Choice.Best Supported.generation offers supported place c) ∧
    ∀ (net : Network World Channel) (base : Url) (channel : Channel) (timeout : Duration)
        (w : World) (reply : HttpReply) (channel' : Channel) (w' : World),
      net.get channel base timeout w = (.ok reply, channel', w') →
      isSuccessStatus reply.status = true →
      Advertisement.ofBytes? reply.body = some ⟨offers⟩ →
      let done := negotiate net.watched base (watchedList supported) channel timeout (w, [])
      (chosen = none → done =
        (.error (.noSupportedProtocols (offers.map Offer.supported)
          (supported.map (·.generation.identifier))), w', [.got base timeout])) ∧
      (∀ c, chosen = some c →
        ∃ place, Choice.Best Supported.generation offers supported place c ∧
        (∀ why, net.resolve base c.offer.path = .error why → done =
          (.error (.protocol ("cannot resolve endpoint path: " ++ why)
            (.ofList [("path", c.offer.path)])), w', [.got base timeout])) ∧
        (∀ url, net.resolve base c.offer.path = .ok url →
          let endpoint := url.asDirectory
          let (line, w'') := c.entry.factory c.entry.generation endpoint channel' w'
          done = (line, w'',
            [.got base timeout, .opened place c.entry.generation endpoint]))) := by
  intro chosen
  refine ⟨choose?_eq_none_iff.trans ?_, fun c => best_of_choose?, ?_⟩
  · simp only [Offered, not_exists, not_and, ne_eq]
  intro net base channel timeout w reply channel' w' hget hstatus hread done
  have hwatched := choose?_watchedList offers supported
  have hsettle := settle_of_read net.watched base (watchedList supported) hstatus hread
  have hgot : net.watched.get channel base timeout (w, []) =
      (.ok reply, channel', w', [.got base timeout]) := by
    simp only [Network.watched, hget, List.nil_append]
  refine ⟨fun hnone => ?_, fun c hc => ?_⟩
  · simp only [chosen] at hnone
    simp only [hnone] at hwatched
    rw [hwatched, identifiers_watchedList] at hsettle
    simp only [done, negotiate, hgot, hsettle]
  · simp only [chosen] at hc
    simp only [hc] at hwatched
    obtain ⟨place, hbest, hchosen⟩ := hwatched
    rw [hchosen] at hsettle
    refine ⟨place, hbest, fun why hnowhere => ?_, fun url hurl => ?_⟩
    · have hresolve : net.watched.resolve base c.offer.path = .error why := hnowhere
      simp only [Link.endpointOf, hresolve, Except.map] at hsettle
      simp only [done, negotiate, hgot, hsettle]
    · have hresolve : net.watched.resolve base c.offer.path = .ok url := hurl
      simp only [Link.endpointOf, hresolve, Except.map] at hsettle
      simp only [done, negotiate, hgot, hsettle, Supported.watched, List.cons_append,
        List.nil_append]

/-! ### One server and one client -/

/-- A network on which offers are shown, whatever is asked for. -/
def showing (offers : List Offer) : Network Unit Unit where
  dial w := ((), w)
  get _ _ _ w := (.ok reply, (), w)
  post _ _ _ _ _ w := (.ok reply, (), w)
  close _ w := w
where
  reply : HttpReply :=
    ⟨200, some "application/json", (⟨offers⟩ : Advertisement).render.toUTF8⟩

theorem ofBytes?_reply (offers : List Offer) :
    Advertisement.ofBytes? (showing.reply offers).body = some ⟨offers⟩ :=
  Advertisement.ofBytes?_render ⟨offers⟩

/-- An entry whose lines say its name and the endpoint they are opened to. -/
def naming (entry : String × Generation) : Supported Unit Unit (String × Url) :=
  ⟨entry.2, fun _ endpoint _ w => (.ok (entry.1, endpoint), w)⟩

def threeNames : List (String × Generation) :=
  [("old", generation10), ("new", generation11), ("newer", generation11)]

/-- Of the two entries of the greatest number the first is meant by its name. -/
theorem place_of_best {offers : List Offer} {o : Offer} {place : Nat}
    (h : Choice.Best Supported.generation offers (threeNames.map naming) place
      ⟨naming ("new", generation11), o⟩) : place = 1 := by
  have hentry := h.entry
  rw [List.getElem?_map] at hentry
  obtain ⟨entry, hplace, hnaming⟩ := Option.map_eq_some_iff.1 hentry
  let lineOf (s : Supported Unit Unit (String × Url)) : Option String :=
    (s.factory s.generation default () ()).1.toOption.map Prod.fst
  have hname : some entry.1 = some "new" := congrArg lineOf hnaming
  match place with
  | 0 =>
    obtain rfl := Option.some.inj hplace
    exact absurd hname (by decide)
  | 1 => rfl
  | 2 =>
    obtain rfl := Option.some.inj hplace
    exact absurd hname (by decide)
  | n + 3 => cases hplace

/-- An offer of another name. -/
def accountsOffer : Offer := ⟨⟨"accounts", 2, 0⟩, "b/"⟩

/-- An offer whose path begins with the address of a host and does not end it. -/
def brokenOffer : Offer := ⟨⟨"acct-admin", 1, 1⟩, "http://["⟩

/-- The root of a server. -/
def accountsRoot : Url :=
  ⟨"http", some ⟨"", none, .domain "accounts.example", none⟩, .rooted [""], none, none⟩

/-- Two entries and two offers have the greatest number that both sides have; the first of each are
taken, and a greater number of another name counts for nothing. If that is all that is offered,
nothing is opened, and neither is it where a path leads nowhere. -/
theorem new_is_opened_once :
    let asked (net : Network Unit Unit) :=
      negotiate net.watched accountsRoot (watchedList (threeNames.map naming)) () standardTimeout
        ((), [])
    let endpoint : Url := { accountsRoot with path := .rooted ["c", ""] }
    let offers : List Offer :=
      [⟨⟨"acct-admin", 1, 0⟩, "a/"⟩, accountsOffer, ⟨⟨"acct-admin", 1, 1⟩, "c/"⟩,
        ⟨⟨"acct-admin", 1, 1⟩, "d/"⟩]
    let broken : Network Unit Unit :=
      { showing [brokenOffer] with resolve := fun _ _ => .error "invalid IPv6 address" }
    asked (showing offers) =
        (.ok ("new", endpoint), (),
          [.got accountsRoot standardTimeout, .opened 1 generation11 endpoint]) ∧
      asked (showing [accountsOffer]) =
        (.error (.noSupportedProtocols [⟨"accounts", 2, 0⟩]
          [⟨"acct-admin", 1, 0⟩, ⟨"acct-admin", 1, 1⟩, ⟨"acct-admin", 1, 1⟩]), (),
          [.got accountsRoot standardTimeout]) ∧
      asked broken =
        (.error (.protocol "cannot resolve endpoint path: invalid IPv6 address"
          (.ofList [("path", "http://[")])), (), [.got accountsRoot standardTimeout]) := by
  intro asked endpoint offers broken
  have hchosen (offers : List Offer) {c : Option (Choice (String × Generation))}
      (h : choose? Prod.snd offers threeNames = c) :
      choose? Supported.generation offers (threeNames.map naming) = c.map (Choice.map naming) :=
    h ▸ choose?_map Supported.generation offers naming threeNames
  refine ⟨?_, ?_, ?_⟩
  · obtain ⟨-, -, hdone⟩ := negotiation_takes_best offers (threeNames.map naming)
    obtain ⟨-, hopened⟩ := hdone (showing offers) accountsRoot () standardTimeout () _ () () rfl rfl
      (ofBytes?_reply offers)
    have hnew : choose? Prod.snd offers threeNames =
        some ⟨("new", generation11), ⟨"acct-admin", 1, 1⟩, "c/"⟩ := by decide
    obtain ⟨place, hbest, -, hline⟩ := hopened _ (hchosen offers hnew)
    obtain rfl := place_of_best hbest
    exact hline endpoint rfl
  · obtain ⟨-, -, hdone⟩ := negotiation_takes_best [accountsOffer] (threeNames.map naming)
    obtain ⟨hnothing, -⟩ := hdone (showing [accountsOffer]) accountsRoot () standardTimeout () _ ()
      () rfl rfl (ofBytes?_reply [accountsOffer])
    have hnone : choose? Prod.snd [accountsOffer] threeNames = none := by decide
    exact hnothing (hchosen _ hnone)
  · obtain ⟨-, -, hdone⟩ := negotiation_takes_best [brokenOffer] (threeNames.map naming)
    obtain ⟨-, hopened⟩ := hdone broken accountsRoot () standardTimeout () _ () () rfl rfl
      (ofBytes?_reply [brokenOffer])
    have hnew : choose? Prod.snd [brokenOffer] threeNames =
        some ⟨("new", generation11), brokenOffer⟩ := by decide
    obtain ⟨place, -, hnowhere, -⟩ := hopened _ (hchosen _ hnew)
    exact hnowhere "invalid IPv6 address" rfl

end AcctAdmin.Client
