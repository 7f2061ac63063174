import AcctAdmin.Proofs.Front.Language
import AcctAdmin.Proofs.Search.PageSize
import AcctAdmin.Proofs.Text.Pieces
import AcctAdmin.Server.Hosted

/-!
# What a configured server is

Settings that pass their check can be served. The entries of the list of versions are read one by
one (`generationNumbered?_eq_some_iff`); the ways to write a number are many, and still no
generation is spoken twice (`named_of_generations`), so that no place is taken up twice
(`mountable`). How large a page may be is settled by two numbers that are checked together
(`sensible_of_check`), and holds for every page of every search from then on.
-/

set_option autoImplicit false

namespace AcctAdmin.Server

open AcctAdmin.Protocol AcctAdmin.Text

variable {entry : String} {entries : List String} {g : Generation} {spoken found : List Generation}

/-! ## Entries -/

/-- Whether an entry denotes a generation: it is the two numbers of one with a point between them.
Blanks around the two do not matter, nor do zeros or a plus sign in front of either. -/
structure Denotes (entry : String) (g : Generation) : Prop where
  known : g ∈ generations
  written : ∃ before major minor after,
    entry.toList = before ++ (major ++ '.' :: minor) ++ after ∧
    (∀ c ∈ before ++ after, isBlank c = true) ∧
    Numeral major g.major.toNat ∧ Numeral minor g.minor.toNat

theorem isBlank_of_isDigit {c : Char} (h : c.isDigit = true) : isBlank c = false := by
  obtain ⟨hlow, hhigh⟩ := toNat_of_isDigit h
  have hall : ∀ n < 10, blankRanges.covers (48 + n) = false := by decide
  have hdigit := hall (c.toNat - 48) (by omega)
  rwa [Nat.add_sub_cancel' hlow] at hdigit

theorem isBlank_of_mem_numeral {cs : List Char} {n : Nat} (h : Numeral cs n) {c : Char}
    (hc : c ∈ cs) : isBlank c = false := by
  rcases h.mem hc with rfl | hdigit
  · decide
  · exact isBlank_of_isDigit hdigit

theorem point_not_mem_numeral {cs : List Char} {n : Nat} (h : Numeral cs n) : '.' ∉ cs := by
  intro hpoint
  rcases h.mem hpoint with hplus | hdigit
  · exact absurd hplus (by decide)
  · exact absurd hdigit (by decide)

theorem head?_of_numeral {cs rest : List Char} {n : Nat} (h : Numeral cs n) :
    ∃ c, (cs ++ rest).head? = some c ∧ isBlank c = false := by
  obtain ⟨last, hlast, -⟩ := h.getLast?
  cases cs with
  | nil => cases hlast
  | cons c cs => exact ⟨c, rfl, isBlank_of_mem_numeral h List.mem_cons_self⟩

theorem generation?_eq_some_iff {i : Identifier} :
    i.generation? = some g ↔ g ∈ generations ∧ g.identifier = i := by
  unfold Identifier.generation?
  constructor
  · intro h
    have hnamed := List.find?_some h
    exact ⟨List.mem_of_find?_eq_some h, eq_of_beq hnamed⟩
  · rintro ⟨hg, rfl⟩
    have hall : ∀ g ∈ generations, generations.find? (·.isNamedBy g.identifier) = some g := by
      decide
    exact hall g hg

theorem name_of_mem_generations (hg : g ∈ generations) : g.name = protocolName := by
  have hall : ∀ g ∈ generations, g.name = protocolName := by decide
  exact hall g hg

/-- An entry names the generation that it denotes. -/
theorem generationNumbered?_eq_some_iff :
    generationNumbered? entry = some g ↔ Denotes entry g := by
  unfold generationNumbered?
  simp only [Option.bind_eq_bind, Option.bind_eq_some_iff, Prod.exists, trim, String.toList_ofList,
    splitOnce?_eq_some_iff, readBounded?_eq_some_iff, generation?_eq_some_iff]
  constructor
  · rintro ⟨major, minor, ⟨htrimmed, -⟩, m, ⟨hmajor, hm⟩, n, ⟨hminor, hn⟩, hg, hid⟩
    obtain ⟨before, after, hentry, hblank⟩ := exists_trimChars entry.toList
    obtain ⟨-, hm', hn'⟩ := Identifier.mk.injEq .. ▸ hid
    refine ⟨hg, before, major, minor, after, htrimmed ▸ hentry, hblank, ?_, ?_⟩
    · rwa [hm', UInt32.toNat_ofNat_of_lt' hm]
    · rwa [hn', UInt32.toNat_ofNat_of_lt' hn]
  · rintro ⟨hg, before, major, minor, after, hentry, hblank, hmajor, hminor⟩
    have hlast : ∃ c, (major ++ '.' :: minor).getLast? = some c ∧ isBlank c = false := by
      obtain ⟨c, hc, hdigit⟩ := hminor.getLast?
      refine ⟨c, ?_, isBlank_of_isDigit hdigit⟩
      rw [List.getLast?_append, List.getLast?_cons, hc]
      rfl
    have htrimmed : trimChars entry.toList = major ++ '.' :: minor := by
      rw [hentry]
      exact trimChars_of_blank_ends hblank (head?_of_numeral hmajor) hlast
    refine ⟨major, minor, ⟨htrimmed, point_not_mem_numeral hmajor⟩, g.major.toNat,
      ⟨hmajor, g.major.toNat_lt⟩, g.minor.toNat, ⟨hminor, g.minor.toNat_lt⟩, hg, ?_⟩
    rw [UInt32.ofNat_toNat, UInt32.ofNat_toNat, Generation.identifier, name_of_mem_generations hg]

theorem Denotes.unique {g' : Generation} (h : Denotes entry g) (h' : Denotes entry g') :
    g = g' := by
  rw [← generationNumbered?_eq_some_iff] at h h'
  exact Option.some.inj (h.symm.trans h')

/-! ## Lists of entries -/

/-- Whether a list of generations is what entries name: each entry denotes one of them, and they
stand in it once, in the order in which they are first denoted. -/
structure Named (entries : List String) (spoken : List Generation) : Prop where
  all : ∀ entry ∈ entries, ∃ g ∈ spoken, Denotes entry g
  denoted : ∀ g ∈ spoken, ∃ entry ∈ entries, Denotes entry g
  nodup : spoken.Nodup
  order : spoken.Pairwise fun g h => ∃ earlier entry later,
    entries = earlier ++ entry :: later ∧ Denotes entry g ∧ ∀ e ∈ earlier, ¬ Denotes e h

theorem Named.known (h : Named entries spoken) : spoken ⊆ generations := by
  intro g hg
  obtain ⟨entry, -, hdenotes⟩ := h.denoted g hg
  exact hdenotes.known

theorem identifier_injective {g' : Generation} (hg : g ∈ generations) (hg' : g' ∈ generations)
    (h : g.identifier = g'.identifier) : g = g' := by
  have hfirst := generation?_eq_some_iff.2 ⟨hg, rfl⟩
  have hsecond := generation?_eq_some_iff.2 ⟨hg', h.symm⟩
  exact Option.some.inj (hfirst.symm.trans hsecond)

/-- One entry more adds the generation that it denotes, unless that is there already. -/
theorem Named.concat (h : Named entries spoken) (hg : Denotes entry g) :
    Named (entries ++ [entry])
      (if spoken.any (·.identifier == g.identifier) then spoken else spoken ++ [g]) := by
  have hlonger : spoken.Pairwise fun g h => ∃ earlier first later,
      entries ++ [entry] = earlier ++ first :: later ∧ Denotes first g ∧
        ∀ e ∈ earlier, ¬ Denotes e h := by
    refine h.order.imp ?_
    rintro g h ⟨earlier, first, later, rfl, hfirst⟩
    exact ⟨earlier, first, later ++ [entry], by simp, hfirst⟩
  have hdenoted : ∀ g ∈ spoken, ∃ e ∈ entries ++ [entry], Denotes e g := by
    intro g' hg'
    obtain ⟨e, he, hdenotes⟩ := h.denoted g' hg'
    exact ⟨e, List.mem_append_left _ he, hdenotes⟩
  split
  · rename_i hany
    obtain ⟨g', hg', hsame⟩ := List.any_eq_true.1 hany
    obtain rfl := identifier_injective (h.known hg') hg.known (eq_of_beq hsame)
    refine ⟨fun e he => ?_, hdenoted, h.nodup, hlonger⟩
    rcases List.mem_append.1 he with hold | hnew
    · exact h.all e hold
    · exact ⟨g', hg', List.mem_singleton.1 hnew ▸ hg⟩
  · rename_i hnone
    have hnew : g ∉ spoken := fun hmem => hnone (List.any_eq_true.2 ⟨g, hmem, beq_self_eq_true _⟩)
    constructor
    case all =>
      intro e he
      rcases List.mem_append.1 he with hold | hlast
      · obtain ⟨g', hg', hdenotes⟩ := h.all e hold
        exact ⟨g', List.mem_append_left _ hg', hdenotes⟩
      · exact ⟨g, by simp, List.mem_singleton.1 hlast ▸ hg⟩
    case denoted =>
      intro g' hg'
      rcases List.mem_append.1 hg' with hold | hlast
      · exact hdenoted g' hold
      · exact ⟨entry, by simp, List.mem_singleton.1 hlast ▸ hg⟩
    case nodup =>
      refine List.nodup_append.2 ⟨h.nodup, List.nodup_singleton g, ?_⟩
      intro g' hg' g'' hg''
      rw [List.mem_singleton.1 hg'']
      exact fun heq => hnew (heq ▸ hg')
    case order =>
      refine List.pairwise_append.2 ⟨hlonger, List.pairwise_singleton _ _, ?_⟩
      intro g' hg' g'' hg''
      rw [List.mem_singleton.1 hg'']
      obtain ⟨e, he, hdenotes⟩ := h.denoted g' hg'
      obtain ⟨earlier, later, rfl⟩ := List.append_of_mem he
      refine ⟨earlier, e, later ++ [entry], by simp, hdenotes, fun e' he' hdenotes' => ?_⟩
      -- an entry before it would have brought the new generation in
      obtain ⟨g₀, hg₀, hdenotes₀⟩ := h.all e' (List.mem_append_left _ he')
      exact hnew (hdenotes'.unique hdenotes₀ ▸ hg₀)

/-- What is left of generations that are denoted one by one. -/
theorem named_firsts (h : List.Forall₂ Denotes entries found) :
    Named entries (generationsNumbered.firsts found) := by
  -- what has been kept so far is what the entries so far name
  have hfold : ∀ {earlier kept}, Named earlier kept → Named (earlier ++ entries)
      (found.foldl (fun kept g =>
        if kept.any (·.identifier == g.identifier) then kept else kept ++ [g]) kept) := by
    induction h with
    | nil =>
      intro earlier kept hkept
      rwa [List.append_nil]
    | @cons entry g entries found hentry _ ih =>
      intro earlier kept hkept
      rw [List.append_cons]
      exact ih (hkept.concat hentry)
  exact hfold
    ⟨fun _ h => (List.not_mem_nil h).elim, fun _ h => (List.not_mem_nil h).elim, .nil, .nil⟩

/-! ## Reading the list -/

/-- How the entries are read one by one. -/
def numbered (entries : List String) : Except SettingsError (List Generation) :=
  entries.mapM fun entry =>
    match generationNumbered? entry with
    | some g => .ok g
    | none => .error (.unknownVersion entry)

theorem generationsNumbered_eq (entries : List String) :
    generationsNumbered entries = (numbered entries).bind fun found =>
      if found.isEmpty then .error .noVersions else .ok (generationsNumbered.firsts found) := by
  -- entry by entry, so that no entry has to be read to compare the two
  refine congrFun (congrArg Except.bind (congrArg (List.mapM · entries) (funext fun entry => ?_))) _
  cases generationNumbered? entry <;> rfl

theorem numbered_cons (entry : String) (entries : List String) :
    numbered (entry :: entries) = match generationNumbered? entry with
      | some g => (numbered entries).map (g :: ·)
      | none => .error (.unknownVersion entry) := by
  unfold numbered
  rw [List.mapM_cons]
  cases generationNumbered? entry with
  | none => rfl
  | some g =>
    dsimp only [bind, Except.bind]
    split <;> rename_i hrest <;> rw [hrest] <;> rfl

theorem forall₂_of_numbered (h : numbered entries = .ok found) :
    List.Forall₂ Denotes entries found := by
  induction entries generalizing found with
  | nil =>
    cases h
    exact .nil
  | cons entry entries ih =>
    rw [numbered_cons] at h
    cases hentry : generationNumbered? entry with
    | none =>
      rw [hentry] at h
      cases h
    | some g =>
      rw [hentry] at h
      cases hrest : numbered entries with
      | error e =>
        rw [hrest] at h
        cases h
      | ok rest =>
        rw [hrest] at h
        cases h
        exact .cons (generationNumbered?_eq_some_iff.1 hentry) (ih hrest)

/-- The first entry that denotes nothing is the one that is reported. -/
theorem numbered_of_unknown {earlier later : List String}
    (hearlier : ∀ e ∈ earlier, ∃ g, Denotes e g) (hentry : ¬ ∃ g, Denotes entry g) :
    numbered (earlier ++ entry :: later) = .error (.unknownVersion entry) := by
  induction earlier with
  | nil =>
    have hnone : generationNumbered? entry = none := by
      rw [Option.eq_none_iff_forall_ne_some]
      exact fun g hg => hentry ⟨g, generationNumbered?_eq_some_iff.1 hg⟩
    rw [List.nil_append, numbered_cons, hnone]
  | cons e earlier ih =>
    obtain ⟨⟨g, hg⟩, hrest⟩ := List.forall_mem_cons.1 hearlier
    rw [List.cons_append, numbered_cons, generationNumbered?_eq_some_iff.2 hg, ih hrest]
    rfl

/-- The generations that entries name, if all of them name one and there is one. -/
theorem named_of_generations (h : generationsNumbered entries = .ok spoken) :
    spoken ≠ [] ∧ Named entries spoken := by
  rw [generationsNumbered_eq] at h
  cases hfound : numbered entries with
  | error e =>
    rw [hfound] at h
    cases h
  | ok found =>
    rw [hfound] at h
    dsimp only [Except.bind] at h
    split at h
    · cases h
    · rename_i hsome
      obtain rfl := Except.ok.inj h
      have hdenotes := forall₂_of_numbered hfound
      have hnamed := named_firsts hdenotes
      refine ⟨fun hempty => ?_, hnamed⟩
      cases hdenotes with
      | nil => exact hsome rfl
      | @cons entry g entries found hentry hrest =>
        obtain ⟨g', hg', -⟩ := hnamed.all entry List.mem_cons_self
        rw [hempty] at hg'
        cases hg'

/-! ## Places -/

/-- The places that a server takes up, one after the other: its root, and two for each generation
that it speaks. -/
def mounted (spoken : List Generation) : List (String × Route) :=
  ("/", .advertisement) :: spoken.flatMap fun g =>
    [(endpointPath g .login, .endpoint g .login), (endpointPath g .command, .endpoint g .command)]

/-- There is something at the places that are taken up, and nowhere else. -/
theorem route?_eq_lookup (spoken : List Generation) (path : String) :
    route? spoken path = (mounted spoken).lookup path := by
  rw [route?, mounted, lookup_cons_eq_ite]
  congr 1
  induction spoken with
  | nil => rfl
  | cons g rest ih =>
    rw [List.findSome?_cons, ih, List.flatMap_cons, List.cons_append, List.cons_append,
      List.nil_append, lookup_cons_eq_ite, lookup_cons_eq_ite]
    by_cases hlogin : path = endpointPath g .login
    · rw [if_pos hlogin, if_pos hlogin]
    · by_cases hcommand : path = endpointPath g .command
      · rw [if_neg hlogin, if_neg hlogin, if_pos hcommand, if_pos hcommand]
      · rw [if_neg hlogin, if_neg hlogin, if_neg hcommand, if_neg hcommand]

theorem nodup_map_of_injective {α : Type} {f : Generation → α} (hspoken : spoken ⊆ generations)
    (hnodup : spoken.Nodup) (hf : ∀ g ∈ generations, ∀ g' ∈ generations, f g = f g' → g = g') :
    (spoken.map f).Nodup :=
  hnodup.map_on fun g hg g' hg' => hf g (hspoken hg) g' (hspoken hg')

theorem nodup_mounted (hspoken : spoken ⊆ generations) (hnodup : spoken.Nodup) :
    ((mounted spoken).map Prod.fst).Nodup := by
  rw [mounted, List.map_cons, List.map_flatMap, List.nodup_cons]
  constructor
  · intro hroot
    obtain ⟨g, hg, hpath⟩ := List.mem_flatMap.1 hroot
    rcases List.mem_cons.1 hpath with hlogin | hrest
    · exact endpointPath_ne_root (hspoken hg) hlogin.symm
    · exact endpointPath_ne_root (hspoken hg) (List.mem_singleton.1 hrest).symm
  · refine List.nodup_flatMap.2 ⟨fun g hg => ?_, hnodup.imp_of_mem ?_⟩
    · have hne : endpointPath g .login ≠ endpointPath g .command := fun h => by
        cases (endpointPath_injective (hspoken hg) (hspoken hg) h).2
      simpa using hne
    · intro g g' hg hg' hne path hpath hpath'
      have hplace : ∀ {g}, path ∈ [endpointPath g .login, endpointPath g .command] →
          ∃ e, path = endpointPath g e := by
        intro g h
        rcases List.mem_cons.1 h with h | h
        · exact ⟨_, h⟩
        · exact ⟨_, List.mem_singleton.1 h⟩
      obtain ⟨e, rfl⟩ := hplace hpath
      obtain ⟨e', h⟩ := hplace hpath'
      exact hne (endpointPath_injective (hspoken hg) (hspoken hg') h).1

/-- Whether a server can take up its places: none of them twice, and what it says of them is said
once. -/
structure Mountable (spoken : List Generation) : Prop where
  routes : ((mounted spoken).map Prod.fst).Nodup
  found : ∀ path, route? spoken path = (mounted spoken).lookup path
  identifiers : ((advertisementOf spoken).offers.map Offer.supported).Nodup
  paths : ((advertisementOf spoken).offers.map Offer.path).Nodup

theorem mountable (hspoken : spoken ⊆ generations) (hnodup : spoken.Nodup) : Mountable spoken where
  routes := nodup_mounted hspoken hnodup
  found := route?_eq_lookup spoken
  identifiers := by
    rw [advertisementOf, List.map_map]
    exact nodup_map_of_injective hspoken hnodup fun g hg g' hg' h => identifier_injective hg hg' h
  paths := by
    rw [advertisementOf, List.map_map]
    exact nodup_map_of_injective hspoken hnodup (by decide)

/-! ## Sizes -/

/-- Whether limits make sense: every page has room for a row and for no more than the most, and as
many as are asked for fit if they may. -/
structure Sensible (limits : PageLimits) : Prop where
  positive : ∀ limit, 1 ≤ limits.sizeFor limit
  bounded : ∀ limit, limits.sizeFor limit ≤ limits.max
  exact : ∀ limit, 1 ≤ limit → limit ≤ limits.max → limits.sizeFor limit = limit
  unasked : limits.sizeFor 0 = limits.standard

theorem sensible {limits : PageLimits} (hstandard : limits.standard ≠ 0)
    (hordered : limits.standard ≤ limits.max) : Sensible limits := by
  have hpositive : ∀ size : UInt32, size ≠ 0 → 1 ≤ size := fun _ => UInt32.pos_iff_ne_zero.2
  have hone := hpositive _ hstandard
  constructor
  case positive =>
    intro limit
    unfold PageLimits.sizeFor
    split
    · exact hone
    · rename_i hasked
      exact Std.le_min_iff.2 ⟨hpositive _ hasked, UInt32.le_trans hone hordered⟩
  case bounded =>
    intro limit
    unfold PageLimits.sizeFor
    split
    · exact hordered
    · exact Std.min_le_right
  case exact =>
    intro limit hasked hfits
    have hne : limit ≠ 0 := by
      rintro rfl
      exact absurd hasked (by decide)
    rw [PageLimits.sizeFor, if_neg hne]
    exact if_pos hfits
  case unasked => rfl

theorem Sensible.ne_zero {limits : PageLimits} (h : Sensible limits) (limit : UInt32) :
    limits.sizeFor limit ≠ 0 := by
  intro hzero
  have hone := h.positive limit
  rw [hzero] at hone
  exact absurd hone (by decide)

/-- Whether no page of any search is larger than its terms may have it. What is answered to somebody
who begins a search or turns to another page of one is part of a search that was begun in their
session. -/
def PagesFit (limits : PageLimits) (σ₀ : OpenService) : Prop :=
  ∀ (schedule : List ServiceStep) (σ : OpenService) (n : Nat) (o : OpenCommand) (e : Execution)
    (id : RequestId) (reply : Reply) (k : SearchKind),
    σ₀.run schedule = some σ → σ.commands n = some o → o.execution? = some e →
    e.response = .success id reply → searches? o.command = some k →
    ∃ (key : SessionKey) (q : k.Terms) (page : Page k.Row),
      o.request.session = some key ∧ reply = k.reply page ∧ Begun schedule key (k.query q) ∧
      (∀ query, o.command = .searchBegin query → query = k.query q) ∧
      page.items.length ≤ (limits.sizeFor (k.limit q)).toNat

theorem Sensible.pagesFit {limits : PageLimits} (h : Sensible limits) {σ₀ : OpenService}
    (hbegins : σ₀.Begins) (hlimits : σ₀.server.limits = limits) : PagesFit limits σ₀ := by
  intro schedule σ n o e id reply k hrun hn he hsuccess hk
  obtain ⟨key, hkey, howes⟩ :=
    OpenService.page_of_execution h.ne_zero hbegins hlimits hrun hn he hsuccess hk
  obtain ⟨q, page, hreply, hbegun, hown, hwindow⟩ := howes k hk
  exact ⟨key, q, page, hkey, hreply, hbegun, hown, hwindow.length_le⟩

/-! ## Settings -/

namespace Settings

variable {s s' : Settings}

theorem check_eq_ok (h : s.check = .ok s') :
    s' = s ∧ s.flaw? = none ∧ ∃ spoken, s.generations = .ok spoken := by
  unfold check at h
  cases hspoken : s.generations with
  | error e =>
    rw [hspoken] at h
    cases h
  | ok spoken =>
    rw [hspoken] at h
    cases hflaw : s.flaw? with
    | some flaw =>
      simp only [hflaw] at h
      cases h
    | none =>
      simp only [hflaw] at h
      cases h
      exact ⟨rfl, rfl, spoken, rfl⟩

theorem sensible_of_check (h : s.check = .ok s') : Sensible s.pages := by
  obtain ⟨-, hflaw, -⟩ := check_eq_ok h
  unfold flaw? at hflaw
  split at hflaw
  · cases hflaw
  · rename_i hsizes
    split at hflaw
    · cases hflaw
    · rename_i hordered
      exact sensible (fun hzero => hsizes (.inl hzero)) (UInt32.not_lt.1 hordered)

/-- A server that is started speaks what its settings name, and is at its beginning. -/
theorem exists_start (h : s.generations = .ok spoken) (now supply : Nat) :
    ∃ hosted, Hosted.start s now supply = .ok hosted ∧ hosted.spoken = spoken ∧
      hosted.server.limits = s.pages ∧ ∃ σ₀, OpenService.Begins σ₀ ∧ σ₀.server = hosted.server := by
  unfold Hosted.start
  rw [h]
  cases hadmin : s.firstAdmin with
  | none => exact ⟨_, rfl, rfl, rfl, _, .empty .., rfl⟩
  | some admin =>
    have hbegins := OpenService.Begins.administered (s.session.idleTimeout.toNat * 1000)
      (.empty s.attempts.attempts.toNat (s.attempts.window.toNat * 1000)) s.pages admin now
      ⟨.ofRandom (supply + 2 * 0 + 1)⟩ (.ofRandom (supply + 2 * 0 + 2))
    exact ⟨_, rfl, rfl, rfl, _, hbegins, rfl⟩

/-- **Settings that pass their check are safe to serve.** The generations that are spoken are those
that the entries denote, at least one and none twice, in the order in which they come up, however
each entry writes its number; so a server that is started takes up no place twice and advertises
nothing twice. Every search has pages of at least one row and at most as many as are allowed, as
many as it asked for if that is allowed, and whatever goes on at the server, no page of any search
holds more. If an entry denotes no generation, the first that does not is named as the error. -/
theorem checked_settings_are_safe (s : Settings) :
    (∀ s', s.check = .ok s' → s' = s ∧ ∃ spoken,
      s.generations = .ok spoken ∧ spoken ≠ [] ∧ spoken ⊆ Protocol.generations ∧
      Named s.versions spoken ∧ Mountable spoken ∧ Sensible s.pages ∧
      (∀ now supply, ∃ hosted, Hosted.start s now supply = .ok hosted ∧ hosted.spoken = spoken ∧
        hosted.server.limits = s.pages ∧
        ∃ σ₀, OpenService.Begins σ₀ ∧ σ₀.server = hosted.server) ∧
      ∀ σ₀, OpenService.Begins σ₀ → σ₀.server.limits = s.pages → PagesFit s.pages σ₀) ∧
    (∀ earlier entry later, s.versions = earlier ++ entry :: later →
      (∀ e ∈ earlier, ∃ g, Denotes e g) → (¬ ∃ g, Denotes entry g) →
      s.generations = .error (.unknownVersion entry) ∧
      s.check = .error (.unknownVersion entry)) := by
  constructor
  · intro s' hcheck
    obtain ⟨rfl, -, spoken, hspoken⟩ := check_eq_ok hcheck
    obtain ⟨hsome, hnamed⟩ := named_of_generations hspoken
    have hsensible := sensible_of_check hcheck
    exact ⟨rfl, spoken, hspoken, hsome, hnamed.known, hnamed,
      mountable hnamed.known hnamed.nodup, hsensible, exists_start hspoken,
      fun σ₀ hbegins hlimits => hsensible.pagesFit hbegins hlimits⟩
  · intro earlier entry later hversions hearlier hentry
    have hunknown : s.generations = .error (.unknownVersion entry) := by
      rw [generations, generationsNumbered_eq, hversions, numbered_of_unknown hearlier hentry]
      rfl
    refine ⟨hunknown, ?_⟩
    rw [check, hunknown]
    rfl

/-- Settings whose list of versions names one generation twice. -/
def sample : Settings :=
  { Settings.standard with versions := [" 1.1", "+01.0", "1.1 "], pages := ⟨10, 25⟩ }

/-- All accounts, one on a page. -/
def oneByOne : Query := .accounts ⟨.all, none, [], 1⟩

def sampleSearch : List ServiceStep :=
  OpenService.sampleLogin ++
    [.arrive 1 (OpenService.sampleRequest (some OpenService.sampleKey)) (.searchBegin oneByOne),
      .advance 1 default default .made, .advance 1 default default .made,
      .advance 1 default default .made, .advance 1 default default .made]

/-- Each of two generations is spoken once, and the page that the administrator is shown holds no
more than one row. Of three entries the second is reported, since it denotes no generation. -/
theorem each_version_is_spoken_once :
    sample.check = .ok sample ∧
    (∃ spoken, sample.generations = .ok spoken ∧ spoken = [generation11, generation10] ∧
      Mountable spoken) ∧
    (∃ σ o e id page, OpenService.sample.run sampleSearch = some σ ∧ σ.commands 1 = some o ∧
      o.execution? = some e ∧ e.response = .success id (.userPage page) ∧
      page.items.length ≤ 1) ∧
    { sample with versions := ["1.0", "2.0", "x"] }.check = .error (.unknownVersion "2.0") := by
  have hcheck : sample.check = .ok sample := by decide +kernel
  have hgenerations : sample.generations = .ok [generation11, generation10] := by decide +kernel
  obtain ⟨-, spoken, hspoken, -, -, -, hmountable, -, -, hfit⟩ :=
    (checked_settings_are_safe sample).1 sample hcheck
  refine ⟨hcheck, ⟨spoken, hspoken, ?_, hmountable⟩, ?_, ?_⟩
  · exact Except.ok.inj (hspoken.symm.trans hgenerations)
  · have hrun : ∃ σ o e id page, OpenService.sample.run sampleSearch = some σ ∧
        σ.commands 1 = some o ∧ o.execution? = some e ∧
        e.response = .success id (.userPage page) ∧
        o.command = .searchBegin oneByOne :=
      ⟨_, _, _, _, _, rfl, rfl, rfl, rfl, rfl⟩
    obtain ⟨σ, o, e, id, page, hσ, ho, he, hresponse, hcommand⟩ := hrun
    obtain ⟨key, q, page', -, hreply, -, hown, hlength⟩ :=
      hfit _ (.administered ..) rfl sampleSearch σ 1 o e id _ .accounts hσ ho he hresponse
        (by rw [hcommand]; rfl)
    cases hreply
    cases hown _ hcommand
    exact ⟨σ, o, e, id, page, hσ, ho, he, hresponse, hlength⟩
  · have hfirst : Denotes "1.0" generation10 :=
      generationNumbered?_eq_some_iff.1 (by decide +kernel)
    have hsecond : ¬ ∃ g, Denotes "2.0" g := by
      have hnone : generationNumbered? "2.0" = none := by decide +kernel
      rintro ⟨g, hg⟩
      cases hnone.symm.trans (generationNumbered?_eq_some_iff.2 hg)
    refine ((checked_settings_are_safe { sample with versions := ["1.0", "2.0", "x"] }).2
      ["1.0"] "2.0" ["x"] rfl (fun e he => ?_) hsecond).2
    rw [List.mem_singleton.1 he]
    exact ⟨_, hfirst⟩

end Settings

end AcctAdmin.Server
