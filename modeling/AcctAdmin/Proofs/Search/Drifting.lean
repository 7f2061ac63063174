import AcctAdmin.Proofs.Console.Paging

/-!
# Rows that come and go

A cursor turns the pages of a source whose rows may change between any two requests. Each request
counts the pages anew, brings the number of the page back among them and goes one page on or back,
not off the ends; what is shown is the rows on that page. As long as the rows stay, the number is a
walk among so many pages. A page that cannot be read is passed all the same: the cursor has moved by
then.
-/

set_option autoImplicit false

namespace AcctAdmin.Server

open Console (pagesFor rowsOn toNat_pageCount length_rowsOn rowsOn_ne_nil)

variable {Query Row : Type}

/-! ## Numbers of pages -/

/-- The number of the page that is asked for from another one, of so many. -/
def Move.among (pages : Nat) : Move → (number : Nat) → Nat
  | .stay, number => number
  | .next, number => min (number + 1) pages
  | .previous, number => max (number - 1) 1

/-- A number brought back among so many pages. -/
def broughtBack (pages number : Nat) : Nat := max 1 (min number pages)

section Numbers

variable {pages number : Nat}

theorem one_le_broughtBack (pages number : Nat) : 1 ≤ broughtBack pages number :=
  Nat.le_max_left ..

theorem broughtBack_le (hpages : 1 ≤ pages) : broughtBack pages number ≤ pages :=
  Nat.max_le.2 ⟨hpages, Nat.min_le_right ..⟩

theorem broughtBack_of_le (hone : 1 ≤ number) (hle : number ≤ pages) :
    broughtBack pages number = number := by
  rw [broughtBack, Nat.min_eq_left hle, Nat.max_eq_right hone]

theorem Move.one_le_among (m : Move) (hpages : 1 ≤ pages) (hone : 1 ≤ number) :
    1 ≤ m.among pages number := by
  cases m with
  | stay => exact hone
  | next => exact Nat.le_min.2 ⟨Nat.le_add_left .., hpages⟩
  | previous => exact Nat.le_max_right ..

theorem Move.among_le (m : Move) (hpages : 1 ≤ pages) (hle : number ≤ pages) :
    m.among pages number ≤ pages := by
  cases m with
  | stay => exact hle
  | next => exact Nat.min_le_right ..
  | previous => exact Nat.max_le.2 ⟨(Nat.sub_le ..).trans hle, hpages⟩

/-- Whoever went on and did go on is brought back by going back. -/
theorem previous_among_next (hmoved : Move.next.among pages number ≠ number) (hone : 1 ≤ number)
    (hle : number ≤ pages) :
    Move.previous.among pages (Move.next.among pages number) = number := by
  simp only [Move.among] at hmoved ⊢
  omega

end Numbers

/-! ## Requests -/

/-- A source at the time of a request, and the rows it holds then. It counts them, and lets any
window of them be read. -/
structure Holding (Query Row : Type) where
  source : Query → Source Row
  rows : Query → List Row
  serves : ∀ q, (source q).Serves (rows q)
  counted : ∀ q, (rows q).length < UInt64.size

/-- Rows that do not change with what is searched. -/
def Holding.ofRows (rows : List Row) (hcounted : rows.length < UInt64.size) :
    Holding Query Row where
  source _ := ⟨.ok (UInt64.ofNat rows.length), fun offset limit => .ok (window rows offset limit)⟩
  rows _ := rows
  serves _ := ⟨rfl, fun _ _ => rfl⟩
  counted _ := hcounted

namespace Cursor

/-- Asks a source for a page of what the cursor remembers. -/
def turn (c : Cursor Query) (m : Move) (held : Holding Query Row) :
    Except StorageError (Page Row) × Cursor Query :=
  c.move m (held.source c.query)

/-- The cursor after these requests. -/
def turned (c : Cursor Query) (requests : List (Move × Holding Query Row)) : Cursor Query :=
  requests.foldl (fun c request => (c.turn request.1 request.2).2) c

/-- The cursor after these requests of a source whose rows stay. -/
def walked (c : Cursor Query) (moves : List Move) (held : Holding Query Row) : Cursor Query :=
  c.turned (moves.map (·, held))

end Cursor

/-! ## One request -/

theorem toNat_broughtBack (index count : UInt32) :
    (max 1 (min index count)).toNat = broughtBack count.toNat index.toNat := by
  have hmin : (min index count).toNat = min index.toNat count.toNat := by
    rw [Nat.min_def, ← apply_ite UInt32.toNat]
    exact congrArg UInt32.toNat (if_congr UInt32.le_iff_toNat_le rfl rfl)
  rw [broughtBack, ← hmin, Nat.max_def, ← UInt32.toNat_one, ← apply_ite UInt32.toNat]
  exact congrArg UInt32.toNat (if_congr UInt32.le_iff_toNat_le rfl rfl)

/-- A cursor that is on one of its pages goes to the one that is asked for. -/
theorem Cursor.toNat_index_step {c : Cursor Query} (hone : 1 ≤ c.index.toNat)
    (hle : c.index.toNat ≤ c.count.toNat) (m : Move) :
    (c.step m).index.toNat = m.among c.count.toNat c.index.toNat := by
  have hcount := c.count.toNat_lt
  cases m with
  | stay => rfl
  | next =>
    by_cases hlt : c.index < c.count
    · have hnat := UInt32.lt_iff_toNat_lt.1 hlt
      have hstep : c.step .next = { c with index := c.index + 1 } := if_pos hlt
      rw [hstep, Move.among, Nat.min_eq_left hnat, UInt32.toNat_add]
      exact Nat.mod_eq_of_lt (Nat.lt_of_le_of_lt hnat hcount)
    · have hnat := mt UInt32.lt_iff_toNat_lt.2 hlt
      have hstep : c.step .next = c := if_neg hlt
      rw [hstep, Move.among]
      omega
  | previous =>
    by_cases hlt : 1 < c.index
    · have hnat : 1 < c.index.toNat := UInt32.lt_iff_toNat_lt.1 hlt
      have hstep : c.step .previous = { c with index := c.index - 1 } := if_pos hlt
      rw [hstep, Move.among, Nat.max_eq_left (Nat.le_sub_one_of_lt hnat)]
      exact UInt32.toNat_sub_of_le _ _ (UInt32.le_iff_toNat_le.2 hone)
    · have hnat : ¬ 1 < c.index.toNat := fun h => hlt (UInt32.lt_iff_toNat_lt.2 h)
      have hstep : c.step .previous = c := if_neg hlt
      rw [hstep, Move.among]
      omega

/-- Which page a cursor is on that has counted its pages anew and moved. -/
theorem Cursor.toNat_index_step_settle (c : Cursor Query) (total : UInt64) (m : Move) :
    ((c.settle total).step m).index.toNat =
      m.among (pageCount total c.size).toNat
        (broughtBack (pageCount total c.size).toNat c.index.toNat) := by
  have hpos : 1 ≤ (pageCount total c.size).toNat := pageCount_pos total c.size
  have hsettled : (c.settle total).index.toNat =
      broughtBack (pageCount total c.size).toNat c.index.toNat := toNat_broughtBack ..
  have hindex := Cursor.toNat_index_step (c := c.settle total)
    (hsettled ▸ one_le_broughtBack ..) (hsettled ▸ broughtBack_le hpos) m
  rw [hsettled] at hindex
  exact hindex

theorem Cursor.step_settle (c : Cursor Query) (total : UInt64) (m : Move) :
    (c.settle total).step m =
      ⟨c.query, c.size,
        UInt32.ofNat (m.among (pageCount total c.size).toNat
          (broughtBack (pageCount total c.size).toNat c.index.toNat)),
        pageCount total c.size⟩ := by
  rw [← c.toNat_index_step_settle total m, UInt32.ofNat_toNat, Cursor.step_eq]
  rfl

section Requests

variable {c : Cursor Query} {held : Holding Query Row} {m : Move}

/-- How many pages the rows take that a cursor turns. -/
def Holding.pages (held : Holding Query Row) (c : Cursor Query) : Nat :=
  pagesFor (held.rows c.query).length c.size.toNat

/-- The number of the page that is shown to somebody who asks for one. -/
def Holding.number (held : Holding Query Row) (c : Cursor Query) (m : Move) : Nat :=
  m.among (held.pages c) (broughtBack (held.pages c) c.index.toNat)

theorem one_le_pagesFor (total size : Nat) : 1 ≤ pagesFor total size :=
  Nat.le_min.2 ⟨by decide, Nat.le_max_left ..⟩

theorem Holding.one_le_number (held : Holding Query Row) (c : Cursor Query) (m : Move) :
    1 ≤ held.number c m :=
  m.one_le_among (one_le_pagesFor ..) (one_le_broughtBack ..)

theorem Holding.number_le (held : Holding Query Row) (c : Cursor Query) (m : Move) :
    held.number c m ≤ held.pages c :=
  m.among_le (one_le_pagesFor ..) (broughtBack_le (one_le_pagesFor ..))

/-- **One request** never fails. It leaves the cursor on the page that it shows, of as many as
there are now. -/
theorem Cursor.turn_eq (hsize : 1 ≤ c.size) :
    c.turn m held =
      (.ok (pageAt (held.rows c.query) c.size (held.number c m - 1)),
        ⟨c.query, c.size, UInt32.ofNat (held.number c m),
          pageCount (UInt64.ofNat (held.rows c.query).length) c.size⟩) := by
  have hone := held.one_le_number c m
  have hle := held.number_le c m
  have hcount : (pageCount (UInt64.ofNat (held.rows c.query).length) c.size).toNat =
      held.pages c := toNat_pageCount hsize (held.counted c.query)
  have hstep := c.step_settle (UInt64.ofNat (held.rows c.query).length) m
  rw [hcount] at hstep
  have hon : ((c.settle (UInt64.ofNat (held.rows c.query).length)).step m).On c.query c.size
      (held.number c m - 1) := by
    rw [hstep]
    refine ⟨rfl, rfl, ?_⟩
    rw [Nat.sub_add_cancel hone]
    rfl
  have hmove := Cursor.move_of_serves (held.serves c.query) rfl hon (by omega)
  rw [Cursor.turn, hmove, hstep]
  rfl

theorem Cursor.query_turn (hsize : 1 ≤ c.size) : (c.turn m held).2.query = c.query := by
  rw [Cursor.turn_eq hsize]

theorem Cursor.size_turn (hsize : 1 ≤ c.size) : (c.turn m held).2.size = c.size := by
  rw [Cursor.turn_eq hsize]

theorem Cursor.toNat_index_turn (hsize : 1 ≤ c.size) :
    (c.turn m held).2.index.toNat = held.number c m := by
  have hlt : held.number c m < UInt32.size := by
    refine Nat.lt_of_le_of_lt (held.number_le c m) ?_
    exact Nat.lt_of_le_of_lt (Nat.min_le_left ..) (by decide)
  rw [Cursor.turn_eq hsize]
  exact UInt32.toNat_ofNat_of_lt' hlt

/-! ## What is shown -/

/-- The page of these rows that has this number, with as much room, and the cursor on it. -/
structure Shows (rows : List Row) (room number : Nat) (page : Page Row) (c : Cursor Query) :
    Prop where
  first : 1 ≤ c.index.toNat
  last : c.index.toNat ≤ c.count.toNat
  index : c.index.toNat = number
  count : c.count.toNat = min maxPageCount (max 1 (rows.length ⌈/⌉ room))
  numbered : page.index = c.index ∧ page.count = c.count
  fits : (number - 1) * room < UInt64.size
  offset : page.offset.toNat = (number - 1) * room
  items : page.items = (rows.drop ((number - 1) * room)).take room
  nonempty : rows ≠ [] → page.items ≠ []
  full : c.index ≠ c.count → page.items.length = room

/-- What one request shows, and the cursor that it leaves. -/
theorem Cursor.shows_turn (held : Holding Query Row) (m : Move) (hsize : 1 ≤ c.size) :
    ∃ page, (c.turn m held).1 = .ok page ∧
      Shows (held.rows c.query) c.size.toNat (held.number c m) page (c.turn m held).2 := by
  have hroom : 1 ≤ c.size.toNat := UInt32.le_iff_toNat_le.1 hsize
  have hone := held.one_le_number c m
  have hle := held.number_le c m
  have hindex : (c.turn m held).2.index.toNat = held.number c m := Cursor.toNat_index_turn hsize
  have hcount : (c.turn m held).2.count.toNat = held.pages c := by
    rw [Cursor.turn_eq hsize]
    exact toNat_pageCount hsize (held.counted c.query)
  have hbehind : held.number c m - 1 < held.pages c := by omega
  have hoffset : (pageAt (held.rows c.query) c.size (held.number c m - 1)).offset.toNat =
      (held.number c m - 1) * c.size.toNat := toNat_offset (hcount ▸ hbehind)
  have hpage : (c.turn m held).1 =
      .ok (pageAt (held.rows c.query) c.size (held.number c m - 1)) := by
    rw [Cursor.turn_eq hsize]
  refine ⟨_, hpage, ?_⟩
  exact {
    first := hindex ▸ hone
    last := by rwa [hindex, hcount]
    index := hindex
    count := hcount
    numbered := by
      rw [Cursor.turn_eq hsize]
      refine ⟨?_, rfl⟩
      simp only [pageAt, Nat.sub_add_cancel hone]
    fits := hoffset ▸ UInt64.toNat_lt _
    offset := hoffset
    items := rfl
    nonempty := fun hrows => rowsOn_ne_nil hroom hrows hbehind
    full := fun hmore => by
      refine length_rowsOn hroom (Nat.lt_of_le_of_ne (by rwa [Nat.sub_add_cancel hone]) ?_)
      rw [Nat.sub_add_cancel hone]
      exact fun heq => hmore (UInt32.toNat_inj.1 (hindex.trans (heq.trans hcount.symm))) }

/-! ## Many requests -/

/-- Requests change neither what the cursor remembers nor the size of a page. -/
theorem Cursor.kept_turned (requests : List (Move × Holding Query Row)) (hsize : 1 ≤ c.size) :
    (c.turned requests).query = c.query ∧ (c.turned requests).size = c.size := by
  induction requests generalizing c with
  | nil => exact ⟨rfl, rfl⟩
  | cons request rest ih =>
    have hstep : (c.turn request.1 request.2).2.size = c.size := Cursor.size_turn hsize
    obtain ⟨hquery, hsame⟩ := ih (c := (c.turn request.1 request.2).2) (hstep ▸ hsize)
    exact ⟨hquery.trans (Cursor.query_turn hsize), hsame.trans hstep⟩

theorem Holding.pages_turned (requests : List (Move × Holding Query Row)) (hsize : 1 ≤ c.size) :
    held.pages (c.turned requests) = held.pages c := by
  obtain ⟨hquery, hsame⟩ := Cursor.kept_turned requests hsize
  rw [Holding.pages, hquery, hsame, Holding.pages]

/-- As long as the rows stay, the number of the page walks among so many. -/
theorem Cursor.toNat_index_walked (held : Holding Query Row) (hsize : 1 ≤ c.size)
    {moves : List Move} (hmoves : moves ≠ []) :
    (c.walked moves held).index.toNat =
      moves.foldl (fun number m => m.among (held.pages c) number)
        (broughtBack (held.pages c) c.index.toNat) := by
  -- by induction on the moves; after the first one the number is among the pages
  induction moves generalizing c with
  | nil => exact absurd rfl hmoves
  | cons m rest ih =>
    have hstep : (c.turn m held).2.index.toNat = held.number c m := Cursor.toNat_index_turn hsize
    cases rest with
    | nil => exact hstep
    | cons m' rest =>
      have hkept : (c.turn m held).2.size = c.size := Cursor.size_turn hsize
      have hpages : held.pages (c.turn m held).2 = held.pages c :=
        Holding.pages_turned [(m, held)] hsize
      have hwalk := ih (c := (c.turn m held).2) (hkept ▸ hsize) (List.cons_ne_nil m' rest)
      rw [hpages, hstep, broughtBack_of_le (held.one_le_number c m) (held.number_le c m)] at hwalk
      exact hwalk

/-! ## Going back -/

/-- The number of a page says all that is shown. -/
theorem Cursor.turn_congr {c' : Cursor Query} {m' : Move} (hsize : 1 ≤ c.size)
    (hquery : c'.query = c.query) (hsame : c'.size = c.size)
    (hnumber : held.number c' m' = held.number c m) : c'.turn m' held = c.turn m held := by
  rw [Cursor.turn_eq (hsame ▸ hsize), Cursor.turn_eq hsize, hquery, hsame, hnumber]

/-- Which page is asked for behind another request. -/
theorem Holding.number_turn (held : Holding Query Row) (m : Move) (hsize : 1 ≤ c.size)
    (m' : Move) :
    held.number (c.turn m held).2 m' = m'.among (held.pages c) (held.number c m) := by
  have hpages : held.pages (c.turn m held).2 = held.pages c :=
    Holding.pages_turned [(m, held)] hsize
  rw [Holding.number, hpages, Cursor.toNat_index_turn hsize,
    broughtBack_of_le (held.one_le_number c m) (held.number_le c m)]

theorem Cursor.turn_stay_turn (hsize : 1 ≤ c.size) :
    (c.turn m held).2.turn .stay held = c.turn m held :=
  Cursor.turn_congr hsize (Cursor.query_turn hsize) (Cursor.size_turn hsize)
    (Holding.number_turn held m hsize .stay)

theorem Cursor.turn_previous_turn_next (hsize : 1 ≤ c.size)
    (hmoved : (c.turn .next held).2.index ≠ (c.turn .stay held).2.index) :
    (c.turn .next held).2.turn .previous held = c.turn .stay held := by
  refine Cursor.turn_congr hsize (Cursor.query_turn hsize) (Cursor.size_turn hsize) ?_
  rw [Holding.number_turn held .next hsize]
  refine previous_among_next (fun hsame => hmoved ?_) (held.one_le_number c .stay)
    (held.number_le c .stay)
  rw [← UInt32.toNat_inj, Cursor.toNat_index_turn hsize, Cursor.toNat_index_turn hsize]
  exact hsame

end Requests

theorem Cursor.toNat_size_start (query : Query) (size : UInt32) :
    (Cursor.start query size).size.toNat = max 1 size.toNat := by
  by_cases hzero : size = 0
  · have hstart : (Cursor.start query size).size = 1 := if_pos hzero
    rw [hstart, hzero]
    rfl
  · have hstart : (Cursor.start query size).size = size := if_neg hzero
    have hpos : 1 ≤ size.toNat := Nat.pos_of_ne_zero fun h => hzero (UInt32.toNat_inj.1 h)
    rw [hstart, Nat.max_eq_right hpos]

/-- **A cursor follows rows that come and go.** A fresh cursor is asked for pages, and the rows may
be others at each request. Each is answered with the page that has the number before, brought back
among the pages there are now and moved by one at most as was asked, not off the ends. As long as
the rows stay, that number walks among the pages, the same number always shows the same page, and
going back undoes going on. -/
theorem pages_of_drifting_rows (query : Query) (size : UInt32)
    (requests : List (Move × Holding Query Row)) (held : Holding Query Row) :
    let c := (Cursor.start query size).turned requests
    let rows := held.rows query
    let room := max 1 size.toNat
    let pages := min maxPageCount (max 1 (rows.length ⌈/⌉ room))
    let number := broughtBack pages c.index.toNat
    c.query = query ∧ c.size.toNat = room ∧
    (∀ m, ∃ page, (c.turn m held).1 = .ok page ∧
      Shows rows room (m.among pages number) page (c.turn m held).2) ∧
    (∀ moves, moves ≠ [] → (c.walked moves held).index.toNat =
      moves.foldl (fun number m => m.among pages number) number) ∧
    (∀ moves m moves' m', let shown := (c.walked moves held).turn m held
      let shown' := (c.walked moves' held).turn m' held
      shown.2.index = shown'.2.index → shown = shown') ∧
    (∀ moves, let c' := c.walked moves held
      (∀ m, (c'.turn m held).2.turn .stay held = c'.turn m held) ∧
      ((c'.turn .next held).2.index ≠ (c'.turn .stay held).2.index →
        (c'.turn .next held).2.turn .previous held = c'.turn .stay held)) := by
  intro c rows room pages number
  have hroom : (Cursor.start query size).size.toNat = room := Cursor.toNat_size_start query size
  have hfresh : 1 ≤ (Cursor.start query size).size := by
    rw [UInt32.le_iff_toNat_le, hroom]
    exact Nat.le_max_left ..
  obtain ⟨hquery, hkept⟩ := Cursor.kept_turned requests hfresh
  have hsize : 1 ≤ c.size := hkept ▸ hfresh
  have hsized : c.size.toNat = room := (congrArg UInt32.toNat hkept).trans hroom
  have hpages : held.pages c = pages := by rw [Holding.pages, hsized, hquery]; rfl
  -- a cursor that has walked over these rows differs from the first one in its index only
  have hwalked : ∀ moves : List Move, (c.walked moves held).query = c.query ∧
      (c.walked moves held).size = c.size := fun moves =>
    Cursor.kept_turned (moves.map (·, held)) hsize
  refine ⟨hquery, hsized, fun m => ?_, fun moves hmoves => ?_, fun moves m moves' m' => ?_,
    fun moves => ?_⟩
  · have hshows := Cursor.shows_turn held m hsize
    rw [Holding.number, hpages, hsized, hquery] at hshows
    exact hshows
  · have hwalk := Cursor.toNat_index_walked held hsize hmoves
    rwa [hpages] at hwalk
  · intro shown shown' hindex
    obtain ⟨hq, hs⟩ := hwalked moves
    obtain ⟨hq', hs'⟩ := hwalked moves'
    refine Cursor.turn_congr (hs' ▸ hsize) (hq.trans hq'.symm) (hs.trans hs'.symm) ?_
    rw [← Cursor.toNat_index_turn (hs ▸ hsize), ← Cursor.toNat_index_turn (hs' ▸ hsize)]
    exact congrArg UInt32.toNat hindex
  · intro c'
    have hsize' : 1 ≤ c'.size := (hwalked moves).2 ▸ hsize
    exact ⟨fun m => Cursor.turn_stay_turn hsize', Cursor.turn_previous_turn_next hsize'⟩

/-- Of three pages the last one is shown; when two of the rows are gone, it is the second one. -/
example :
    let all : Holding Unit Nat := .ofRows [10, 20, 30, 40, 50] (by decide)
    let fewer : Holding Unit Nat := .ofRows [10, 20, 30] (by decide)
    let c := (Cursor.start () 2).turned [(.next, all), (.next, all)]
    ((c.turn .next all).1.toOption.map (·.items), (c.turn .next fewer).1.toOption.map (·.items)) =
      (some [50], some [30]) := by
  decide

/-! ## Requests that fail -/

section Failing

variable {c : Cursor Query} {held : Holding Query Row} {m : Move}

/-- A request fails because the rows cannot be counted, or because the page cannot be read once
they are. The cursor stays where it is in the first case only. -/
theorem Cursor.move_eq_error {source : Source Row} {e : StorageError} {c' : Cursor Query}
    (hfailed : c.move m source = (.error e, c')) :
    (source.count = .error e ∧ c' = c) ∨
      ∃ total, source.count = .ok total ∧ c' = (c.settle total).step m ∧
        source.fetch c'.offset c'.size = .error e := by
  cases hcount : source.count with
  | error e' =>
    rw [Cursor.move, hcount] at hfailed
    obtain ⟨he, rfl⟩ := Prod.mk.inj hfailed
    exact .inl ⟨congrArg _ (Except.error.inj he), rfl⟩
  | ok total =>
    rw [Cursor.move, hcount] at hfailed
    obtain ⟨hread, rfl⟩ := Prod.mk.inj hfailed
    refine .inr ⟨total, rfl, rfl, ?_⟩
    rw [Cursor.read] at hread
    split at hread
    · cases hread
    · next e' hfetch => rw [hfetch, Except.error.inj hread]

/-- The same page is shown to whoever asks for the same number. -/
theorem Cursor.page_turn_eq_iff {c' : Cursor Query} {m' : Move} (hsize : 1 ≤ c.size)
    (hquery : c'.query = c.query) (hsame : c'.size = c.size) :
    (c'.turn m' held).1 = (c.turn m held).1 ↔ held.number c' m' = held.number c m := by
  have hsize' : 1 ≤ c'.size := hsame ▸ hsize
  refine ⟨fun hpages => ?_, fun hnumber =>
    congrArg Prod.fst (Cursor.turn_congr hsize hquery hsame hnumber)⟩
  obtain ⟨page, hpage, hshows⟩ := Cursor.shows_turn held m hsize
  obtain ⟨page', hpage', hshows'⟩ := Cursor.shows_turn held m' hsize'
  rw [hpage, hpage'] at hpages
  obtain rfl := Except.ok.inj hpages
  rw [← hshows.index, ← hshows'.index, ← hshows.numbered.1, ← hshows'.numbered.1]

/-- **A request that fails may move the cursor.** It leaves what is searched and the size of a page.
It leaves the cursor as it was if the rows could not be counted, or else just if there are as many
pages as before and the one that was asked for is the one that the cursor is on. Whoever repeats it
once the source works again gets the page that it should have shown if the rows could not be
counted; if they could, and as many are left, they get the page that the move leads to from there,
which is the same one just if the move led to nothing. -/
theorem failed_request_moves (c : Cursor Query) (m : Move) (source : Source Row)
    (e : StorageError) (c' : Cursor Query) (hfailed : c.move m source = (.error e, c'))
    (hsize : 1 ≤ c.size) :
    c'.query = c.query ∧ c'.size = c.size ∧
    (c' = c ↔ ∀ total, source.count = .ok total →
      c.count = pageCount total c.size ∧
      c.index.toNat = m.among c.count.toNat (broughtBack c.count.toNat c.index.toNat)) ∧
    (∀ held : Holding Query Row,
      (source.count = .error e → c'.turn m held = c.turn m held) ∧
      (source.count = .ok (UInt64.ofNat (held.rows c.query).length) →
        c' = (c.turn m held).2 ∧
        held.number c' m = m.among (held.pages c) (held.number c m) ∧
        ((c'.turn m held).1 = (c.turn m held).1 ↔
          m.among (held.pages c) (held.number c m) = held.number c m))) := by
  rcases Cursor.move_eq_error hfailed with ⟨hcount, rfl⟩ | ⟨total, hcount, rfl, -⟩
  -- the rows could not be counted
  · refine ⟨rfl, rfl, iff_of_true rfl fun total htotal => ?_, fun held => ⟨fun _ => rfl, ?_⟩⟩
    · exact absurd (hcount.symm.trans htotal) (by simp)
    · exact fun htotal => absurd (hcount.symm.trans htotal) (by simp)
  -- the page could not be read
  · have hstep := c.step_settle total m
    have hquery : ((c.settle total).step m).query = c.query := by rw [hstep]
    have hkept : ((c.settle total).step m).size = c.size := by rw [hstep]
    refine ⟨hquery, hkept, ⟨fun hstays total' htotal => ?_, fun hstays => ?_⟩, fun held =>
      ⟨fun herror => absurd (hcount.symm.trans herror) (by simp), fun hsame => ?_⟩⟩
    · obtain rfl : total = total' := Except.ok.inj (hcount.symm.trans htotal)
      have hsame : pageCount total c.size = c.count :=
        congrArg Cursor.count (hstep.symm.trans hstays)
      have hindex := c.toNat_index_step_settle total m
      rw [hstays, hsame] at hindex
      exact ⟨hsame.symm, hindex⟩
    · obtain ⟨hsame, hindex⟩ := hstays total hcount
      rw [hstep, ← hsame, ← hindex, UInt32.ofNat_toNat]
    · obtain rfl : total = UInt64.ofNat (held.rows c.query).length :=
        Except.ok.inj (hcount.symm.trans hsame)
      -- a request that could read the page would have left the same cursor
      have hturn : (c.settle (UInt64.ofNat (held.rows c.query).length)).step m =
          (c.turn m held).2 := by
        rw [Cursor.turn, Cursor.move, (held.serves c.query).count]
      have hnumber := Holding.number_turn held m hsize m
      rw [Cursor.page_turn_eq_iff hsize hquery hkept, hturn, hnumber]
      exact ⟨rfl, rfl, Iff.rfl⟩

end Failing

/-- Six rows that can be counted, but not read. -/
def unreadable : Source Nat := ⟨.ok 6, fun _ _ => .error ⟨"58030", "source is broken", none⟩⟩

def sixRows : Holding Unit Nat := .ofRows [10, 20, 30, 40, 50, 60] (by decide)

/-- A reader of the first page asks for the next one, which cannot be read, and asks again. -/
theorem unread_page_is_skipped :
    ∃ e c', (Cursor.start () 2).move .next unreadable = (.error e, c') ∧
      c' ≠ Cursor.start () 2 ∧
      ((Cursor.start () 2).turn .next sixRows).1.toOption.map (·.items) = some [30, 40] ∧
      (c'.turn .next sixRows).1.toOption.map (·.items) = some [50, 60] :=
  ⟨_, _, rfl, by decide, by decide, by decide⟩

theorem unread_page_moves_on :
    ∃ e c', (Cursor.start () 2).move .next unreadable = (.error e, c') ∧
      c'.query = () ∧ c'.size = 2 ∧ c' ≠ Cursor.start () 2 ∧
      sixRows.number c' .next = 3 ∧
      (c'.turn .next sixRows).1 ≠ ((Cursor.start () 2).turn .next sixRows).1 := by
  obtain ⟨hquery, hsize, hstays, hagain⟩ :=
    failed_request_moves (Cursor.start () 2) .next unreadable _ _ rfl (by decide)
  refine ⟨_, _, rfl, hquery, hsize, fun hsame => ?_, ?_, fun hpage => ?_⟩
  · exact absurd (hstays.1 hsame 6 rfl) (by decide)
  · exact ((hagain sixRows).2 rfl).2.1
  · exact absurd (((hagain sixRows).2 rfl).2.2.1 hpage) (by decide)

end AcctAdmin.Server
