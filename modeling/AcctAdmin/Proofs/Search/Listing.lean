import AcctAdmin.Proofs.Search.Order
import Mathlib.Algebra.Order.Floor.Div

/-!
# Turning the pages to the end

A reader who asks for the first page and then for the next one, until the page in hand is numbered
like the last one, has seen every row that the search finds, each once and in order. The number of
pages and the offsets are right as long as the pages can be counted in 32 bits.
-/

set_option autoImplicit false

namespace AcctAdmin.Server

variable {Query Row Shown : Type}

/-! ## A reader -/

/-- The pages that a reader gets to see: one for the present move, and the next ones until the
last. The source is asked for what the cursor remembers. -/
inductive Walk (source : Query → Source Row) : Cursor Query → Move → List (Page Row) → Prop
  | last {c c' : Cursor Query} {m : Move} {page : Page Row}
      (hmove : c.move m (source c.query) = (.ok page, c')) (hlast : page.index = page.count) :
      Walk source c m [page]
  | more {c c' : Cursor Query} {m : Move} {page : Page Row} {pages : List (Page Row)}
      (hmove : c.move m (source c.query) = (.ok page, c')) (hmore : page.index ≠ page.count)
      (hrest : Walk source c' .next pages) : Walk source c m (page :: pages)

theorem Walk.unique {source : Query → Source Row} {c : Cursor Query} {m : Move}
    {pages pages' : List (Page Row)} (h : Walk source c m pages) (h' : Walk source c m pages') :
    pages' = pages := by
  induction h generalizing pages' with
  | last hmove hlast =>
    cases h' with
    | last hmove' =>
      obtain ⟨hpage, -⟩ := Prod.mk.inj (hmove'.symm.trans hmove)
      rw [Except.ok.inj hpage]
    | more hmove' hmore =>
      obtain ⟨hpage, -⟩ := Prod.mk.inj (hmove'.symm.trans hmove)
      rw [Except.ok.inj hpage] at hmore
      exact absurd hlast hmore
  | more hmove hmore _ ih =>
    cases h' with
    | last hmove' hlast =>
      obtain ⟨hpage, -⟩ := Prod.mk.inj (hmove'.symm.trans hmove)
      rw [Except.ok.inj hpage] at hlast
      exact absurd hlast hmore
    | more hmove' _ hrest =>
      obtain ⟨hpage, rfl⟩ := Prod.mk.inj (hmove'.symm.trans hmove)
      rw [Except.ok.inj hpage, ih hrest]

/-- A reader who starts afresh sees these rows and no others: the walk comes to its end in one way
only, and each page knows its number, the number of pages and what went before it. -/
def Lists (source : Query → Source Row) (query : Query) (size : UInt32) (rows : List Row) : Prop :=
  ∃ pages, Walk source (Cursor.start query size) .stay pages ∧
    (∀ pages', Walk source (Cursor.start query size) .stay pages' → pages' = pages) ∧
    pages.flatMap (·.items) = rows ∧
    ∀ before page after, pages = before ++ page :: after →
      page.index.toNat = before.length + 1 ∧
      page.count.toNat = max 1 (rows.length ⌈/⌉ size.toNat) ∧
      page.offset.toNat = (before.flatMap (·.items)).length

/-! ## Counting pages -/

theorem pageCount_toNat {n : Nat} {size : UInt32} (hsize : 1 ≤ size)
    (hfits : n ≤ size.toNat * maxPageCount) :
    (pageCount (UInt64.ofNat n) size).toNat = max 1 (n ⌈/⌉ size.toNat) := by
  have hpos : 1 ≤ size.toNat := UInt32.le_iff_toNat_le.1 hsize
  have hlt : n < UInt64.size := by
    have hle : size.toNat * maxPageCount ≤ maxPageCount * maxPageCount :=
      Nat.mul_le_mul_right _ (Nat.le_pred_of_lt size.toNat_lt)
    exact Nat.lt_of_le_of_lt (hfits.trans hle) (by decide)
  have hceil : n ⌈/⌉ size.toNat ≤ maxPageCount := (ceilDiv_le_iff_le_mul hpos).2 hfits
  rw [pageCount, UInt64.toNat_ofNat_of_lt' hlt, Nat.max_eq_right hpos,
    ← Nat.ceilDiv_eq_add_pred_div, Nat.min_eq_right (Nat.max_le.2 ⟨by decide, hceil⟩)]
  exact UInt32.toNat_ofNat_of_lt' (Nat.max_lt.2 ⟨by decide, Nat.lt_succ_of_le hceil⟩)

/-! ## Windows -/

theorem flatMap_windows (p : Nat) (rows : List Row) (count : Nat) :
    (List.range count).flatMap (fun i => (rows.drop (i * p)).take p) = rows.take (count * p) := by
  induction count with
  | zero => simp
  | succ count ih =>
    rw [List.range_succ, List.flatMap_append, ih, Nat.succ_mul, List.take_add]
    simp

/-- The source holds these rows, and any window of them can be read. -/
structure Source.Serves (source : Source Row) (rows : List Row) : Prop where
  count : source.count = .ok (UInt64.ofNat rows.length)
  fetch : ∀ offset limit, source.fetch offset limit = .ok (window rows offset limit)

theorem serves_ofRows (keep : Row → Bool) (cmp : Row → Row → Ordering) (shown : Row → Shown)
    (rows : List Row) :
    (Source.ofRows keep cmp shown rows).Serves
      ((sortedBy cmp (rows.filter keep)).map shown) where
  count := by rw [List.length_map, (sortedBy_perm _ _).length_eq, Source.ofRows]
  fetch offset limit := by simp only [Source.ofRows, window, List.map_take, List.map_drop]

/-! ## The walk -/

/-- The page after so many others. -/
def pageAt (rows : List Row) (size : UInt32) (i : Nat) : Page Row where
  items := (rows.drop (i * size.toNat)).take size.toNat
  index := UInt32.ofNat (i + 1)
  count := pageCount (UInt64.ofNat rows.length) size
  offset := UInt64.ofNat (i * size.toNat)

/-- The cursor has so many pages before it. -/
structure Cursor.On (c : Cursor Query) (query : Query) (size : UInt32) (i : Nat) : Prop where
  query : c.query = query
  size : c.size = size
  index : c.index = UInt32.ofNat (i + 1)

/-- A cursor that moves changes its page and nothing else. -/
theorem Cursor.step_eq (c : Cursor Query) (m : Move) :
    c.step m = ⟨c.query, c.size, (c.step m).index, c.count⟩ := by
  cases m with
  | stay => rfl
  | next | previous =>
    simp only [Cursor.step]
    split <;> rfl

section

variable {source : Query → Source Row} {query : Query} {size : UInt32} {rows : List Row}
  {c : Cursor Query} {i : Nat}

theorem Cursor.on_start (hsize : 1 ≤ size) : (Cursor.start query size).On query size 0 where
  query := rfl
  size := if_neg fun h => by simp [h] at hsize
  index := rfl

theorem toNat_pageNumber {count : UInt32} (hi : i < count.toNat) :
    (UInt32.ofNat (i + 1)).toNat = i + 1 :=
  UInt32.toNat_ofNat_of_lt' (Nat.lt_of_le_of_lt hi count.toNat_lt)

theorem toNat_offset {count : UInt32} (hi : i < count.toNat) :
    (UInt64.ofNat (i * size.toNat)).toNat = i * size.toNat := by
  have hmul : i * size.toNat ≤ maxPageCount * maxPageCount :=
    Nat.mul_le_mul (Nat.le_pred_of_lt (Nat.lt_trans hi count.toNat_lt))
      (Nat.le_pred_of_lt size.toNat_lt)
  exact UInt64.toNat_ofNat_of_lt' (Nat.lt_of_le_of_lt hmul (by decide))

/-- Counting the pages anew leaves the cursor on its page if there are as many as that. -/
theorem Cursor.On.settle {total : UInt64} (h : c.On query size i)
    (hi : i < (pageCount total size).toNat) : (c.settle total).On query size i where
  query := h.query
  size := h.size
  index := by
    have hcount : UInt32.ofNat (i + 1) ≤ pageCount total size := by
      rwa [UInt32.le_iff_toNat_le, toNat_pageNumber hi]
    have hone : 1 ≤ UInt32.ofNat (i + 1) := by
      rw [UInt32.le_iff_toNat_le, toNat_pageNumber hi]
      exact Nat.succ_le_succ (Nat.zero_le i)
    have hmin : min c.index (pageCount total c.size) = c.index := if_pos (by rwa [h.index, h.size])
    rw [Cursor.settle, hmin, h.index]
    exact if_pos hone

theorem Cursor.On.next (h : c.On query size i) (hi : i + 1 < c.count.toNat) :
    (c.step .next).On query size (i + 1) := by
  have hnat : c.index.toNat = i + 1 := by rw [h.index, toNat_pageNumber (Nat.lt_of_succ_lt hi)]
  have hstep : c.step .next = { c with index := c.index + 1 } :=
    if_pos (UInt32.lt_iff_toNat_lt.2 (by rwa [hnat]))
  rw [hstep]
  refine ⟨h.query, h.size, ?_⟩
  simp [h.index]

theorem Cursor.On.read (h : c.On query size i) (hi : i < c.count.toNat)
    (hcount : c.count = pageCount (UInt64.ofNat rows.length) size)
    (hserves : (source query).Serves rows) :
    c.read (source query) = .ok (pageAt rows size i) := by
  have hoffset : c.offset = UInt64.ofNat (i * size.toNat) := by
    rw [Cursor.offset, h.index, toNat_pageNumber hi, h.size, Nat.add_sub_cancel]
  simp only [Cursor.read, hserves.fetch, window, hoffset, toNat_offset hi, h.size, h.index, hcount,
    pageAt]

theorem Cursor.move_of_serves {m : Move} {total : UInt64} (hserves : (source query).Serves rows)
    (htotal : total = UInt64.ofNat rows.length) (hon : ((c.settle total).step m).On query size i)
    (hi : i < (pageCount total size).toNat) :
    c.move m (source c.query) = (.ok (pageAt rows size i), (c.settle total).step m) := by
  have hfixed := Cursor.step_eq (c.settle total) m
  have hquery : c.query = query := (congrArg Cursor.query hfixed).symm.trans hon.query
  have hsize : c.size = size := (congrArg Cursor.size hfixed).symm.trans hon.size
  have hcount : ((c.settle total).step m).count = pageCount total size := by
    rw [hfixed, ← hsize]
    rfl
  rw [hquery, Cursor.move, hserves.count, ← htotal]
  exact Prod.ext (hon.read (hcount ▸ hi) (hcount.trans (htotal ▸ rfl)) hserves) rfl

/-- A reader who is on some page sees that one and all that follow it. -/
theorem walk_of_on {m : Move} {total : UInt64} {left : Nat} (hserves : (source query).Serves rows)
    (htotal : total = UInt64.ofNat rows.length) (hon : ((c.settle total).step m).On query size i)
    (hleft : i + left + 1 = (pageCount total size).toNat) :
    Walk source c m ((List.range' i (left + 1)).map (pageAt rows size)) := by
  have hi : i < (pageCount total size).toNat := by omega
  have hmove := Cursor.move_of_serves hserves htotal hon hi
  -- by induction on the pages that are left; the cursor moved on is the one to go on with
  induction left generalizing c m i with
  | zero =>
    refine .last hmove ?_
    rw [← UInt32.toNat_inj]
    exact (toNat_pageNumber hi).trans (hleft.trans (by rw [htotal]; rfl))
  | succ left ih =>
    have hnext : i + 1 < (pageCount total size).toNat := by omega
    have hsettled := hon.settle hi
    have hon' := hsettled.next (by rwa [Cursor.settle, hon.size])
    refine .more hmove (fun hlast => ?_)
      (ih hon' (by omega) hnext (Cursor.move_of_serves hserves htotal hon' hnext))
    have hlast : (UInt32.ofNat (i + 1)).toNat = (pageCount total size).toNat := by
      rw [htotal]
      exact congrArg UInt32.toNat hlast
    rw [toNat_pageNumber hi] at hlast
    omega

theorem items_of_pages (rows : List Row) (size : UInt32) (count : Nat) :
    ((List.range count).map (pageAt rows size)).flatMap (·.items) =
      rows.take (count * size.toNat) := by
  rw [List.flatMap_map]
  exact flatMap_windows size.toNat rows count

/-- The pages before one that the source has are full. -/
theorem length_before (hsize : 1 ≤ size) {k : Nat}
    (hk : k < max 1 (rows.length ⌈/⌉ size.toNat)) :
    (((List.range k).map (pageAt rows size)).flatMap (·.items)).length = k * size.toNat := by
  rw [items_of_pages, List.length_take]
  refine Nat.min_eq_left ?_
  -- if the rows ended before, the page would be past the last one
  by_contra hlt
  have hpos : 0 < size.toNat := UInt32.le_iff_toNat_le.1 hsize
  have hceil : rows.length ⌈/⌉ size.toNat ≤ k :=
    (ceilDiv_le_iff_le_mul hpos).2 (by rw [Nat.mul_comm]; omega)
  have hzero : k = 0 := by omega
  subst hzero
  simp at hlt

theorem split_map_range {α : Type} {f : Nat → α} {count : Nat} {before after : List α} {a : α}
    (h : (List.range count).map f = before ++ a :: after) :
    before.length < count ∧ f before.length = a ∧ before = (List.range before.length).map f := by
  have hat := congrArg (·[before.length]?) h
  simp only [List.getElem?_append_right (Nat.le_refl _), Nat.sub_self, List.getElem?_cons_zero,
    List.getElem?_map, Option.map_eq_some_iff, List.getElem?_eq_some_iff] at hat
  obtain ⟨k, ⟨hk, hrange⟩, ha⟩ := hat
  rw [List.length_range] at hk
  rw [List.getElem_range] at hrange
  subst hrange
  have htake := congrArg (List.take before.length) h
  rw [List.take_left, ← List.map_take, List.take_range, Nat.min_eq_left (Nat.le_of_lt hk)] at htake
  exact ⟨hk, ha, htake.symm⟩

/-- A source that serves rows lists them all. -/
theorem lists_of_serves (hserves : (source query).Serves rows) (hsize : 1 ≤ size)
    (hfits : rows.length ≤ size.toNat * maxPageCount) : Lists source query size rows := by
  have hcount := pageCount_toNat hsize hfits
  obtain ⟨left, hleft⟩ : ∃ left, (pageCount (UInt64.ofNat rows.length) size).toNat = left + 1 := by
    rw [hcount]
    exact Nat.exists_eq_add_of_le' (Nat.le_max_left _ _)
  have hstart : (Cursor.start query size).On query size 0 := Cursor.on_start hsize
  have hwalk : Walk source (Cursor.start query size) .stay
      ((List.range' 0 (left + 1)).map (pageAt rows size)) :=
    walk_of_on hserves rfl (hstart.settle (by omega)) (by omega)
  rw [← List.range_eq_range', ← hleft] at hwalk
  refine ⟨_, hwalk, fun _ h => hwalk.unique h, ?_, ?_⟩
  · rw [items_of_pages]
    refine List.take_of_length_le ?_
    have hpos : 0 < size.toNat := UInt32.le_iff_toNat_le.1 hsize
    rw [hcount, Nat.mul_comm, ← ceilDiv_le_iff_le_mul hpos]
    exact Nat.le_max_right _ _
  · intro before page after hsplit
    obtain ⟨hk, rfl, hbefore⟩ := split_map_range hsplit
    refine ⟨toNat_pageNumber hk, hcount, (toNat_offset hk).trans ?_⟩
    rw [hbefore, length_before hsize (hcount ▸ hk), List.length_map, List.length_range]

end

/-! ## The searches -/

/-- The pages of a search show what matches among some rows, each row as often as it is there, and
one before the other as the order allows. -/
def Finds (source : Query → Source Shown) (query : Query) (size : UInt32) (rows : List Row)
    (Matches : Row → Prop) [DecidablePred Matches] (MayStand : Row → Row → Prop)
    (shown : Row → Shown) : Prop :=
  ∃ found : List Row, found.Perm (rows.filter (Matches ·)) ∧ found.Pairwise MayStand ∧
    Lists source query size (found.map shown)

theorem filter_of_matches {keep : Row → Bool} {Matches : Row → Prop} [DecidablePred Matches]
    (hkeep : ∀ {row}, keep row = true ↔ Matches row) (rows : List Row) :
    rows.filter keep = rows.filter (Matches ·) := by
  refine List.filter_congr fun row _ => ?_
  simp [← hkeep]

theorem finds_ofRows {source : Query → Source Shown} {query : Query} {size : UInt32}
    {keep : Row → Bool} {cmp : Row → Row → Ordering} {shown : Row → Shown} {rows : List Row}
    {Matches : Row → Prop} [DecidablePred Matches] {MayStand : Row → Row → Prop}
    (hsource : source query = .ofRows keep cmp shown rows)
    (hkeep : ∀ {row}, keep row = true ↔ Matches row)
    (hsorted : (sortedBy cmp (rows.filter keep)).Pairwise MayStand) (hsize : 1 ≤ size)
    (hfits : (rows.filter (Matches ·)).length ≤ size.toNat * (2 ^ 32 - 1)) :
    Finds source query size rows Matches MayStand shown := by
  have hfilter : rows.filter (Matches ·) = rows.filter keep := (filter_of_matches hkeep rows).symm
  refine ⟨_, hfilter ▸ sortedBy_perm cmp _, hsorted, lists_of_serves ?_ hsize ?_⟩
  · rw [hsource]
    exact serves_ofRows keep cmp shown rows
  · rwa [List.length_map, (sortedBy_perm _ _).length_eq, ← hfilter]

namespace Transaction

/-- **A search finds everything it is asked for.** Whatever a transaction sees, a reader who turns
the pages of one of the three searches sees the rows that match and no others, in the order of the
columns asked for and by identifier where these leave it open. -/
theorem search_is_complete (tx : Transaction) (s : Store) {size : UInt32} (hsize : 1 ≤ size) :
    (∀ q : AccountQuery, (tx.table.rows.filter (q.Matches ·)).length ≤ size.toNat * (2 ^ 32 - 1) →
      Finds tx.accounts q size tx.table.rows q.Matches (InOrder AccountColumn.Less .id q.ordering)
        (·.summary)) ∧
    (∀ q : EmailQuery, (tx.table.rows.filter (q.Matches ·)).length ≤ size.toNat * (2 ^ 32 - 1) →
      Finds tx.accountsByEmail q size tx.table.rows q.Matches
        (InOrder AccountColumn.Less .id q.ordering) (·.summary)) ∧
    (∀ q : AuditQuery,
      ((tx.visibleLog s).filter (q.Matches ·)).length ≤ size.toNat * (2 ^ 32 - 1) →
      Finds (tx.events s) q size (tx.visibleLog s) q.Matches
        (InOrder AuditColumn.Less .id q.ordering) id) := by
  refine ⟨fun q hfits => ?_, fun q hfits => ?_, fun q hfits => ?_⟩
  · exact finds_ofRows rfl matchesAccount_iff (sorted_accounts _ _) hsize hfits
  · exact finds_ofRows rfl matchesEmail_iff (sorted_accounts _ _) hsize hfits
  · exact finds_ofRows rfl matchesEvent_iff (sorted_events _ _) hsize hfits

/-- Three accounts, two of them made in the same second. -/
def threeAccounts : Transaction :=
  let account (n : Nat) (name : String) (created : UInt64) : Account :=
    ⟨⟨⟨BitVec.ofNat 128 n⟩⟩, name, name ++ "@example.org", name, false, created, .unusable, none⟩
  ⟨0, ⟨0, [account 3 "grace" 20, account 1 "ada" 20, account 2 "alan" 10]⟩, 0, [], false⟩

theorem three_accounts_are_found :
    ∃ found pages, Walk threeAccounts.accounts (Cursor.start .standard 2) .stay pages ∧
      pages.flatMap (·.items) = found ∧
      found.Perm (threeAccounts.table.rows.map (·.summary)) := by
  have hall : threeAccounts.table.rows.filter (AccountQuery.standard.Matches ·) =
      threeAccounts.table.rows := rfl
  have hsize : (1 : UInt32) ≤ 2 := by decide
  have hfits : (threeAccounts.table.rows.filter (AccountQuery.standard.Matches ·)).length ≤
      (2 : UInt32).toNat * (2 ^ 32 - 1) := by
    rw [hall]
    decide
  obtain ⟨found, hperm, -, pages, hwalk, -, hitems, -⟩ :=
    (search_is_complete threeAccounts .empty hsize).1 .standard hfits
  rw [hall] at hperm
  exact ⟨_, pages, hwalk, hitems, hperm.map _⟩

end Transaction

end AcctAdmin.Server
