import AcctAdmin.Console.Run
import AcctAdmin.Proofs.Search.Cursors

/-!
# Pages on paper

What is printed of a search: so many pages, numbered from one, each with the numbers of its rows and
with the rows themselves. The pages that a server shows one after the other have every row of its
list, up to the one that the last of them ends with.
-/

set_option autoImplicit false

namespace AcctAdmin.Console

open AcctAdmin.Server AcctAdmin.Protocol AcctAdmin.Text

/-! ## What is to be printed -/

variable {Row : Type}

/-- The numbers of so many rows behind so many others, in words. -/
def rangeText (before length : Nat) : String :=
  if length = 0 then "no rows"
  else "rows " ++ decimal (before + 1) ++ "-" ++ decimal (before + length)

def headingText (number count before length : Nat) : String :=
  "-- page " ++ decimal number ++ "/" ++ decimal count ++ " (" ++ rangeText before length ++ ")"

/-- The lines of pages with these rows, behind so many pages with so many rows. -/
def pagesBehind (line : Row → String) (count : Nat) : (pages before : Nat) → List (List Row) →
    List String
  | _, _, [] => []
  | pages, before, rows :: rest =>
    headingText (pages + 1) count before rows.length :: rows.map line ++
      pagesBehind line count (pages + 1) (before + rows.length) rest

/-- The lines of pages with these rows, of which there are so many in all. -/
def printedPages (line : Row → String) (count : Nat) (pages : List (List Row)) : List String :=
  pagesBehind line count 0 0 pages

/-- How many pages so many rows take. An empty list takes one, and more than can be counted are not
counted. -/
def pagesFor (total size : Nat) : Nat := min maxPageCount (max 1 (total ⌈/⌉ size))

/-- The rows on a page behind so many others. -/
def rowsOn (rows : List Row) (size i : Nat) : List Row := (rows.drop (i * size)).take size

/-! ## Counting pages -/

variable {rows : List Row} {size : UInt32} {i : Nat}

theorem toNat_pageCount (hsize : 1 ≤ size) (hcounted : rows.length < UInt64.size) :
    (pageCount (UInt64.ofNat rows.length) size).toNat = pagesFor rows.length size.toNat := by
  have hpos : 1 ≤ size.toNat := UInt32.le_iff_toNat_le.1 hsize
  have hlt : min maxPageCount (max 1 (rows.length ⌈/⌉ size.toNat)) < UInt32.size :=
    Nat.lt_of_le_of_lt (Nat.min_le_left ..) (by decide)
  rw [pageCount, UInt64.toNat_ofNat_of_lt' hcounted, Nat.max_eq_right hpos,
    ← Nat.ceilDiv_eq_add_pred_div, UInt32.toNat_ofNat_of_lt' hlt, pagesFor]

section Counted

variable {room pages : Nat}

/-- A page behind others has rows. -/
theorem lt_of_lt_pagesFor (hroom : 1 ≤ room) (hi : i < pagesFor rows.length room) :
    i = 0 ∨ i * room < rows.length := by
  rcases lt_max_iff.1 (Nat.lt_min.1 hi).2 with hone | hceil
  · exact .inl (Nat.lt_one_iff.1 hone)
  · refine .inr (Nat.lt_of_not_le fun hle => Nat.not_le.2 hceil ?_)
    rw [ceilDiv_le_iff_le_mul hroom, Nat.mul_comm]
    exact hle

/-- A page that another one follows is full. -/
theorem length_rowsOn (hroom : 1 ≤ room) (hmore : i + 1 < pagesFor rows.length room) :
    (rowsOn rows room i).length = room := by
  have hlt : (i + 1) * room < rows.length :=
    (lt_of_lt_pagesFor hroom hmore).resolve_left (Nat.succ_ne_zero i)
  rw [Nat.succ_mul] at hlt
  rw [rowsOn, List.length_take, List.length_drop]
  omega

theorem length_rowsOn_le (rows : List Row) (room i : Nat) : (rowsOn rows room i).length ≤ room := by
  rw [rowsOn, List.length_take]
  exact Nat.min_le_left ..

/-- No page is empty if there is anything to show. -/
theorem rowsOn_ne_nil (hroom : 1 ≤ room) (hrows : rows ≠ []) (hi : i < pagesFor rows.length room) :
    rowsOn rows room i ≠ [] := by
  have hlt : i * room < rows.length := by
    rcases lt_of_lt_pagesFor hroom hi with rfl | hlt
    · rw [Nat.zero_mul]
      exact List.length_pos_iff.2 hrows
    · exact hlt
  rw [← List.length_pos_iff, rowsOn, List.length_take, List.length_drop]
  omega

/-- **So many pages have the first rows of a list**, as many as there is room for. -/
theorem flatten_rowsOn (rows : List Row) (hroom : 1 ≤ room) (hpages : pages ≤ maxPageCount) :
    ((List.range (min pages (pagesFor rows.length room))).map (rowsOn rows room)).flatten =
      rows.take (pages * room) := by
  rw [← List.flatMap_def]
  refine (flatMap_windows room rows _).trans ?_
  rcases Nat.lt_or_ge (pagesFor rows.length room) pages with hlt | hle
  -- all pages there are have all rows there are
  · have hceil : rows.length ⌈/⌉ room ≤ pagesFor rows.length room := by
      rcases Nat.le_total maxPageCount (max 1 (rows.length ⌈/⌉ room)) with hmany | hfew
      · rw [pagesFor, Nat.min_eq_left hmany] at hlt
        omega
      · rw [pagesFor, Nat.min_eq_right hfew]
        exact Nat.le_max_right ..
    have hall : rows.length ≤ pagesFor rows.length room * room := by
      rw [Nat.mul_comm]
      exact (ceilDiv_le_iff_le_mul hroom).1 hceil
    rw [Nat.min_eq_right (Nat.le_of_lt hlt), List.take_of_length_le hall,
      List.take_of_length_le (hall.trans (Nat.mul_le_mul_right room (Nat.le_of_lt hlt)))]
  · rw [Nat.min_eq_left hle]

end Counted

/-! ## What is printed -/

/-- The numbers of the rows on a page are those that they have in the list. -/
theorem shownRange?_pageAt (hi : i < (pageCount (UInt64.ofNat rows.length) size).toNat)
    (hsome : rowsOn rows size.toNat i ≠ []) :
    ∃ first last, (pageAt rows size i).shownRange? = some (first, last) ∧
      first.toNat = i * size.toNat + 1 ∧
      last.toNat = i * size.toNat + (rowsOn rows size.toNat i).length := by
  have hitems : (pageAt rows size i).items.isEmpty = false :=
    List.isEmpty_eq_false_iff.2 hsome
  have hpos : 0 < (rowsOn rows size.toNat i).length := List.length_pos_iff.2 hsome
  have hlength := length_rowsOn_le rows size.toNat i
  have hoffset : (UInt64.ofNat (i * size.toNat)).toNat = i * size.toNat := toNat_offset hi
  have hend : (i + 1) * size.toNat ≤ maxPageCount * maxPageCount :=
    Nat.mul_le_mul (Nat.le_pred_of_lt (Nat.lt_of_le_of_lt hi (UInt32.toNat_lt _)))
      (Nat.le_pred_of_lt size.toNat_lt)
  have hbound : i * size.toNat + 1 + (rowsOn rows size.toNat i).length < UInt64.size := by
    have hcapacity : maxPageCount * maxPageCount + 1 < UInt64.size := by decide
    rw [Nat.succ_mul] at hend
    omega
  have hfirst : (UInt64.ofNat (i * size.toNat) + 1).toNat = i * size.toNat + 1 := by
    rw [UInt64.toNat_add, hoffset]
    exact Nat.mod_eq_of_lt (Nat.lt_of_le_of_lt (Nat.le_add_right ..) hbound)
  have hpast : (UInt64.ofNat (i * size.toNat) + 1 +
      UInt64.ofNat (rowsOn rows size.toNat i).length).toNat =
        i * size.toNat + 1 + (rowsOn rows size.toNat i).length := by
    rw [UInt64.toNat_add, hfirst, UInt64.toNat_ofNat_of_lt' (by omega)]
    exact Nat.mod_eq_of_lt hbound
  refine ⟨_, _, if_neg (by simp [hitems]), hfirst, ?_⟩
  have hone : (1 : UInt64) ≤ UInt64.ofNat (i * size.toNat) + 1 +
      UInt64.ofNat (rowsOn rows size.toNat i).length := by
    rw [UInt64.le_iff_toNat_le, hpast]
    exact Nat.le_add_right_of_le (Nat.le_add_left ..)
  have hlast := (UInt64.toNat_sub_of_le _ _ hone).trans (congrArg (· - 1) hpast)
  exact hlast.trans (by omega)

theorem heading_pageAt (hi : i < (pageCount (UInt64.ofNat rows.length) size).toNat) :
    heading (pageAt rows size i) =
      headingText (i + 1) (pageCount (UInt64.ofNat rows.length) size).toNat (i * size.toNat)
        (rowsOn rows size.toNat i).length := by
  have hnumber : (pageAt rows size i).index.toNat = i + 1 := toNat_pageNumber hi
  by_cases hnone : rowsOn rows size.toNat i = []
  · have hrange : (pageAt rows size i).shownRange? = none :=
      if_pos (List.isEmpty_iff.2 hnone)
    simp only [heading, hrange, hnumber, headingText, rangeText, hnone, List.length_nil, if_true]
    rfl
  · obtain ⟨first, last, hrange, hfirst, hlast⟩ := shownRange?_pageAt hi hnone
    have hlength : (rowsOn rows size.toNat i).length ≠ 0 := mt List.length_eq_zero_iff.1 hnone
    simp only [heading, hrange, hnumber, headingText, rangeText, hfirst, hlast, if_neg hlength]
    rfl

theorem isLast_pageAt (hi : i < (pageCount (UInt64.ofNat rows.length) size).toNat) :
    (pageAt rows size i).isLast =
      decide ((pageCount (UInt64.ofNat rows.length) size).toNat ≤ i + 1) := by
  have hnumber : (pageAt rows size i).index.toNat = i + 1 := toNat_pageNumber hi
  rw [Page.isLast, ← hnumber]
  exact decide_eq_decide.2 UInt32.le_iff_toNat_le

/-- The pages of a list are printed as they are to be. -/
theorem pagesBehind_pageAt (line : Row → String) {i n : Nat} (hsize : 1 ≤ size)
    (hcounted : rows.length < UInt64.size) (hn : i + n ≤ pagesFor rows.length size.toNat) :
    pagesBehind line (pagesFor rows.length size.toNat) i (i * size.toNat)
        ((List.range' i n).map (rowsOn rows size.toNat)) =
      (List.range' i n).flatMap fun j => pageLines line (pageAt rows size j) := by
  have hroom : 1 ≤ size.toNat := UInt32.le_iff_toNat_le.1 hsize
  have hcount := toNat_pageCount hsize hcounted
  induction n generalizing i with
  | zero => rfl
  | succ n ih =>
    have hheading : heading (pageAt rows size i) = _ := heading_pageAt (by omega)
    rw [hcount] at hheading
    have hrest : pagesBehind line (pagesFor rows.length size.toNat) (i + 1)
        (i * size.toNat + (rowsOn rows size.toNat i).length)
        ((List.range' (i + 1) n).map (rowsOn rows size.toNat)) =
          (List.range' (i + 1) n).flatMap fun j => pageLines line (pageAt rows size j) := by
      cases n with
      | zero => rfl
      | succ n =>
        rw [length_rowsOn hroom (by omega), ← Nat.succ_mul]
        exact ih (by omega)
    rw [List.range'_succ, List.map_cons, List.flatMap_cons, pagesBehind, pageLines, hheading, hrest]
    rfl

end AcctAdmin.Console

/-! ## What is shown -/

namespace AcctAdmin.SearchKind

open Server Protocol Console

/-- A page as a reply carries it. -/
def payload : (k : SearchKind) → Page k.Row → (pageKind k).Payload
  | .accounts, page => page
  | .accountsByEmail, page => page
  | .audit, page => page

/-- The line that a row is printed in. -/
def line : (k : SearchKind) → k.Row → String
  | .accounts, summary => summaryLine summary
  | .accountsByEmail, summary => summaryLine summary
  | .audit, event => eventLine event

variable {k : SearchKind} (page : Page k.Row)

theorem payload?_reply : (k.reply page).payload? (pageKind k) = some (k.payload page) := by
  cases k <;> rfl

theorem foundLines_payload : foundLines k (k.payload page) = pageLines k.line page := by
  cases k <;> rfl

theorem isLastFound_payload : isLastFound k (k.payload page) = page.isLast := by
  cases k <;> rfl

end AcctAdmin.SearchKind

namespace AcctAdmin.Console

open AcctAdmin.Server AcctAdmin.Protocol AcctAdmin.Client

variable {World Line : Type} {carrier : Carrier World Line} {k : SearchKind}

/-- **Pages are shown until there are none left**, or as many as were asked for: each command that
turns to the next one is sent if that is to be shown. -/
theorem showPages_of_answers (payload : Nat → (pageKind k).Payload) (t : Nat → Conversation Line)
    (w : Nat → World) {last : Nat}
    (hnext : ∀ n < last, (t n).execute carrier (.searchTurn k .next) (w n) =
      (.ok (payload (n + 1)), t (n + 1), w (n + 1)))
    (hmore : ∀ n < last, isLastFound k (payload n) = false)
    (more : Nat) {n : Nat} (hn : n ≤ last) (hlast : last ≤ n + more)
    (hend : last < n + more → isLastFound k (payload last) = true) :
    showPages carrier k more (payload n) (t n) (w n) =
      (⟨(List.range' n (last + 1 - n)).flatMap fun j => foundLines k (payload j), none⟩, t last,
        w last) := by
  -- by induction on how many more are asked for
  induction more generalizing n with
  | zero =>
    obtain rfl : n = last := Nat.le_antisymm hn hlast
    simp [showPages]
  | succ more ih =>
    rcases Nat.eq_or_lt_of_le hn with rfl | hlt
    · have hstop := hend (Nat.lt_add_of_pos_right (Nat.succ_pos more))
      simp [showPages, hstop]
    · have hrest := ih hlt (by omega) fun h => hend (by omega)
      have hrange : last + 1 - n = last + 1 - (n + 1) + 1 := by omega
      simp only [showPages, hmore n hlt, hnext n hlt, hrest, Printed.behind, hrange,
        List.range'_succ, List.flatMap_cons]
      rfl

/-- What goes wrong when the next page is turned to is the end of it. -/
theorem error_showPages (payload : Nat → (pageKind k).Payload) (t : Nat → Conversation Line)
    (w : Nat → World) {last : Nat} {e : Error}
    (hnext : ∀ n < last, (t n).execute carrier (.searchTurn k .next) (w n) =
      (.ok (payload (n + 1)), t (n + 1), w (n + 1)))
    (hmore : ∀ n ≤ last, isLastFound k (payload n) = false)
    (hfails : ∃ after, (t last).execute carrier (.searchTurn k .next) (w last) = (.error e, after))
    (more : Nat) {n : Nat} (hn : n ≤ last) (hlast : last < n + more) :
    (showPages carrier k more (payload n) (t n) (w n)).1.error = some e := by
  induction more generalizing n with
  | zero => omega
  | succ more ih =>
    rcases Nat.eq_or_lt_of_le hn with rfl | hlt
    · obtain ⟨⟨t', w'⟩, hfailed⟩ := hfails
      simp [showPages, hmore n (Nat.le_refl n), hfailed]
    · have hrest := ih hlt (by omega)
      simp [showPages, hmore n hn, hnext n hlt, Printed.behind, hrest]

end AcctAdmin.Console
