import AcctAdmin.Proofs.Search.Listing

/-!
# The order of a search is settled

Whatever columns a search asks for, none, one twice or one both ways, any two rows with different
identifiers have an order. The rows that a search finds can therefore be listed in one way only, and
what is shown of them does not depend on the order in which they are come across.
-/

set_option autoImplicit false

namespace AcctAdmin.Server

open Std

/-! ## Comparisons that leave nothing open -/

section

variable {Column Row Id Shown : Type} {id : Row → Id} {cmp : Row → Row → Ordering}

/-- A comparison puts all rows in one line: it says the same from both sides, it goes on from row to
row, and only rows with one identifier are level. -/
structure Settles (id : Row → Id) (cmp : Row → Row → Ordering) : Prop where
  self : ∀ a, cmp a a = .eq
  swap : ∀ a b, cmp b a = (cmp a b).swap
  trans : ∀ a b c, (cmp a b).isLE = true → (cmp b c).isLE = true → (cmp a c).isLE = true
  apart : ∀ a b, cmp a b = .eq → id a = id b

theorem settles_compareBy {compareIn : Column → Row → Row → Ordering}
    {level : Row → Row → Ordering} [∀ c, TransCmp (compareIn c)] [TransCmp level]
    (hlevel : ∀ a b, level a b = .eq → id a = id b) (keys : List (SortKey Column)) :
    Settles id (compareBy compareIn level keys) where
  self _ := ReflCmp.compare_self
  swap _ _ := OrientedCmp.eq_swap
  trans _ _ _ := TransCmp.isLE_trans
  apart a b h := hlevel a b (level_of_compareBy h)

namespace Settles

theorem transCmp (h : Settles id cmp) : TransCmp cmp where
  eq_swap {a b} := h.swap b a
  isLE_trans {a b c} := h.trans a b c

theorem eq_of_level (h : Settles id cmp) {rows : List Row} (hdistinct : (rows.map id).Nodup)
    {a b : Row} (ha : a ∈ rows) (hb : b ∈ rows) (hlevel : cmp a b = .eq) : a = b :=
  List.inj_on_of_nodup_map hdistinct ha hb (h.apart a b hlevel)

/-- Rows with distinct identifiers are sorted in one way only. -/
theorem sortedBy_eq (h : Settles id cmp) {rows rows' : List Row}
    (hdistinct : (rows.map id).Nodup) (hperm : rows'.Perm rows) :
    sortedBy cmp rows' = sortedBy cmp rows := by
  have := h.transCmp
  have hsorted : (sortedBy cmp rows').Perm (sortedBy cmp rows) := by
    apply (sortedBy_perm cmp rows').trans
    exact hperm.trans (sortedBy_perm cmp rows).symm
  refine List.Perm.eq_of_pairwise ?_ (sortedBy_pairwise cmp rows') (sortedBy_pairwise cmp rows)
    hsorted
  -- rows that may stand either way round are level, and level rows are one row
  intro a b ha hb hab hba
  have ha : a ∈ rows := hperm.subset ((sortedBy_perm cmp rows').subset ha)
  have hb : b ∈ rows := (sortedBy_perm cmp rows).subset hb
  exact h.eq_of_level hdistinct ha hb (OrientedCmp.isLE_antisymm hab hba)

/-- A search that is to go through the same rows in another order is the same source. -/
theorem ofRows_eq (h : Settles id cmp) (keep : Row → Bool) (shown : Row → Shown)
    {rows rows' : List Row} (hdistinct : (rows.map id).Nodup) (hperm : rows'.Perm rows) :
    Source.ofRows keep cmp shown rows' = Source.ofRows keep cmp shown rows := by
  have hkept : (rows'.filter keep).Perm (rows.filter keep) := hperm.filter keep
  have hkeptDistinct : ((rows.filter keep).map id).Nodup :=
    hdistinct.sublist (List.filter_sublist.map id)
  rw [Source.ofRows, Source.ofRows, hkept.length_eq, h.sortedBy_eq hkeptDistinct hkept]

end Settles

/-! ## Counting and showing -/

/-- A source counts so many rows, and a window from the start shows all of them that it has room
for. -/
structure Source.Tallies (source : Source Shown) (n : Nat) : Prop where
  count : source.count = .ok (UInt64.ofNat n)
  fetch : ∀ limit : UInt32, ∃ shown, source.fetch 0 limit = .ok shown ∧
    shown.length = min limit.toNat n

theorem Source.Serves.tallies {source : Source Shown} {rows : List Shown} (h : source.Serves rows) :
    source.Tallies rows.length where
  count := h.count
  fetch limit := by
    refine ⟨_, h.fetch 0 limit, ?_⟩
    rw [window, UInt64.toNat_zero, List.drop_zero, List.length_take]

theorem tallies_ofRows {keep : Row → Bool} {Matches : Row → Prop} [DecidablePred Matches]
    (hkeep : ∀ {row}, keep row = true ↔ Matches row) (cmp : Row → Row → Ordering)
    (shown : Row → Shown) (rows : List Row) :
    (Source.ofRows keep cmp shown rows).Tallies (rows.filter (Matches ·)).length := by
  have htallies := (serves_ofRows keep cmp shown rows).tallies
  rwa [List.length_map, (sortedBy_perm _ _).length_eq, filter_of_matches hkeep] at htallies

end

/-! ## The two orders -/

theorem settles_compareAccounts (keys : List (SortKey AccountColumn)) :
    Settles Account.id (compareAccounts keys) := by
  have : TransCmp fun a b : Account => a.id.order b.id :=
    inferInstanceAs (TransCmp (compareAccountsIn .id))
  apply settles_compareBy
  intro a b hlevel
  obtain ⟨⟨⟨i⟩⟩, _⟩ := a
  obtain ⟨⟨⟨j⟩⟩, _⟩ := b
  have hbits : i.toNat = j.toNat := Nat.compare_eq_eq.1 hlevel
  rw [BitVec.eq_of_toNat_eq hbits]

theorem settles_compareEvents (keys : List (SortKey AuditColumn)) :
    Settles AuditEvent.id (compareEvents keys) := by
  have : TransCmp fun a b : AuditEvent => compare a.id b.id :=
    inferInstanceAs (TransCmp (compareEventsIn .id))
  apply settles_compareBy
  intro a b hlevel
  exact compare_eq_iff_eq.1 hlevel

theorem compareAccounts_eq_lt {keys : List (SortKey AccountColumn)} {a b : Account} :
    compareAccounts keys a b = .lt ↔
      Outranks AccountColumn.Less keys a b ∨
        Level AccountColumn.Less keys a b ∧ AccountColumn.Less .id a b :=
  compareBy_eq_lt (fun _ _ _ => compareAccountsIn_eq_lt) rfl

theorem compareEvents_eq_lt {keys : List (SortKey AuditColumn)} {a b : AuditEvent} :
    compareEvents keys a b = .lt ↔
      Outranks AuditColumn.Less keys a b ∨
        Level AuditColumn.Less keys a b ∧ AuditColumn.Less .id a b :=
  compareBy_eq_lt (fun _ _ _ => compareEventsIn_eq_lt) rfl

/-! ## The searches -/

namespace Transaction

/-- **The order of a search is settled.** Whatever columns are asked for, the rows are in one line:
the first column that tells two of them apart decides, and their identifiers do if none does. So a
search of the same rows, in whichever order these are stored, is the same source, with the same
count and the same rows in each window; and it counts as many rows as it shows to who has room for
them all. -/
theorem search_order_is_settled :
    (∀ keys, Settles Account.id (compareAccounts keys) ∧
      ∀ a b, compareAccounts keys a b = .lt ↔
        Outranks AccountColumn.Less keys a b ∨
          Level AccountColumn.Less keys a b ∧ AccountColumn.Less .id a b) ∧
    (∀ keys, Settles AuditEvent.id (compareEvents keys) ∧
      ∀ a b, compareEvents keys a b = .lt ↔
        Outranks AuditColumn.Less keys a b ∨
          Level AuditColumn.Less keys a b ∧ AuditColumn.Less .id a b) ∧
    (∀ tx tx' : Transaction, (tx.table.rows.map (·.id)).Nodup →
      tx'.table.rows.Perm tx.table.rows →
      (∀ q, tx'.accounts q = tx.accounts q) ∧
        ∀ q, tx'.accountsByEmail q = tx.accountsByEmail q) ∧
    (∀ (tx tx' : Transaction) (s s' : Store), ((tx.visibleLog s).map (·.id)).Nodup →
      (tx'.visibleLog s').Perm (tx.visibleLog s) → ∀ q, tx'.events s' q = tx.events s q) ∧
    ∀ (tx : Transaction) (s : Store),
      (∀ q, (tx.accounts q).Tallies (tx.table.rows.filter (q.Matches ·)).length) ∧
        (∀ q, (tx.accountsByEmail q).Tallies (tx.table.rows.filter (q.Matches ·)).length) ∧
          ∀ q, (tx.events s q).Tallies ((tx.visibleLog s).filter (q.Matches ·)).length := by
  refine ⟨fun keys => ⟨settles_compareAccounts keys, fun a b => compareAccounts_eq_lt⟩,
    fun keys => ⟨settles_compareEvents keys, fun a b => compareEvents_eq_lt⟩, ?_, ?_, ?_⟩
  · intro tx tx' hdistinct hperm
    refine ⟨fun q => ?_, fun q => ?_⟩
    · exact (settles_compareAccounts q.ordering).ofRows_eq _ _ hdistinct hperm
    · exact (settles_compareAccounts q.ordering).ofRows_eq _ _ hdistinct hperm
  · intro tx tx' s s' hdistinct hperm q
    exact (settles_compareEvents q.ordering).ofRows_eq _ _ hdistinct hperm
  · intro tx s
    refine ⟨fun q => ?_, fun q => ?_, fun q => ?_⟩
    · exact tallies_ofRows matchesAccount_iff _ _ _
    · exact tallies_ofRows matchesEmail_iff _ _ _
    · exact tallies_ofRows matchesEvent_iff _ _ _

/-- The three accounts, stored the other way round. -/
def threeReversed : Transaction :=
  { threeAccounts with table := ⟨0, threeAccounts.table.rows.reverse⟩ }

/-- A transaction that sees two events of the same second. -/
def seesTwo : Transaction := { threeAccounts with logLength := 2 }

/-- Two events of the same second, and the two in the order given. -/
def sameSecond (first second : UInt64) : Store :=
  { Store.empty with
    log := [first, second].map fun id => ⟨id, 1700000000, default, "LOGIN", "logged in"⟩ }

/-- Neither columns that contradict one another nor no columns at all leave anything open. -/
theorem either_way_round_is_the_same :
    let query : AccountQuery :=
      ⟨.all, none, [⟨.created, true⟩, ⟨.created, false⟩, ⟨.created, true⟩], 50⟩
    (threeAccounts.table.rows.map (·.id)).Nodup ∧
      threeReversed.table.rows.Perm threeAccounts.table.rows ∧
      threeReversed.accounts query = threeAccounts.accounts query ∧
      threeReversed.accountsByEmail ⟨.all, "ADA", [], 50⟩ =
        threeAccounts.accountsByEmail ⟨.all, "ADA", [], 50⟩ ∧
      seesTwo.events (sameSecond 2 1) .standard = seesTwo.events (sameSecond 1 2) .standard := by
  obtain ⟨-, -, haccounts, hevents, -⟩ := search_order_is_settled
  have hdistinct : (threeAccounts.table.rows.map (·.id)).Nodup := by decide
  have hperm : threeReversed.table.rows.Perm threeAccounts.table.rows := List.reverse_perm _
  have hlog : ((seesTwo.visibleLog (sameSecond 1 2)).map (·.id)).Nodup := by decide
  have hswap : (seesTwo.visibleLog (sameSecond 2 1)).Perm (seesTwo.visibleLog (sameSecond 1 2)) :=
    List.Perm.swap _ _ []
  obtain ⟨hname, hemail⟩ := haccounts threeAccounts threeReversed hdistinct hperm
  exact ⟨hdistinct, hperm, hname _, hemail _, hevents seesTwo seesTwo _ _ hlog hswap _⟩

end Transaction

end AcctAdmin.Server
