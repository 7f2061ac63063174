import AcctAdmin.Server.Lookup
import Mathlib.Order.Compare

/-!
# What a search finds, and in which order

The searches compute with comparisons that answer one of three things. Here stands what they mean:
which rows a query asks for, and when one row may stand before another. The order is lexicographic.
The first column asked for that tells two rows apart decides, in its direction, and the identifier
decides if none does.
-/

set_option autoImplicit false

namespace AcctAdmin.Text

theorem occursIn_iff {needle cs : List Char} : occursIn needle cs = true ↔ needle <:+: cs := by
  induction cs with
  | nil => simp [occursIn]
  | cons c rest ih => simp [occursIn, ih, List.infix_cons_iff]

end AcctAdmin.Text

namespace AcctAdmin.Server

open AcctAdmin.Text

/-! ## Matching -/

/-- The one text stands somewhere in the other, if the case of letters does not count. -/
def Mentions (text part : String) : Prop := (lowerCase part).toList <:+: (lowerCase text).toList

theorem mentions_iff {text part : String} : mentions text part = true ↔ Mentions text part :=
  occursIn_iff

theorem contains_iff {r : TimeRange} {time : UInt64} :
    r.contains time = true ↔ r.lower ≤ time ∧ time ≤ r.upper := by
  simp [TimeRange.contains]

end AcctAdmin.Server

namespace AcctAdmin

open AcctAdmin.Server AcctAdmin.Text

structure AccountQuery.Matches (q : AccountQuery) (a : Account) : Prop where
  created : q.timeRange.lower ≤ a.created ∧ a.created ≤ q.timeRange.upper
  text : ∀ part, q.text = some part →
    Mentions a.name part ∨ Mentions a.realName part ∨ Mentions a.email part

structure EmailQuery.Matches (q : EmailQuery) (a : Account) : Prop where
  created : q.timeRange.lower ≤ a.created ∧ a.created ≤ q.timeRange.upper
  email : Mentions a.email q.email

structure AuditQuery.Matches (q : AuditQuery) (e : AuditEvent) : Prop where
  time : q.timeRange.lower ≤ e.time ∧ e.time ≤ q.timeRange.upper
  owner : ∀ owner, q.owner = some owner → owner = e.owner
  kind : ∀ kind, q.kind = some kind → foldAscii kind = foldAscii e.kind
  message : ∀ part, q.message = some part → Mentions e.message part

theorem matchesAccount_iff {q : AccountQuery} {a : Account} :
    matchesAccount q a = true ↔ q.Matches a := by
  rw [matchesAccount, Bool.and_eq_true, contains_iff]
  cases htext : q.text with
  | none => exact ⟨fun h => ⟨h.1, by simp [htext]⟩, fun h => ⟨h.created, rfl⟩⟩
  | some part =>
    simp only [Bool.or_eq_true, mentions_iff, or_assoc]
    constructor
    · rintro ⟨hcreated, hpart⟩
      refine ⟨hcreated, fun p hp => ?_⟩
      obtain rfl := Option.some.inj (htext.symm.trans hp)
      exact hpart
    · intro h
      exact ⟨h.created, h.text part htext⟩

theorem matchesEmail_iff {q : EmailQuery} {a : Account} :
    matchesEmail q a = true ↔ q.Matches a := by
  rw [matchesEmail, Bool.and_eq_true, contains_iff, mentions_iff]
  exact ⟨fun h => ⟨h.1, h.2⟩, fun h => ⟨h.created, h.email⟩⟩

theorem matchesEvent_iff {q : AuditQuery} {e : AuditEvent} :
    matchesEvent q e = true ↔ q.Matches e := by
  have hall : matchesEvent q e = (q.timeRange.contains e.time && q.owner.all (· == e.owner)
      && q.kind.all (sameUpToAsciiCase · e.kind) && q.message.all (mentions e.message)) := by
    rw [matchesEvent]
    cases q.owner <;> cases q.kind <;> cases q.message <;> rfl
  simp only [hall, Bool.and_eq_true, contains_iff, Option.all_eq_true, beq_iff_eq,
    sameUpToAsciiCase, mentions_iff]
  constructor
  · rintro ⟨⟨⟨htime, howner⟩, hkind⟩, hmessage⟩
    exact ⟨htime, howner, hkind, hmessage⟩
  · intro h
    exact ⟨⟨⟨h.time, h.owner⟩, h.kind⟩, h.message⟩

instance (q : AccountQuery) : DecidablePred q.Matches := fun _ =>
  decidable_of_iff _ matchesAccount_iff

instance (q : EmailQuery) : DecidablePred q.Matches := fun _ => decidable_of_iff _ matchesEmail_iff

instance (q : AuditQuery) : DecidablePred q.Matches := fun _ => decidable_of_iff _ matchesEvent_iff

/-! ## Order -/

/-- What it means for one account to come before another in a column. Texts are ordered by code
points. -/
def AccountColumn.Less : AccountColumn → Account → Account → Prop
  | .id, a, b => a.id.uuid.bits < b.id.uuid.bits
  | .name, a, b => a.name < b.name
  | .email, a, b => a.email < b.email
  | .realName, a, b => a.realName < b.realName
  | .created, a, b => a.created < b.created

def AuditColumn.Less : AuditColumn → AuditEvent → AuditEvent → Prop
  | .id, a, b => a.id < b.id
  | .time, a, b => a.time < b.time
  | .owner, a, b => a.owner.uuid.bits < b.owner.uuid.bits
  | .kind, a, b => a.kind < b.kind

end AcctAdmin

namespace AcctAdmin.Server

open Std

section

variable {Column Row : Type} (less : Column → Row → Row → Prop)

/-- None of the columns tells the rows apart. -/
def Level (keys : List (SortKey Column)) (a b : Row) : Prop :=
  ∀ key ∈ keys, ¬ less key.column a b ∧ ¬ less key.column b a

/-- The column puts the one row before the other, in the direction asked for. -/
def Precedes (key : SortKey Column) (a b : Row) : Prop :=
  if key.ascending then less key.column a b else less key.column b a

/-- The first of the columns that tells the rows apart puts the one before the other. -/
def Outranks (keys : List (SortKey Column)) (a b : Row) : Prop :=
  ∃ before key after, keys = before ++ key :: after ∧ Level less before a b ∧ Precedes less key a b

/-- Whether two rows may stand in this order: the first column that tells them apart says so, or
none does and the primary one does not say otherwise. -/
def InOrder (primary : Column) (keys : List (SortKey Column)) (a b : Row) : Prop :=
  (∃ before key after, keys = before ++ key :: after ∧ Level less before a b ∧
    Precedes less key a b) ∨
  (Level less keys a b ∧ ¬ less primary b a)

variable {less} {primary : Column} {keys : List (SortKey Column)} {key : SortKey Column} {a b : Row}

theorem level_cons :
    Level less (key :: keys) a b ↔
      (¬ less key.column a b ∧ ¬ less key.column b a) ∧ Level less keys a b :=
  List.forall_mem_cons

theorem outranks_cons :
    Outranks less (key :: keys) a b ↔
      Precedes less key a b ∨
        (¬ less key.column a b ∧ ¬ less key.column b a) ∧ Outranks less keys a b := by
  constructor
  · rintro ⟨before, first, after, hsplit, hlevel, hfirst⟩
    cases before with
    | nil =>
      obtain ⟨rfl, -⟩ := List.cons.inj hsplit
      exact .inl hfirst
    | cons k before =>
      obtain ⟨rfl, rfl⟩ := List.cons.inj hsplit
      obtain ⟨hk, hbefore⟩ := level_cons.1 hlevel
      exact .inr ⟨hk, before, first, after, rfl, hbefore, hfirst⟩
  · rintro (hkey | ⟨hk, before, first, after, rfl, hlevel, hfirst⟩)
    · exact ⟨[], key, keys, rfl, by simp [Level], hkey⟩
    · exact ⟨key :: before, first, after, rfl, level_cons.2 ⟨hk, hlevel⟩, hfirst⟩

theorem inOrder_iff :
    InOrder less primary keys a b ↔
      Outranks less keys a b ∨ Level less keys a b ∧ ¬ less primary b a := Iff.rfl

theorem inOrder_cons :
    InOrder less primary (key :: keys) a b ↔
      Precedes less key a b ∨
        (¬ less key.column a b ∧ ¬ less key.column b a) ∧ InOrder less primary keys a b := by
  simp only [inOrder_iff, outranks_cons, level_cons, and_or_left, or_assoc, and_assoc]

/-! ### The comparisons say just that -/

variable {compareIn : Column → Row → Row → Ordering} {level : Row → Row → Ordering}

theorem isLE_compareBy [∀ c, OrientedCmp (compareIn c)]
    (hless : ∀ c a b, compareIn c a b = .lt ↔ less c a b) (hlevel : level = compareIn primary) :
    (compareBy compareIn level keys a b).isLE = true ↔ InOrder less primary keys a b := by
  have hmore : ∀ c a b, compareIn c a b = .gt ↔ less c b a := fun c a b => by
    rw [OrientedCmp.gt_iff_lt, hless]
  induction keys with
  | nil =>
    subst hlevel
    simp [compareBy, InOrder, Level, Ordering.isLE_iff_ne_gt, hmore]
  | cons key keys ih =>
    have hswap : compareIn key.column b a = (compareIn key.column a b).swap := OrientedCmp.eq_swap
    simp only [inOrder_cons, Precedes, ← hless, hswap, compareBy]
    cases key.ascending <;> cases compareIn key.column a b <;> simp [ih]

theorem compareBy_eq_lt [∀ c, OrientedCmp (compareIn c)]
    (hless : ∀ c a b, compareIn c a b = .lt ↔ less c a b) (hlevel : level = compareIn primary) :
    compareBy compareIn level keys a b = .lt ↔
      Outranks less keys a b ∨ Level less keys a b ∧ less primary a b := by
  induction keys with
  | nil =>
    subst hlevel
    simp [compareBy, Outranks, Level, hless]
  | cons key keys ih =>
    have hswap : compareIn key.column b a = (compareIn key.column a b).swap := OrientedCmp.eq_swap
    simp only [outranks_cons, level_cons, Precedes, ← hless, hswap, compareBy]
    cases key.ascending <;> cases compareIn key.column a b <;> simp [ih, ← hless]

theorem level_of_compareBy (h : compareBy compareIn level keys a b = .eq) : level a b = .eq := by
  induction keys with
  | nil => exact h
  | cons key keys ih =>
    simp only [compareBy] at h
    split at h
    · exact ih h
    · rename_i hdecided
      exact absurd h hdecided

theorem compareBy_cons (key : SortKey Column) (keys : List (SortKey Column)) :
    compareBy compareIn level (key :: keys) =
      compareLex
        (fun a b => if key.ascending then compareIn key.column a b
          else (compareIn key.column a b).swap)
        (compareBy compareIn level keys) := by
  funext a b
  simp only [compareBy, compareLex]
  cases (if key.ascending then compareIn key.column a b else (compareIn key.column a b).swap)
  all_goals rfl

instance [∀ c, TransCmp (compareIn c)] [TransCmp level] (keys : List (SortKey Column)) :
    TransCmp (compareBy compareIn level keys) := by
  induction keys with
  | nil => exact inferInstanceAs (TransCmp level)
  | cons key keys ih =>
    rw [compareBy_cons]
    have hkey : TransCmp fun a b => if key.ascending then compareIn key.column a b
        else (compareIn key.column a b).swap := by
      cases key.ascending with
      | true => exact inferInstanceAs (TransCmp (compareIn key.column))
      | false =>
        have hopposite : (fun a b => (compareIn key.column a b).swap) =
            fun a b => compareIn key.column b a := by
          funext a b
          exact OrientedCmp.eq_swap.symm
        simp only [Bool.false_eq_true, if_false, hopposite]
        exact TransCmp.opposite
    infer_instance

end

/-! ## Sorting -/

theorem sortedBy_perm {Row : Type} (cmp : Row → Row → Ordering) (rows : List Row) :
    (sortedBy cmp rows).Perm rows := List.mergeSort_perm rows _

theorem sortedBy_pairwise {Row : Type} (cmp : Row → Row → Ordering) [TransCmp cmp]
    (rows : List Row) : (sortedBy cmp rows).Pairwise fun a b => (cmp a b).isLE = true := by
  have htrans : ∀ a b c, (cmp a b != .gt) = true → (cmp b c != .gt) = true →
      (cmp a c != .gt) = true := by
    intro a b c hab hbc
    simp only [bne_iff_ne, ne_eq, ← Ordering.isLE_iff_ne_gt] at hab hbc ⊢
    exact TransCmp.isLE_trans hab hbc
  have htotal : ∀ a b, (cmp a b != .gt || cmp b a != .gt) = true := by
    intro a b
    have hswap : cmp b a = (cmp a b).swap := OrientedCmp.eq_swap
    rw [hswap]
    cases cmp a b <;> rfl
  refine (List.pairwise_mergeSort htrans htotal rows).imp fun h => ?_
  simpa [Ordering.isLE_iff_ne_gt] using h

instance (c : AccountColumn) : TransCmp (compareAccountsIn c) := by
  cases c with
  | id => exact inferInstanceAs (TransCmp (compareOn fun a : Account => a.id.uuid.bits.toNat))
  | name => exact inferInstanceAs (TransCmp (compareOn Account.name))
  | email => exact inferInstanceAs (TransCmp (compareOn Account.email))
  | realName => exact inferInstanceAs (TransCmp (compareOn Account.realName))
  | created => exact inferInstanceAs (TransCmp (compareOn Account.created))

instance (c : AuditColumn) : TransCmp (compareEventsIn c) := by
  cases c with
  | id => exact inferInstanceAs (TransCmp (compareOn AuditEvent.id))
  | time => exact inferInstanceAs (TransCmp (compareOn AuditEvent.time))
  | owner =>
    exact inferInstanceAs (TransCmp (compareOn fun e : AuditEvent => e.owner.uuid.bits.toNat))
  | kind => exact inferInstanceAs (TransCmp (compareOn AuditEvent.kind))

theorem compareAccountsIn_eq_lt {c : AccountColumn} {a b : Account} :
    compareAccountsIn c a b = .lt ↔ c.Less a b := by
  cases c with
  | id => exact Nat.compare_eq_lt
  | name => exact compareOfLessAndEq_eq_lt
  | email => exact compareOfLessAndEq_eq_lt
  | realName => exact compareOfLessAndEq_eq_lt
  | created => exact compare_eq_lt

theorem compareEventsIn_eq_lt {c : AuditColumn} {a b : AuditEvent} :
    compareEventsIn c a b = .lt ↔ c.Less a b := by
  cases c with
  | id => exact compare_eq_lt
  | time => exact compare_eq_lt
  | owner => exact Nat.compare_eq_lt
  | kind => exact compareOfLessAndEq_eq_lt

theorem sorted_accounts (keys : List (SortKey AccountColumn)) (rows : List Account) :
    (sortedBy (compareAccounts keys) rows).Pairwise (InOrder AccountColumn.Less .id keys) := by
  have : TransCmp (compareAccounts keys) :=
    inferInstanceAs (TransCmp (compareBy compareAccountsIn (compareAccountsIn .id) keys))
  exact (sortedBy_pairwise (compareAccounts keys) rows).imp fun h =>
    (isLE_compareBy (fun _ _ _ => compareAccountsIn_eq_lt) rfl).1 h

theorem sorted_events (keys : List (SortKey AuditColumn)) (rows : List AuditEvent) :
    (sortedBy (compareEvents keys) rows).Pairwise (InOrder AuditColumn.Less .id keys) := by
  have : TransCmp (compareEvents keys) :=
    inferInstanceAs (TransCmp (compareBy compareEventsIn (compareEventsIn .id) keys))
  exact (sortedBy_pairwise (compareEvents keys) rows).imp fun h =>
    (isLE_compareBy (fun _ _ _ => compareEventsIn_eq_lt) rfl).1 h

end AcctAdmin.Server
