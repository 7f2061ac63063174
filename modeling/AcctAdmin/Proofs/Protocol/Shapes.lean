import AcctAdmin.Proofs.Json.Presented

/-!
# Shapes of bodies

For every thing that messages carry, the documents that present it. A shape says field by field what
may stand there and what may be left out. Beside each shape stands the lemma that its reader
understands it: whatever document of the shape is taken as a value, the reader finds the thing in
it.
-/

set_option autoImplicit false

namespace AcctAdmin

/-! ## Details in any order -/

theorem perm_insertEntry {name value : String} {entries : List (String × String)}
    (h : ∀ e ∈ entries, e.1 ≠ name) :
    (insertEntry name value entries).Perm ((name, value) :: entries) := by
  induction entries with
  | nil => exact .refl _
  | cons head rest ih =>
    obtain ⟨hhead, hrest⟩ := List.forall_mem_cons.1 h
    rw [insertEntry]
    split
    · exact .refl _
    · rw [if_neg (Ne.symm hhead)]
      exact ((ih hrest).cons head).trans (.swap _ _ _)

theorem Attributes.perm_foldl_insert {entries : List (String × String)} {a : Attributes}
    (h : ((a.entries ++ entries).map (·.1)).Nodup) :
    (entries.foldl (fun a (name, value) => a.insert name value) a).entries.Perm
      (a.entries ++ entries) := by
  induction entries generalizing a with
  | nil => simp
  | cons e rest ih =>
    obtain ⟨name, value⟩ := e
    have hmoved : (a.entries ++ (name, value) :: rest).Perm
        ((name, value) :: (a.entries ++ rest)) := List.perm_middle
    have hnodup := (hmoved.map (·.1)).nodup_iff.1 h
    rw [List.map_cons, List.nodup_cons] at hnodup
    have hnew : ∀ e ∈ a.entries, e.1 ≠ name := fun e he heq =>
      hnodup.1 (List.mem_map.2 ⟨e, List.mem_append_left _ he, heq⟩)
    have hinserted : (a.insert name value).entries.Perm ((name, value) :: a.entries) :=
      perm_insertEntry hnew
    have hgrown : ((a.insert name value).entries ++ rest).Perm
        (a.entries ++ (name, value) :: rest) := (hinserted.append_right rest).trans hmoved.symm
    exact (ih ((hgrown.map (·.1)).nodup_iff.2 h)).trans hgrown

/-- Details may be set in any order. -/
theorem Attributes.ofList_of_perm {entries : List (String × String)} {a : Attributes}
    (h : entries.Perm a.entries) : ofList entries = a := by
  have hdistinct : (entries.map (·.1)).Nodup := by
    rw [(h.map (·.1)).nodup_iff]
    exact List.pairwise_map.2 (a.sorted.imp String.ne_of_lt)
  have hsame : (ofList entries).entries = a.entries := by
    refine List.Perm.eq_of_pairwise (fun e e' _ _ hlt hgt => ?_) (ofList entries).sorted a.sorted
      ((perm_foldl_insert (a := .empty) hdistinct).trans h)
    exact absurd hgt (String.lt_asymm hlt)
  cases a
  exact (Attributes.mk.injEq ..).mpr hsame

end AcctAdmin

namespace AcctAdmin.Protocol

open AcctAdmin.Json AcctAdmin.Record

/-! ## Plain values -/

section

variable {α : Type}

/-- Whether a reader finds a thing in whatever shows it. -/
def Understands (read : Value → Option α) (shown : Node → Prop) (a : α) : Prop :=
  ∀ node v, shown node → Gives node v → read v = some a

def ShowsText (s : String) (node : Node) : Prop := node = .text (some s)

def ShowsBool (b : Bool) (node : Node) : Prop := node = .bool b

def ShowsNat (n : Nat) (node : Node) : Prop := node = .number (.ofNat n)

/-- An identifier is shown by any text that names it. -/
def ShowsId (id : AccountId) (node : Node) : Prop :=
  ∃ s, node = .text (some s) ∧ AccountId.parse? s = some id

/-- What is absent is shown by null. -/
def ShowsOption (shows : α → Node → Prop) : Option α → Node → Prop
  | none, node => node = .null
  | some a, node => shows a node

def ShowsList (shows : α → Node → Prop) (as : List α) (node : Node) : Prop :=
  ∃ nodes, node = .array nodes ∧ List.Forall₂ shows as nodes

/-- A word may also be shown as the only name of an object, with nothing to say beside it. -/
def ShowsWord (nothing : List Node) (word : String) (node : Node) : Prop :=
  node = .text (some word) ∨ ∃ detail ∈ nothing, node = .object [(some word, detail)]

/-- What has no fields is shown by null, and by a record without fields. -/
def ShowsNothing (node : Node) : Prop := node = .null ∨ node = .array [] ∨ node = .object []

theorem eq_of_gives_text {s : String} {v : Value} (h : Gives (.text (some s)) v) : v = .text s := by
  obtain ⟨depth, hv⟩ := h
  rw [Node.value?] at hv
  exact (Option.some.inj hv).symm

theorem eq_of_gives_null {v : Value} (h : Gives .null v) : v = .null := by
  obtain ⟨depth, hv⟩ := h
  rw [Node.value?] at hv
  exact (Option.some.inj hv).symm

theorem eq_of_gives_bool {b : Bool} {v : Value} (h : Gives (.bool b) v) : v = .bool b := by
  obtain ⟨depth, hv⟩ := h
  rw [Node.value?] at hv
  exact (Option.some.inj hv).symm

theorem eq_of_gives_number {n : Number} {v : Value} (h : Gives (.number n) v) : v = .number n := by
  obtain ⟨depth, hv⟩ := h
  rw [Node.value?] at hv
  split at hv
  · exact (Option.some.inj hv).symm
  · cases hv

theorem exists_of_gives_array {nodes : List Node} {v : Value} (h : Gives (.array nodes) v) :
    ∃ values, v = .array values ∧ List.Forall₂ Gives nodes values := by
  obtain ⟨depth, hv⟩ := h
  cases depth with
  | zero => cases hv
  | succ depth =>
    rw [Node.value?] at hv
    obtain ⟨values, hvalues, rfl⟩ := Option.map_eq_some_iff.1 hv
    exact ⟨values, rfl, forall₂_gives hvalues⟩

theorem exists_of_gives_object {members : List (Option String × Node)} {v : Value}
    (h : Gives (.object members) v) :
    ∃ depth values, v = .object values ∧ memberValues? depth members = some values := by
  obtain ⟨depth, hv⟩ := h
  cases depth with
  | zero => cases hv
  | succ depth =>
    rw [Node.value?] at hv
    obtain ⟨values, hvalues, rfl⟩ := Option.map_eq_some_iff.1 hv
    exact ⟨depth, values, rfl, hvalues⟩

theorem understands_text (s : String) : Understands Value.text? (ShowsText s) s := by
  rintro _ v rfl hv
  rw [eq_of_gives_text hv]
  rfl

theorem understands_bool (b : Bool) : Understands Value.bool? (ShowsBool b) b := by
  rintro _ v rfl hv
  rw [eq_of_gives_bool hv]
  rfl

theorem understands_uint32 (n : UInt32) : Understands Value.uint32? (ShowsNat n.toNat) n := by
  rintro _ v rfl hv
  rw [eq_of_gives_number hv]
  exact Value.uint32?_toNat n

theorem understands_uint64 (n : UInt64) : Understands Value.uint64? (ShowsNat n.toNat) n := by
  rintro _ v rfl hv
  rw [eq_of_gives_number hv]
  exact Value.uint64?_toNat n

theorem understands_id (id : AccountId) : Understands readId? (ShowsId id) id := by
  rintro _ v ⟨s, rfl, hs⟩ hv
  rw [eq_of_gives_text hv]
  exact hs

/-- The reader of something that may be absent takes null for that, if the reader of the thing does
not understand it otherwise. -/
theorem understands_option {read : Value → Option α} {shows : α → Node → Prop}
    (hnull : read .null = none) (h : ∀ a, Understands read (shows a) a) (o : Option α) :
    Understands (Value.option? read) (ShowsOption shows o) o := by
  intro node v hshown hv
  cases o with
  | none =>
    obtain rfl : node = .null := hshown
    rw [eq_of_gives_null hv]
    rfl
  | some a =>
    -- If the thing itself were shown by null, it would be taken for absent.
    have hread := h a node v hshown hv
    cases v with
    | null => cases hnull.symm.trans hread
    | _ => exact congrArg (Option.map some) hread

theorem understands_list {read : Value → Option α} {shows : α → Node → Prop}
    (h : ∀ a, Understands read (shows a) a) (as : List α) :
    Understands (Value.list? read) (ShowsList shows as) as := by
  rintro _ v ⟨nodes, rfl, hshown⟩ hv
  obtain ⟨values, rfl, hgives⟩ := exists_of_gives_array hv
  rw [Value.list?]
  clear hv
  induction hshown generalizing values with
  | nil =>
    cases hgives
    rfl
  | @cons a node as nodes ha _ ih =>
    cases hgives with
    | @cons _ value _ values hvalue hvalues =>
      have hrest := ih values hvalues
      simp [h a node value ha hvalue, hrest]

theorem understands_word {isVoid : Value → Bool} {ofWord? : String → Option α} {nothing : List Node}
    {word : String} {a : α} (hword : ofWord? word = some a)
    (hvoid : ∀ detail ∈ nothing, ∀ v, Gives detail v → isVoid v = true) :
    Understands (readWord? isVoid ofWord?) (ShowsWord nothing word) a := by
  rintro node v (rfl | ⟨detail, hdetail, rfl⟩) hv
  · rw [eq_of_gives_text hv]
    exact hword
  · obtain ⟨depth, values, rfl, hvalues⟩ := exists_of_gives_object hv
    obtain ⟨text, w, rest, htext, hw, hrest, rfl⟩ := memberValues?_cons_eq_some hvalues
    obtain rfl := Option.some.inj htext
    obtain rfl : [] = rest := Option.some.inj hrest
    have hnothing := hvoid detail hdetail w ⟨depth, hw⟩
    show (if isVoid w then ofWord? word else none) = some a
    rw [if_pos hnothing, hword]

theorem isVoid_of_shows {node : Node} {v : Value} (h : ShowsNothing node) (hv : Gives node v) :
    v.isVoid = true := by
  rcases h with rfl | rfl | rfl
  · rw [eq_of_gives_null hv]
    rfl
  · obtain ⟨values, rfl, hvalues⟩ := exists_of_gives_array hv
    cases hvalues
    rfl
  · obtain ⟨depth, values, rfl, hvalues⟩ := exists_of_gives_object hv
    obtain rfl : [] = values := Option.some.inj hvalues
    rfl

theorem understands_void (a : α) : Understands (readVoid? a) ShowsNothing a := by
  intro node v hshown hv
  rw [readVoid?, if_pos (isVoid_of_shows hshown hv)]

/-- A field that has a value of its own for absence may be left out for that value. -/
theorem default_eq {r : Record Value} {name : String} {shown : Node → Prop}
    {read : Value → Option α} {absent a : α}
    (h : (Field.defaulted name shown (a = absent)).FoundIn Gives r)
    (hread : Understands read shown a) : r.defaulted name read absent = some a := by
  obtain ⟨b, hb, rfl⟩ := h.defaulted (P := (· = a))
    (fun node v hshown hgives => ⟨a, hread node v hshown hgives, rfl⟩) Eq.symm
  exact hb

end

/-! ## Searches -/

def timeRangeFields (r : TimeRange) : List Field :=
  [.required "lower" (ShowsNat r.lower.toNat),
   .required "upper" (ShowsNat r.upper.toNat)]

theorem understands_timeRange (r : TimeRange) :
    Understands readTimeRange? (Presents (timeRangeFields r)) r := by
  intro node v hshown hv
  obtain ⟨x, hx, hfound⟩ := hshown.record ["lower", "upper"] rfl (by decide) hv
  simp only [timeRangeFields, List.forall_mem_cons] at hfound
  obtain ⟨hlower, hupper, -⟩ := hfound
  refine after hx ?_
  refine after (hlower.required (understands_uint64 _)) ?_
  refine after (hupper.required (understands_uint64 _)) ?_
  rfl

section

variable {Column : Type}

def sortKeyFields (word : Column → String) (k : SortKey Column) : List Field :=
  [.required "column" (ShowsWord [.null, .object []] (word k.column)),
   .required "ascending" (ShowsBool k.ascending)]

def ShowsOrdering (word : Column → String) : List (SortKey Column) → Node → Prop :=
  ShowsList fun k => Presents (sortKeyFields word k)

variable {word : Column → String} {ofWord? : String → Option Column}

theorem isEmptyDetail_of_gives {detail : Node} (h : detail ∈ [Node.null, .object []]) {v : Value}
    (hv : Gives detail v) : isEmptyDetail v = true := by
  simp only [List.mem_cons, List.not_mem_nil, or_false] at h
  rcases h with rfl | rfl
  · rw [eq_of_gives_null hv]
    rfl
  · obtain ⟨depth, values, rfl, hvalues⟩ := exists_of_gives_object hv
    obtain rfl : [] = values := Option.some.inj hvalues
    rfl

theorem understands_sortKey (h : ∀ c, ofWord? (word c) = some c) (k : SortKey Column) :
    Understands (readSortKey? ofWord?) (Presents (sortKeyFields word k)) k := by
  intro node v hshown hv
  obtain ⟨x, hx, hfound⟩ := hshown.record ["column", "ascending"] rfl (by decide) hv
  simp only [sortKeyFields, List.forall_mem_cons] at hfound
  obtain ⟨hcolumn, hascending, -⟩ := hfound
  have hword := understands_word (h k.column) fun _ hd _ => isEmptyDetail_of_gives hd
  refine after hx ?_
  refine after (hcolumn.required hword) ?_
  refine after (hascending.required (understands_bool _)) ?_
  rfl

theorem understands_ordering (h : ∀ c, ofWord? (word c) = some c) (keys : List (SortKey Column)) :
    Understands (readOrdering? ofWord?) (ShowsOrdering word keys) keys :=
  understands_list (understands_sortKey h) keys

end

def accountQueryFields (q : AccountQuery) : List Field :=
  [.defaulted "time_range" (Presents (timeRangeFields q.timeRange)) (q.timeRange = .all),
   .defaulted "query" (ShowsOption ShowsText q.text) (q.text = none),
   .defaulted "ordering" (ShowsOrdering accountColumnWord q.ordering) (q.ordering = []),
   .required "limit" (ShowsNat q.limit.toNat)]

theorem understands_accountQuery (q : AccountQuery) :
    Understands readAccountQuery? (Presents (accountQueryFields q)) q := by
  intro node v hshown hv
  obtain ⟨x, hx, hfound⟩ :=
    hshown.record ["time_range", "query", "ordering", "limit"] rfl (by decide) hv
  simp only [accountQueryFields, List.forall_mem_cons] at hfound
  obtain ⟨htime, htext, hordering, hlimit, -⟩ := hfound
  refine after hx ?_
  refine after (default_eq htime (understands_timeRange _)) ?_
  refine after (default_eq htext (understands_option rfl understands_text _)) ?_
  refine after (default_eq hordering (understands_ordering accountColumn?_word _)) ?_
  refine after (hlimit.required (understands_uint32 _)) ?_
  rfl

def emailQueryFields (q : EmailQuery) : List Field :=
  [.defaulted "time_range" (Presents (timeRangeFields q.timeRange)) (q.timeRange = .all),
   .required "email" (ShowsText q.email),
   .defaulted "ordering" (ShowsOrdering accountColumnWord q.ordering) (q.ordering = []),
   .required "limit" (ShowsNat q.limit.toNat)]

theorem understands_emailQuery (q : EmailQuery) :
    Understands readEmailQuery? (Presents (emailQueryFields q)) q := by
  intro node v hshown hv
  obtain ⟨x, hx, hfound⟩ :=
    hshown.record ["time_range", "email", "ordering", "limit"] rfl (by decide) hv
  simp only [emailQueryFields, List.forall_mem_cons] at hfound
  obtain ⟨htime, hemail, hordering, hlimit, -⟩ := hfound
  refine after hx ?_
  refine after (default_eq htime (understands_timeRange _)) ?_
  refine after (hemail.required (understands_text _)) ?_
  refine after (default_eq hordering (understands_ordering accountColumn?_word _)) ?_
  refine after (hlimit.required (understands_uint32 _)) ?_
  rfl

def auditQueryFields (q : AuditQuery) : List Field :=
  [.defaulted "time_range" (Presents (timeRangeFields q.timeRange)) (q.timeRange = .all),
   .defaulted "owner" (ShowsOption ShowsId q.owner) (q.owner = none),
   .defaulted "kind" (ShowsOption ShowsText q.kind) (q.kind = none),
   .defaulted "message" (ShowsOption ShowsText q.message) (q.message = none),
   .defaulted "ordering" (ShowsOrdering auditColumnWord q.ordering) (q.ordering = []),
   .required "limit" (ShowsNat q.limit.toNat)]

theorem understands_auditQuery (q : AuditQuery) :
    Understands readAuditQuery? (Presents (auditQueryFields q)) q := by
  intro node v hshown hv
  obtain ⟨x, hx, hfound⟩ := hshown.record
    ["time_range", "owner", "kind", "message", "ordering", "limit"] rfl (by decide) hv
  simp only [auditQueryFields, List.forall_mem_cons] at hfound
  obtain ⟨htime, howner, hkind, hmessage, hordering, hlimit, -⟩ := hfound
  refine after hx ?_
  refine after (default_eq htime (understands_timeRange _)) ?_
  refine after (default_eq howner (understands_option rfl understands_id _)) ?_
  refine after (default_eq hkind (understands_option rfl understands_text _)) ?_
  refine after (default_eq hmessage (understands_option rfl understands_text _)) ?_
  refine after (default_eq hordering (understands_ordering auditColumn?_word _)) ?_
  refine after (hlimit.required (understands_uint32 _)) ?_
  rfl

def queryFields : Query → List Field
  | .accounts q => accountQueryFields q
  | .accountsByEmail q => emailQueryFields q
  | .audit q => auditQueryFields q

theorem understands_query (q : Query) :
    Understands (readQuery? q.kind) (Presents (queryFields q)) q := by
  intro node v hshown hv
  cases q with
  | accounts q => exact congrArg (Option.map _) (understands_accountQuery q node v hshown hv)
  | accountsByEmail q => exact congrArg (Option.map _) (understands_emailQuery q node v hshown hv)
  | audit q => exact congrArg (Option.map _) (understands_auditQuery q node v hshown hv)

/-! ## Accounts and events -/

/-- When a ban ends may be left out under its name, but not off the end of an array. -/
def banFields (b : Ban) : List Field :=
  [.required "reason" (ShowsText b.reason),
   .nullable "expires" (ShowsOption (ShowsNat ·.toNat) b.expires) (b.expires = none)]

theorem understands_ban (b : Ban) : Understands readBan? (Presents (banFields b)) b := by
  intro node v hshown hv
  obtain ⟨x, hx, hfound⟩ := hshown.record ["reason", "expires"] rfl (by decide) hv
  simp only [banFields, List.forall_mem_cons] at hfound
  obtain ⟨hreason, hexpires, -⟩ := hfound
  refine after hx ?_
  refine after (hreason.required (understands_text _)) ?_
  refine after (hexpires.nullable (understands_option rfl understands_uint64 _) id) ?_
  rfl

def summaryFields (a : AccountSummary) : List Field :=
  [.required "id" (ShowsId a.id),
   .required "name" (ShowsText a.name),
   .required "email" (ShowsText a.email),
   .required "real_name" (ShowsText a.realName),
   .required "admin" (ShowsBool a.admin),
   .required "created" (ShowsNat a.created.toNat)]

theorem understands_summary (a : AccountSummary) :
    Understands readSummary? (Presents (summaryFields a)) a := by
  intro node v hshown hv
  obtain ⟨x, hx, hfound⟩ := hshown.record
    ["id", "name", "email", "real_name", "admin", "created"] rfl (by decide) hv
  simp only [summaryFields, List.forall_mem_cons] at hfound
  obtain ⟨hid, hname, hemail, hreal, hadmin, hcreated, -⟩ := hfound
  refine after hx ?_
  refine after (hid.required (understands_id _)) ?_
  refine after (hname.required (understands_text _)) ?_
  refine after (hemail.required (understands_text _)) ?_
  refine after (hreal.required (understands_text _)) ?_
  refine after (hadmin.required (understands_bool _)) ?_
  refine after (hcreated.required (understands_uint64 _)) ?_
  rfl

def viewFields (a : AccountView) : List Field :=
  [.required "id" (ShowsId a.id),
   .required "name" (ShowsText a.name),
   .required "email" (ShowsText a.email),
   .required "real_name" (ShowsText a.realName),
   .required "admin" (ShowsBool a.admin),
   .required "created" (ShowsNat a.created.toNat),
   .nullable "ban" (ShowsOption (fun b => Presents (banFields b)) a.ban) (a.ban = none)]

theorem understands_view (a : AccountView) :
    Understands readView? (Presents (viewFields a)) a := by
  intro node v hshown hv
  obtain ⟨x, hx, hfound⟩ := hshown.record
    ["id", "name", "email", "real_name", "admin", "created", "ban"] rfl (by decide) hv
  simp only [viewFields, List.forall_mem_cons] at hfound
  obtain ⟨hid, hname, hemail, hreal, hadmin, hcreated, hban, -⟩ := hfound
  refine after hx ?_
  refine after (hid.required (understands_id _)) ?_
  refine after (hname.required (understands_text _)) ?_
  refine after (hemail.required (understands_text _)) ?_
  refine after (hreal.required (understands_text _)) ?_
  refine after (hadmin.required (understands_bool _)) ?_
  refine after (hcreated.required (understands_uint64 _)) ?_
  refine after (hban.nullable (understands_option rfl understands_ban _) id) ?_
  rfl

def eventFields (e : AuditEvent) : List Field :=
  [.required "id" (ShowsNat e.id.toNat),
   .required "time" (ShowsNat e.time.toNat),
   .required "owner" (ShowsId e.owner),
   .required "kind" (ShowsText e.kind),
   .required "message" (ShowsText e.message)]

theorem understands_event (e : AuditEvent) :
    Understands readEvent? (Presents (eventFields e)) e := by
  intro node v hshown hv
  obtain ⟨x, hx, hfound⟩ :=
    hshown.record ["id", "time", "owner", "kind", "message"] rfl (by decide) hv
  simp only [eventFields, List.forall_mem_cons] at hfound
  obtain ⟨hid, htime, howner, hkind, hmessage, -⟩ := hfound
  refine after hx ?_
  refine after (hid.required (understands_uint64 _)) ?_
  refine after (htime.required (understands_uint64 _)) ?_
  refine after (howner.required (understands_id _)) ?_
  refine after (hkind.required (understands_text _)) ?_
  refine after (hmessage.required (understands_text _)) ?_
  rfl

section

variable {Row : Type} {row? : Value → Option Row} {rowFields : Row → List Field}

def pageFields (rowFields : Row → List Field) (p : Page Row) : List Field :=
  [.required "items" (ShowsList (fun row => Presents (rowFields row)) p.items),
   .required "page_index" (ShowsNat p.index.toNat),
   .required "page_count" (ShowsNat p.count.toNat),
   .required "page_first_offset" (ShowsNat p.offset.toNat)]

theorem understands_page (h : ∀ row, Understands row? (Presents (rowFields row)) row)
    (p : Page Row) : Understands (readPage? row?) (Presents (pageFields rowFields p)) p := by
  intro node v hshown hv
  obtain ⟨x, hx, hfound⟩ := hshown.record
    ["items", "page_index", "page_count", "page_first_offset"] rfl (by decide) hv
  simp only [pageFields, List.forall_mem_cons] at hfound
  obtain ⟨hitems, hindex, hcount, hoffset, -⟩ := hfound
  refine after hx ?_
  refine after (hitems.required (understands_list h _)) ?_
  refine after (hindex.required (understands_uint32 _)) ?_
  refine after (hcount.required (understands_uint32 _)) ?_
  refine after (hoffset.required (understands_uint64 _)) ?_
  rfl

end

/-! ## Commands -/

def userFields (id : AccountId) : List Field := [.required "user" (ShowsId id)]

theorem understands_user (id : AccountId) :
    Understands readUser? (Presents (userFields id)) id := by
  intro node v hshown hv
  obtain ⟨x, hx, hfound⟩ := hshown.record ["user"] rfl (by decide) hv
  refine after hx ?_
  exact (hfound _ List.mem_cons_self).required (understands_id id)

def loginFields (l : Login) : List Field :=
  [.required "user_name" (ShowsText l.userName),
   .required "password" (ShowsText l.password)]

theorem understands_login (l : Login) : Understands readLogin? (Presents (loginFields l)) l := by
  intro node v hshown hv
  obtain ⟨x, hx, hfound⟩ := hshown.record ["user_name", "password"] rfl (by decide) hv
  simp only [loginFields, List.forall_mem_cons] at hfound
  obtain ⟨huser, hpassword, -⟩ := hfound
  refine after hx ?_
  refine after (huser.required (understands_text _)) ?_
  refine after (hpassword.required (understands_text _)) ?_
  rfl

def newAccountFields (a : NewAccount) : List Field :=
  [.required "name" (ShowsText a.name),
   .required "email" (ShowsText a.email),
   .required "real_name" (ShowsText a.realName),
   .required "password" (ShowsText a.password),
   .defaulted "admin" (ShowsBool a.admin) (a.admin = false)]

theorem understands_newAccount (a : NewAccount) :
    Understands readNewAccount? (Presents (newAccountFields a)) a := by
  intro node v hshown hv
  obtain ⟨x, hx, hfound⟩ :=
    hshown.record ["name", "email", "real_name", "password", "admin"] rfl (by decide) hv
  simp only [newAccountFields, List.forall_mem_cons] at hfound
  obtain ⟨hname, hemail, hreal, hpassword, hadmin, -⟩ := hfound
  refine after hx ?_
  refine after (hname.required (understands_text _)) ?_
  refine after (hemail.required (understands_text _)) ?_
  refine after (hreal.required (understands_text _)) ?_
  refine after (hpassword.required (understands_text _)) ?_
  refine after (default_eq hadmin (understands_bool _)) ?_
  rfl

def userBanFields (user : AccountId) (reason : String) (expires : Option UInt64) : List Field :=
  [.required "user" (ShowsId user),
   .required "reason" (ShowsText reason),
   .defaulted "expires" (ShowsOption (ShowsNat ·.toNat) expires) (expires = none)]

theorem understands_userBan (user : AccountId) (reason : String) (expires : Option UInt64) :
    Understands readUserBan? (Presents (userBanFields user reason expires))
      (.userBan user reason expires) := by
  intro node v hshown hv
  obtain ⟨x, hx, hfound⟩ := hshown.record ["user", "reason", "expires"] rfl (by decide) hv
  simp only [userBanFields, List.forall_mem_cons] at hfound
  obtain ⟨huser, hreason, hexpires, -⟩ := hfound
  refine after hx ?_
  refine after (huser.required (understands_id _)) ?_
  refine after (hreason.required (understands_text _)) ?_
  refine after (default_eq hexpires (understands_option rfl understands_uint64 _)) ?_
  rfl

/-- What the body of a command is presented by. -/
def Command.Shown : Command → Node → Prop
  | .login l => Presents (loginFields l)
  | .logout | .searchTurn _ _ => ShowsNothing
  | .userCreate a => Presents (newAccountFields a)
  | .userGet id | .userDelete id | .userUnban id => Presents (userFields id)
  | .userBan user reason expires => Presents (userBanFields user reason expires)
  | .searchBegin q => Presents (queryFields q)

theorem understands_command (c : Command) : Understands (Command.ofBody? c.kind) c.Shown c := by
  intro node v hshown hv
  cases c with
  | login l => exact congrArg (Option.map _) (understands_login l node v hshown hv)
  | logout => exact understands_void _ node v hshown hv
  | userCreate a => exact congrArg (Option.map _) (understands_newAccount a node v hshown hv)
  | userGet id => exact congrArg (Option.map _) (understands_user id node v hshown hv)
  | userDelete id => exact congrArg (Option.map _) (understands_user id node v hshown hv)
  | userBan user reason expires => exact understands_userBan user reason expires node v hshown hv
  | userUnban id => exact congrArg (Option.map _) (understands_user id node v hshown hv)
  | searchBegin q => exact congrArg (Option.map _) (understands_query q node v hshown hv)
  | searchTurn s t => exact understands_void _ node v hshown hv

/-! ## Replies -/

def loginOkFields (a : AccountSummary) : List Field :=
  [.required "user" (Presents (summaryFields a))]

/-- What the body of a reply is presented by. -/
def Reply.Shown : Reply → Node → Prop
  | .loginOk a => Presents (loginOkFields a)
  | .done => ShowsNothing
  | .userCreated id => Presents (userFields id)
  | .user view => Presents (viewFields view)
  | .userPage page => Presents (pageFields summaryFields page)
  | .auditPage page => Presents (pageFields eventFields page)

theorem understands_reply (r : Reply) : Understands (Reply.ofBody? r.kind) r.Shown r := by
  intro node v hshown hv
  cases r with
  | loginOk a =>
    obtain ⟨x, hx, hfound⟩ := Presents.record hshown ["user"] rfl (by decide) hv
    refine after hx ?_
    refine after ((hfound _ List.mem_cons_self).required (understands_summary a)) ?_
    rfl
  | done => exact understands_void _ node v hshown hv
  | userCreated id => exact congrArg (Option.map _) (understands_user id node v hshown hv)
  | user view => exact congrArg (Option.map _) (understands_view view node v hshown hv)
  | userPage page =>
    exact congrArg (Option.map _) (understands_page understands_summary page node v hshown hv)
  | auditPage page =>
    exact congrArg (Option.map _) (understands_page understands_event page node v hshown hv)

/-! ## Errors -/

/-- Details are shown by an object that has them in any order. -/
def ShowsAttributes (a : Attributes) (node : Node) : Prop :=
  ∃ entries, List.Perm entries a.entries ∧
    node = .object (entries.map fun e => (some e.1, .text (some e.2)))

theorem understands_attributes (a : Attributes) :
    Understands readAttributes? (ShowsAttributes a) a := by
  rintro _ v ⟨entries, hperm, rfl⟩ hv
  have hdistinct : ((entries.map fun e => (e.1, Value.text e.2)).map (·.1)).Nodup := by
    rw [List.map_map]
    exact (hperm.map _).nodup_iff.2 (List.pairwise_map.2 (a.sorted.imp String.ne_of_lt))
  have hnodes : memberNodes (entries.map fun e => (e.1, Value.text e.2)) =
      entries.map fun e => (some e.1, .text (some e.2)) := by
    simp only [memberNodes_eq_map, List.map_map, Function.comp_def, Value.node]
  -- As the names are different, the members of the value are those that are shown.
  obtain ⟨depth, values, rfl, hvalues⟩ := exists_of_gives_object hv
  have htexts := memberValues?_nodes hdistinct
    (List.forall_mem_map.2 fun e _ => value?_node (@Value.Sound.text depth e.2))
  rw [hnodes, hvalues] at htexts
  obtain rfl := Option.some.inj htexts
  rw [readAttributes?_texts, Attributes.ofList_of_perm hperm]

def refusalFields (r : Refusal) : List Field :=
  [.required "message" (ShowsText r.message),
   .required "code" (ShowsText r.code.text),
   .defaulted "attributes" (ShowsAttributes r.attributes) (r.attributes = .empty),
   .defaulted "remediating_action" (ShowsOption ShowsText r.remedy) (r.remedy = none),
   .required "blame" (ShowsWord [.null] r.blame.text)]

/-- A refusal is understood up to its code, which is taken from the text alone. -/
theorem understands_refusal (r : Refusal) :
    Understands (readRefusal? r.requestId) (Presents (refusalFields r))
      { r with code := .ofText r.code.text } := by
  intro node v hshown hv
  obtain ⟨x, hx, hfound⟩ := hshown.record
    ["message", "code", "attributes", "remediating_action", "blame"] rfl (by decide) hv
  simp only [refusalFields, List.forall_mem_cons] at hfound
  obtain ⟨hmessage, hcode, hattributes, hremedy, hblame, -⟩ := hfound
  have hword : blameOfWord? r.blame.text = some r.blame := by
    cases r.blame <;> rfl
  have hnull : ∀ detail ∈ [Node.null], ∀ v, Gives detail v → isNull v = true := by
    intro detail hdetail v hv
    rw [List.mem_singleton.1 hdetail] at hv
    rw [eq_of_gives_null hv]
    rfl
  refine after hx ?_
  refine after (hmessage.required (understands_text _)) ?_
  refine after (hcode.required (understands_text _)) ?_
  refine after (default_eq hattributes (understands_attributes _)) ?_
  refine after (default_eq hremedy (understands_option rfl understands_text _)) ?_
  refine after (hblame.required (understands_word hword hnull)) ?_
  rfl

end AcctAdmin.Protocol
