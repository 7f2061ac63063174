import AcctAdmin.Proofs.Json.RoundTrip
import AcctAdmin.Protocol.Advertisement

/-!
# Bodies come back

Each writer of a body against its reader. There are two facts for each: the value is fit to be
written, which only its depth makes a question of, and the reader finds in it what the writer put
there. A record is read field by field, so its proof is the list of what its fields give.
-/

set_option autoImplicit false

namespace AcctAdmin.Json.Value

/-! ## Plain values -/

attribute [simp] Sound.null Sound.bool Sound.text

variable {α : Type} {read : Value → Option α} {write : α → Value} {depth : Nat}

@[simp] theorem sound_uint32 (n : UInt32) : (ofNat n.toNat).Sound depth :=
  .ofNat (Nat.lt_trans n.toNat_lt (by decide))

@[simp] theorem sound_uint64 (n : UInt64) : (ofNat n.toNat).Sound depth := .ofNat n.toNat_lt

theorem uint32?_toNat (n : UInt32) : (ofNat n.toNat).uint32? = some n := by
  rw [ofNat, uint32?, Number.uint32?, below?_ofNat n.toNat_lt, Option.map_some, UInt32.ofNat_toNat]

theorem uint64?_toNat (n : UInt64) : (ofNat n.toNat).uint64? = some n := by
  rw [ofNat, uint64?, Number.uint64?, below?_ofNat n.toNat_lt, Option.map_some, UInt64.ofNat_toNat]

theorem text?_text (s : String) : (text s).text? = some s := rfl

theorem bool?_bool (b : Bool) : (bool b).bool? = some b := rfl

@[simp] theorem sound_ofOption (h : ∀ a, (write a).Sound depth) (o : Option α) :
    (ofOption write o).Sound depth := by
  cases o with
  | none => exact .null
  | some a => exact h a

theorem option?_ofOption (h : ∀ a, read (write a) = some a) (hnull : ∀ a, write a ≠ null)
    (o : Option α) : option? read (ofOption write o) = some o := by
  cases o with
  | none => rfl
  | some a =>
    rw [ofOption, option?, h, Option.map_some]
    exact hnull a

theorem option?_text (o : Option String) : option? text? (ofOption text o) = some o :=
  option?_ofOption text?_text (fun _ => nofun) o

theorem option?_uint64 (o : Option UInt64) :
    option? uint64? (ofOption (fun n => ofNat n.toNat) o) = some o :=
  option?_ofOption uint64?_toNat (fun _ => nofun) o

@[simp] theorem sound_list (h : ∀ a, (write a).Sound depth) (as : List α) :
    (array (as.map write)).Sound (depth + 1) :=
  .array (List.forall_mem_map.2 fun a _ => h a)

theorem list?_map (h : ∀ a, read (write a) = some a) (as : List α) :
    list? read (array (as.map write)) = some as := by
  rw [list?]
  induction as with
  | nil => rfl
  | cons a as ih => simp [h, ih]

end AcctAdmin.Json.Value

namespace AcctAdmin.Record

/-! ## Records -/

variable {α β γ : Type} {r : Record α} {name : String} {a : α} {b : β}

theorem required_eq {read : α → Option β} (hfind : r.find? name = some a)
    (hread : read a = some b) : r.required name read = some b := by
  rw [required, hfind]
  exact hread

theorem defaulted_eq {read : α → Option β} {absent : β} (hfind : r.find? name = some a)
    (hread : read a = some b) : r.defaulted name read absent = some b := by
  rw [defaulted, hfind]
  exact hread

theorem nullable_eq {read : α → Option (Option β)} {b : Option β} (hfind : r.find? name = some a)
    (hread : read a = some b) : r.nullable name read = some b := by
  rw [nullable, hfind]
  exact hread

/-- Goes on with what a field gave. -/
theorem after {field : Option β} {rest : β → Option γ} {c : γ} (hfield : field = some b)
    (hrest : rest b = some c) : (field >>= rest) = some c := by
  rw [hfield]
  exact hrest

end AcctAdmin.Record

namespace AcctAdmin

theorem insertEntry_of_lt {name value : String} {entries : List (String × String)}
    (h : ∀ e ∈ entries, e.1 < name) :
    insertEntry name value entries = entries ++ [(name, value)] := by
  induction entries with
  | nil => rfl
  | cons head rest ih =>
    obtain ⟨hhead, hrest⟩ := List.forall_mem_cons.1 h
    have hne : name ≠ head.1 := fun he => String.lt_irrefl _ (he ▸ hhead)
    rw [insertEntry, if_neg (String.lt_asymm hhead), if_neg hne, ih hrest, List.cons_append]

/-- Details that come in the order of their names are kept as they come. -/
theorem Attributes.entries_foldl_insert {entries : List (String × String)} {a : Attributes}
    (h : (a.entries ++ entries).Pairwise (·.1 < ·.1)) :
    (entries.foldl (fun a (name, value) => a.insert name value) a).entries =
      a.entries ++ entries := by
  induction entries generalizing a with
  | nil => simp
  | cons e rest ih =>
    obtain ⟨name, value⟩ := e
    have hlast : (a.insert name value).entries = a.entries ++ [(name, value)] :=
      insertEntry_of_lt fun e he => (List.pairwise_append.1 h).2.2 e he _ List.mem_cons_self
    rw [List.foldl_cons, ih (by rw [hlast, List.append_assoc]; exact h), hlast, List.append_assoc]
    rfl

theorem Attributes.ofList_entries (a : Attributes) : ofList a.entries = a := by
  have h : (ofList a.entries).entries = a.entries := entries_foldl_insert a.sorted
  cases a
  exact (Attributes.mk.injEq ..).mpr h

end AcctAdmin

namespace AcctAdmin.Protocol

open AcctAdmin.Json AcctAdmin.Record AcctAdmin.Json.Value

variable {depth : Nat}

@[simp] theorem sound_idValue (id : AccountId) : (idValue id).Sound depth := .text _

theorem readId?_idValue (id : AccountId) : readId? (idValue id) = some id := by
  rw [readId?, idValue, text?_text, Option.bind_some, AccountId.parse?, AccountId.text,
    Uuid.parse?_hyphenated, Option.map_some]

/-! ## Searches -/

@[simp] theorem sound_timeRangeValue (r : TimeRange) : (timeRangeValue r).Sound (depth + 1) :=
  .object (by simp) (by simp)

theorem readTimeRange?_timeRangeValue (r : TimeRange) :
    readTimeRange? (timeRangeValue r) = some r := by
  refine after rfl ?_
  refine after (required_eq rfl (uint64?_toNat r.lower)) ?_
  refine after (required_eq rfl (uint64?_toNat r.upper)) ?_
  rfl

section

variable {Column : Type} {word : Column → String} {ofWord? : String → Option Column}

@[simp] theorem sound_orderingValue (keys : List (SortKey Column)) :
    (orderingValue word keys).Sound (depth + 2) :=
  sound_list (fun _ => .object (by simp) (by simp)) keys

theorem readSortKey?_sortKeyValue (h : ∀ c, ofWord? (word c) = some c) (k : SortKey Column) :
    readSortKey? ofWord? (sortKeyValue word k) = some k := by
  refine after rfl ?_
  refine after (required_eq rfl (h k.column)) ?_
  refine after (required_eq rfl (bool?_bool k.ascending)) ?_
  rfl

theorem readOrdering?_orderingValue (h : ∀ c, ofWord? (word c) = some c)
    (keys : List (SortKey Column)) :
    readOrdering? ofWord? (orderingValue word keys) = some keys :=
  list?_map (readSortKey?_sortKeyValue h) keys

end

theorem accountColumn?_word (c : AccountColumn) :
    accountColumn? (accountColumnWord c) = some c := by
  cases c <;> rfl

theorem auditColumn?_word (c : AuditColumn) : auditColumn? (auditColumnWord c) = some c := by
  cases c <;> rfl

theorem readAccountQuery?_accountQueryValue (q : AccountQuery) :
    readAccountQuery? (accountQueryValue q) = some q := by
  refine after rfl ?_
  refine after (defaulted_eq rfl (readTimeRange?_timeRangeValue q.timeRange)) ?_
  refine after (defaulted_eq rfl (option?_text q.text)) ?_
  refine after (defaulted_eq rfl (readOrdering?_orderingValue accountColumn?_word q.ordering)) ?_
  refine after (required_eq rfl (uint32?_toNat q.limit)) ?_
  rfl

theorem readEmailQuery?_emailQueryValue (q : EmailQuery) :
    readEmailQuery? (emailQueryValue q) = some q := by
  refine after rfl ?_
  refine after (defaulted_eq rfl (readTimeRange?_timeRangeValue q.timeRange)) ?_
  refine after (required_eq rfl (text?_text q.email)) ?_
  refine after (defaulted_eq rfl (readOrdering?_orderingValue accountColumn?_word q.ordering)) ?_
  refine after (required_eq rfl (uint32?_toNat q.limit)) ?_
  rfl

theorem readAuditQuery?_auditQueryValue (q : AuditQuery) :
    readAuditQuery? (auditQueryValue q) = some q := by
  refine after rfl ?_
  refine after (defaulted_eq rfl (readTimeRange?_timeRangeValue q.timeRange)) ?_
  refine after (defaulted_eq rfl (option?_ofOption readId?_idValue (fun _ => nofun) q.owner)) ?_
  refine after (defaulted_eq rfl (option?_text q.kind)) ?_
  refine after (defaulted_eq rfl (option?_text q.message)) ?_
  refine after (defaulted_eq rfl (readOrdering?_orderingValue auditColumn?_word q.ordering)) ?_
  refine after (required_eq rfl (uint32?_toNat q.limit)) ?_
  rfl

theorem sound_queryValue (q : Query) : (queryValue q).Sound (depth + 3) := by
  cases q with
  | accounts q => exact .object (by simp) (by simp)
  | accountsByEmail q => exact .object (by simp) (by simp)
  | audit q => exact .object (by simp) (by simp)

theorem readQuery?_queryValue (q : Query) : readQuery? q.kind (queryValue q) = some q := by
  cases q with
  | accounts q =>
    rw [Query.kind, queryValue, readQuery?, readAccountQuery?_accountQueryValue, Option.map_some]
  | accountsByEmail q =>
    rw [Query.kind, queryValue, readQuery?, readEmailQuery?_emailQueryValue, Option.map_some]
  | audit q =>
    rw [Query.kind, queryValue, readQuery?, readAuditQuery?_auditQueryValue, Option.map_some]

/-! ## Commands -/

theorem sound_userValue (id : AccountId) : (userValue id).Sound (depth + 1) :=
  .object (by simp) (by simp)

theorem readUser?_userValue (id : AccountId) : readUser? (userValue id) = some id := by
  refine after rfl ?_
  exact required_eq rfl (readId?_idValue id)

theorem readLogin?_loginValue (l : Login) : readLogin? (loginValue l) = some l := by
  refine after rfl ?_
  refine after (required_eq rfl (text?_text l.userName)) ?_
  refine after (required_eq rfl (text?_text l.password)) ?_
  rfl

theorem readNewAccount?_newAccountValue (a : NewAccount) :
    readNewAccount? (newAccountValue a) = some a := by
  refine after rfl ?_
  refine after (required_eq rfl (text?_text a.name)) ?_
  refine after (required_eq rfl (text?_text a.email)) ?_
  refine after (required_eq rfl (text?_text a.realName)) ?_
  refine after (required_eq rfl (text?_text a.password)) ?_
  refine after (defaulted_eq rfl (bool?_bool a.admin)) ?_
  rfl

theorem readUserBan?_body (user : AccountId) (reason : String) (expires : Option UInt64) :
    readUserBan? (Command.userBan user reason expires).body =
      some (.userBan user reason expires) := by
  refine after rfl ?_
  refine after (required_eq rfl (readId?_idValue user)) ?_
  refine after (required_eq rfl (text?_text reason)) ?_
  refine after (defaulted_eq rfl (option?_uint64 expires)) ?_
  rfl

theorem sound_commandBody (c : Command) : c.body.Sound (depth + 3) := by
  cases c with
  | login l => exact .object (by simp) (by simp)
  | logout => exact .null
  | userCreate a => exact .object (by simp) (by simp)
  | userGet id => exact sound_userValue id
  | userDelete id => exact sound_userValue id
  | userBan user reason expires => exact .object (by simp) (by simp)
  | userUnban id => exact sound_userValue id
  | searchBegin q => exact sound_queryValue q
  | searchTurn s t => exact .null

theorem ofBody?_commandBody (c : Command) : Command.ofBody? c.kind c.body = some c := by
  cases c with
  | login l =>
    rw [Command.kind, Command.body, Command.ofBody?, readLogin?_loginValue, Option.map_some]
  | logout => rfl
  | userCreate a =>
    rw [Command.kind, Command.body, Command.ofBody?, readNewAccount?_newAccountValue,
      Option.map_some]
  | userGet id =>
    rw [Command.kind, Command.body, Command.ofBody?, readUser?_userValue, Option.map_some]
  | userDelete id =>
    rw [Command.kind, Command.body, Command.ofBody?, readUser?_userValue, Option.map_some]
  | userBan user reason expires =>
    rw [Command.kind, Command.ofBody?, readUserBan?_body]
  | userUnban id =>
    rw [Command.kind, Command.body, Command.ofBody?, readUser?_userValue, Option.map_some]
  | searchBegin q =>
    rw [Command.kind, Command.body, Command.ofBody?, readQuery?_queryValue, Option.map_some]
  | searchTurn s t => rfl

/-! ## Replies -/

@[simp] theorem sound_banValue (b : Ban) : (banValue b).Sound (depth + 1) :=
  .object (by simp) (by simp)

theorem readBan?_banValue (b : Ban) : readBan? (banValue b) = some b := by
  refine after rfl ?_
  refine after (required_eq rfl (text?_text b.reason)) ?_
  refine after (nullable_eq rfl (option?_uint64 b.expires)) ?_
  rfl

@[simp] theorem sound_summaryValue (a : AccountSummary) : (summaryValue a).Sound (depth + 1) :=
  .object (by simp) (by simp)

theorem readSummary?_summaryValue (a : AccountSummary) :
    readSummary? (summaryValue a) = some a := by
  refine after rfl ?_
  refine after (required_eq rfl (readId?_idValue a.id)) ?_
  refine after (required_eq rfl (text?_text a.name)) ?_
  refine after (required_eq rfl (text?_text a.email)) ?_
  refine after (required_eq rfl (text?_text a.realName)) ?_
  refine after (required_eq rfl (bool?_bool a.admin)) ?_
  refine after (required_eq rfl (uint64?_toNat a.created)) ?_
  rfl

theorem readView?_viewValue (a : AccountView) : readView? (viewValue a) = some a := by
  refine after rfl ?_
  refine after (required_eq rfl (readId?_idValue a.id)) ?_
  refine after (required_eq rfl (text?_text a.name)) ?_
  refine after (required_eq rfl (text?_text a.email)) ?_
  refine after (required_eq rfl (text?_text a.realName)) ?_
  refine after (required_eq rfl (bool?_bool a.admin)) ?_
  refine after (required_eq rfl (uint64?_toNat a.created)) ?_
  refine after (nullable_eq rfl (option?_ofOption readBan?_banValue (fun _ => nofun) a.ban)) ?_
  rfl

@[simp] theorem sound_eventValue (e : AuditEvent) : (eventValue e).Sound (depth + 1) :=
  .object (by simp) (by simp)

theorem readEvent?_eventValue (e : AuditEvent) : readEvent? (eventValue e) = some e := by
  refine after rfl ?_
  refine after (required_eq rfl (uint64?_toNat e.id)) ?_
  refine after (required_eq rfl (uint64?_toNat e.time)) ?_
  refine after (required_eq rfl (readId?_idValue e.owner)) ?_
  refine after (required_eq rfl (text?_text e.kind)) ?_
  refine after (required_eq rfl (text?_text e.message)) ?_
  rfl

section

variable {Row : Type} {row : Row → Value} {row? : Value → Option Row}

theorem sound_pageValue (h : ∀ a, (row a).Sound depth) (p : Page Row) :
    (pageValue row p).Sound (depth + 2) :=
  .object (by simp) (by simp [h])

theorem readPage?_pageValue (h : ∀ a, row? (row a) = some a) (p : Page Row) :
    readPage? row? (pageValue row p) = some p := by
  refine after rfl ?_
  refine after (required_eq rfl (list?_map h p.items)) ?_
  refine after (required_eq rfl (uint32?_toNat p.index)) ?_
  refine after (required_eq rfl (uint32?_toNat p.count)) ?_
  refine after (required_eq rfl (uint64?_toNat p.offset)) ?_
  rfl

end

theorem sound_replyBody (r : Reply) : r.body.Sound (depth + 3) := by
  cases r with
  | loginOk summary => exact .object (by simp) (by simp)
  | done => exact .null
  | userCreated id => exact sound_userValue id
  | user view => exact .object (by simp) (by simp)
  | userPage page => exact sound_pageValue sound_summaryValue page
  | auditPage page => exact sound_pageValue sound_eventValue page

theorem ofBody?_replyBody (r : Reply) : Reply.ofBody? r.kind r.body = some r := by
  cases r with
  | loginOk summary =>
    refine after rfl ?_
    refine after (required_eq rfl (readSummary?_summaryValue summary)) ?_
    rfl
  | done => rfl
  | userCreated id =>
    rw [Reply.kind, Reply.body, Reply.ofBody?, readUser?_userValue, Option.map_some]
  | user view => rw [Reply.kind, Reply.body, Reply.ofBody?, readView?_viewValue, Option.map_some]
  | userPage page =>
    rw [Reply.kind, Reply.body, Reply.ofBody?, readPage?_pageValue readSummary?_summaryValue,
      Option.map_some]
  | auditPage page =>
    rw [Reply.kind, Reply.body, Reply.ofBody?, readPage?_pageValue readEvent?_eventValue,
      Option.map_some]

/-! ## Errors -/

@[simp] theorem sound_attributesValue (a : Attributes) : (attributesValue a).Sound (depth + 1) := by
  refine .object ?_ (List.forall_mem_map.2 fun e _ => .text _)
  rw [List.map_map]
  exact List.pairwise_map.2 (a.sorted.imp String.ne_of_lt)

theorem readAttributes?_texts (entries : List (String × String)) :
    readAttributes? (.object (entries.map fun e => (e.1, .text e.2))) =
      some (Attributes.ofList entries) := by
  have hentries : ((entries.map fun e => (e.1, Value.text e.2)).mapM
      fun m => m.2.text?.map (m.1, ·)) = some entries := by
    induction entries with
    | nil => rfl
    | cons e rest ih => simp [text?_text, ih]
  exact after hentries rfl

theorem readAttributes?_attributesValue (a : Attributes) :
    readAttributes? (attributesValue a) = some a :=
  (readAttributes?_texts a.entries).trans (congrArg some a.ofList_entries)

theorem readWord?_blame (b : Blame) : readWord? isNull blameOfWord? (.text b.text) = some b := by
  cases b <;> rfl

theorem sound_refusalValue (r : Refusal) : (refusalValue r).Sound (depth + 2) := by
  obtain ⟨id, message, code, attributes, remedy, blame⟩ := r
  cases remedy with
  | none => exact .object (by simp) (by simp)
  | some remedy => exact .object (by simp) (by simp)

/-- A refusal comes back with its code taken from the text alone. -/
theorem readRefusal?_refusalValue (r : Refusal) :
    readRefusal? r.requestId (refusalValue r) = some { r with code := .ofText r.code.text } := by
  obtain ⟨id, message, code, attributes, remedy, blame⟩ := r
  -- the member that may be left out is the only one that depends on the refusal
  cases remedy with
  | none =>
    refine after rfl ?_
    refine after (required_eq rfl (text?_text message)) ?_
    refine after (required_eq rfl (text?_text code.text)) ?_
    refine after (defaulted_eq rfl (readAttributes?_attributesValue attributes)) ?_
    refine after rfl ?_
    refine after (required_eq rfl (readWord?_blame blame)) ?_
    rfl
  | some remedy =>
    refine after rfl ?_
    refine after (required_eq rfl (text?_text message)) ?_
    refine after (required_eq rfl (text?_text code.text)) ?_
    refine after (defaulted_eq rfl (readAttributes?_attributesValue attributes)) ?_
    refine after (defaulted_eq rfl (option?_text (some remedy))) ?_
    refine after (required_eq rfl (readWord?_blame blame)) ?_
    rfl

/-! ## Advertisements -/

namespace Advertisement

theorem sound_identifierValue {depth : Nat} (i : Identifier) :
    (identifierValue i).Sound (depth + 1) := .object (by simp) (by simp)

theorem sound_offerValue {depth : Nat} (o : Offer) : (offerValue o).Sound (depth + 2) :=
  .object (by simp) (by simpa using sound_identifierValue o.supported)

theorem sound_value (a : Advertisement) : a.value.Sound 4 := by
  have hoffers : (Value.array (a.offers.map offerValue)).Sound 3 :=
    Value.sound_list sound_offerValue a.offers
  exact .object (by simp) (by simpa using hoffers)

theorem readIdentifier?_node (i : Identifier) :
    readIdentifier? (identifierValue i).node = some i := by
  refine after rfl ?_
  refine after (required_eq rfl rfl) ?_
  refine after (required_eq rfl (Value.uint32?_toNat i.major)) ?_
  refine after (required_eq rfl (Value.uint32?_toNat i.minor)) ?_
  rfl

theorem readOffer?_node (o : Offer) : readOffer? (offerValue o).node = some o := by
  refine after rfl ?_
  refine after (required_eq rfl (readIdentifier?_node o.supported)) ?_
  refine after (required_eq rfl rfl) ?_
  rfl

theorem mapM_itemNodes {α : Type} {read : Node → Option α} {write : α → Value}
    (h : ∀ a, read (write a).node = some a) (as : List α) :
    (itemNodes (as.map write)).mapM read = some as := by
  induction as with
  | nil => rfl
  | cons a rest ih => simp [itemNodes, h, ih]

/-- What is advertised is what is read. -/
theorem ofBytes?_render (a : Advertisement) : ofBytes? a.render.toUTF8 = some a := by
  have hlist : Node.list? readOffer? (.array (itemNodes (a.offers.map offerValue))) =
      some a.offers := mapM_itemNodes readOffer?_node a.offers
  rw [ofBytes?, render, Node.ofBytes?_render a.sound_value, Option.bind_some]
  refine after rfl ?_
  refine after (required_eq rfl hlist) ?_
  rfl

end Advertisement

end AcctAdmin.Protocol
