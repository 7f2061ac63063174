import AcctAdmin.Proofs.Protocol.Codec
import AcctAdmin.Proofs.Protocol.Shapes

/-!
# What is written has the shape

The writers put down one of the documents that present a thing: an object that has every field under
its name, unless there is nothing to say in it.
-/

set_option autoImplicit false

namespace AcctAdmin.Json

theorem Value.Sound.legible {depth : Nat} {v : Value} (h : v.Sound depth) :
    v.node.Legible depth := by
  induction h with
  | null => exact .null
  | bool b => exact .bool b
  | ofNat hn => exact .number (isReadable_ofNat hn)
  | text s => exact .text s
  | @array depth items _ ih =>
    refine .array ?_
    rw [itemNodes_eq_map]
    exact List.forall_mem_map.2 ih
  | @object depth members _ _ ih =>
    rw [Value.node, memberNodes_eq_map]
    exact .object (List.forall_mem_map.2 fun _ _ => Option.some_ne_none _)
      (List.forall_mem_map.2 ih)

theorem Value.named_node (v : Value) : v.node.Named := by
  cases v with
  | object members =>
    rw [Value.node, memberNodes_eq_map]
    exact List.forall_mem_map.2 fun _ _ => Option.some_ne_none _
  | _ => trivial

end AcctAdmin.Json

namespace AcctAdmin.Protocol

open AcctAdmin.Json

variable {α : Type}

/-! ## Plain values -/

theorem shows_text (s : String) : ShowsText s (Value.text s).node := rfl

theorem shows_uint64 (n : UInt64) : ShowsNat n.toNat (Value.ofNat n.toNat).node := rfl

theorem shows_id (id : AccountId) : ShowsId id (idValue id).node := by
  refine ⟨id.text, rfl, ?_⟩
  rw [AccountId.parse?, AccountId.text, Uuid.parse?_hyphenated, Option.map_some]

theorem shows_option {shows : α → Node → Prop} {write : α → Value}
    (h : ∀ a, shows a (write a).node) (o : Option α) :
    ShowsOption shows o (Value.ofOption write o).node := by
  cases o with
  | none => rfl
  | some a => exact h a

theorem shows_list {shows : α → Node → Prop} {write : α → Value}
    (h : ∀ a, shows a (write a).node) (as : List α) :
    ShowsList shows as (Value.array (as.map write)).node := by
  refine ⟨_, rfl, ?_⟩
  rw [itemNodes_eq_map, List.map_map]
  exact List.forall₂_map_right_iff.2 (List.forall₂_same.2 fun a _ => h a)

/-! ## Searches -/

theorem shows_timeRange (r : TimeRange) :
    Presents (timeRangeFields r) (timeRangeValue r).node := by
  refine .byName ?_
  simp only [timeRangeFields, List.forall_mem_cons]
  exact ⟨.once rfl rfl, .once rfl rfl, List.forall_mem_nil _⟩

theorem shows_ordering {Column : Type} (word : Column → String) (keys : List (SortKey Column)) :
    ShowsOrdering word keys (orderingValue word keys).node := by
  refine shows_list (fun k => .byName ?_) keys
  simp only [sortKeyFields, List.forall_mem_cons]
  exact ⟨.once rfl (.inl rfl), .once rfl rfl, List.forall_mem_nil _⟩

theorem shows_accountQuery (q : AccountQuery) :
    Presents (accountQueryFields q) (accountQueryValue q).node := by
  refine .byName ?_
  simp only [accountQueryFields, List.forall_mem_cons]
  exact ⟨.once rfl (shows_timeRange _), .once rfl (shows_option shows_text _),
    .once rfl (shows_ordering _ _), .once rfl rfl, List.forall_mem_nil _⟩

theorem shows_emailQuery (q : EmailQuery) :
    Presents (emailQueryFields q) (emailQueryValue q).node := by
  refine .byName ?_
  simp only [emailQueryFields, List.forall_mem_cons]
  exact ⟨.once rfl (shows_timeRange _), .once rfl rfl, .once rfl (shows_ordering _ _),
    .once rfl rfl, List.forall_mem_nil _⟩

theorem shows_auditQuery (q : AuditQuery) :
    Presents (auditQueryFields q) (auditQueryValue q).node := by
  refine .byName ?_
  simp only [auditQueryFields, List.forall_mem_cons]
  exact ⟨.once rfl (shows_timeRange _), .once rfl (shows_option shows_id _),
    .once rfl (shows_option shows_text _), .once rfl (shows_option shows_text _),
    .once rfl (shows_ordering _ _), .once rfl rfl, List.forall_mem_nil _⟩

theorem shows_query (q : Query) : Presents (queryFields q) (queryValue q).node := by
  cases q with
  | accounts q => exact shows_accountQuery q
  | accountsByEmail q => exact shows_emailQuery q
  | audit q => exact shows_auditQuery q

/-! ## Accounts and events -/

theorem shows_ban (b : Ban) : Presents (banFields b) (banValue b).node := by
  refine .byName ?_
  simp only [banFields, List.forall_mem_cons]
  exact ⟨.once rfl rfl, .once rfl (shows_option shows_uint64 _), List.forall_mem_nil _⟩

theorem shows_summary (a : AccountSummary) :
    Presents (summaryFields a) (summaryValue a).node := by
  refine .byName ?_
  simp only [summaryFields, List.forall_mem_cons]
  exact ⟨.once rfl (shows_id _), .once rfl rfl, .once rfl rfl, .once rfl rfl, .once rfl rfl,
    .once rfl rfl, List.forall_mem_nil _⟩

theorem shows_view (a : AccountView) : Presents (viewFields a) (viewValue a).node := by
  refine .byName ?_
  simp only [viewFields, List.forall_mem_cons]
  exact ⟨.once rfl (shows_id _), .once rfl rfl, .once rfl rfl, .once rfl rfl, .once rfl rfl,
    .once rfl rfl, .once rfl (shows_option shows_ban _), List.forall_mem_nil _⟩

theorem shows_event (e : AuditEvent) : Presents (eventFields e) (eventValue e).node := by
  refine .byName ?_
  simp only [eventFields, List.forall_mem_cons]
  exact ⟨.once rfl rfl, .once rfl rfl, .once rfl (shows_id _), .once rfl rfl, .once rfl rfl,
    List.forall_mem_nil _⟩

theorem shows_page {Row : Type} {rowFields : Row → List Field} {row : Row → Value}
    (h : ∀ r, Presents (rowFields r) (row r).node) (p : Page Row) :
    Presents (pageFields rowFields p) (pageValue row p).node := by
  refine .byName ?_
  simp only [pageFields, List.forall_mem_cons]
  exact ⟨.once rfl (shows_list h _), .once rfl rfl, .once rfl rfl, .once rfl rfl,
    List.forall_mem_nil _⟩

/-! ## Commands -/

theorem shows_user (id : AccountId) : Presents (userFields id) (userValue id).node := by
  refine .byName ?_
  simp only [userFields, List.forall_mem_cons]
  exact ⟨.once rfl (shows_id _), List.forall_mem_nil _⟩

theorem shows_login (l : Login) : Presents (loginFields l) (loginValue l).node := by
  refine .byName ?_
  simp only [loginFields, List.forall_mem_cons]
  exact ⟨.once rfl rfl, .once rfl rfl, List.forall_mem_nil _⟩

theorem shows_newAccount (a : NewAccount) :
    Presents (newAccountFields a) (newAccountValue a).node := by
  refine .byName ?_
  simp only [newAccountFields, List.forall_mem_cons]
  exact ⟨.once rfl rfl, .once rfl rfl, .once rfl rfl, .once rfl rfl, .once rfl rfl,
    List.forall_mem_nil _⟩

theorem shows_command (c : Command) : c.Shown c.body.node := by
  cases c with
  | login l => exact shows_login l
  | logout => exact .inl rfl
  | userCreate a => exact shows_newAccount a
  | userGet id => exact shows_user id
  | userDelete id => exact shows_user id
  | userBan user reason expires =>
    refine .byName ?_
    simp only [userBanFields, List.forall_mem_cons]
    exact ⟨.once rfl (shows_id _), .once rfl rfl, .once rfl (shows_option shows_uint64 _),
      List.forall_mem_nil _⟩
  | userUnban id => exact shows_user id
  | searchBegin q => exact shows_query q
  | searchTurn s t => exact .inl rfl

/-! ## Replies -/

theorem shows_reply (r : Reply) : r.Shown r.body.node := by
  cases r with
  | loginOk a =>
    refine .byName ?_
    simp only [loginOkFields, List.forall_mem_cons]
    exact ⟨.once rfl (shows_summary a), List.forall_mem_nil _⟩
  | done => exact .inl rfl
  | userCreated id => exact shows_user id
  | user view => exact shows_view view
  | userPage page => exact shows_page shows_summary page
  | auditPage page => exact shows_page shows_event page

/-! ## Errors -/

theorem shows_attributes (a : Attributes) : ShowsAttributes a (attributesValue a).node := by
  refine ⟨a.entries, .refl _, ?_⟩
  simp only [attributesValue, Value.node, memberNodes_eq_map, List.map_map, Function.comp_def]

/-- No remedy is not written, so that it is the one field that is left out. -/
theorem shows_refusal (r : Refusal) : Presents (refusalFields r) (refusalValue r).node := by
  obtain ⟨requestId, message, code, attributes, remedy, blame⟩ := r
  refine .byName ?_
  simp only [refusalFields, List.forall_mem_cons]
  cases remedy with
  | none =>
    exact ⟨.once rfl rfl, .once rfl rfl, .once rfl (shows_attributes _), .lacking rfl rfl,
      .once rfl (.inl rfl), List.forall_mem_nil _⟩
  | some remedy =>
    exact ⟨.once rfl rfl, .once rfl rfl, .once rfl (shows_attributes _), .once rfl rfl,
      .once rfl (.inl rfl), List.forall_mem_nil _⟩

end AcctAdmin.Protocol
