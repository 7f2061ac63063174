import AcctAdmin.Json.Printer
import AcctAdmin.Json.Record
import AcctAdmin.Protocol.Generation

/-!
# Message bodies

How the things that messages carry are written as JSON values and read back. Each has its writer
and its reader side by side. Written fields stand in the order of their names; a reader takes a
record by name or by place, and the places are those of the list that the reader is given.
-/

set_option autoImplicit false

namespace AcctAdmin.Protocol

open AcctAdmin.Json

/-! ## Identifiers, words and lists -/

def idValue (id : AccountId) : Value := .text id.text

def readId? (v : Value) : Option AccountId := v.text?.bind AccountId.parse?

/-- A word out of a closed list: the bare word, or an object with the word as its only name and
nothing to say about it. -/
def readWord? {α : Type} (isVoid : Value → Bool) (ofWord? : String → Option α) :
    Value → Option α
  | .text s => ofWord? s
  | .object [(name, v)] => if isVoid v then ofWord? name else none
  | _ => none

/-- What may stand beside a column's name: null or an empty object. -/
def isEmptyDetail : Value → Bool
  | .null | .object [] => true
  | _ => false

def isNull : Value → Bool
  | .null => true
  | _ => false

def accountColumnWord : AccountColumn → String
  | .id => "id"
  | .name => "name"
  | .email => "email"
  | .realName => "real_name"
  | .created => "created"

def accountColumn? : String → Option AccountColumn
  | "id" => some .id
  | "name" => some .name
  | "email" => some .email
  | "real_name" => some .realName
  | "created" => some .created
  | _ => none

def auditColumnWord : AuditColumn → String
  | .id => "id"
  | .time => "time"
  | .owner => "owner"
  | .kind => "kind"

def auditColumn? : String → Option AuditColumn
  | "id" => some .id
  | "time" => some .time
  | "owner" => some .owner
  | "kind" => some .kind
  | _ => none

def sortKeyValue {Column : Type} (word : Column → String) (k : SortKey Column) : Value :=
  .object [("ascending", .bool k.ascending), ("column", .text (word k.column))]

def readSortKey? {Column : Type} (ofWord? : String → Option Column) (v : Value) :
    Option (SortKey Column) := do
  let r ← v.record? ["column", "ascending"]
  let column ← r.required "column" (readWord? isEmptyDetail ofWord?)
  let ascending ← r.required "ascending" Value.bool?
  some ⟨column, ascending⟩

def orderingValue {Column : Type} (word : Column → String) (keys : List (SortKey Column)) :
    Value :=
  .array (keys.map (sortKeyValue word))

def readOrdering? {Column : Type} (ofWord? : String → Option Column) :
    Value → Option (List (SortKey Column)) :=
  Value.list? (readSortKey? ofWord?)

def timeRangeValue (r : TimeRange) : Value :=
  .object [("lower", .ofNat r.lower.toNat), ("upper", .ofNat r.upper.toNat)]

def readTimeRange? (v : Value) : Option TimeRange := do
  let r ← v.record? ["lower", "upper"]
  let lower ← r.required "lower" Value.uint64?
  let upper ← r.required "upper" Value.uint64?
  some ⟨lower, upper⟩

/-! ## Searches -/

def accountQueryValue (q : AccountQuery) : Value :=
  .object
    [("limit", .ofNat q.limit.toNat),
     ("ordering", orderingValue accountColumnWord q.ordering),
     ("query", .ofOption .text q.text),
     ("time_range", timeRangeValue q.timeRange)]

def readAccountQuery? (v : Value) : Option AccountQuery := do
  let r ← v.record? ["time_range", "query", "ordering", "limit"]
  let timeRange ← r.defaulted "time_range" readTimeRange? .all
  let text ← r.defaulted "query" (Value.option? Value.text?) none
  let ordering ← r.defaulted "ordering" (readOrdering? accountColumn?) []
  let limit ← r.required "limit" Value.uint32?
  some ⟨timeRange, text, ordering, limit⟩

def emailQueryValue (q : EmailQuery) : Value :=
  .object
    [("email", .text q.email),
     ("limit", .ofNat q.limit.toNat),
     ("ordering", orderingValue accountColumnWord q.ordering),
     ("time_range", timeRangeValue q.timeRange)]

def readEmailQuery? (v : Value) : Option EmailQuery := do
  let r ← v.record? ["time_range", "email", "ordering", "limit"]
  let timeRange ← r.defaulted "time_range" readTimeRange? .all
  let email ← r.required "email" Value.text?
  let ordering ← r.defaulted "ordering" (readOrdering? accountColumn?) []
  let limit ← r.required "limit" Value.uint32?
  some ⟨timeRange, email, ordering, limit⟩

def auditQueryValue (q : AuditQuery) : Value :=
  .object
    [("kind", .ofOption .text q.kind),
     ("limit", .ofNat q.limit.toNat),
     ("message", .ofOption .text q.message),
     ("ordering", orderingValue auditColumnWord q.ordering),
     ("owner", .ofOption idValue q.owner),
     ("time_range", timeRangeValue q.timeRange)]

def readAuditQuery? (v : Value) : Option AuditQuery := do
  let r ← v.record? ["time_range", "owner", "kind", "message", "ordering", "limit"]
  let timeRange ← r.defaulted "time_range" readTimeRange? .all
  let owner ← r.defaulted "owner" (Value.option? readId?) none
  let kind ← r.defaulted "kind" (Value.option? Value.text?) none
  let message ← r.defaulted "message" (Value.option? Value.text?) none
  let ordering ← r.defaulted "ordering" (readOrdering? auditColumn?) []
  let limit ← r.required "limit" Value.uint32?
  some ⟨timeRange, owner, kind, message, ordering, limit⟩

def queryValue : Query → Value
  | .accounts q => accountQueryValue q
  | .accountsByEmail q => emailQueryValue q
  | .audit q => auditQueryValue q

def readQuery? : SearchKind → Value → Option Query
  | .accounts, v => (readAccountQuery? v).map .accounts
  | .accountsByEmail, v => (readEmailQuery? v).map .accountsByEmail
  | .audit, v => (readAuditQuery? v).map .audit

/-! ## Accounts and events -/

def banValue (b : Ban) : Value :=
  .object
    [("expires", .ofOption (fun t => .ofNat t.toNat) b.expires),
     ("reason", .text b.reason)]

def readBan? (v : Value) : Option Ban := do
  let r ← v.record? ["reason", "expires"]
  let reason ← r.required "reason" Value.text?
  let expires ← r.nullable "expires" (Value.option? Value.uint64?)
  some ⟨reason, expires⟩

def summaryValue (a : AccountSummary) : Value :=
  .object
    [("admin", .bool a.admin),
     ("created", .ofNat a.created.toNat),
     ("email", .text a.email),
     ("id", idValue a.id),
     ("name", .text a.name),
     ("real_name", .text a.realName)]

def readSummary? (v : Value) : Option AccountSummary := do
  let r ← v.record? ["id", "name", "email", "real_name", "admin", "created"]
  let id ← r.required "id" readId?
  let name ← r.required "name" Value.text?
  let email ← r.required "email" Value.text?
  let realName ← r.required "real_name" Value.text?
  let admin ← r.required "admin" Value.bool?
  let created ← r.required "created" Value.uint64?
  some ⟨id, name, email, realName, admin, created⟩

def viewValue (a : AccountView) : Value :=
  .object
    [("admin", .bool a.admin),
     ("ban", .ofOption banValue a.ban),
     ("created", .ofNat a.created.toNat),
     ("email", .text a.email),
     ("id", idValue a.id),
     ("name", .text a.name),
     ("real_name", .text a.realName)]

def readView? (v : Value) : Option AccountView := do
  let r ← v.record? ["id", "name", "email", "real_name", "admin", "created", "ban"]
  let id ← r.required "id" readId?
  let name ← r.required "name" Value.text?
  let email ← r.required "email" Value.text?
  let realName ← r.required "real_name" Value.text?
  let admin ← r.required "admin" Value.bool?
  let created ← r.required "created" Value.uint64?
  let ban ← r.nullable "ban" (Value.option? readBan?)
  some ⟨id, name, email, realName, admin, created, ban⟩

def eventValue (e : AuditEvent) : Value :=
  .object
    [("id", .ofNat e.id.toNat),
     ("kind", .text e.kind),
     ("message", .text e.message),
     ("owner", idValue e.owner),
     ("time", .ofNat e.time.toNat)]

def readEvent? (v : Value) : Option AuditEvent := do
  let r ← v.record? ["id", "time", "owner", "kind", "message"]
  let id ← r.required "id" Value.uint64?
  let time ← r.required "time" Value.uint64?
  let owner ← r.required "owner" readId?
  let kind ← r.required "kind" Value.text?
  let message ← r.required "message" Value.text?
  some ⟨id, time, owner, kind, message⟩

def pageValue {Row : Type} (row : Row → Value) (p : Page Row) : Value :=
  .object
    [("items", .array (p.items.map row)),
     ("page_count", .ofNat p.count.toNat),
     ("page_first_offset", .ofNat p.offset.toNat),
     ("page_index", .ofNat p.index.toNat)]

def readPage? {Row : Type} (row? : Value → Option Row) (v : Value) : Option (Page Row) := do
  let r ← v.record? ["items", "page_index", "page_count", "page_first_offset"]
  let items ← r.required "items" (Value.list? row?)
  let index ← r.required "page_index" Value.uint32?
  let count ← r.required "page_count" Value.uint32?
  let offset ← r.required "page_first_offset" Value.uint64?
  some ⟨items, index, count, offset⟩

/-! ## Commands -/

/-- A body that says nothing may be left out, be null, or be an empty object or array. -/
def readVoid? {α : Type} (a : α) (v : Value) : Option α := if v.isVoid then some a else none

def userValue (id : AccountId) : Value := .object [("user", idValue id)]

def readUser? (v : Value) : Option AccountId := do
  let r ← v.record? ["user"]
  r.required "user" readId?

def loginValue (l : Login) : Value :=
  .object [("password", .text l.password), ("user_name", .text l.userName)]

def readLogin? (v : Value) : Option Login := do
  let r ← v.record? ["user_name", "password"]
  let userName ← r.required "user_name" Value.text?
  let password ← r.required "password" Value.text?
  some ⟨userName, password⟩

def newAccountValue (a : NewAccount) : Value :=
  .object
    [("admin", .bool a.admin),
     ("email", .text a.email),
     ("name", .text a.name),
     ("password", .text a.password),
     ("real_name", .text a.realName)]

def readNewAccount? (v : Value) : Option NewAccount := do
  let r ← v.record? ["name", "email", "real_name", "password", "admin"]
  let name ← r.required "name" Value.text?
  let email ← r.required "email" Value.text?
  let realName ← r.required "real_name" Value.text?
  let password ← r.required "password" Value.text?
  let admin ← r.defaulted "admin" Value.bool? false
  some ⟨name, email, realName, password, admin⟩

def readUserBan? (v : Value) : Option Command := do
  let r ← v.record? ["user", "reason", "expires"]
  let user ← r.required "user" readId?
  let reason ← r.required "reason" Value.text?
  let expires ← r.defaulted "expires" (Value.option? Value.uint64?) none
  some (.userBan user reason expires)

def Command.body : Command → Value
  | .login l => loginValue l
  | .logout => .null
  | .userCreate a => newAccountValue a
  | .userGet id => userValue id
  | .userDelete id => userValue id
  | .userBan user reason expires =>
    .object
      [("expires", .ofOption (fun t => .ofNat t.toNat) expires),
       ("reason", .text reason),
       ("user", idValue user)]
  | .userUnban id => userValue id
  | .searchBegin q => queryValue q
  | .searchTurn _ _ => .null

def Command.ofBody? : CommandKind → Value → Option Command
  | .login, v => (readLogin? v).map .login
  | .logout, v => readVoid? .logout v
  | .userCreate, v => (readNewAccount? v).map .userCreate
  | .userGet, v => (readUser? v).map .userGet
  | .userDelete, v => (readUser? v).map .userDelete
  | .userBan, v => readUserBan? v
  | .userUnban, v => (readUser? v).map .userUnban
  | .searchBegin s, v => (readQuery? s v).map .searchBegin
  | .searchTurn s t, v => readVoid? (.searchTurn s t) v

/-! ## Replies -/

def Reply.body : Reply → Value
  | .loginOk summary => .object [("user", summaryValue summary)]
  | .done => .null
  | .userCreated id => userValue id
  | .user view => viewValue view
  | .userPage page => pageValue summaryValue page
  | .auditPage page => pageValue eventValue page

def Reply.ofBody? : ReplyKind → Value → Option Reply
  | .loginOk, v => do
    let r ← v.record? ["user"]
    let summary ← r.required "user" readSummary?
    some (.loginOk summary)
  | .done, v => readVoid? .done v
  | .userCreated, v => (readUser? v).map .userCreated
  | .user, v => (readView? v).map .user
  | .userPage, v => (readPage? readSummary? v).map .userPage
  | .auditPage, v => (readPage? readEvent? v).map .auditPage

/-! ## Errors -/

def attributesValue (a : Attributes) : Value :=
  .object (a.entries.map fun (name, value) => (name, .text value))

def readAttributes? : Value → Option Attributes
  | .object members => do
    let entries ← members.mapM fun (name, v) => v.text?.map (name, ·)
    some (Attributes.ofList entries)
  | _ => none

def blameOfWord? : String → Option Blame
  | "CLIENT" => some .client
  | "SERVER" => some .server
  | _ => none

/-- The body of an error response. A remedy is written only if there is one. -/
def refusalValue (r : Refusal) : Value :=
  .object
    ([("attributes", attributesValue r.attributes),
      ("blame", .text r.blame.text),
      ("code", .text r.code.text),
      ("message", .text r.message)]
     ++ match r.remedy with
        | some remedy => [("remediating_action", .text remedy)]
        | none => [])

def readRefusal? (id : RequestId) (v : Value) : Option Refusal := do
  let r ← v.record? ["message", "code", "attributes", "remediating_action", "blame"]
  let message ← r.required "message" Value.text?
  let code ← r.required "code" Value.text?
  let attributes ← r.defaulted "attributes" readAttributes? .empty
  let remedy ← r.defaulted "remediating_action" (Value.option? Value.text?) none
  let blame ← r.required "blame" (readWord? isNull blameOfWord?)
  some ⟨id, message, .ofText code, attributes, remedy, blame⟩

end AcctAdmin.Protocol
