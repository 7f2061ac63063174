import AcctAdmin.Proofs.Lists
import AcctAdmin.Proofs.Protocol.Body
import Mathlib.Data.List.Forall2

/-!
# How a document may present a record

A record may be presented by an object whose members stand in any order among others, or by an
array of its fields. What may be left out is settled field by field. However it is presented, the
record that is taken from the document has the same fields (`Presents.record`,
`Presents.nodeRecord`), and a reader that understands what its fields show finds them.
-/

set_option autoImplicit false

namespace AcctAdmin.Json

/-! ## Documents that can be taken as values -/

/-- Whether a document can be taken as a value: what is written as strings and names are texts, its
numbers can be held, and it is nested no deeper than `depth`. -/
inductive Node.Legible : Nat → Node → Prop
  | null {depth : Nat} : Legible depth .null
  | bool {depth : Nat} (b : Bool) : Legible depth (.bool b)
  | number {depth : Nat} {n : Number} (h : n.isReadable = true) : Legible depth (.number n)
  | text {depth : Nat} (s : String) : Legible depth (.text (some s))
  | array {depth : Nat} {items : List Node} (h : ∀ item ∈ items, Legible depth item) :
      Legible (depth + 1) (.array items)
  | object {depth : Nat} {members : List (Option String × Node)}
      (hnames : ∀ m ∈ members, m.1 ≠ none) (h : ∀ m ∈ members, Legible depth m.2) :
      Legible (depth + 1) (.object members)

theorem exists_itemValues? {depth : Nat} {items : List Node}
    (h : ∀ item ∈ items, ∃ v, item.value? depth = some v) :
    ∃ values, itemValues? depth items = some values := by
  induction items with
  | nil => exact ⟨[], rfl⟩
  | cons item items ih =>
    obtain ⟨⟨v, hv⟩, hitems⟩ := List.forall_mem_cons.1 h
    obtain ⟨values, hvalues⟩ := ih hitems
    exact ⟨v :: values, by simp only [itemValues?, hv, hvalues]⟩

theorem exists_memberValues? {depth : Nat} {members : List (Option String × Node)}
    (hnames : ∀ m ∈ members, m.1 ≠ none) (h : ∀ m ∈ members, ∃ v, m.2.value? depth = some v) :
    ∃ values, memberValues? depth members = some values := by
  induction members with
  | nil => exact ⟨[], rfl⟩
  | cons member members ih =>
    obtain ⟨name, node⟩ := member
    obtain ⟨hname, hnames⟩ := List.forall_mem_cons.1 hnames
    obtain ⟨⟨v, hv⟩, hmembers⟩ := List.forall_mem_cons.1 h
    obtain ⟨values, hvalues⟩ := ih hnames hmembers
    obtain ⟨name, rfl⟩ := Option.ne_none_iff_exists'.1 hname
    exact ⟨addMember name v values, by simp only [memberValues?, hv, hvalues]⟩

theorem Node.Legible.exists_value? {depth : Nat} {node : Node} (h : node.Legible depth) :
    ∃ v, node.value? depth = some v := by
  induction h with
  | null => exact ⟨.null, by rw [Node.value?]⟩
  | bool b => exact ⟨.bool b, by rw [Node.value?]⟩
  | @number _ n hn => exact ⟨.number n, by rw [Node.value?, if_pos hn]⟩
  | text s => exact ⟨.text s, by rw [Node.value?, Option.map_some]⟩
  | array _ ih =>
    obtain ⟨values, hvalues⟩ := exists_itemValues? ih
    exact ⟨.array values, by rw [Node.value?, hvalues, Option.map_some]⟩
  | object hnames _ ih =>
    obtain ⟨values, hvalues⟩ := exists_memberValues? hnames ih
    exact ⟨.object values, by rw [Node.value?, hvalues, Option.map_some]⟩

/-! ## Fields -/

/-- A field as a document may present it: what may stand in its place, and whether it may be left
out of an object or off the end of an array. -/
structure Field where
  name : String
  shown : Node → Prop
  lackable : Prop
  droppable : Prop

namespace Field

def required (name : String) (shown : Node → Prop) : Field := ⟨name, shown, False, False⟩

/-- A field that may be left out if what it shows goes without saying. -/
def defaulted (name : String) (shown : Node → Prop) (unsaid : Prop) : Field :=
  ⟨name, shown, unsaid, unsaid⟩

/-- A field that may be left out under its name if there is nothing to show. -/
def nullable (name : String) (shown : Node → Prop) (nothing : Prop) : Field :=
  ⟨name, shown, nothing, False⟩

end Field

/-- Whether the members of an object present a field: one of them does, or it may be left out and
is. -/
inductive Field.StandsIn (f : Field) (members : List (Option String × Node)) : Prop
  | once {node : Node} (h : members.filter (·.1 == some f.name) = [(some f.name, node)])
      (hshown : f.shown node) : StandsIn f members
  | lacking (h : members.filter (·.1 == some f.name) = []) (hlackable : f.lackable) :
      StandsIn f members

/-- Whether the items of an array present fields, one after the other. -/
inductive InOrder : List Field → List Node → Prop
  | dropped {fields : List Field} (h : ∀ f ∈ fields, f.droppable) : InOrder fields []
  | next {f : Field} {fields : List Field} {node : Node} {nodes : List Node} (h : f.shown node)
      (hrest : InOrder fields nodes) : InOrder (f :: fields) (node :: nodes)

/-- Whether a document presents a record. -/
inductive Presents (fields : List Field) : Node → Prop
  | byName {members : List (Option String × Node)} (h : ∀ f ∈ fields, f.StandsIn members) :
      Presents fields (.object members)
  | byPlace {nodes : List Node} (h : InOrder fields nodes) : Presents fields (.array nodes)

/-- Whether a field is found in a record as a document presents it, where `gives` says what may be
found for what. -/
inductive Field.FoundIn {α : Type} (gives : Node → α → Prop) (r : Record α) (f : Field) : Prop
  | there {node : Node} {a : α} (hfind : r.find? f.name = some a) (hgives : gives node a)
      (hshown : f.shown node) : FoundIn gives r f
  | lacking (hfind : r.find? f.name = none) (hnamed : r.positional = false)
      (hlackable : f.lackable) : FoundIn gives r f
  | dropped (hfind : r.find? f.name = none) (hdroppable : f.droppable) : FoundIn gives r f

namespace Field.FoundIn

variable {α β : Type} {gives : Node → α → Prop} {r : Record α} {name : String}
  {shown : Node → Prop}

theorem required {read : α → Option β} {b : β}
    (h : (Field.required name shown).FoundIn gives r)
    (hread : ∀ node a, shown node → gives node a → read a = some b) :
    r.required name read = some b := by
  cases h with
  | there hfind hgives hshown => exact Record.required_eq hfind (hread _ _ hshown hgives)
  | lacking _ _ hlackable => exact hlackable.elim
  | dropped _ hdroppable => exact hdroppable.elim

theorem defaulted {unsaid : Prop} {read : α → Option β} {absent : β} {P : β → Prop}
    (h : (Field.defaulted name shown unsaid).FoundIn gives r)
    (hread : ∀ node a, shown node → gives node a → ∃ b, read a = some b ∧ P b)
    (habsent : unsaid → P absent) : ∃ b, r.defaulted name read absent = some b ∧ P b := by
  have hleft : r.find? name = none → unsaid → ∃ b, r.defaulted name read absent = some b ∧ P b := by
    intro hfind hunsaid
    exact ⟨absent, by rw [Record.defaulted, hfind], habsent hunsaid⟩
  cases h with
  | there hfind hgives hshown =>
    obtain ⟨b, hb, hP⟩ := hread _ _ hshown hgives
    exact ⟨b, Record.defaulted_eq hfind hb, hP⟩
  | lacking hfind _ hlackable => exact hleft hfind hlackable
  | dropped hfind hdroppable => exact hleft hfind hdroppable

theorem nullable {nothing : Prop} {read : α → Option (Option β)} {b : Option β}
    (h : (Field.nullable name shown nothing).FoundIn gives r)
    (hread : ∀ node a, shown node → gives node a → read a = some b)
    (habsent : nothing → b = none) : r.nullable name read = some b := by
  cases h with
  | there hfind hgives hshown => exact Record.nullable_eq hfind (hread _ _ hshown hgives)
  | lacking hfind hnamed hlackable =>
    change r.find? name = none at hfind
    rw [Record.nullable, hfind, hnamed, habsent hlackable]
    rfl
  | dropped _ hdroppable => exact hdroppable.elim

end Field.FoundIn

/-! ## Records by place -/

variable {fields : List Field}

theorem InOrder.found {α : Type} {gives : Node → α → Prop} {nodes : List Node} {as : List α}
    (h : InOrder fields nodes) (has : List.Forall₂ gives nodes as)
    (hnodup : (fields.map Field.name).Nodup) :
    as.length ≤ fields.length ∧
      ∀ f ∈ fields, f.FoundIn gives ⟨true, (fields.map Field.name).zip as⟩ := by
  induction h generalizing as with
  | dropped hdroppable =>
    cases has
    refine ⟨Nat.zero_le _, fun f hf => .dropped ?_ (hdroppable f hf)⟩
    rw [Record.find?, List.zip_nil_right]
    rfl
  | @next f fields node nodes hshown hrest ih =>
    cases has with
    | @cons _ a _ as hgives has =>
      obtain ⟨hname, hnodup⟩ := List.nodup_cons.1 hnodup
      obtain ⟨hlength, hfound⟩ := ih has hnodup
      have hfind : ∀ name, Record.find? ⟨true, ((f :: fields).map Field.name).zip (a :: as)⟩ name =
          if name = f.name then some a
          else Record.find? ⟨true, (fields.map Field.name).zip as⟩ name := by
        intro name
        exact lookup_cons_eq_ite
      -- The first place is that of the first field, and no later field has its name.
      refine ⟨Nat.succ_le_succ hlength, List.forall_mem_cons.2 ⟨?_, fun g hg => ?_⟩⟩
      · exact .there ((hfind f.name).trans (if_pos rfl)) hgives hshown
      · have hother : g.name ≠ f.name := fun heq => hname (heq ▸ List.mem_map_of_mem hg)
        have hsame := (hfind g.name).trans (if_neg hother)
        cases hfound g hg with
        | there hfind hgives hshown => exact .there (hsame.trans hfind) hgives hshown
        | lacking _ hnamed _ => cases hnamed
        | dropped hfind hdroppable => exact .dropped (hsame.trans hfind) hdroppable

/-! ## Records by name -/

theorem lookup_addMember_of_ne {name other : String} {v : Value} {members : List (String × Value)}
    (h : name ≠ other) : (addMember other v members).lookup name = members.lookup name := by
  unfold addMember
  split
  · rfl
  · rw [lookup_cons_eq_ite, if_neg h]

theorem lookup_addMember_self {name : String} {v : Value} {members : List (String × Value)}
    (h : members.lookup name = none) : (addMember name v members).lookup name = some v := by
  have hnew : name ∉ members.map (·.1) := by
    intro hmem
    obtain ⟨m, hm, hname⟩ := List.mem_map.1 hmem
    have hother := List.lookup_eq_none_iff.1 h m hm
    rw [hname] at hother
    simp at hother
  rw [addMember_of_not_mem hnew, lookup_cons_eq_ite, if_pos rfl]

theorem memberValues?_cons_eq_some {depth : Nat} {name : Option String} {node : Node}
    {members : List (Option String × Node)} {values : List (String × Value)}
    (h : memberValues? depth ((name, node) :: members) = some values) :
    ∃ text v rest, name = some text ∧ node.value? depth = some v ∧
      memberValues? depth members = some rest ∧ values = addMember text v rest := by
  unfold memberValues? at h
  split at h
  · rename_i text v rest hv hrest
    exact ⟨text, v, rest, rfl, hv, hrest, (Option.some.inj h).symm⟩
  · cases h

/-- Of members with one name the value has the last, so that a member which stands alone is the one
that is found. -/
theorem lookup_memberValues? {depth : Nat} {members : List (Option String × Node)}
    {values : List (String × Value)} (h : memberValues? depth members = some values)
    (name : String) :
    (members.filter (·.1 == some name) = [] → values.lookup name = none) ∧
    ∀ node, members.filter (·.1 == some name) = [(some name, node)] →
      ∃ v, node.value? depth = some v ∧ values.lookup name = some v := by
  induction members generalizing values with
  | nil =>
    rw [memberValues?] at h
    cases h
    exact ⟨fun _ => rfl, fun node hnode => by cases hnode⟩
  | cons member members ih =>
    obtain ⟨written, node⟩ := member
    obtain ⟨text, v, rest, rfl, hv, hrest, rfl⟩ := memberValues?_cons_eq_some h
    obtain ⟨habsent, honce⟩ := ih hrest
    by_cases htext : text = name
    · subst htext
      rw [List.filter_cons_of_pos (by simp)]
      -- The last of a name counts; as the member stands alone, it is that.
      refine ⟨fun hnil => (by cases hnil), fun node' hnode => ?_⟩
      obtain ⟨hsame, hothers⟩ := List.cons.inj hnode
      obtain rfl : node = node' := congrArg Prod.snd hsame
      exact ⟨v, hv, lookup_addMember_self (habsent hothers)⟩
    · rw [List.filter_cons_of_neg (by simpa using htext),
        lookup_addMember_of_ne (Ne.symm htext)]
      exact ⟨habsent, honce⟩

/-- The members that have given names, if no name stands twice. -/
theorem exists_knownMembers? {names : List String} {members : List (Option String × Node)}
    (hnames : ∀ m ∈ members, m.1 ≠ none)
    (honce : ∀ name ∈ names, (members.filter (·.1 == some name)).length ≤ 1) :
    ∃ known, knownMembers? names members = some known ∧ ∀ name ∈ names,
      known.lookup name = (members.filter (·.1 == some name)).head?.map (·.2) := by
  induction members with
  | nil => exact ⟨[], rfl, fun _ _ => rfl⟩
  | cons member members ih =>
    obtain ⟨written, node⟩ := member
    obtain ⟨hwritten, hothers⟩ := List.forall_mem_cons.1 hnames
    obtain ⟨text, rfl⟩ := Option.ne_none_iff_exists'.1 hwritten
    have hrest : ∀ name ∈ names, (members.filter (·.1 == some name)).length ≤ 1 := by
      intro name hname
      refine Nat.le_trans (List.Sublist.length_le ?_) (honce name hname)
      exact (List.sublist_cons_self _ _).filter _
    obtain ⟨known, hknown, hlookup⟩ := ih hothers hrest
    rw [knownMembers?, hknown]
    dsimp only
    by_cases htext : text ∈ names
    -- The member is the only one of its name, so there is none behind it to clash with.
    · have hothers : members.filter (·.1 == some text) = [] := by
        have hone := honce text htext
        rw [List.filter_cons_of_pos (by simp), List.length_cons] at hone
        exact List.length_eq_zero_iff.1 (by omega)
      have hnew : known.any (·.1 == text) = false := by
        have hnone := hlookup text htext
        rw [hothers] at hnone
        rw [List.any_eq_false]
        intro m hm
        have hother := List.lookup_eq_none_iff.1 hnone m hm
        exact fun heq => bne_iff_ne.1 hother (eq_of_beq heq).symm
      refine ⟨(text, node) :: known, by simp [htext, hnew], fun name hname => ?_⟩
      rw [lookup_cons_eq_ite]
      split
      · rename_i heq
        subst heq
        rw [List.filter_cons_of_pos (by simp)]
        rfl
      · rename_i hne
        rw [List.filter_cons_of_neg (by simpa using Ne.symm hne)]
        exact hlookup name hname
    · refine ⟨known, by simp [htext], fun name hname => ?_⟩
      have hne : text ≠ name := fun heq => htext (heq ▸ hname)
      rw [List.filter_cons_of_neg (by simpa using hne)]
      exact hlookup name hname

theorem Field.StandsIn.found {α : Type} {gives : Node → α → Prop} {r : Record α} {f : Field}
    {members : List (Option String × Node)} (h : f.StandsIn members) (hnamed : r.positional = false)
    (habsent : members.filter (·.1 == some f.name) = [] → r.find? f.name = none)
    (honce : ∀ node, members.filter (·.1 == some f.name) = [(some f.name, node)] →
      ∃ a, gives node a ∧ r.find? f.name = some a) : f.FoundIn gives r := by
  cases h with
  | once hmember hshown =>
    obtain ⟨a, hgives, hfind⟩ := honce _ hmember
    exact .there hfind hgives hshown
  | lacking hmissing hlackable => exact .lacking (habsent hmissing) hnamed hlackable

/-! ## Records -/

/-- Whether a value is what a document is taken as. -/
def Gives (node : Node) (v : Value) : Prop := ∃ depth, node.value? depth = some v

theorem forall₂_gives {depth : Nat} {nodes : List Node} {values : List Value}
    (h : itemValues? depth nodes = some values) : List.Forall₂ Gives nodes values := by
  induction nodes generalizing values with
  | nil =>
    rw [itemValues?] at h
    cases h
    exact .nil
  | cons node nodes ih =>
    rw [itemValues?] at h
    split at h
    · rename_i v rest hv hrest
      cases h
      exact .cons ⟨depth, hv⟩ (ih hrest)
    · cases h

variable {node : Node} {v : Value}

/-- The record of a value has the fields that the document presents. -/
theorem Presents.record (h : Presents fields node) (names : List String)
    (hnames : fields.map Field.name = names) (hnodup : names.Nodup) (hv : Gives node v) :
    ∃ r, v.record? names = some r ∧ ∀ f ∈ fields, f.FoundIn Gives r := by
  subst hnames
  obtain ⟨depth, hv⟩ := hv
  cases h with
  | @byName members hstands =>
    cases depth with
    | zero => cases hv
    | succ depth =>
      rw [Node.value?] at hv
      obtain ⟨values, hvalues, rfl⟩ := Option.map_eq_some_iff.1 hv
      refine ⟨⟨false, values⟩, rfl, fun f hf => ?_⟩
      obtain ⟨habsent, honce⟩ := lookup_memberValues? hvalues f.name
      refine (hstands f hf).found rfl habsent fun node hnode => ?_
      obtain ⟨w, hw, hfind⟩ := honce node hnode
      exact ⟨w, ⟨depth, hw⟩, hfind⟩
  | @byPlace nodes horder =>
    cases depth with
    | zero => cases hv
    | succ depth =>
      rw [Node.value?] at hv
      obtain ⟨values, hvalues, rfl⟩ := Option.map_eq_some_iff.1 hv
      obtain ⟨hlength, hfound⟩ := horder.found (forall₂_gives hvalues) hnodup
      refine ⟨_, ?_, hfound⟩
      rw [Value.record?, List.length_map, if_pos hlength]

/-- Whether all names that a document gives at its outside are texts. -/
def Node.Named : Node → Prop
  | .object members => ∀ m ∈ members, m.1 ≠ none
  | _ => True

/-- So it is with the record of a document as written. -/
theorem Presents.nodeRecord (h : Presents fields node) (names : List String)
    (hnames : fields.map Field.name = names) (hnodup : names.Nodup) (hnamed : node.Named) :
    ∃ r, node.record? names = some r ∧ ∀ f ∈ fields, f.FoundIn (· = ·) r := by
  subst hnames
  cases h with
  | @byName members hstands =>
    have honce : ∀ name ∈ fields.map Field.name,
        (members.filter (·.1 == some name)).length ≤ 1 := by
      refine List.forall_mem_map.2 fun f hf => ?_
      cases hstands f hf with
      | once hmember _ => rw [hmember]; exact Nat.le_refl 1
      | lacking hmissing _ => rw [hmissing]; exact Nat.zero_le 1
    obtain ⟨known, hknown, hlookup⟩ := exists_knownMembers? hnamed honce
    refine ⟨⟨false, known⟩, by rw [Node.record?, hknown, Option.map_some], fun f hf => ?_⟩
    have hfind := hlookup f.name (List.mem_map_of_mem hf)
    refine (hstands f hf).found rfl (fun hmissing => ?_) fun node hmember => ⟨node, rfl, ?_⟩
    · rw [hmissing] at hfind
      exact hfind
    · rw [hmember] at hfind
      exact hfind
  | @byPlace nodes horder =>
    have hsame : List.Forall₂ (· = ·) nodes nodes := List.forall₂_refl nodes
    obtain ⟨hlength, hfound⟩ := horder.found hsame hnodup
    refine ⟨_, ?_, hfound⟩
    rw [Node.record?, List.length_map, if_pos hlength]

end AcctAdmin.Json
