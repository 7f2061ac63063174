import AcctAdmin.Json.Printer
import AcctAdmin.Proofs.Json.Spelling

/-!
# Reading what was written

The text of a value is read as the document of the value, and that document as the value. The first
part is that a text which is written is one of the spellings of its document. The second asks for
values that the writers of this library produce: whole numbers of 64 bits, no name twice, and not
too deep.
-/

set_option autoImplicit false

namespace AcctAdmin.Json

open AcctAdmin.Text

/-! ## Values and their documents -/

mutual

/-- The document that a value is written as. -/
def Value.node : Value → Node
  | .null => .null
  | .bool b => .bool b
  | .number n => .number n
  | .text s => .text (some s)
  | .array items => .array (itemNodes items)
  | .object members => .object (memberNodes members)

def itemNodes : List Value → List Node
  | [] => []
  | item :: items => item.node :: itemNodes items

def memberNodes : List (String × Value) → List (Option String × Node)
  | [] => []
  | (name, value) :: members => (some name, value.node) :: memberNodes members

end

theorem itemNodes_eq_map (items : List Value) : itemNodes items = items.map Value.node := by
  induction items with
  | nil => rfl
  | cons item items ih => rw [itemNodes, ih, List.map_cons]

theorem memberNodes_eq_map (members : List (String × Value)) :
    memberNodes members = members.map fun m => (some m.1, m.2.node) := by
  induction members with
  | nil => rfl
  | cons member members ih => rw [memberNodes, ih, List.map_cons]

/-- A value as messages are made of: nested no deeper than `depth`, its numbers whole and of
64 bits, and no name twice in one object. -/
inductive Value.Sound : Nat → Value → Prop
  | null {depth : Nat} : Sound depth .null
  | bool {depth : Nat} (b : Bool) : Sound depth (.bool b)
  | ofNat {depth n : Nat} (h : n < UInt64.size) : Sound depth (.ofNat n)
  | text {depth : Nat} (s : String) : Sound depth (.text s)
  | array {depth : Nat} {items : List Value} (h : ∀ item ∈ items, Sound depth item) :
      Sound (depth + 1) (.array items)
  | object {depth : Nat} {members : List (String × Value)} (hnames : (members.map (·.1)).Nodup)
      (h : ∀ m ∈ members, Sound depth m.2) : Sound (depth + 1) (.object members)

/-! ## What is written is a spelling -/

theorem ofUnit_toNat {c : Char} (h : c.toNat < 0x20) : Piece.ofUnit c.toNat = .char c := by
  rw [Piece.ofUnit, if_neg (by omega), Char.ofNat_toNat]

theorem spelled_escapeChar (c : Char) : (Piece.char c).Spelled (escapeChar c) := by
  unfold escapeChar
  split
  case h_8 hquote hslash _ _ _ _ _ =>
    split
    · rename_i hcontrol
      have hhex := readHex?_hexOfWidth 4 c.toNat
      rw [Nat.mod_eq_of_lt (Nat.lt_trans hcontrol (by decide))] at hhex
      rw [← ofUnit_toNat hcontrol]
      exact .unit hhex
    · rename_i hcontrol
      exact .plain hquote hslash hcontrol
  all_goals exact .escape rfl

theorem joinPieces_chars (cs : List Char) : joinPieces (cs.map .char) = some cs := by
  induction cs with
  | nil => rfl
  | cons c cs ih => rw [List.map_cons, joinPieces, ih, Option.map_some]

theorem stringSpelled_text (s : String) :
    StringSpelled (some s) (s.toList.flatMap escapeChar) := by
  have hpieces : ∀ cs : List Char, PiecesSpelled (cs.map .char) (cs.flatMap escapeChar) := by
    intro cs
    induction cs with
    | nil => exact .nil
    | cons c cs ih => exact .cons (spelled_escapeChar c) ih
  exact ⟨s.toList.map .char, hpieces s.toList, by simp [joinPieces_chars]⟩

theorem spelled_ofNat (n : Nat) : (Number.ofNat n).Spelled (decimalDigits n) := by
  have hdigits : Digits (decimalDigits n) :=
    ⟨decimalDigits_ne_nil n, fun _ => isDigit_of_mem_decimalDigits⟩
  have hspelled :=
    @Number.Spelled.mk false _ _ _ _ _ hdigits length_of_head_zero .none .none
  rw [List.append_nil, List.append_nil] at hspelled
  exact hspelled

@[simp] theorem chars_ofNat (n : Nat) : (Value.ofNat n).chars = decimalDigits n := by
  simp [Value.ofNat, Value.chars, Number.ofNat, Number.chars]

theorem Spells.unpadded {node : Node} {cs : List Char} (h : Spells (.value node) cs) :
    Spells (.padded node) cs := by
  have hpadded := @Spells.padded node [] cs [] nofun h nofun
  rwa [List.append_nil] at hpadded

theorem spells_items {items : List Value} (h : ∀ item ∈ items, Spells (.value item.node) item.chars)
    (hne : items ≠ []) : Spells (.items (itemNodes items)) (itemChars items) := by
  induction items with
  | nil => exact absurd rfl hne
  | cons item items ih =>
    obtain ⟨hitem, hitems⟩ := List.forall_mem_cons.1 h
    cases items with
    | nil => exact .lastItem hitem.unpadded
    | cons next items => exact .moreItems hitem.unpadded (ih hitems (by simp))

theorem spells_text (s : String) : Spells (.value (.text (some s))) (textChars s) :=
  .text (stringSpelled_text s)

theorem spells_member {name : String} {node : Node} {cs : List Char} (h : Spells (.value node) cs) :
    Spells (.member (some name) node) (textChars name ++ ':' :: cs) := by
  have hspelled := @Spells.member _ _ [] _ [] _ nofun (stringSpelled_text name) nofun h.unpadded
  simpa [textChars] using hspelled

theorem spells_members {members : List (String × Value)}
    (h : ∀ m ∈ members, Spells (.value m.2.node) m.2.chars) (hne : members ≠ []) :
    Spells (.members (memberNodes members)) (memberChars members) := by
  induction members with
  | nil => exact absurd rfl hne
  | cons member members ih =>
    obtain ⟨name, value⟩ := member
    obtain ⟨hvalue, hmembers⟩ := List.forall_mem_cons.1 h
    cases members with
    | nil => exact .lastMember (spells_member hvalue)
    | cons next members => exact .moreMembers (spells_member hvalue) (ih hmembers (by simp))

theorem spells_chars {depth : Nat} {v : Value} (h : v.Sound depth) :
    Spells (.value v.node) v.chars := by
  induction h with
  | null => exact .null
  | bool b =>
    cases b with
    | true => exact .yes
    | false => exact .no
  | ofNat _ =>
    rw [chars_ofNat]
    exact .number (spelled_ofNat _)
  | text s => exact spells_text s
  | @array _ items _ ih =>
    cases items with
    | nil => exact .emptyArray nofun
    | cons item items => exact .array (spells_items ih (by simp))
  | @object _ members _ _ ih =>
    cases members with
    | nil => exact .emptyObject nofun
    | cons member members => exact .object (spells_members ih (by simp))

/-- What is written for a value is a spelling of its document. -/
theorem Node.spelled_render {depth : Nat} {v : Value} (h : v.Sound depth) :
    v.node.Spelled v.render := by
  rw [Node.Spelled, Value.render, String.toList_ofList]
  exact (spells_chars h).unpadded

theorem Node.ofBytes?_render {depth : Nat} {v : Value} (h : v.Sound depth) :
    Node.ofBytes? v.render.toUTF8 = some v.node :=
  Node.ofBytes?_of_spelled (Node.spelled_render h)

/-! ## From the document back to the value -/

theorem addMember_of_not_mem {name : String} {value : Value} {members : List (String × Value)}
    (h : name ∉ members.map (·.1)) : addMember name value members = (name, value) :: members := by
  rw [addMember, if_neg]
  simp only [List.any_eq_true, beq_iff_eq, not_exists, not_and]
  intro m hm heq
  exact h (List.mem_map.2 ⟨m, hm, heq⟩)

theorem itemValues?_nodes {depth : Nat} {items : List Value}
    (h : ∀ item ∈ items, item.node.value? depth = some item) :
    itemValues? depth (itemNodes items) = some items := by
  induction items with
  | nil => rfl
  | cons item items ih =>
    obtain ⟨hitem, hitems⟩ := List.forall_mem_cons.1 h
    simp only [itemNodes, itemValues?, hitem, ih hitems]

theorem memberValues?_nodes {depth : Nat} {members : List (String × Value)}
    (hnames : (members.map (·.1)).Nodup)
    (h : ∀ m ∈ members, m.2.node.value? depth = some m.2) :
    memberValues? depth (memberNodes members) = some members := by
  induction members with
  | nil => rfl
  | cons member members ih =>
    obtain ⟨name, value⟩ := member
    obtain ⟨hvalue, hmembers⟩ := List.forall_mem_cons.1 h
    obtain ⟨hname, hnames⟩ := List.nodup_cons.1 hnames
    simp only [memberNodes, memberValues?, hvalue, ih hnames hmembers, addMember_of_not_mem hname]

theorem below?_ofNat {bound n : Nat} (h : n < bound) : (Number.ofNat n).below? bound = some n := by
  rw [Number.below?, if_neg (by simp [Number.ofNat]), Number.ofNat, readDecimal?_decimalDigits]
  exact Option.filter_some_pos (decide_eq_true h)

theorem isReadable_ofNat {n : Nat} (h : n < UInt64.size) : (Number.ofNat n).isReadable = true := by
  simp [Number.isReadable, Number.uint64?, below?_ofNat h]

theorem value?_node {depth : Nat} {v : Value} (h : v.Sound depth) :
    v.node.value? depth = some v := by
  induction h with
  | null => rw [Value.node, Node.value?]
  | bool b => rw [Value.node, Node.value?]
  | ofNat hn => rw [Value.ofNat, Value.node, Node.value?, if_pos (isReadable_ofNat hn)]
  | text s => rw [Value.node, Node.value?, Option.map_some]
  | array _ ih => rw [Value.node, Node.value?, itemValues?_nodes ih, Option.map_some]
  | object hnames _ ih =>
    rw [Value.node, Node.value?, memberValues?_nodes hnames ih, Option.map_some]

end AcctAdmin.Json
