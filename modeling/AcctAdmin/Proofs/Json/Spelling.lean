import AcctAdmin.Json.Reader
import AcctAdmin.Proofs.Text.Numeral

/-!
# Spelling

How a JSON document may be spelled: the rules of the grammar, one constructor each. There is a
choice of blanks between any two marks, of escapes inside strings and of how a number is put down.
Whatever is chosen, the document is read (`Node.ofBytes?_of_spelled`). The readers follow the rules,
so that the proof is an induction on how a text was spelled: what each rule puts together is taken
apart by the reader of the rule, and what stands behind is left alone.
-/

set_option autoImplicit false

namespace AcctAdmin.Json

open AcctAdmin.Text

/-! ## The grammar -/

/-- What may stand between any two marks. -/
def Blanks (cs : List Char) : Prop := ∀ c ∈ cs, c ∈ [' ', '\n', '\t', '\r']

/-- How a piece of a string may be spelled: as the character that it is unless that has a meaning,
by the letter that escapes it, or by the four digits of its unit. -/
inductive Piece.Spelled : Piece → List Char → Prop
  | plain {c : Char} (hquote : c ≠ '"') (hslash : c ≠ '\\') (hcontrol : ¬ c.toNat < 0x20) :
      Spelled (.char c) [c]
  | escape {e c : Char} (h : escaped? e = some c) : Spelled (.char c) ['\\', e]
  | unit {a b c d : Char} {unit : Nat} (h : readHex? [a, b, c, d] = some unit) :
      Spelled (.ofUnit unit) ['\\', 'u', a, b, c, d]

inductive PiecesSpelled : List Piece → List Char → Prop
  | nil : PiecesSpelled [] []
  | cons {piece : Piece} {pieces : List Piece} {cs rest : List Char} (h : piece.Spelled cs)
      (hrest : PiecesSpelled pieces rest) : PiecesSpelled (piece :: pieces) (cs ++ rest)

/-- How the inside of a string may be spelled; the string need not be a text. -/
def StringSpelled (s : Option String) (cs : List Char) : Prop :=
  ∃ pieces, PiecesSpelled pieces cs ∧ s = (joinPieces pieces).map String.ofList

/-- One digit or more. -/
def Digits (ds : List Char) : Prop := ds ≠ [] ∧ ∀ d ∈ ds, d.isDigit = true

inductive FractionSpelled : Option (List Char) → List Char → Prop
  | none : FractionSpelled none []
  | some {ds : List Char} (h : Digits ds) : FractionSpelled (some ds) ('.' :: ds)

inductive ExponentSpelled : Option (Bool × List Char) → List Char → Prop
  | none : ExponentSpelled none []
  | plain {mark : Char} {ds : List Char} (hmark : mark = 'e' ∨ mark = 'E') (h : Digits ds) :
      ExponentSpelled (some (false, ds)) (mark :: ds)
  | plus {mark : Char} {ds : List Char} (hmark : mark = 'e' ∨ mark = 'E') (h : Digits ds) :
      ExponentSpelled (some (false, ds)) (mark :: '+' :: ds)
  | minus {mark : Char} {ds : List Char} (hmark : mark = 'e' ∨ mark = 'E') (h : Digits ds) :
      ExponentSpelled (some (true, ds)) (mark :: '-' :: ds)

inductive Number.Spelled : Number → List Char → Prop
  | mk {negative : Bool} {whole : List Char} {fraction : Option (List Char)}
      {exponent : Option (Bool × List Char)} {fs es : List Char} (hwhole : Digits whole)
      (hzero : whole.head? = some '0' → whole.length = 1) (hfraction : FractionSpelled fraction fs)
      (hexponent : ExponentSpelled exponent es) :
      Spelled ⟨negative, whole, fraction, exponent⟩
        ((if negative then ['-'] else []) ++ (whole ++ (fs ++ es)))

/-- What a rule is about. -/
inductive Phrase where
  | value (node : Node)
  /-- A document with blanks around it. -/
  | padded (node : Node)
  | member (name : Option String) (node : Node)
  /-- What stands in the brackets of an array that has items. -/
  | items (nodes : List Node)
  /-- What stands in the braces of an object that has members. -/
  | members (members : List (Option String × Node))

inductive Spells : Phrase → List Char → Prop
  | null : Spells (.value .null) ['n', 'u', 'l', 'l']
  | yes : Spells (.value (.bool true)) ['t', 'r', 'u', 'e']
  | no : Spells (.value (.bool false)) ['f', 'a', 'l', 's', 'e']
  | number {n : Number} {cs : List Char} (h : n.Spelled cs) : Spells (.value (.number n)) cs
  | text {s : Option String} {cs : List Char} (h : StringSpelled s cs) :
      Spells (.value (.text s)) ('"' :: (cs ++ ['"']))
  | emptyArray {blanks : List Char} (h : Blanks blanks) :
      Spells (.value (.array [])) ('[' :: (blanks ++ [']']))
  | array {nodes : List Node} {cs : List Char} (h : Spells (.items nodes) cs) :
      Spells (.value (.array nodes)) ('[' :: (cs ++ [']']))
  | emptyObject {blanks : List Char} (h : Blanks blanks) :
      Spells (.value (.object [])) ('\x7b' :: (blanks ++ ['\x7d']))
  | object {members : List (Option String × Node)} {cs : List Char}
      (h : Spells (.members members) cs) :
      Spells (.value (.object members)) ('\x7b' :: (cs ++ ['\x7d']))
  | padded {node : Node} {before cs after : List Char} (hbefore : Blanks before)
      (h : Spells (.value node) cs) (hafter : Blanks after) :
      Spells (.padded node) (before ++ (cs ++ after))
  | member {name : Option String} {node : Node} {before inside after cs : List Char}
      (hbefore : Blanks before) (hname : StringSpelled name inside) (hafter : Blanks after)
      (h : Spells (.padded node) cs) :
      Spells (.member name node) (before ++ '"' :: (inside ++ '"' :: (after ++ ':' :: cs)))
  | lastItem {node : Node} {cs : List Char} (h : Spells (.padded node) cs) :
      Spells (.items [node]) cs
  | moreItems {node : Node} {nodes : List Node} {cs rest : List Char}
      (h : Spells (.padded node) cs) (hrest : Spells (.items nodes) rest) :
      Spells (.items (node :: nodes)) (cs ++ ',' :: rest)
  | lastMember {name : Option String} {node : Node} {cs : List Char}
      (h : Spells (.member name node) cs) : Spells (.members [(name, node)]) cs
  | moreMembers {name : Option String} {node : Node} {members : List (Option String × Node)}
      {cs rest : List Char} (h : Spells (.member name node) cs)
      (hrest : Spells (.members members) rest) :
      Spells (.members ((name, node) :: members)) (cs ++ ',' :: rest)

/-- Whether a text is a spelling of a document. -/
def Node.Spelled (node : Node) (text : String) : Prop := Spells (.padded node) text.toList

/-! ## Blanks -/

/-- No blank, and no bracket that closes an array. -/
def Opens (c : Char) : Prop := c ∉ [' ', '\n', '\t', '\r', ']']

instance : DecidablePred Opens := fun _ => inferInstanceAs (Decidable (_ ∉ _))

theorem opens_of_isDigit {c : Char} (h : c.isDigit = true) : Opens c := by
  intro hmem
  simp only [List.mem_cons, List.not_mem_nil, or_false] at hmem
  obtain rfl | rfl | rfl | rfl | rfl := hmem <;> exact absurd h (by decide)

theorem skipSpace_of_opens {c : Char} (h : Opens c) (rest : List Glyph) :
    skipSpace (some c :: rest) = some c :: rest := by
  simp only [Opens, List.mem_cons, List.not_mem_nil, or_false, not_or] at h
  rw [skipSpace] <;> simp [h]

theorem skipSpace_blanks {cs : List Char} (h : Blanks cs) (rest : List Glyph) :
    skipSpace (cs.map some ++ rest) = skipSpace rest := by
  induction cs with
  | nil => rfl
  | cons c cs ih =>
    obtain ⟨hc, hcs⟩ := List.forall_mem_cons.1 h
    rw [List.map_cons, List.cons_append, ← ih hcs]
    simp only [List.mem_cons, List.not_mem_nil, or_false] at hc
    obtain rfl | rfl | rfl | rfl := hc <;> rfl

theorem skipSpace_skipSpace (input : List Glyph) :
    skipSpace (skipSpace input) = skipSpace input := by
  fun_induction skipSpace input with
  | case5 input h₁ h₂ h₃ h₄ => rw [skipSpace] <;> assumption
  | _ rest ih => exact ih

theorem readNode_skipSpace (fuel : Nat) (input : List Glyph) :
    readNode fuel (skipSpace input) = readNode fuel input := by
  cases fuel with
  | zero => rw [readNode, readNode]
  | succ fuel => rw [readNode, readNode, skipSpace_skipSpace]

theorem readItems_skipSpace (fuel : Nat) (input : List Glyph) :
    readItems fuel (skipSpace input) = readItems fuel input := by
  cases fuel with
  | zero => rw [readItems, readItems]
  | succ fuel => rw [readItems, readItems, readNode_skipSpace]

theorem readMembers_skipSpace (fuel : Nat) (input : List Glyph) :
    readMembers fuel (skipSpace input) = readMembers fuel input := by
  cases fuel with
  | zero => rw [readMembers, readMembers]
  | succ fuel => rw [readMembers, readMembers, skipSpace_skipSpace]

/-! ## Strings -/

theorem readPieces_escaped {e c : Char} (h : escaped? e = some c) (rest : List Glyph) :
    readPieces (some '\\' :: some e :: rest) =
      (readPieces rest).map fun (pieces, rest) => (.char c :: pieces, rest) := by
  rw [readPieces]
  · rw [h]
    cases readPieces rest <;> rfl
  · rintro _ _ _ _ _ - rfl
    cases h

theorem readPieces_unit {a b c d : Char} {unit : Nat} (h : readHex? [a, b, c, d] = some unit)
    (rest : List Glyph) :
    readPieces (some '\\' :: some 'u' :: some a :: some b :: some c :: some d :: rest) =
      (readPieces rest).map fun (pieces, rest) => (.ofUnit unit :: pieces, rest) := by
  rw [readPieces, h]
  cases readPieces rest <;> rfl

theorem readPieces_plain {c : Char} (hquote : c ≠ '"') (hslash : c ≠ '\\') (h : ¬ c.toNat < 0x20)
    (rest : List Glyph) :
    readPieces (some c :: rest) =
      (readPieces rest).map fun (pieces, rest) => (.char c :: pieces, rest) := by
  rw [readPieces, if_neg (not_or.2 ⟨hslash, h⟩)]
  · cases readPieces rest <;> rfl
  · exact hquote
  · exact fun _ _ _ _ _ _ => hslash
  · exact fun _ _ _ => hslash

theorem readPieces_piece {piece : Piece} {cs : List Char} (h : piece.Spelled cs)
    (rest : List Glyph) :
    readPieces (cs.map some ++ rest) =
      (readPieces rest).map fun (pieces, rest) => (piece :: pieces, rest) := by
  cases h with
  | plain hquote hslash hcontrol => exact readPieces_plain hquote hslash hcontrol rest
  | escape he => exact readPieces_escaped he rest
  | unit hunit => exact readPieces_unit hunit rest

theorem readPieces_of_spelled {pieces : List Piece} {cs : List Char} (h : PiecesSpelled pieces cs)
    (rest : List Glyph) : readPieces (cs.map some ++ some '"' :: rest) = some (pieces, rest) := by
  induction h with
  | nil => rfl
  | cons hpiece _ ih =>
    rw [List.map_append, List.append_assoc, readPieces_piece hpiece, ih, Option.map_some]

theorem readString_of_spelled {s : Option String} {cs : List Char} (h : StringSpelled s cs)
    (rest : List Glyph) : readString (cs.map some ++ some '"' :: rest) = some (s, rest) := by
  obtain ⟨pieces, hpieces, rfl⟩ := h
  rw [readString, readPieces_of_spelled hpieces]
  rfl

/-! ## Numbers -/

/-- What may stand behind a value: nothing, or a mark of what the value is in. -/
def Behind (rest : List Glyph) : Prop :=
  rest = [] ∨ ∃ c tail, rest = some c :: tail ∧ (c = ',' ∨ c = ']' ∨ c = '\x7d')

/-- Whether an input has one of some characters at its head, or no character. -/
def StartsIn (cs : List Char) (input : List Glyph) : Prop :=
  ∀ c tail, input = some c :: tail → c ∈ cs

/-- What may stand behind a value. -/
def behindValue : List Char := [' ', '\n', '\t', '\r', ',', ']', '\x7d']

theorem startsIn_of_behind {rest : List Glyph} (h : Behind rest) {cs : List Char}
    (hcs : Blanks cs) : StartsIn behindValue (cs.map some ++ rest) := by
  intro c tail hhead
  cases cs with
  | nil =>
    obtain rfl | ⟨d, tail', rfl, hd⟩ := h
    · cases hhead
    · obtain ⟨rfl, -⟩ : d = c ∧ _ := by simpa using hhead
      obtain rfl | rfl | rfl := hd <;> decide
  | cons d cs =>
    obtain ⟨rfl, -⟩ : d = c ∧ _ := by simpa using hhead
    have hblank := hcs d List.mem_cons_self
    simp only [behindValue, List.mem_cons] at hblank ⊢
    tauto

theorem readDigits_of_startsIn {input : List Glyph}
    (h : StartsIn ('.' :: 'e' :: 'E' :: behindValue) input) : readDigits input = ([], input) := by
  unfold readDigits
  split
  · rename_i c rest
    have hall : ∀ c ∈ '.' :: 'e' :: 'E' :: behindValue, ¬ c.isDigit = true := by
      simp [behindValue]
    rw [if_neg (hall c (h c rest rfl))]
  · rfl

theorem readSomeDigits_of_digits {ds : List Char} (h : Digits ds) {rest : List Glyph}
    (hrest : StartsIn ('.' :: 'e' :: 'E' :: behindValue) rest) :
    readSomeDigits (ds.map some ++ rest) = some (ds, rest) := by
  have hread : ∀ {ds : List Char}, (∀ d ∈ ds, d.isDigit = true) →
      readDigits (ds.map some ++ rest) = (ds, rest) := by
    intro ds hds
    induction ds with
    | nil => exact readDigits_of_startsIn hrest
    | cons d ds ih =>
      obtain ⟨hd, hds⟩ := List.forall_mem_cons.1 hds
      rw [List.map_cons, List.cons_append, readDigits, if_pos hd, ih hds]
  obtain ⟨hne, hds⟩ := h
  rw [readSomeDigits, hread hds]
  cases ds with
  | nil => exact absurd rfl hne
  | cons d ds => rfl

theorem StartsIn.mono {cs cs' : List Char} {input : List Glyph} (h : StartsIn cs input)
    (hsub : cs ⊆ cs') : StartsIn cs' input :=
  fun c tail hhead => hsub (h c tail hhead)

variable {rest : List Glyph}

theorem startsIn_exponent {exponent : Option (Bool × List Char)} {es : List Char}
    (h : ExponentSpelled exponent es) (hrest : StartsIn behindValue rest) :
    StartsIn ('e' :: 'E' :: behindValue) (es.map some ++ rest) := by
  have hmarked : ∀ {mark : Char} {tail}, mark = 'e' ∨ mark = 'E' →
      StartsIn ('e' :: 'E' :: behindValue) (some mark :: tail) := by
    rintro mark tail hmark c tail' hhead
    obtain rfl : mark = c := by simpa using congrArg List.head? hhead
    obtain rfl | rfl := hmark <;> decide
  cases h with
  | none => exact hrest.mono (by decide)
  | plain hmark _ => exact hmarked hmark
  | plus hmark _ => exact hmarked hmark
  | minus hmark _ => exact hmarked hmark

theorem readExponent_of_spelled {exponent : Option (Bool × List Char)} {es : List Char}
    (h : ExponentSpelled exponent es) (hrest : StartsIn behindValue rest) :
    readExponent (es.map some ++ rest) = some (exponent, rest) := by
  have hdigits := fun {ds} (hds : Digits ds) =>
    readSomeDigits_of_digits hds (hrest.mono (by decide))
  cases h with
  | none =>
    unfold readExponent
    split
    · exact absurd (hrest 'e' _ ‹_›) (by decide)
    · exact absurd (hrest 'E' _ ‹_›) (by decide)
    · rfl
  | @plain mark ds hmark hds =>
    have hread := hdigits hds
    obtain ⟨hne, hall⟩ := hds
    cases ds with
    | nil => exact absurd rfl hne
    | cons d ds =>
      have hd := hall d List.mem_cons_self
      have hminus : d ≠ '-' := by
        rintro rfl
        exact absurd hd (by decide)
      have hplus : d ≠ '+' := by
        rintro rfl
        exact absurd hd (by decide)
      rw [List.map_cons, List.cons_append] at hread
      obtain rfl | rfl := hmark <;> simp [readExponent, hminus, hplus, hread]
  | plus hmark hds =>
    obtain rfl | rfl := hmark <;>
      simp [readExponent, hdigits hds]
  | minus hmark hds =>
    obtain rfl | rfl := hmark <;>
      simp [readExponent, hdigits hds]

theorem startsIn_fraction {fraction : Option (List Char)} {fs : List Char}
    (h : FractionSpelled fraction fs) (hrest : StartsIn ('e' :: 'E' :: behindValue) rest) :
    StartsIn ('.' :: 'e' :: 'E' :: behindValue) (fs.map some ++ rest) := by
  cases h with
  | none => exact hrest.mono (by decide)
  | some _ =>
    intro c tail hhead
    obtain rfl : '.' = c := by simpa using congrArg List.head? hhead
    decide

theorem readFraction_of_spelled {fraction : Option (List Char)} {fs : List Char}
    (h : FractionSpelled fraction fs) (hrest : StartsIn ('e' :: 'E' :: behindValue) rest) :
    readFraction (fs.map some ++ rest) = some (fraction, rest) := by
  cases h with
  | none =>
    unfold readFraction
    split
    · exact absurd (hrest '.' _ ‹_›) (by decide)
    · rfl
  | some hds =>
    have hdigits := readSomeDigits_of_digits hds (hrest.mono (by decide))
    simp [readFraction, hdigits]

theorem readNumber_of_spelled {n : Number} {cs : List Char} (h : n.Spelled cs)
    (hrest : StartsIn behindValue rest) : readNumber (cs.map some ++ rest) = some (n, rest) := by
  cases h with
  | @mk negative whole fraction exponent fs es hwhole hzero hfraction hexponent =>
    have hstart := startsIn_exponent hexponent hrest
    have hdigits := readSomeDigits_of_digits hwhole (startsIn_fraction hfraction hstart)
    have hbehind := readFraction_of_spelled hfraction hstart
    have hlast := readExponent_of_spelled hexponent hrest
    have hlone : ¬ (whole.head? = some '0' ∧ whole.length ≠ 1) := fun h => h.2 (hzero h.1)
    have hunsigned : ∀ tail, whole.map some ++ (fs.map some ++ (es.map some ++ rest)) ≠
        some '-' :: tail := by
      intro tail hhead
      cases whole with
      | nil => exact hwhole.1 rfl
      | cons d ds =>
        obtain ⟨rfl, -⟩ : d = '-' ∧ _ := by simpa using hhead
        exact absurd (hwhole.2 '-' List.mem_cons_self) (by decide)
    cases negative with
    | true => simp [readNumber, hdigits, hbehind, hlast, hlone]
    | false =>
      simp only [List.map_append, List.append_assoc, Bool.false_eq_true, if_false, List.nil_append]
      rw [readNumber]
      · simp [hdigits, hbehind, hlast, hlone]
      · exact hunsigned

theorem opens_of_number {n : Number} {cs : List Char} (h : n.Spelled cs) :
    ∃ c tail, cs = c :: tail ∧ (c = '-' ∨ c.isDigit = true) := by
  cases h with
  | @mk negative whole fraction exponent fs es hwhole hzero hfraction hexponent =>
    cases negative with
    | true => exact ⟨'-', _, rfl, .inl rfl⟩
    | false =>
      cases whole with
      | nil => exact absurd rfl hwhole.1
      | cons d ds => exact ⟨d, _, rfl, .inr (hwhole.2 d List.mem_cons_self)⟩

theorem readNode_of_isDigit {c : Char} (h : c.isDigit = true) (fuel : Nat) (rest : List Glyph) :
    readNode (fuel + 1) (some c :: rest) =
      (readNumber (some c :: rest)).map fun (value, rest) => (.number value, rest) := by
  rw [readNode, skipSpace_of_opens (opens_of_isDigit h)]
  split
  case h_7 => rfl
  all_goals
    rename_i heq
    cases heq
    exact absurd h (by decide)

theorem readNode_of_number {n : Number} {cs : List Char} (h : n.Spelled cs) (fuel : Nat)
    (hrest : StartsIn behindValue rest) :
    readNode (fuel + 1) (cs.map some ++ rest) = some (.number n, rest) := by
  have hread := readNumber_of_spelled h hrest
  obtain ⟨c, tail, rfl, rfl | hdigit⟩ := opens_of_number h
  · rw [List.map_cons, List.cons_append] at hread ⊢
    rw [readNode, skipSpace_of_opens (by decide)]
    exact congrArg (Option.map fun (value, rest) => (Node.number value, rest)) hread
  · rw [List.map_cons, List.cons_append] at hread ⊢
    rw [readNode_of_isDigit hdigit, hread, Option.map_some]

/-! ## Heads -/

/-- What a spelling begins with, so that the readers know what to read. -/
def Phrase.Begins : Phrase → List Char → Prop
  | .value _, cs => ∃ c tail, cs = c :: tail ∧ Opens c
  | .padded _, cs | .items _, cs =>
    ∀ rest, ∃ c tail, skipSpace (cs.map some ++ rest) = some c :: tail ∧ Opens c
  | .member _ _, cs | .members _, cs =>
    ∀ rest, ∃ tail, skipSpace (cs.map some ++ rest) = some '"' :: tail

theorem begins_of_spells {p : Phrase} {cs : List Char} (h : Spells p cs) : p.Begins cs := by
  induction h with
  | number hn =>
    obtain ⟨c, tail, hcs, rfl | hdigit⟩ := opens_of_number hn
    · exact ⟨'-', tail, hcs, by decide⟩
    · exact ⟨c, tail, hcs, opens_of_isDigit hdigit⟩
  | @padded node before cs after hbefore _ _ ih =>
    intro rest
    obtain ⟨c, tail, rfl, hopens⟩ := ih
    rw [List.map_append, List.append_assoc, skipSpace_blanks hbefore]
    exact ⟨c, _, skipSpace_of_opens hopens _, hopens⟩
  | member hbefore _ _ _ _ =>
    intro rest
    rw [List.map_append, List.append_assoc, skipSpace_blanks hbefore]
    exact ⟨_, rfl⟩
  | lastItem _ ih => exact ih
  | lastMember _ ih => exact ih
  | moreItems _ _ ih _ =>
    intro rest
    rw [List.map_append, List.append_assoc]
    exact ih _
  | moreMembers _ _ ih _ =>
    intro rest
    rw [List.map_append, List.append_assoc]
    exact ih _
  | _ => exact ⟨_, _, rfl, by decide⟩

/-! ## Documents -/

/-- What the readers make of a spelling, given fuel enough for its length. -/
def Phrase.Reads : Phrase → List Char → Prop
  | .value node, cs => ∀ fuel rest, cs.length ≤ fuel → StartsIn behindValue rest →
    readNode fuel (cs.map some ++ rest) = some (node, rest)
  -- the reader of a value leaves the blanks behind it
  | .padded node, cs => ∀ fuel rest, cs.length ≤ fuel → Behind rest →
    ∃ rest', readNode fuel (cs.map some ++ rest) = some (node, rest') ∧
      skipSpace rest' = skipSpace rest
  | .member name node, cs => ∀ fuel rest, cs.length ≤ fuel →
    readMembers (fuel + 1) (cs.map some ++ some '\x7d' :: rest) = some ([(name, node)], rest) ∧
    readMembers (fuel + 1) (cs.map some ++ some ',' :: rest) =
      (readMembers fuel rest).map fun (others, rest) => ((name, node) :: others, rest)
  | .items nodes, cs => ∀ fuel rest, cs.length < fuel →
    readItems fuel (cs.map some ++ some ']' :: rest) = some (nodes, rest)
  | .members all, cs => ∀ fuel rest, cs.length < fuel →
    readMembers fuel (cs.map some ++ some '\x7d' :: rest) = some (all, rest)

theorem reads_value {node : Node} {cs : List Char} (hne : cs ≠ [])
    (h : ∀ fuel rest, cs.length ≤ fuel + 1 → StartsIn behindValue rest →
      readNode (fuel + 1) (cs.map some ++ rest) = some (node, rest)) :
    (Phrase.value node).Reads cs := by
  intro fuel rest hfuel hrest
  cases fuel with
  | zero => exact absurd (List.length_eq_zero_iff.1 (Nat.le_zero.1 hfuel)) hne
  | succ fuel => exact h fuel rest hfuel hrest

theorem readNode_blankArray {blanks : List Char} (h : Blanks blanks) (fuel : Nat)
    (rest : List Glyph) :
    readNode (fuel + 1) (some '[' :: (blanks.map some ++ some ']' :: rest)) =
      some (.array [], rest) := by
  have hskip : skipSpace (blanks.map some ++ some ']' :: rest) = some ']' :: rest :=
    (skipSpace_blanks h _).trans rfl
  rw [readNode, skipSpace_of_opens (by decide)]
  simp only [hskip]

theorem readNode_blankObject {blanks : List Char} (h : Blanks blanks) (fuel : Nat)
    (rest : List Glyph) :
    readNode (fuel + 1) (some '\x7b' :: (blanks.map some ++ some '\x7d' :: rest)) =
      some (.object [], rest) := by
  have hskip : skipSpace (blanks.map some ++ some '\x7d' :: rest) = some '\x7d' :: rest :=
    (skipSpace_blanks h _).trans rfl
  rw [readNode, skipSpace_of_opens (by decide)]
  simp only [hskip]

/-- An array that has items is read by its items. -/
theorem readNode_fullArray {input : List Glyph}
    (h : ∃ c tail, skipSpace input = some c :: tail ∧ Opens c) (fuel : Nat) :
    readNode (fuel + 1) (some '[' :: input) =
      (readItems fuel input).map fun (items, rest) => (.array items, rest) := by
  obtain ⟨c, tail, hskip, hopens⟩ := h
  rw [← readItems_skipSpace, hskip, readNode, skipSpace_of_opens (by decide)]
  simp only [hskip]
  split
  · rename_i heq
    cases heq
    exact absurd hopens (by decide)
  · rfl

theorem readNode_fullObject {input : List Glyph} (h : ∃ tail, skipSpace input = some '"' :: tail)
    (fuel : Nat) :
    readNode (fuel + 1) (some '\x7b' :: input) =
      (readMembers fuel input).map fun (members, rest) => (.object members, rest) := by
  obtain ⟨tail, hskip⟩ := h
  rw [← readMembers_skipSpace, hskip, readNode, skipSpace_of_opens (by decide)]
  simp only [hskip]
  rfl

theorem reads_member {name : Option String} {node : Node} {before inside after cs : List Char}
    (hbefore : Blanks before) (hname : StringSpelled name inside) (hafter : Blanks after)
    (h : (Phrase.padded node).Reads cs) :
    (Phrase.member name node).Reads
      (before ++ '"' :: (inside ++ '"' :: (after ++ ':' :: cs))) := by
  intro fuel rest hfuel
  simp only [List.length_append, List.length_cons] at hfuel
  have hopen : ∀ tail, readMembers (fuel + 1)
      ((before ++ '"' :: (inside ++ '"' :: (after ++ ':' :: cs))).map some ++ tail) =
        readMembers (fuel + 1) (some '"' :: (inside.map some ++ some '"' ::
          (after.map some ++ some ':' :: (cs.map some ++ tail)))) := by
    intro tail
    rw [← readMembers_skipSpace]
    simp only [List.map_append, List.map_cons, List.append_assoc, List.cons_append]
    rw [skipSpace_blanks hbefore, readMembers_skipSpace]
  have hcolon : ∀ tail, skipSpace (after.map some ++ some ':' :: tail) = some ':' :: tail :=
    fun tail => (skipSpace_blanks hafter _).trans rfl
  have hread : ∀ tail, Behind tail → ∃ tail', skipSpace tail' = skipSpace tail ∧
      readNode fuel (cs.map some ++ tail) = some (node, tail') := by
    intro tail htail
    obtain ⟨tail', hnode, hskip⟩ := h fuel tail (by omega) htail
    exact ⟨tail', hskip, hnode⟩
  constructor
  · obtain ⟨tail', hskip, hnode⟩ := hread (some '\x7d' :: rest) (.inr ⟨_, _, rfl, .inr (.inr rfl)⟩)
    have hmark : skipSpace tail' = some '\x7d' :: rest := hskip.trans rfl
    rw [hopen, readMembers, skipSpace_of_opens (by decide)]
    simp only [readString_of_spelled hname, hcolon, hnode, hmark]
  · obtain ⟨tail', hskip, hnode⟩ := hread (some ',' :: rest) (.inr ⟨_, _, rfl, .inl rfl⟩)
    have hmark : skipSpace tail' = some ',' :: rest := hskip.trans rfl
    rw [hopen, readMembers, skipSpace_of_opens (by decide)]
    simp only [readString_of_spelled hname, hcolon, hnode, hmark]

/-- **What is spelled by the grammar is read.** -/
theorem reads_of_spells {p : Phrase} {cs : List Char} (h : Spells p cs) : p.Reads cs := by
  -- By induction on the rules. Each mark that a rule puts down pays for one unit of fuel.
  induction h with
  | null => exact reads_value (by decide) fun fuel rest _ _ => rfl
  | yes => exact reads_value (by decide) fun fuel rest _ _ => rfl
  | no => exact reads_value (by decide) fun fuel rest _ _ => rfl
  | number hn =>
    obtain ⟨c, tail, rfl, -⟩ := opens_of_number hn
    exact reads_value (by simp) fun fuel rest _ hrest => readNode_of_number hn fuel hrest
  | @text s cs hs =>
    refine reads_value (by simp) fun fuel rest _ _ => ?_
    have hread := readString_of_spelled hs rest
    simp only [List.map_cons, List.map_append, List.map_nil, List.cons_append, List.append_assoc,
      List.nil_append]
    rw [readNode, skipSpace_of_opens (by decide)]
    simp only [hread, Option.map_some]
  | emptyArray hblanks =>
    refine reads_value (by simp) fun fuel rest _ _ => ?_
    simpa using readNode_blankArray hblanks fuel rest
  | array hitems ih =>
    refine reads_value (by simp) fun fuel rest hfuel _ => ?_
    simp only [List.length_cons, List.length_append] at hfuel
    have hread := ih fuel rest (by omega)
    simp only [List.map_cons, List.map_append, List.map_nil, List.cons_append, List.append_assoc,
      List.nil_append]
    rw [readNode_fullArray (begins_of_spells hitems _), hread, Option.map_some]
  | emptyObject hblanks =>
    refine reads_value (by simp) fun fuel rest _ _ => ?_
    simpa using readNode_blankObject hblanks fuel rest
  | object hmembers ih =>
    refine reads_value (by simp) fun fuel rest hfuel _ => ?_
    simp only [List.length_cons, List.length_append] at hfuel
    have hread := ih fuel rest (by omega)
    simp only [List.map_cons, List.map_append, List.map_nil, List.cons_append, List.append_assoc,
      List.nil_append]
    rw [readNode_fullObject (begins_of_spells hmembers _), hread, Option.map_some]
  | @padded node before cs after hbefore _ hafter ih =>
    -- The value ends where the blanks behind it begin, and they are left for the next reader.
    intro fuel rest hfuel hrest
    simp only [List.length_append] at hfuel
    refine ⟨after.map some ++ rest, ?_, skipSpace_blanks hafter rest⟩
    rw [← readNode_skipSpace, List.map_append, List.map_append, List.append_assoc,
      List.append_assoc, skipSpace_blanks hbefore, readNode_skipSpace]
    exact ih fuel _ (by omega) (startsIn_of_behind hrest hafter)
  | member hbefore hname hafter _ ih => exact reads_member hbefore hname hafter ih
  | @lastItem node cs _ ih =>
    intro fuel rest hfuel
    obtain ⟨fuel, rfl⟩ := Nat.exists_eq_add_of_le' (Nat.zero_lt_of_lt hfuel)
    obtain ⟨rest', hread, hskip⟩ :=
      ih fuel (some ']' :: rest) (by omega) (.inr ⟨_, _, rfl, .inr (.inl rfl)⟩)
    have hmark : skipSpace rest' = some ']' :: rest := hskip.trans rfl
    rw [readItems]
    simp only [hread, hmark]
  | @moreItems node nodes cs tail _ _ ih ihrest =>
    intro fuel rest hfuel
    simp only [List.length_append, List.length_cons] at hfuel
    obtain ⟨fuel, rfl⟩ := Nat.exists_eq_add_of_le' (Nat.zero_lt_of_lt hfuel)
    rw [List.map_append, List.append_assoc, List.map_cons, List.cons_append]
    obtain ⟨rest', hread, hskip⟩ :=
      ih fuel (some ',' :: (tail.map some ++ some ']' :: rest)) (by omega)
        (.inr ⟨_, _, rfl, .inl rfl⟩)
    have hmark : skipSpace rest' = some ',' :: (tail.map some ++ some ']' :: rest) :=
      hskip.trans rfl
    have hnext := ihrest fuel rest (by omega)
    rw [readItems]
    simp only [hread, hmark, hnext, Option.map_some]
  | lastMember _ ih =>
    intro fuel rest hfuel
    obtain ⟨fuel, rfl⟩ := Nat.exists_eq_add_of_le' (Nat.zero_lt_of_lt hfuel)
    exact (ih fuel rest (by omega)).1
  | @moreMembers name node members cs tail _ _ ih ihrest =>
    intro fuel rest hfuel
    simp only [List.length_append, List.length_cons] at hfuel
    obtain ⟨fuel, rfl⟩ := Nat.exists_eq_add_of_le' (Nat.zero_lt_of_lt hfuel)
    have hnext := ihrest fuel rest (by omega)
    rw [List.map_append, List.append_assoc, List.map_cons, List.cons_append,
      (ih fuel _ (by omega)).2, hnext, Option.map_some]

theorem fromUTF8?_toUTF8 (s : String) : String.fromUTF8? s.toUTF8 = some s :=
  dif_pos s.isValidUTF8

theorem glyphs_toUTF8 (s : String) : glyphs s.toUTF8 = s.toList.map some := by
  rw [glyphs, fromUTF8?_toUTF8]

/-- **A text is read as the document that it is a spelling of.** -/
theorem Node.ofBytes?_of_spelled {node : Node} {text : String} (h : node.Spelled text) :
    Node.ofBytes? text.toUTF8 = some node := by
  have hfuel : text.toList.length ≤ 2 * (text.toList.map some).length + 2 := by
    rw [List.length_map]
    omega
  obtain ⟨rest, hread, hskip⟩ := reads_of_spells h _ [] hfuel (.inl rfl)
  have hnothing : skipSpace rest = [] := hskip.trans rfl
  rw [List.append_nil] at hread
  rw [Node.ofBytes?, glyphs_toUTF8, Node.ofGlyphs?, hread]
  simp [hnothing]

end AcctAdmin.Json
