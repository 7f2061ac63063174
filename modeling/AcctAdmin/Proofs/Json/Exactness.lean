import AcctAdmin.Proofs.Json.Spelling

/-!
# Nothing else is read

What is read as a document was spelled as one (`Node.ofBytes?_eq_some_iff`): the readers accept the
grammar and no more. Each rule of a reader is followed back to the rule of the grammar that it takes
apart. Bytes that are no character may stand behind the text, where a text was cut off in the middle
of one; no reader gets past them.
-/

set_option autoImplicit false

namespace AcctAdmin.Json

open AcctAdmin.Text

/-! ## What is left -/

/-- Bytes that belong to no character. -/
def Strays (behind : List Glyph) : Prop := ∀ g ∈ behind, g = none

/-- Of a text with something behind it, the first part was used up and the rest is left, with what
is behind. -/
def Leaves (behind : List Glyph) (cs used : List Char) (rest : List Glyph) : Prop :=
  ∃ left, cs = used ++ left ∧ rest = left.map some ++ behind

section

variable {behind rest tail next : List Glyph} {cs used more : List Char} {c : Char}

theorem Leaves.append (h : Leaves behind cs used rest)
    (hmore : ∀ left, rest = left.map some ++ behind → Leaves behind left more next) :
    Leaves behind cs (used ++ more) next := by
  obtain ⟨left, rfl, hrest⟩ := h
  obtain ⟨left', rfl, hnext⟩ := hmore left hrest
  exact ⟨left', (List.append_assoc ..).symm, hnext⟩

/-- Characters at the head are the first of the text. -/
theorem Strays.leaves (h : Strays behind)
    (heq : cs.map some ++ behind = used.map some ++ tail) : Leaves behind cs used tail := by
  induction used generalizing cs with
  | nil => exact ⟨cs, rfl, heq.symm⟩
  | cons c used ih =>
    cases cs with
    | nil =>
      have hmem : some c ∈ behind := by
        rw [List.map_nil, List.nil_append] at heq
        rw [heq]
        exact List.mem_cons_self
      cases h _ hmem
    | cons d cs =>
      obtain ⟨rfl, htail⟩ : d = c ∧ cs.map some ++ behind = used.map some ++ tail := by
        simpa using heq
      obtain ⟨left, rfl, hleft⟩ := ih htail
      exact ⟨left, rfl, hleft⟩

theorem Strays.leaves_cons (h : Strays behind) (heq : cs.map some ++ behind = some c :: tail) :
    Leaves behind cs [c] tail := h.leaves heq

/-- Where there is no character the text has come to its end. -/
theorem Strays.eq_nil (h : Strays behind) (heq : cs.map some ++ behind = none :: tail) :
    cs = [] ∧ Strays tail := by
  cases cs with
  | nil =>
    rw [List.map_nil, List.nil_append] at heq
    exact ⟨rfl, fun g hg => h g (heq ▸ List.mem_cons_of_mem _ hg)⟩
  | cons d cs => simp at heq

theorem Strays.leaves_skipSpace (h : Strays behind) (cs : List Char) :
    ∃ blanks, Blanks blanks ∧ Leaves behind cs blanks (skipSpace (cs.map some ++ behind)) := by
  induction cs with
  | nil =>
    refine ⟨[], nofun, [], rfl, ?_⟩
    cases behind with
    | nil => rfl
    | cons g behind =>
      obtain rfl := h g List.mem_cons_self
      rfl
  | cons c cs ih =>
    by_cases hblank : c ∈ [' ', '\n', '\t', '\r']
    · obtain ⟨blanks, hblanks, left, rfl, hrest⟩ := ih
      have hskip : skipSpace ((c :: (blanks ++ left)).map some ++ behind) =
          skipSpace ((blanks ++ left).map some ++ behind) := by
        simp only [List.mem_cons, List.not_mem_nil, or_false] at hblank
        obtain rfl | rfl | rfl | rfl := hblank <;> rfl
      exact ⟨c :: blanks, List.forall_mem_cons.2 ⟨hblank, hblanks⟩, left, rfl, hskip.trans hrest⟩
    · refine ⟨[], nofun, c :: cs, rfl, ?_⟩
      simp only [List.mem_cons, List.not_mem_nil, or_false, not_or] at hblank
      rw [List.map_cons, List.cons_append, skipSpace] <;> simp [hblank]

/-! ## Strings -/

theorem Strays.readPieces (h : Strays behind) : readPieces behind = none := by
  induction behind with
  | nil => rfl
  | cons g behind ih =>
    obtain ⟨rfl, hbehind⟩ := List.forall_mem_cons.1 h
    rw [Json.readPieces, ih hbehind]
    rfl

/-- What is made of a text behind one piece of a string, and what of the piece. -/
theorem Leaves.pieces {piece : Piece} {pieces : List Piece} (h : Leaves behind cs used tail)
    (hpiece : piece.Spelled used)
    (hpieces : ∀ {left : List Char}, left.map some ++ behind = tail →
      ∃ inside, Leaves behind left (inside ++ ['"']) rest ∧ PiecesSpelled pieces inside) :
    ∃ inside, Leaves behind cs (inside ++ ['"']) rest ∧ PiecesSpelled (piece :: pieces) inside := by
  obtain ⟨left, rfl, rfl⟩ := h
  obtain ⟨inside, ⟨left', rfl, hrest⟩, hspelled⟩ := hpieces rfl
  refine ⟨used ++ inside, ⟨left', ?_, hrest⟩, .cons hpiece hspelled⟩
  simp only [List.append_assoc]

theorem Strays.spelled_pieces (h : Strays behind) {pieces : List Piece}
    (hread : Json.readPieces (cs.map some ++ behind) = some (pieces, rest)) :
    ∃ inside, Leaves behind cs (inside ++ ['"']) rest ∧ PiecesSpelled pieces inside := by
  generalize hinput : cs.map some ++ behind = input at hread
  fun_induction Json.readPieces input generalizing cs pieces rest with
  | case1 => cases hread
  | case2 tail =>
    obtain ⟨rfl, rfl⟩ : [] = pieces ∧ tail = rest := by simpa using hread
    exact ⟨[], h.leaves hinput, .nil⟩
  | case3 a b c d tail ih =>
    simp only [Option.bind_eq_bind, Option.bind_eq_some_iff] at hread
    obtain ⟨unit, hunit, ⟨pieces, rest⟩, hread, heq⟩ := hread
    cases heq
    have hleaves : Leaves behind cs ['\\', 'u', a, b, c, d] tail := h.leaves hinput
    exact hleaves.pieces (.unit hunit) fun hleft => ih hleft hread
  | case4 e tail hother ih =>
    simp only [Option.bind_eq_bind, Option.bind_eq_some_iff] at hread
    obtain ⟨c, hescaped, ⟨pieces, rest⟩, hread, heq⟩ := hread
    cases heq
    have hleaves : Leaves behind cs ['\\', e] tail := h.leaves hinput
    exact hleaves.pieces (.escape hescaped) fun hleft => ih hleft hread
  | case5 => cases hread
  | case6 c tail hquote _ _ _ hplain =>
    rename_i ih
    have hread : (Json.readPieces tail).bind (fun more => some (.char c :: more.1, more.2)) =
        some (pieces, rest) := hread
    obtain ⟨⟨more, left⟩, hmore, heq⟩ := Option.bind_eq_some_iff.1 hread
    cases heq
    obtain ⟨hslash, hcontrol⟩ := not_or.1 hplain
    have hleaves : Leaves behind cs [c] tail := h.leaves_cons hinput
    exact hleaves.pieces (.plain hquote hslash hcontrol) fun hleft => ih hleft hmore
  | case7 tail ih =>
    obtain ⟨rfl, htail⟩ := h.eq_nil hinput
    rw [htail.readPieces] at hread
    cases hread

theorem Strays.spelled_string (h : Strays behind) {s : Option String}
    (hread : readString (cs.map some ++ behind) = some (s, rest)) :
    ∃ inside, Leaves behind cs (inside ++ ['"']) rest ∧ StringSpelled s inside := by
  rw [readString] at hread
  simp only [Option.bind_eq_bind, Option.bind_eq_some_iff] at hread
  obtain ⟨⟨pieces, rest⟩, hread, heq⟩ := hread
  cases heq
  obtain ⟨inside, hleaves, hspelled⟩ := h.spelled_pieces hread
  exact ⟨inside, hleaves, pieces, hspelled, rfl⟩

/-! ## Numbers -/

theorem Strays.leaves_digits (h : Strays behind) {ds : List Char}
    (hread : readDigits (cs.map some ++ behind) = (ds, rest)) :
    Leaves behind cs ds rest ∧ ∀ d ∈ ds, d.isDigit = true := by
  induction cs generalizing ds with
  | nil =>
    have hnone : readDigits behind = ([], behind) := by
      cases behind with
      | nil => rfl
      | cons g behind =>
        obtain rfl := h g List.mem_cons_self
        rfl
    obtain ⟨rfl, rfl⟩ : [] = ds ∧ behind = rest := by simpa [hnone] using hread
    exact ⟨⟨[], rfl, rfl⟩, nofun⟩
  | cons c cs ih =>
    rw [List.map_cons, List.cons_append, readDigits] at hread
    split at hread
    · rename_i hdigit
      obtain ⟨ds', rest', hmore⟩ : ∃ ds' rest', readDigits (cs.map some ++ behind) = (ds', rest') :=
        ⟨_, _, rfl⟩
      obtain ⟨rfl, rfl⟩ : c :: ds' = ds ∧ rest' = rest := by simpa [hmore] using hread
      obtain ⟨⟨left, rfl, hrest⟩, hall⟩ := ih hmore
      exact ⟨⟨left, rfl, hrest⟩, List.forall_mem_cons.2 ⟨hdigit, hall⟩⟩
    · obtain ⟨rfl, rfl⟩ : [] = ds ∧ _ = rest := by simpa using hread
      exact ⟨⟨c :: cs, rfl, rfl⟩, nofun⟩

theorem Strays.leaves_someDigits (h : Strays behind) {ds : List Char}
    (hread : readSomeDigits (cs.map some ++ behind) = some (ds, rest)) :
    Leaves behind cs ds rest ∧ Digits ds := by
  unfold readSomeDigits at hread
  split at hread
  · cases hread
  · rename_i ds' rest' hne hdigits
    obtain ⟨rfl, rfl⟩ : ds' = ds ∧ rest' = rest := by simpa using hread
    obtain ⟨hleaves, hall⟩ := h.leaves_digits hdigits
    exact ⟨hleaves, hne, hall⟩

theorem Strays.leaves_fraction (h : Strays behind) {fraction : Option (List Char)}
    (hread : readFraction (cs.map some ++ behind) = some (fraction, rest)) :
    ∃ fs, Leaves behind cs fs rest ∧ FractionSpelled fraction fs := by
  unfold readFraction at hread
  split at hread
  · rename_i tail heq
    obtain ⟨⟨ds, rest⟩, hdigits, hsome⟩ := Option.map_eq_some_iff.1 hread
    cases hsome
    obtain ⟨left, rfl, rfl⟩ := h.leaves_cons heq
    obtain ⟨⟨left, rfl, hrest⟩, hds⟩ := h.leaves_someDigits hdigits
    exact ⟨'.' :: ds, ⟨left, rfl, hrest⟩, .some hds⟩
  · cases hread
    exact ⟨[], ⟨cs, rfl, rfl⟩, .none⟩

theorem Strays.leaves_exponent (h : Strays behind) {exponent : Option (Bool × List Char)}
    (hread : readExponent (cs.map some ++ behind) = some (exponent, rest)) :
    ∃ es, Leaves behind cs es rest ∧ ExponentSpelled exponent es := by
  unfold readExponent at hread
  split at hread
  case h_3 =>
    cases hread
    exact ⟨[], ⟨cs, rfl, rfl⟩, .none⟩
  -- the two marks of an exponent
  all_goals
    rename_i tail heq
    obtain ⟨left, rfl, rfl⟩ := h.leaves_cons heq
    split at hread
    all_goals
      obtain ⟨⟨ds, rest⟩, hdigits, hsome⟩ := Option.map_eq_some_iff.1 hread
      cases hsome
    · rename_i heq
      obtain ⟨left, rfl, rfl⟩ := h.leaves_cons heq
      obtain ⟨⟨left, rfl, hrest⟩, hds⟩ := h.leaves_someDigits hdigits
      exact ⟨_ :: '-' :: ds, ⟨left, rfl, hrest⟩, .minus (by decide) hds⟩
    · rename_i heq
      obtain ⟨left, rfl, rfl⟩ := h.leaves_cons heq
      obtain ⟨⟨left, rfl, hrest⟩, hds⟩ := h.leaves_someDigits hdigits
      exact ⟨_ :: '+' :: ds, ⟨left, rfl, hrest⟩, .plus (by decide) hds⟩
    · obtain ⟨⟨left, rfl, hrest⟩, hds⟩ := h.leaves_someDigits hdigits
      exact ⟨_ :: ds, ⟨left, rfl, hrest⟩, .plain (by decide) hds⟩

/-- A number is read part by part. -/
theorem readNumber_eq_some {input : List Glyph} {n : Number}
    (hread : readNumber input = some (n, rest)) :
    ∃ unsigned fractional exponential,
      input = (if n.negative then ['-'] else []).map some ++ unsigned ∧
      readSomeDigits unsigned = some (n.whole, fractional) ∧
      (n.whole.head? = some '0' → n.whole.length = 1) ∧
      readFraction fractional = some (n.fraction, exponential) ∧
      readExponent exponential = some (n.exponent, rest) := by
  obtain ⟨negative, unsigned, hsign, hread⟩ : ∃ negative unsigned,
      input = (if negative then ['-'] else []).map some ++ unsigned ∧
      ((readSomeDigits unsigned).bind fun whole =>
        if whole.1.head? = some '0' ∧ whole.1.length ≠ 1 then none
        else (readFraction whole.2).bind fun fraction =>
          (readExponent fraction.2).bind fun exponent =>
            some (⟨negative, whole.1, fraction.1, exponent.1⟩, exponent.2)) = some (n, rest) := by
    unfold readNumber at hread
    split at hread
    rename_i negative unsigned hsign
    refine ⟨negative, unsigned, ?_, ?_⟩
    · split at hsign <;> cases hsign <;> rfl
    · exact hread
  obtain ⟨⟨whole, fractional⟩, hwhole, hread⟩ := Option.bind_eq_some_iff.1 hread
  dsimp only at hread
  split at hread
  · cases hread
  rename_i hlone
  obtain ⟨⟨fraction, exponential⟩, hfraction, hread⟩ := Option.bind_eq_some_iff.1 hread
  obtain ⟨⟨exponent, rest⟩, hexponent, hread⟩ := Option.bind_eq_some_iff.1 hread
  cases hread
  exact ⟨unsigned, fractional, exponential, hsign, hwhole,
    fun hzero => not_not.1 fun hmore => hlone ⟨hzero, hmore⟩, hfraction, hexponent⟩

theorem Strays.leaves_number (h : Strays behind) {n : Number}
    (hread : readNumber (cs.map some ++ behind) = some (n, rest)) :
    ∃ used, Leaves behind cs used rest ∧ n.Spelled used := by
  obtain ⟨unsigned, fractional, exponential, hsign, hwhole, hzero, hfraction, hexponent⟩ :=
    readNumber_eq_some hread
  obtain ⟨left, hleft, rfl⟩ := h.leaves hsign
  obtain ⟨⟨left, rfl, rfl⟩, hdigits⟩ := h.leaves_someDigits hwhole
  obtain ⟨fs, ⟨left, rfl, rfl⟩, hfs⟩ := h.leaves_fraction hfraction
  obtain ⟨es, ⟨left, rfl, hrest⟩, hes⟩ := h.leaves_exponent hexponent
  refine ⟨_, ⟨left, ?_, hrest⟩, .mk hdigits hzero hfs hes⟩
  rw [hleft]
  simp only [List.append_assoc]

/-! ## Values -/

theorem Strays.leaves_word (h : Strays behind) {word : List Char}
    (hread : readWord word (cs.map some ++ behind) = some rest) : Leaves behind cs word rest := by
  induction word generalizing cs with
  | nil =>
    cases hread
    exact ⟨cs, rfl, rfl⟩
  | cons c word ih =>
    generalize hinput : cs.map some ++ behind = input at hread
    unfold readWord at hread
    split at hread
    · rename_i heq
      cases heq
    · rename_i heq
      cases heq
      split at hread
      · rename_i heq
        subst heq
        obtain ⟨left, rfl, rfl⟩ := h.leaves_cons hinput
        obtain ⟨left, rfl, hrest⟩ := ih hread
        exact ⟨left, rfl, hrest⟩
      · cases hread
    · cases hread

/-- Behind blanks the first mark is one of the text. -/
theorem Strays.leaves_mark (h : Strays behind)
    (heq : skipSpace (cs.map some ++ behind) = some c :: tail) :
    ∃ blanks, Blanks blanks ∧ Leaves behind cs (blanks ++ [c]) tail := by
  obtain ⟨blanks, hblanks, hleaves⟩ := h.leaves_skipSpace cs
  exact ⟨blanks, hblanks, hleaves.append fun left hleft => h.leaves (hleft ▸ heq)⟩

/-- What was found to be a value was spelled as one, behind blanks. -/
def FindsValue (behind : List Glyph) (cs : List Char) (node : Node) (rest : List Glyph) : Prop :=
  ∃ blanks used, Blanks blanks ∧ Spells (.value node) used ∧ Leaves behind cs (blanks ++ used) rest

/-- What the readers find, given so much fuel, was spelled as it has to be. -/
structure Faithful (behind : List Glyph) (fuel : Nat) : Prop where
  node : ∀ {cs node rest}, readNode fuel (cs.map some ++ behind) = some (node, rest) →
    FindsValue behind cs node rest
  items : ∀ {cs nodes rest}, readItems fuel (cs.map some ++ behind) = some (nodes, rest) →
    ∃ used, Spells (.items nodes) used ∧ Leaves behind cs (used ++ [']']) rest
  members : ∀ {cs members rest},
    readMembers fuel (cs.map some ++ behind) = some (members, rest) →
      ∃ used, Spells (.members members) used ∧ Leaves behind cs (used ++ ['\x7d']) rest

/-- A value is known by its first mark. -/
theorem Strays.findsValue (h : Strays behind) {node : Node}
    (heq : skipSpace (cs.map some ++ behind) = some c :: tail)
    (hvalue : ∀ {left}, tail = left.map some ++ behind →
      ∃ used, Spells (.value node) (c :: used) ∧ Leaves behind left used rest) :
    FindsValue behind cs node rest := by
  obtain ⟨blanks, hblanks, left, rfl, rfl⟩ := h.leaves_mark heq
  obtain ⟨used, hspells, left', rfl, hrest⟩ := hvalue rfl
  exact ⟨blanks, c :: used, hblanks, hspells, left', by simp, hrest⟩

variable {fuel : Nat}

theorem Faithful.array (hfuel : Faithful behind fuel) (h : Strays behind) {node : Node}
    (hread : (match skipSpace (cs.map some ++ behind) with
      | some ']' :: rest => some (.array [], rest)
      | rest => (readItems fuel rest).map fun (items, rest) => (.array items, rest)) =
        some (node, rest)) :
    ∃ used, Spells (.value node) ('[' :: used) ∧ Leaves behind cs used rest := by
  split at hread
  · rename_i heq
    cases hread
    obtain ⟨blanks, hblanks, hleaves⟩ := h.leaves_mark heq
    exact ⟨_, .emptyArray hblanks, hleaves⟩
  · obtain ⟨⟨items, rest⟩, hitems, hsome⟩ := Option.map_eq_some_iff.1 hread
    cases hsome
    rw [readItems_skipSpace] at hitems
    obtain ⟨used, hspells, hleaves⟩ := hfuel.items hitems
    exact ⟨_, .array hspells, hleaves⟩

theorem Faithful.object (hfuel : Faithful behind fuel) (h : Strays behind) {node : Node}
    (hread : (match skipSpace (cs.map some ++ behind) with
      | some '\x7d' :: rest => some (.object [], rest)
      | rest => (readMembers fuel rest).map fun (members, rest) => (.object members, rest)) =
        some (node, rest)) :
    ∃ used, Spells (.value node) ('\x7b' :: used) ∧ Leaves behind cs used rest := by
  split at hread
  · rename_i heq
    cases hread
    obtain ⟨blanks, hblanks, hleaves⟩ := h.leaves_mark heq
    exact ⟨_, .emptyObject hblanks, hleaves⟩
  · obtain ⟨⟨members, rest⟩, hmembers, hsome⟩ := Option.map_eq_some_iff.1 hread
    cases hsome
    rw [readMembers_skipSpace] at hmembers
    obtain ⟨used, hspells, hleaves⟩ := hfuel.members hmembers
    exact ⟨_, .object hspells, hleaves⟩

theorem Faithful.node_succ (hfuel : Faithful behind fuel) (h : Strays behind) {node : Node}
    (hread : readNode (fuel + 1) (cs.map some ++ behind) = some (node, rest)) :
    FindsValue behind cs node rest := by
  rw [readNode] at hread
  split at hread
  · obtain ⟨rest, hword, hsome⟩ := Option.map_eq_some_iff.1 hread
    cases hsome
    exact h.findsValue ‹_› fun hleft => ⟨_, .null, h.leaves_word (hleft ▸ hword)⟩
  · obtain ⟨rest, hword, hsome⟩ := Option.map_eq_some_iff.1 hread
    cases hsome
    exact h.findsValue ‹_› fun hleft => ⟨_, .yes, h.leaves_word (hleft ▸ hword)⟩
  · obtain ⟨rest, hword, hsome⟩ := Option.map_eq_some_iff.1 hread
    cases hsome
    exact h.findsValue ‹_› fun hleft => ⟨_, .no, h.leaves_word (hleft ▸ hword)⟩
  · obtain ⟨⟨s, rest⟩, hstring, hsome⟩ := Option.map_eq_some_iff.1 hread
    cases hsome
    refine h.findsValue ‹_› fun hleft => ?_
    obtain ⟨inside, hleaves, hspelled⟩ := h.spelled_string (hleft ▸ hstring)
    exact ⟨_, .text hspelled, hleaves⟩
  · exact h.findsValue ‹_› fun hleft => hfuel.array h (hleft ▸ hread)
  · exact h.findsValue ‹_› fun hleft => hfuel.object h (hleft ▸ hread)
  · obtain ⟨⟨n, rest⟩, hnumber, hsome⟩ := Option.map_eq_some_iff.1 hread
    cases hsome
    obtain ⟨blanks, hblanks, left, rfl, hleft⟩ := h.leaves_skipSpace cs
    rw [hleft] at hnumber
    obtain ⟨used, ⟨left, rfl, hrest⟩, hspelled⟩ := h.leaves_number hnumber
    exact ⟨blanks, used, hblanks, .number hspelled, left, by simp, hrest⟩

/-- The blanks behind a value, up to the mark that comes next, go with it. -/
theorem FindsValue.padded {node : Node} (hfound : FindsValue behind cs node rest)
    (h : Strays behind) (heq : skipSpace rest = some c :: tail) :
    ∃ used, Spells (.padded node) used ∧ Leaves behind cs (used ++ [c]) tail := by
  obtain ⟨before, used, hbefore, hspells, left, rfl, rfl⟩ := hfound
  obtain ⟨after, hafter, left, rfl, htail⟩ := h.leaves_mark heq
  exact ⟨_, .padded hbefore hspells hafter, left, by simp, htail⟩

theorem Faithful.items_succ (hfuel : Faithful behind fuel) (h : Strays behind) {nodes : List Node}
    (hread : readItems (fuel + 1) (cs.map some ++ behind) = some (nodes, rest)) :
    ∃ used, Spells (.items nodes) used ∧ Leaves behind cs (used ++ [']']) rest := by
  rw [readItems] at hread
  split at hread
  · cases hread
  rename_i node rest' hnode
  have hfound := hfuel.node hnode
  split at hread
  · cases hread
    obtain ⟨used, hspells, hleaves⟩ := hfound.padded h ‹_›
    exact ⟨used, .lastItem hspells, hleaves⟩
  · obtain ⟨⟨nodes, rest⟩, hitems, hsome⟩ := Option.map_eq_some_iff.1 hread
    cases hsome
    obtain ⟨used, hspells, left, rfl, rfl⟩ := hfound.padded h ‹_›
    obtain ⟨more, hmore, left, rfl, hrest⟩ := hfuel.items hitems
    exact ⟨_, .moreItems hspells hmore, left, by simp, hrest⟩
  · cases hread

theorem Faithful.members_succ (hfuel : Faithful behind fuel) (h : Strays behind)
    {members : List (Option String × Node)}
    (hread : readMembers (fuel + 1) (cs.map some ++ behind) = some (members, rest)) :
    ∃ used, Spells (.members members) used ∧ Leaves behind cs (used ++ ['\x7d']) rest := by
  rw [readMembers] at hread
  split at hread
  case h_2 => cases hread
  obtain ⟨before, hbefore, left, rfl, rfl⟩ := h.leaves_mark ‹_›
  split at hread
  · cases hread
  rename_i name rest' hname
  obtain ⟨inside, ⟨left, rfl, rfl⟩, hspelled⟩ := h.spelled_string hname
  split at hread
  case h_2 => cases hread
  obtain ⟨after, hafter, left, rfl, rfl⟩ := h.leaves_mark ‹_›
  split at hread
  · cases hread
  rename_i node rest' hnode
  have hfound := hfuel.node hnode
  split at hread
  · cases hread
    obtain ⟨used, hspells, left, rfl, hrest⟩ := hfound.padded h ‹_›
    exact ⟨_, .lastMember (.member hbefore hspelled hafter hspells), left, by simp, hrest⟩
  · obtain ⟨⟨members, rest⟩, hmembers, hsome⟩ := Option.map_eq_some_iff.1 hread
    cases hsome
    obtain ⟨used, hspells, left, rfl, rfl⟩ := hfound.padded h ‹_›
    obtain ⟨more, hmore, left, rfl, hrest⟩ := hfuel.members hmembers
    exact ⟨_, .moreMembers (.member hbefore hspelled hafter hspells) hmore, left, by simp, hrest⟩
  · cases hread

/-- **The readers find what was spelled**, however much fuel they are given. -/
theorem Strays.faithful (h : Strays behind) (fuel : Nat) : Faithful behind fuel := by
  -- by induction on the fuel, which each rule of the grammar takes one unit of
  induction fuel with
  | zero =>
    constructor <;> intro cs found rest hread
    · rw [readNode] at hread
      cases hread
    · rw [readItems] at hread
      cases hread
    · rw [readMembers] at hread
      cases hread
  | succ fuel ih => exact ⟨ih.node_succ h, ih.items_succ h, ih.members_succ h⟩

/-! ## Documents -/

/-- A text with strays behind it is no document. -/
theorem spells_of_ofGlyphs? (h : Strays behind) {node : Node}
    (hread : Node.ofGlyphs? (cs.map some ++ behind) = some node) :
    Spells (.padded node) cs ∧ behind = [] := by
  unfold Node.ofGlyphs? at hread
  split at hread
  case h_2 => cases hread
  rename_i found rest hnode
  split at hread
  case isFalse => cases hread
  rename_i hend
  cases hread
  obtain ⟨before, used, hbefore, hspells, left, rfl, rfl⟩ := (h.faithful _).node hnode
  obtain ⟨after, hafter, left, rfl, hleft⟩ := h.leaves_skipSpace left
  rw [hleft, List.isEmpty_iff, List.append_eq_nil_iff, List.map_eq_nil_iff] at hend
  obtain ⟨rfl, rfl⟩ := hend
  refine ⟨?_, rfl⟩
  rw [List.append_nil, List.append_assoc]
  exact .padded hbefore hspells hafter

end

/-- **A text is read as a document if, and only if, it is a spelling of it.** -/
theorem Node.ofBytes?_eq_some_iff {text : String} {node : Node} :
    Node.ofBytes? text.toUTF8 = some node ↔ node.Spelled text := by
  refine ⟨fun hread => ?_, Node.ofBytes?_of_spelled⟩
  rw [Node.ofBytes?, glyphs_toUTF8, ← List.append_nil (text.toList.map some)] at hread
  exact (spells_of_ofGlyphs? (List.forall_mem_nil _) hread).1

end AcctAdmin.Json
