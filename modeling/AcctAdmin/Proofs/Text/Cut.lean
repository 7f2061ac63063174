import AcctAdmin.Text.Glyphs
import Mathlib.Data.String.Basic

/-!
# Texts that are cut off

Of a text whose bytes are cut off somewhere, the first characters are left, and behind them at most
some bytes of the next one, which are taken for no character.
-/

set_option autoImplicit false

namespace AcctAdmin.Text

/-! ## One glyph -/

theorem glyphsFrom_of_char {bytes : ByteArray} {i : Nat} {c : Char}
    (h : bytes.utf8DecodeChar? i = some c) :
    glyphsFrom bytes i = some c :: glyphsFrom bytes (i + c.utf8Size) := by
  have hi : i < bytes.size := ByteArray.lt_size_of_isSome_utf8DecodeChar? (by rw [h]; rfl)
  rw [glyphsFrom, dif_pos hi, h]

theorem glyphsFrom_of_stray {bytes : ByteArray} {i : Nat} (hi : i < bytes.size)
    (h : bytes.utf8DecodeChar? i = none) :
    glyphsFrom bytes i = none :: glyphsFrom bytes (i + strayLength bytes i) := by
  rw [glyphsFrom, dif_pos hi, h]

/-! ## Bytes behind others -/

section

variable (front bytes : ByteArray) (i : Nat)

theorem utf8DecodeChar?_behind :
    (front ++ bytes).utf8DecodeChar? (front.size + i) = bytes.utf8DecodeChar? i := by
  rw [ByteArray.utf8DecodeChar?_eq_utf8DecodeChar?_extract,
    ByteArray.utf8DecodeChar?_eq_utf8DecodeChar?_extract (b := bytes), ByteArray.size_append,
    ByteArray.extract_append_size_add]

theorem byteWithin_behind (low high : Nat) :
    byteWithin (front ++ bytes) (front.size + i) low high = byteWithin bytes i low high := by
  have hbyte : (front ++ bytes)[front.size + i]? = bytes[i]? := by
    by_cases hi : i < bytes.size
    · rw [getElem?_pos bytes i hi, getElem?_pos, ByteArray.getElem_append_right (by omega)]
      · simp
      · rw [ByteArray.size_append]
        omega
    · rw [getElem?_neg bytes i hi, getElem?_neg]
      rw [ByteArray.size_append]
      omega
  rw [byteWithin, byteWithin, hbyte]

theorem strayLength_behind :
    strayLength (front ++ bytes) (front.size + i) = strayLength bytes i := by
  simp only [strayLength, Nat.add_assoc, byteWithin_behind]

/-- Glyphs do not depend on the bytes before them. -/
theorem glyphsFrom_behind : glyphsFrom (front ++ bytes) (front.size + i) = glyphsFrom bytes i := by
  have hsize : ∀ i, front.size + i < (front ++ bytes).size ↔ i < bytes.size := by
    intro i
    rw [ByteArray.size_append]
    omega
  fun_induction glyphsFrom bytes i with
  | case1 i hi c hc ih =>
    rw [← utf8DecodeChar?_behind front] at hc
    rw [glyphsFrom_of_char hc, Nat.add_assoc, ih]
  | case2 i hi hc ih =>
    rw [← utf8DecodeChar?_behind front] at hc
    rw [glyphsFrom_of_stray ((hsize i).2 hi) hc, strayLength_behind, Nat.add_assoc, ih]
  | case3 i hi => rw [glyphsFrom, dif_neg (mt (hsize i).1 hi)]

end

/-! ## Characters and strays -/

theorem size_utf8Encode_singleton (c : Char) : [c].utf8Encode.size = c.utf8Size := by
  rw [List.utf8Encode_singleton, List.size_toByteArray, String.length_utf8EncodeChar]

theorem utf8Encode_cons_append (c : Char) (cs : List Char) (bytes : ByteArray) :
    (c :: cs).utf8Encode ++ bytes = [c].utf8Encode ++ (cs.utf8Encode ++ bytes) := by
  rw [← List.singleton_append, List.utf8Encode_append, ByteArray.append_assoc]

/-- The characters of a text come before whatever is behind it. -/
theorem glyphsFrom_utf8Encode (cs : List Char) (bytes : ByteArray) :
    glyphsFrom (cs.utf8Encode ++ bytes) 0 = cs.map some ++ glyphsFrom bytes 0 := by
  induction cs with
  | nil => rw [List.utf8Encode_nil, ByteArray.empty_append, List.map_nil, List.nil_append]
  | cons c cs ih =>
    rw [utf8Encode_cons_append, glyphsFrom_of_char List.utf8DecodeChar?_utf8Encode_singleton_append,
      Nat.zero_add, ← size_utf8Encode_singleton, ← Nat.add_zero (ByteArray.size _),
      glyphsFrom_behind, ih]
    rfl

theorem glyphs_eq_glyphsFrom (bytes : ByteArray) : glyphs bytes = glyphsFrom bytes 0 := by
  unfold glyphs
  split
  · rename_i text htext
    obtain rfl : text.toByteArray = bytes := by
      unfold String.fromUTF8? at htext
      split at htext
      · cases htext
        rfl
      · cases htext
    have hglyphs := glyphsFrom_utf8Encode text.toList ByteArray.empty
    have hnothing : glyphsFrom ByteArray.empty 0 = [] := by
      rw [glyphsFrom, dif_neg (by decide)]
    rw [hnothing, List.append_nil, ByteArray.append_empty, String.utf8Encode_toList] at hglyphs
    exact hglyphs.symm
  · rfl

theorem strays_of_none {bytes : ByteArray} (h : ∀ i, bytes.utf8DecodeChar? i = none) (i : Nat) :
    ∀ g ∈ glyphsFrom bytes i, g = none := by
  fun_induction glyphsFrom bytes i with
  | case1 i hi c hc =>
    rw [h i] at hc
    cases hc
  | case2 i hi hc ih => exact List.forall_mem_cons.2 ⟨rfl, ih⟩
  | case3 => exact List.forall_mem_nil _

/-! ## Cutting -/

theorem extract_of_size_le {bytes : ByteArray} {n : Nat} (h : bytes.size ≤ n) :
    bytes.extract 0 n = bytes := by
  rw [← Nat.max_eq_left h, ByteArray.extract_zero_max_size]

/-- No character is found in a part of one. -/
theorem utf8DecodeChar?_part {c : Char} {n : Nat} (hn : n < c.utf8Size) (i : Nat) :
    ([c].utf8Encode.extract 0 n).utf8DecodeChar? i = none := by
  rw [Option.eq_none_iff_forall_ne_some]
  intro d hd
  have hwhole : [c].utf8Encode.extract 0 n ++ [c].utf8Encode.extract n c.utf8Size =
      [c].utf8Encode := by
    rw [← ByteArray.extract_eq_extract_append_extract n (Nat.zero_le n) (Nat.le_of_lt hn),
      ← size_utf8Encode_singleton, ByteArray.extract_zero_size]
  have hfull : [c].utf8Encode.utf8DecodeChar? i = some d := by
    rw [← hwhole]
    exact ByteArray.utf8DecodeChar?_append_eq_some hd _
  -- only the first byte of a character begins one
  obtain rfl : i = 0 := List.isUTF8FirstByte_getElem_utf8Encode_singleton.1
    (ByteArray.isUTF8FirstByte_of_isSome_utf8DecodeChar? (by rw [hfull]; rfl))
  obtain rfl : c = d := by
    rw [List.utf8DecodeChar?_utf8Encode_singleton] at hfull
    exact Option.some.inj hfull
  have hfits := ByteArray.le_size_of_utf8DecodeChar?_eq_some hd
  rw [ByteArray.size_extract] at hfits
  omega

/-- Of a text that is cut off the first characters are left, and behind them nothing that is one. -/
theorem exists_cut (cs : List Char) {n : Nat} (hn : n < cs.utf8Encode.size) :
    ∃ kept lost part, cs = kept ++ lost ∧ lost ≠ [] ∧
      cs.utf8Encode.extract 0 n = kept.utf8Encode ++ part ∧
      ∀ i, part.utf8DecodeChar? i = none := by
  induction cs generalizing n with
  | nil =>
    rw [List.utf8Encode_nil] at hn
    exact absurd hn (Nat.not_lt_zero n)
  | cons c cs ih =>
    have hsplit : (c :: cs).utf8Encode = [c].utf8Encode ++ cs.utf8Encode := by
      rw [← List.singleton_append, List.utf8Encode_append]
    have hextract : (c :: cs).utf8Encode.extract 0 n =
        [c].utf8Encode.extract 0 n ++ cs.utf8Encode.extract 0 (n - c.utf8Size) := by
      rw [hsplit, ByteArray.extract_append, Nat.zero_sub, size_utf8Encode_singleton]
    rw [hsplit, ByteArray.size_append, size_utf8Encode_singleton] at hn
    rcases Nat.lt_or_ge n c.utf8Size with hlt | hge
    · refine ⟨[], c :: cs, _, rfl, List.cons_ne_nil c cs, ?_, utf8DecodeChar?_part hlt⟩
      rw [hextract, Nat.sub_eq_zero_of_le (Nat.le_of_lt hlt)]
      simp
    · obtain ⟨kept, lost, part, rfl, hlost, hcut, hpart⟩ := ih (n := n - c.utf8Size) (by omega)
      refine ⟨c :: kept, lost, part, rfl, hlost, ?_, hpart⟩
      have hwhole : [c].utf8Encode.extract 0 n = [c].utf8Encode :=
        extract_of_size_le (size_utf8Encode_singleton c ▸ hge)
      rw [hextract, hwhole, hcut, ← utf8Encode_cons_append]

/-- **A text that is cut off reads like the beginning of it**, with stray bytes behind where it was
cut in the middle of a character. -/
theorem glyphs_cut (s : String) {n : Nat} (hn : n < s.toUTF8.size) :
    ∃ kept lost behind, s.toList = kept ++ lost ∧ lost ≠ [] ∧ (∀ g ∈ behind, g = none) ∧
      glyphs (s.toUTF8.extract 0 n) = kept.map some ++ behind := by
  have hbytes : s.toList.utf8Encode = s.toUTF8 := String.utf8Encode_toList
  rw [← hbytes] at hn ⊢
  obtain ⟨kept, lost, part, hchars, hlost, hcut, hpart⟩ := exists_cut s.toList hn
  refine ⟨kept, lost, glyphsFrom part 0, hchars, hlost, strays_of_none hpart 0, ?_⟩
  rw [hcut, glyphs_eq_glyphsFrom, glyphsFrom_utf8Encode]

end AcctAdmin.Text
