import AcctAdmin.Uuid
import Mathlib.Data.List.Induction

/-!
# Numbers and identifiers as text

What is written in decimal or hexadecimal digits is read back, and an identifier is the one that
its hyphenated form names.
-/

set_option autoImplicit false

namespace AcctAdmin.Text

/-! ## Decimal digits -/

theorem decimalDigits_ne_nil (n : Nat) : decimalDigits n ≠ [] := Nat.toDigits_ne_nil

theorem isDigit_of_mem_decimalDigits {n : Nat} {c : Char} (h : c ∈ decimalDigits n) :
    c.isDigit = true := Nat.isDigit_of_mem_toDigits (by decide) (by decide) h

theorem readDecimal?_decimalDigits (n : Nat) : readDecimal? (decimalDigits n) = some n := by
  have hall : (decimalDigits n).all Char.isDigit = true :=
    List.all_eq_true.2 fun c hc => isDigit_of_mem_decimalDigits hc
  rw [readDecimal?, if_pos ⟨decimalDigits_ne_nil n, hall⟩]
  exact congrArg some (Nat.ofDigitChars_toDigits (by decide) (by decide))

theorem decimal_injective {m n : Nat} (h : decimal m = decimal n) : m = n := by
  have hdigits : decimalDigits m = decimalDigits n := by
    rw [← String.toList_ofList (l := decimalDigits m),
      ← String.toList_ofList (l := decimalDigits n)]
    exact congrArg String.toList h
  have hread := readDecimal?_decimalDigits m
  rw [hdigits, readDecimal?_decimalDigits] at hread
  exact (Option.some.inj hread).symm

theorem head?_decimalDigits {n : Nat} (h : 0 < n) : (decimalDigits n).head? ≠ some '0' := by
  induction n using Nat.strongRecOn with
  | ind n ih =>
    rw [decimalDigits, Nat.toDigits_eq_if (by decide)]
    split
    · simp [Nat.digitChar_eq_zero, Nat.ne_of_gt h]
    · rename_i hge
      rw [List.head?_append, Option.or_of_isSome (by simp [Nat.toDigits_ne_nil])]
      exact ih (n / 10) (by omega) (by omega)

/-- Only the number zero begins with a zero. -/
theorem length_of_head_zero {n : Nat} (h : (decimalDigits n).head? = some '0') :
    (decimalDigits n).length = 1 := by
  cases n with
  | zero => rfl
  | succ n => exact absurd h (head?_decimalDigits n.succ_pos)

/-! ## Numbers that are not in their shortest form -/

theorem toNat_of_isDigit {c : Char} (h : c.isDigit = true) : 48 ≤ c.toNat ∧ c.toNat ≤ 57 := by
  simp only [Char.isDigit, Bool.and_eq_true, decide_eq_true_eq, ge_iff_le,
    UInt32.le_iff_toNat_le] at h
  exact h

theorem decimalDigits_of_isDigit {c : Char} (h : c.isDigit = true) :
    decimalDigits (c.toNat - '0'.toNat) = [c] := by
  have hall : ∀ d < 10, Nat.digitChar d = Char.ofNat (48 + d) := by decide
  obtain ⟨hlow, hhigh⟩ := toNat_of_isDigit h
  have hlt : c.toNat - 48 < 10 := by omega
  change Nat.toDigits 10 (c.toNat - 48) = [c]
  rw [Nat.toDigits_of_lt_base hlt, hall _ hlt, Nat.add_sub_cancel' hlow, Char.ofNat_toNat]

theorem eq_decimalDigits {cs : List Char} (hne : cs ≠ []) (h : ∀ c ∈ cs, c.isDigit = true) :
    ∃ zeros, cs = List.replicate zeros '0' ++ decimalDigits (Nat.ofDigitChars 10 cs 0) := by
  -- by induction from the right, because a digit more at the end is one more of the number
  induction cs using List.reverseRecOn with
  | nil => exact absurd rfl hne
  | append_singleton cs c ih =>
    have hlast := decimalDigits_of_isDigit (h c (by simp))
    by_cases hcs : cs = []
    · subst hcs
      refine ⟨0, ?_⟩
      rw [List.nil_append, Nat.ofDigitChars_cons, Nat.mul_zero, Nat.zero_add, Nat.ofDigitChars_nil,
        hlast]
      rfl
    · obtain ⟨zeros, hzeros⟩ := ih hcs fun x hx => h x (List.mem_append_left _ hx)
      rw [Nat.ofDigitChars_append, Nat.ofDigitChars_cons, Nat.ofDigitChars_nil]
      generalize Nat.ofDigitChars 10 cs 0 = v at hzeros
      have hlt : c.toNat - '0'.toNat < 10 := by
        obtain ⟨-, hhigh⟩ := toNat_of_isDigit (h c (by simp))
        change c.toNat - 48 < 10
        omega
      rcases Nat.eq_zero_or_pos v with rfl | hpos
      · refine ⟨zeros + 1, ?_⟩
        rw [hzeros, Nat.mul_zero, Nat.zero_add, hlast, List.replicate_succ']
        rfl
      · refine ⟨zeros, ?_⟩
        rw [hzeros, List.append_assoc, ← hlast]
        congr 1
        exact Nat.toDigits_append_toDigits (by decide) hpos hlt

/-- What is read as a number is its digits, behind any zeros. -/
theorem readDecimal?_eq_some_iff {cs : List Char} {n : Nat} :
    readDecimal? cs = some n ↔ ∃ zeros, cs = List.replicate zeros '0' ++ decimalDigits n := by
  unfold readDecimal?
  constructor
  · intro h
    split at h
    · rename_i hdigits
      obtain rfl := Option.some.inj h
      exact eq_decimalDigits hdigits.1 (List.all_eq_true.1 hdigits.2)
    · cases h
  · rintro ⟨zeros, rfl⟩
    have hdigits : ∀ c ∈ List.replicate zeros '0' ++ decimalDigits n, c.isDigit = true := by
      intro c hc
      rcases List.mem_append.1 hc with hzero | hc
      · rw [(List.mem_replicate.1 hzero).2]
        rfl
      · exact isDigit_of_mem_decimalDigits hc
    rw [if_pos ⟨by simp [decimalDigits_ne_nil], List.all_eq_true.2 hdigits⟩,
      Nat.ofDigitChars_append, Nat.ofDigitChars_replicate_zero, Nat.mul_zero]
    exact congrArg some (Nat.ofDigitChars_toDigits (by decide) (by decide))

/-- The digits of a number, behind any zeros and maybe a plus sign. -/
def Numeral (cs : List Char) (n : Nat) : Prop :=
  ∃ sign zeros, (sign = [] ∨ sign = ['+']) ∧
    cs = sign ++ (List.replicate zeros '0' ++ decimalDigits n)

theorem isDigit_of_mem_padded {zeros n : Nat} {c : Char}
    (h : c ∈ List.replicate zeros '0' ++ decimalDigits n) : c.isDigit = true := by
  rcases List.mem_append.1 h with hzero | hdigit
  · rw [(List.mem_replicate.1 hzero).2]
    rfl
  · exact isDigit_of_mem_decimalDigits hdigit

theorem Numeral.mem {cs : List Char} {n : Nat} (h : Numeral cs n) {c : Char} (hc : c ∈ cs) :
    c = '+' ∨ c.isDigit = true := by
  obtain ⟨sign, zeros, hsign, rfl⟩ := h
  rcases List.mem_append.1 hc with hplus | hdigit
  · rcases hsign with rfl | rfl
    · cases hplus
    · exact .inl (List.mem_singleton.1 hplus)
  · exact .inr (isDigit_of_mem_padded hdigit)

theorem Numeral.getLast? {cs : List Char} {n : Nat} (h : Numeral cs n) :
    ∃ c, cs.getLast? = some c ∧ c.isDigit = true := by
  obtain ⟨sign, zeros, -, rfl⟩ := h
  have hne := decimalDigits_ne_nil n
  refine ⟨(decimalDigits n).getLast hne, ?_, isDigit_of_mem_decimalDigits (List.getLast_mem hne)⟩
  rw [← List.append_assoc, List.getLast?_append, List.getLast?_eq_some_getLast hne]
  rfl

theorem readBounded?_eq_some_iff {bound : Nat} {cs : List Char} {n : Nat} :
    readBounded? bound cs = some n ↔ Numeral cs n ∧ n < bound := by
  have hread : ∀ ds, (readDecimal? ds).filter (· < bound) = some n ↔
      (∃ zeros, ds = List.replicate zeros '0' ++ decimalDigits n) ∧ n < bound := by
    intro ds
    rw [Option.filter_eq_some_iff, readDecimal?_eq_some_iff, decide_eq_true_eq]
  unfold readBounded?
  split
  · rename_i rest
    rw [hread]
    refine and_congr_left fun _ => ⟨?_, ?_⟩
    · rintro ⟨zeros, rfl⟩
      exact ⟨['+'], zeros, .inr rfl, rfl⟩
    · rintro ⟨sign, zeros, rfl | rfl, hcs⟩
      · have hplus : '+' ∈ List.replicate zeros '0' ++ decimalDigits n :=
          hcs ▸ List.mem_cons_self
        exact absurd (isDigit_of_mem_padded hplus) (by decide)
      · exact ⟨zeros, (List.cons.inj hcs).2⟩
  · rename_i hsign
    rw [hread]
    refine and_congr_left fun _ => ⟨?_, ?_⟩
    · rintro ⟨zeros, rfl⟩
      exact ⟨[], zeros, .inl rfl, rfl⟩
    · rintro ⟨sign, zeros, rfl | rfl, hcs⟩
      · exact ⟨zeros, hcs⟩
      · exact absurd hcs (hsign _)

/-! ## Hexadecimal digits -/

theorem length_hexOfWidth (width n : Nat) : (hexOfWidth width n).length = width := by
  induction width generalizing n with
  | zero => rfl
  | succ width ih => rw [hexOfWidth, List.length_append, ih, List.length_singleton]

theorem hexValue?_digitChar {n : Nat} (h : n < 16) : hexValue? (Nat.digitChar n) = some n := by
  revert n
  decide

theorem readHex?_hexOfWidth (width n : Nat) :
    readHex? (hexOfWidth width n) = some (n % Nat.pow 16 width) := by
  induction width generalizing n with
  | zero => simp [hexOfWidth, readHex?, Nat.mod_one]
  | succ width ih =>
    have hlast := hexValue?_digitChar (Nat.mod_lt n (by decide : 0 < 16))
    have hstep := ih (n / 16)
    rw [readHex?] at hstep
    rw [hexOfWidth, readHex?, List.foldlM_append, hstep]
    have hpow : Nat.pow 16 (width + 1) = 16 * Nat.pow 16 width := Nat.mul_comm _ _
    rw [hpow, Nat.mod_mul, Nat.add_comm]
    simp [hlast]

end AcctAdmin.Text

namespace AcctAdmin.Uuid

open AcctAdmin.Text

theorem length_digits (id : Uuid) : id.digits.length = 32 := length_hexOfWidth _ _

theorem ofDigits?_digits (id : Uuid) : ofDigits? id.digits = some id := by
  have hlt : id.bits.toNat < Nat.pow 16 32 := id.bits.isLt
  rw [ofDigits?, if_pos id.length_digits, digits, readHex?_hexOfWidth, Nat.mod_eq_of_lt hlt]
  simp [ofNat]

theorem ofHyphenated?_groups {a b c d e : List Char} (ha : a.length = 8) (hb : b.length = 4)
    (hc : c.length = 4) (hd : d.length = 4) (he : e.length = 12) :
    ofHyphenated? (hyphenate (a ++ (b ++ (c ++ (d ++ e))))) =
      ofDigits? (a ++ (b ++ (c ++ (d ++ e)))) := by
  simp [hyphenate, ofHyphenated?, List.drop_append, List.drop_of_length_le, ha, hb, hc, hd, he]

/-- The hyphens are left out again. -/
theorem ofHyphenated?_hyphenate {ds : List Char} (h : ds.length = 32) :
    ofHyphenated? (hyphenate ds) = ofDigits? ds := by
  have hgroups : ds = ds.take 8 ++ ((ds.drop 8).take 4 ++ ((ds.drop 12).take 4 ++
      ((ds.drop 16).take 4 ++ ds.drop 20))) := by
    have hdrop : ∀ i, ds.drop i = (ds.drop i).take 4 ++ ds.drop (i + 4) := by
      intro i
      rw [← List.drop_drop, List.take_append_drop]
    rw [← hdrop 16, ← hdrop 12, ← hdrop 8, List.take_append_drop]
  rw [hgroups]
  exact ofHyphenated?_groups (by simp [h]) (by simp [h]) (by simp [h]) (by simp [h]) (by simp [h])

theorem parse?_hyphenated (id : Uuid) : parse? id.hyphenated = some id := by
  have hlength : (hyphenate id.digits).length = 36 := by
    simp [hyphenate, length_digits]
  rw [parse?, hyphenated, String.toList_ofList, ofChars?, hlength]
  exact (ofHyphenated?_hyphenate id.length_digits).trans id.ofDigits?_digits

end AcctAdmin.Uuid
