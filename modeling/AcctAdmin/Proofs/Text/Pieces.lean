import AcctAdmin.Text.Blank
import AcctAdmin.Text.Split

/-!
# Pieces of texts

A text is split at the first separator, and one that has no separator is a single piece. Every text
is joined of pieces without separators, and split into them again. Nothing is trimmed of a text
without blanks.
-/

set_option autoImplicit false

namespace AcctAdmin.Text

theorem takeWhile_of_absent {sep : Char} {cs rest : List Char} (h : sep ∉ cs) :
    (cs ++ sep :: rest).takeWhile (· != sep) = cs := by
  have hall : ∀ c ∈ cs, (c != sep) = true := fun c hc => bne_iff_ne.2 fun heq => h (heq ▸ hc)
  rw [List.takeWhile_append_of_pos hall]
  simp

theorem splitOnce?_append {sep : Char} {cs rest : List Char} (h : sep ∉ cs) :
    splitOnce? sep (cs ++ sep :: rest) = some (cs, rest) := by
  have hall : ∀ c ∈ cs, (c != sep) = true := fun c hc => bne_iff_ne.2 fun heq => h (heq ▸ hc)
  unfold splitOnce?
  rw [takeWhile_of_absent h, List.dropWhile_append_of_pos hall]
  simp

/-- A text is split at the first separator, wherever it is split. -/
theorem splitOnce?_eq_some_iff {sep : Char} {cs before after : List Char} :
    splitOnce? sep cs = some (before, after) ↔ cs = before ++ sep :: after ∧ sep ∉ before := by
  constructor
  · intro h
    unfold splitOnce? at h
    cases hdrop : cs.dropWhile (· != sep) with
    | nil => simp [hdrop] at h
    | cons c rest =>
      simp only [hdrop, Option.some.injEq, Prod.mk.injEq] at h
      obtain ⟨rfl, rfl⟩ := h
      have hhead := List.head?_dropWhile_not (· != sep) cs
      simp only [hdrop] at hhead
      obtain rfl : c = sep := by simpa using hhead
      refine ⟨?_, fun hmem => ?_⟩
      · rw [← hdrop, List.takeWhile_append_dropWhile]
      · have hbefore := List.all_eq_true.1 (List.all_takeWhile (p := (· != c)) (l := cs)) c hmem
        simp at hbefore
  · rintro ⟨rfl, h⟩
    exact splitOnce?_append h

theorem splitBy_of_absent {isSep : Char → Bool} {cs : List Char} (h : ∀ c ∈ cs, isSep c = false) :
    splitBy isSep cs = [cs] := by
  induction cs with
  | nil => rfl
  | cons c rest ih =>
    obtain ⟨hfirst, hrest⟩ := List.forall_mem_cons.1 h
    simp [splitBy, hfirst, ih hrest]

theorem splitBy_append {sep : Char} {cs rest : List Char} (h : sep ∉ cs) :
    splitBy (· == sep) (cs ++ sep :: rest) = cs :: splitBy (· == sep) rest := by
  induction cs with
  | nil => simp [splitBy]
  | cons c cs ih =>
    have hfirst : (c == sep) = false := beq_false_of_ne fun heq => h (heq ▸ List.mem_cons_self)
    have hrest : sep ∉ cs := fun hmem => h (List.mem_cons_of_mem c hmem)
    simp [splitBy, hfirst, ih hrest]

/-- A joined text is split into what it was joined of. -/
theorem splitBy_intercalate {sep : Char} {pieces : List (List Char)} (hsome : pieces ≠ [])
    (hclosed : ∀ piece ∈ pieces, sep ∉ piece) :
    splitBy (· == sep) ([sep].intercalate pieces) = pieces := by
  induction pieces with
  | nil => exact absurd rfl hsome
  | cons piece rest ih =>
    obtain ⟨hpiece, hrest⟩ := List.forall_mem_cons.1 hclosed
    cases rest with
    | nil =>
      rw [List.intercalate_singleton]
      exact splitBy_of_absent fun c hc => beq_false_of_ne fun heq => hpiece (heq ▸ hc)
    | cons next more =>
      rw [List.intercalate_cons_cons, List.append_assoc, List.singleton_append,
        splitBy_append hpiece, ih (List.cons_ne_nil next more) hrest]

/-- Every text is joined of pieces. -/
theorem exists_pieces (sep : Char) (cs : List Char) :
    ∃ pieces, pieces ≠ [] ∧ (∀ piece ∈ pieces, sep ∉ piece) ∧ [sep].intercalate pieces = cs := by
  induction cs with
  | nil => exact ⟨[[]], by simp, by simp, rfl⟩
  | cons c rest ih =>
    obtain ⟨pieces, hsome, hclosed, rfl⟩ := ih
    obtain ⟨piece, more, rfl⟩ := List.exists_cons_of_ne_nil hsome
    -- a separator goes before an empty piece, and any other character lengthens the first one
    by_cases hc : c = sep
    · refine ⟨[] :: piece :: more, by simp, List.forall_mem_cons.2 ⟨by simp, hclosed⟩, ?_⟩
      rw [List.intercalate_cons_cons, hc]
      rfl
    · obtain ⟨hpiece, hmore⟩ := List.forall_mem_cons.1 hclosed
      have hlonger : sep ∉ c :: piece := by
        intro hmem
        rcases List.mem_cons.1 hmem with heq | hmem
        · exact hc heq.symm
        · exact hpiece hmem
      refine ⟨(c :: piece) :: more, by simp, List.forall_mem_cons.2 ⟨hlonger, hmore⟩, ?_⟩
      cases more with
      | nil => simp
      | cons next more => simp

theorem dropWhile_isBlank {cs : List Char} (h : ∀ c, cs.head? = some c → isBlank c = false) :
    cs.dropWhile isBlank = cs := by
  cases cs with
  | nil => rfl
  | cons c rest => exact List.dropWhile_cons_of_neg (by simp [h c rfl])

theorem trimChars_of_no_blank {cs : List Char} (h : ∀ c ∈ cs, isBlank c = false) :
    trimChars cs = cs := by
  have hback : ∀ c, cs.reverse.head? = some c → isBlank c = false :=
    fun c hc => h c (List.mem_reverse.1 (List.mem_of_head? hc))
  rw [trimChars, dropWhile_isBlank fun c hc => h c (List.mem_of_head? hc), dropWhile_isBlank hback,
    List.reverse_reverse]

/-- Blanks at the ends are trimmed, and nothing else is. -/
theorem trimChars_of_blank_ends {before core after : List Char}
    (hblank : ∀ c ∈ before ++ after, isBlank c = true)
    (hfirst : ∃ c, core.head? = some c ∧ isBlank c = false)
    (hlast : ∃ c, core.getLast? = some c ∧ isBlank c = false) :
    trimChars (before ++ core ++ after) = core := by
  have hfront : (core ++ after).dropWhile isBlank = core ++ after := by
    obtain ⟨first, hhead, hnot⟩ := hfirst
    refine dropWhile_isBlank fun c hc => ?_
    rw [List.head?_append, hhead] at hc
    exact Option.some.inj hc ▸ hnot
  have hback : core.reverse.dropWhile isBlank = core.reverse := by
    obtain ⟨last, htail, hnot⟩ := hlast
    refine dropWhile_isBlank fun c hc => ?_
    rw [List.head?_reverse, htail] at hc
    exact Option.some.inj hc ▸ hnot
  have hbefore : ∀ c ∈ before, isBlank c = true := fun c hc => hblank c (List.mem_append_left _ hc)
  have hafter : ∀ c ∈ after.reverse, isBlank c = true :=
    fun c hc => hblank c (List.mem_append_right _ (List.mem_reverse.1 hc))
  rw [trimChars, List.append_assoc, List.dropWhile_append_of_pos hbefore, hfront,
    List.reverse_append, List.dropWhile_append_of_pos hafter, hback, List.reverse_reverse]

/-- Nothing but blanks is trimmed. -/
theorem exists_trimChars (cs : List Char) :
    ∃ before after, cs = before ++ trimChars cs ++ after ∧
      ∀ c ∈ before ++ after, isBlank c = true := by
  refine ⟨cs.takeWhile isBlank, ((cs.dropWhile isBlank).reverse.takeWhile isBlank).reverse, ?_, ?_⟩
  · rw [trimChars, List.append_assoc, ← List.reverse_append, List.takeWhile_append_dropWhile,
      List.reverse_reverse, List.takeWhile_append_dropWhile]
  · intro c hc
    rcases List.mem_append.1 hc with hc | hc
    · exact List.all_eq_true.1 List.all_takeWhile c hc
    · exact List.all_eq_true.1 List.all_takeWhile c (List.mem_reverse.1 hc)

theorem not_blank_of_head?_trimChars {cs : List Char} {c : Char}
    (h : (trimChars cs).head? = some c) : isBlank c = false := by
  -- what is trimmed off the end stands behind the first character that is left
  have hdrop : cs.dropWhile isBlank = trimChars cs ++
      ((cs.dropWhile isBlank).reverse.takeWhile isBlank).reverse := by
    rw [trimChars, ← List.reverse_append, List.takeWhile_append_dropWhile, List.reverse_reverse]
  have hhead := List.head?_dropWhile_not isBlank cs
  rw [hdrop, List.head?_append, h] at hhead
  exact hhead

theorem not_blank_of_getLast?_trimChars {cs : List Char} {c : Char}
    (h : (trimChars cs).getLast? = some c) : isBlank c = false := by
  rw [trimChars, List.getLast?_reverse] at h
  have hhead := List.head?_dropWhile_not isBlank (cs.dropWhile isBlank).reverse
  rw [h] at hhead
  exact hhead

end AcctAdmin.Text
