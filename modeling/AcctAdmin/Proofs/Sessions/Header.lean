import AcctAdmin.Proofs.Sessions.Cookie

/-!
# Cookies in a header

A header is made of pieces with semicolons between them. A piece that has an equals sign shows a
pair of a name and a value, and blanks around the two do not count. Whose session it is says the
first pair of the right name alone, and what stands after it is not looked at.
-/

set_option autoImplicit false

namespace AcctAdmin.Server

open AcctAdmin.Text

/-! ## Pairs -/

/-- A piece of a header shows a pair: the first equals sign stands between the name and the value,
and the blanks around the two belong to neither. -/
inductive ShowsPair (name value : String) : List Char → Prop
  | blanks {before after : List Char} (hblank : ∀ c ∈ before ++ after, isBlank c = true)
    (hname : '=' ∉ name.toList) (hfirst : ∀ c, name.toList.head? = some c → isBlank c = false)
    (hlast : ∀ c, value.toList.getLast? = some c → isBlank c = false) :
    ShowsPair name value (before ++ (name.toList ++ '=' :: value.toList) ++ after)

variable {name value : String} {piece : List Char}

/-- The pair that a piece shows is found by trimming it and splitting it once. -/
theorem splitOnce?_trimChars_iff :
    splitOnce? '=' (trimChars piece) = some (name.toList, value.toList) ↔
      ShowsPair name value piece := by
  constructor
  · intro h
    obtain ⟨hcore, hname⟩ := splitOnce?_eq_some_iff.1 h
    obtain ⟨before, after, hpiece, hblank⟩ := exists_trimChars piece
    rw [hcore] at hpiece
    rw [hpiece]
    refine .blanks hblank hname (fun c hc => ?_) fun c hc => ?_
    · have hhead : (trimChars piece).head? = some c := by
        rw [hcore, List.head?_append, hc]
        rfl
      exact not_blank_of_head?_trimChars hhead
    · have htail : (trimChars piece).getLast? = some c := by
        rw [hcore, List.getLast?_append, List.getLast?_cons, hc]
        rfl
      exact not_blank_of_getLast?_trimChars htail
  · rintro ⟨hblank, hname, hfirst, hlast⟩
    -- the equals sign is no blank, so that neither an empty name nor an empty value matters
    have hsign : isBlank '=' = false := by decide
    rw [trimChars_of_blank_ends hblank ?_ ?_, splitOnce?_append hname]
    · cases hhead : name.toList.head? with
      | none => exact ⟨'=', by rw [List.head?_append, hhead]; rfl, hsign⟩
      | some c => exact ⟨c, by rw [List.head?_append, hhead]; rfl, hfirst c hhead⟩
    · rw [List.getLast?_append, List.getLast?_cons]
      cases htail : value.toList.getLast? with
      | none => exact ⟨'=', rfl, hsign⟩
      | some c => exact ⟨c, rfl, hlast c htail⟩

/-- A piece shows one pair at most. -/
theorem ShowsPair.unique {name' value' : String} (h : ShowsPair name value piece)
    (h' : ShowsPair name' value' piece) : name' = name ∧ value' = value := by
  have hsame := (splitOnce?_trimChars_iff.2 h').symm.trans (splitOnce?_trimChars_iff.2 h)
  obtain ⟨hname, hvalue⟩ := Prod.mk.inj (Option.some.inj hsame)
  exact ⟨String.toList_injective hname, String.toList_injective hvalue⟩

/-! ## Headers -/

/-- A header of these pieces. -/
def cookieHeader (pieces : List (List Char)) : String := String.ofList ([';'].intercalate pieces)

/-- Every header is one of pieces without semicolons. -/
theorem exists_cookieHeader (header : String) :
    ∃ pieces, pieces ≠ [] ∧ (∀ piece ∈ pieces, ';' ∉ piece) ∧ cookieHeader pieces = header := by
  obtain ⟨pieces, hsome, hclosed, hheader⟩ := exists_pieces ';' header.toList
  refine ⟨pieces, hsome, hclosed, ?_⟩
  rw [cookieHeader, hheader, String.ofList_toList]

namespace SessionKey

/-! ## The session's pair -/

/-- What a key is shown as can stand in a header: none of its characters means anything there. -/
theorem mem_text {k : SessionKey} {c : Char} (h : c ∈ k.text.toList) :
    c ≠ ';' ∧ c ≠ '=' ∧ c ≠ ',' ∧ isBlank c = false := by
  have hkey : c ∈ keyChars := mem_keyChars h
  obtain ⟨hsemicolon, hblank⟩ := plain_of_mem plain_keyChars hkey
  have hsign : '=' ∉ keyChars := by decide
  have hcomma : ',' ∉ keyChars := by decide
  exact ⟨hsemicolon, fun heq => hsign (heq ▸ hkey), fun heq => hcomma (heq ▸ hkey), hblank⟩

theorem text_injective : Function.Injective text := by
  intro k k' h
  have hread := ofChars?_text k
  rw [h, ofChars?_text] at hread
  exact (Option.some.inj hread).symm

/-- The cookie of a session shows its key, whatever blanks stand around it. -/
theorem showsPair_pair (k : SessionKey) {before after : List Char}
    (hblank : ∀ c ∈ before ++ after, isBlank c = true) :
    ShowsPair cookieName k.text (before ++ k.pair.toList ++ after) := by
  rw [pair_toList]
  refine .blanks hblank (by decide) (fun c hc => ?_) fun c hc => ?_
  · exact (plain_of_mem plain_cookieName (List.mem_of_head? hc)).2
  · exact (mem_text (List.mem_of_getLast? hc)).2.2.2

/-- The pairs of the session's name that pieces show, in their order. -/
def sessionPairs (pieces : List (List Char)) : List (List Char × List Char) :=
  (pieces.filterMap fun piece => splitOnce? '=' (trimChars piece)).filter
    (·.1 == cookieName.toList)

theorem sessionPairs_append (pieces more : List (List Char)) :
    sessionPairs (pieces ++ more) = sessionPairs pieces ++ sessionPairs more := by
  rw [sessionPairs, List.filterMap_append, List.filter_append]
  rfl

/-- A header says what the first of these pairs says. -/
theorem ofCookies?_cookieHeader {pieces : List (List Char)} (hsome : pieces ≠ [])
    (hclosed : ∀ piece ∈ pieces, ';' ∉ piece) :
    ofCookies? (cookieHeader pieces) =
      (sessionPairs pieces).head?.bind fun pair => ofChars? pair.2 := by
  rw [ofCookies?, cookieHeader, String.toList_ofList, splitBy_intercalate hsome hclosed,
    sessionPairs, List.head?_filter]
  cases (pieces.filterMap fun piece => splitOnce? '=' (trimChars piece)).find?
      (·.1 == cookieName.toList) with
  | none => rfl
  | some pair => rfl

theorem sessionPairs_of_absent {pieces : List (List Char)}
    (hother : ∀ piece ∈ pieces, ∀ value, ¬ ShowsPair cookieName value piece) :
    sessionPairs pieces = [] := by
  rw [sessionPairs, List.filter_eq_nil_iff]
  rintro ⟨front, back⟩ hpair hname
  obtain ⟨piece, hmem, hsplit⟩ := List.mem_filterMap.1 hpair
  have hfront : front = cookieName.toList := beq_iff_eq.1 hname
  apply hother piece hmem (String.ofList back)
  rw [← splitOnce?_trimChars_iff, hsplit, hfront, String.toList_ofList]

/-- The first pair of the right name is the one that counts. -/
theorem ofCookies?_of_first {earlier later : List (List Char)} {own : List Char} {value : String}
    (hclosed : ∀ piece ∈ earlier ++ own :: later, ';' ∉ piece)
    (hother : ∀ piece ∈ earlier, ∀ value, ¬ ShowsPair cookieName value piece)
    (hown : ShowsPair cookieName value own) :
    ofCookies? (cookieHeader (earlier ++ own :: later)) = parse? value := by
  have hfirst : sessionPairs (own :: later) =
      (cookieName.toList, value.toList) :: sessionPairs later := by
    rw [sessionPairs, List.filterMap_cons, splitOnce?_trimChars_iff.2 hown]
    exact List.filter_cons_of_pos (beq_self_eq_true _)
  rw [ofCookies?_cookieHeader (by simp) hclosed, sessionPairs_append, sessionPairs_of_absent hother,
    hfirst]
  rfl

/-- Without a pair of the right name there is no session. -/
theorem ofCookies?_of_absent {pieces : List (List Char)}
    (hclosed : ∀ piece ∈ pieces, ';' ∉ piece)
    (hother : ∀ piece ∈ pieces, ∀ value, ¬ ShowsPair cookieName value piece) :
    ofCookies? (cookieHeader pieces) = none := by
  by_cases hsome : pieces = []
  · subst hsome
    rfl
  · rw [ofCookies?_cookieHeader hsome hclosed, sessionPairs_of_absent hother]
    rfl

/-- **The first session cookie decides.** A key is read back from its own text, which no other key
has and in which nothing separates cookies. Every header is one of pieces, each of which shows one
pair at most. The first piece that shows the session's name settles whose session it is, whatever
stands after it: the key whose text it has, or nobody's if its value is no key. A header in which no
piece shows that name is nobody's. -/
theorem first_session_cookie_decides :
    (∀ k : SessionKey, parse? k.text = some k) ∧
    Function.Injective text ∧
    (∀ k : SessionKey, ∀ c ∈ k.text.toList,
      c ≠ ';' ∧ c ≠ '=' ∧ c ≠ ',' ∧ isBlank c = false) ∧
    (∀ header, ∃ pieces, pieces ≠ [] ∧ (∀ piece ∈ pieces, ';' ∉ piece) ∧
      cookieHeader pieces = header) ∧
    (∀ piece name value name' value', ShowsPair name value piece →
      ShowsPair name' value' piece → name' = name ∧ value' = value) ∧
    (∀ earlier own later, (∀ piece ∈ earlier ++ own :: later, ';' ∉ piece) →
      (∀ piece ∈ earlier, ∀ value, ¬ ShowsPair cookieName value piece) →
      (∀ k : SessionKey, ShowsPair cookieName k.text own →
        ofCookies? (cookieHeader (earlier ++ own :: later)) = some k) ∧
      ∀ value, ShowsPair cookieName value own →
        ofCookies? (cookieHeader (earlier ++ own :: later)) = parse? value) ∧
    ∀ pieces, (∀ piece ∈ pieces, ';' ∉ piece) →
      (∀ piece ∈ pieces, ∀ value, ¬ ShowsPair cookieName value piece) →
      ofCookies? (cookieHeader pieces) = none := by
  refine ⟨ofChars?_text, text_injective, fun k c => mem_text, exists_cookieHeader,
    fun _ _ _ _ _ => ShowsPair.unique, ?_, fun _ => ofCookies?_of_absent⟩
  intro earlier own later hclosed hother
  constructor
  · intro k hown
    rw [ofCookies?_of_first hclosed hother hown]
    exact ofChars?_text k
  · intro value hown
    exact ofCookies?_of_first hclosed hother hown

/-- Two cookies of the session's name, of which one is no key's: who comes first is who counts. -/
theorem second_session_cookie_is_idle :
    let k : SessionKey := ⟨⟨.ofNat 1⟩, .ofNat 2⟩
    let own := " ".toList ++ k.pair.toList ++ "\t\u00a0".toList
    let theme := "theme=dark".toList
    let stray := " warden_session=nonsense".toList
    k.text = "00000000-0000-0000-0000-000000000001.00000000000000000000000000000002" ∧
      ofCookies? (cookieHeader [theme, own, stray]) = some k ∧
      ofCookies? (cookieHeader [theme, stray, own]) = none ∧
      ofCookies? (cookieHeader [theme]) = none := by
  intro k own theme stray
  have htheme : ∀ value, ¬ ShowsPair cookieName value theme := by
    intro value h
    have hshown : ShowsPair "theme" "dark" theme := splitOnce?_trimChars_iff.1 (by decide +kernel)
    exact absurd (hshown.unique h).1 (by decide)
  have hblank : (" ".toList ++ "\t\u00a0".toList).all isBlank = true := by decide
  have hown : ShowsPair cookieName k.text own := showsPair_pair k (List.all_eq_true.1 hblank)
  have hstray : ShowsPair cookieName "nonsense" stray :=
    splitOnce?_trimChars_iff.1 (by decide +kernel)
  have hclosed : ∀ piece ∈ [theme, own, stray], ';' ∉ piece := by decide +kernel
  obtain ⟨-, -, -, -, -, hfirst, habsent⟩ := first_session_cookie_decides
  refine ⟨by decide +kernel, ?_, ?_, ?_⟩
  · exact (hfirst [theme] own [stray] hclosed (by simpa using htheme)).1 k hown
  · have hswapped : ∀ piece ∈ [theme, stray, own], ';' ∉ piece := by decide +kernel
    have hnobody : parse? "nonsense" = none := by decide
    exact ((hfirst [theme] stray [own] hswapped (by simpa using htheme)).2 _ hstray).trans hnobody
  · exact habsent [theme] (by decide) (by simpa using htheme)

end SessionKey

end AcctAdmin.Server
