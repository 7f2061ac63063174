import AcctAdmin.Client.Agent
import AcctAdmin.Proofs.Text.Numeral
import AcctAdmin.Proofs.Text.Pieces
import AcctAdmin.Server.Front

/-!
# The session cookie

The text of a session's key is read back, alone and as the value of the cookie. A jar that holds
nothing but this cookie holds the one that was set last, or nothing once that was cleared.
-/

set_option autoImplicit false

namespace AcctAdmin.Server

open AcctAdmin.Text AcctAdmin.Client

/-! ## Characters -/

/-- The characters that keys are written in. -/
def keyChars : List Char := "0123456789abcdef-.".toList

/-- Whether a character neither ends a cookie nor is cut off at its ends. -/
def isPlain (c : Char) : Bool := c != ';' && !isBlank c

theorem isPlain_iff {c : Char} : isPlain c = true ↔ c ≠ ';' ∧ isBlank c = false := by
  simp [isPlain]

theorem plain_of_mem {cs : List Char} (h : cs.all isPlain = true) {c : Char} (hc : c ∈ cs) :
    c ≠ ';' ∧ isBlank c = false := isPlain_iff.1 (List.all_eq_true.1 h c hc)

theorem plain_cookieName : SessionKey.cookieName.toList.all isPlain = true := by decide

theorem plain_keyChars : keyChars.all isPlain = true := by decide

theorem digitChar_mem {n : Nat} (h : n < 16) : Nat.digitChar n ∈ "0123456789abcdef".toList := by
  revert n
  decide

theorem mem_of_mem_hexOfWidth {width n : Nat} {c : Char} (h : c ∈ hexOfWidth width n) :
    c ∈ "0123456789abcdef".toList := by
  induction width generalizing n with
  | zero => cases h
  | succ width ih =>
    rcases List.mem_append.1 h with hfront | hlast
    · exact ih hfront
    · rw [List.mem_singleton.1 hlast]
      exact digitChar_mem (Nat.mod_lt n (by decide))

theorem mem_of_mem_hyphenate {ds : List Char} {c : Char} (h : c ∈ Uuid.hyphenate ds) :
    c ∈ ds ∨ c = '-' := by
  unfold Uuid.hyphenate at h
  simp only [List.mem_append, List.mem_cons] at h
  have htake {i j : Nat} (h : c ∈ (ds.drop i).take j) : c ∈ ds :=
    List.mem_of_mem_drop (List.mem_of_mem_take h)
  rcases h with (((h | h | h) | h | h) | h | h) | h | h
  · exact .inl (List.mem_of_mem_take h)
  all_goals first
    | exact .inr h
    | exact .inl (htake h)
    | exact .inl (List.mem_of_mem_drop h)

theorem not_point_mem_hyphenated (id : Uuid) : '.' ∉ Uuid.hyphenate id.digits := by
  intro h
  rcases mem_of_mem_hyphenate h with hdigit | hhyphen
  · exact absurd (mem_of_mem_hexOfWidth hdigit) (by decide)
  · cases hhyphen

namespace SessionKey

theorem text_toList (k : SessionKey) :
    k.text.toList = Uuid.hyphenate k.principal.uuid.digits ++ '.' :: k.session.digits := by
  simp [text, AccountId.text, Uuid.hyphenated, Uuid.plain]

theorem mem_keyChars {k : SessionKey} {c : Char} (h : c ∈ k.text.toList) : c ∈ keyChars := by
  have hdigits : "0123456789abcdef".toList ⊆ keyChars := by decide
  rw [text_toList] at h
  rcases List.mem_append.1 h with hfront | hback
  · rcases mem_of_mem_hyphenate hfront with hdigit | rfl
    · exact hdigits (mem_of_mem_hexOfWidth hdigit)
    · decide
  · rcases List.mem_cons.1 hback with rfl | hdigit
    · decide
    · exact hdigits (mem_of_mem_hexOfWidth hdigit)

/-- A key is the one that its text names. -/
theorem ofChars?_text (k : SessionKey) : ofChars? k.text.toList = some k := by
  have hprincipal : Uuid.ofChars? (Uuid.hyphenate k.principal.uuid.digits) =
      some k.principal.uuid := by
    have hread := Uuid.parse?_hyphenated k.principal.uuid
    rwa [Uuid.parse?, Uuid.hyphenated, String.toList_ofList] at hread
  have hsession : Uuid.ofChars? k.session.digits = some k.session := by
    rw [Uuid.ofChars?, k.session.length_digits]
    exact k.session.ofDigits?_digits
  rw [ofChars?, text_toList, splitOnce?_append (not_point_mem_hyphenated _)]
  simp [hprincipal, hsession]

/-! ## Cookies -/

/-- The cookie that stands for a session, as it is shown to the server. -/
def pair (k : SessionKey) : String := cookieName ++ "=" ++ k.text

theorem pair_toList (k : SessionKey) :
    k.pair.toList = cookieName.toList ++ '=' :: k.text.toList := by
  simp [pair]

theorem not_separator_mem_pair {k : SessionKey} {c : Char} (h : c ∈ k.pair.toList) :
    c ≠ ';' ∧ isBlank c = false := by
  rw [pair_toList] at h
  rcases List.mem_append.1 h with hfront | hback
  · exact plain_of_mem plain_cookieName hfront
  · rcases List.mem_cons.1 hback with rfl | hvalue
    · decide
    · exact plain_of_mem plain_keyChars (mem_keyChars hvalue)

/-- A key is the one that its cookie names. -/
theorem ofCookies?_pair (k : SessionKey) : ofCookies? k.pair = some k := by
  have hone : splitBy (· == ';') k.pair.toList = [k.pair.toList] :=
    splitBy_of_absent fun c hc => beq_false_of_ne (not_separator_mem_pair hc).1
  have htrim : trimChars k.pair.toList = k.pair.toList :=
    trimChars_of_no_blank fun c hc => (not_separator_mem_pair hc).2
  have hsplit : splitOnce? '=' k.pair.toList = some (cookieName.toList, k.text.toList) := by
    rw [pair_toList]
    exact splitOnce?_append (by decide)
  simp only [ofCookies?, hone, List.filterMap_cons, htrim, hsplit, List.filterMap_nil]
  simp [ofChars?_text]

end SessionKey

/-! ## Jars -/

/-- The cookies of somebody whose session is the one given. -/
def cookiesOf (own : Option SessionKey) : List (String × String) :=
  (own.map fun k => (SessionKey.cookieName, k.text)).toList

theorem header?_cookiesOf (own : Option SessionKey) :
    (CookieJar.mk (cookiesOf own)).header?.map (·.2) = own.map (·.pair) := by
  cases own with
  | none => rfl
  | some k => rfl

/-- Whose session it is now that a change of it was announced. -/
def SessionChange.after (own : Option SessionKey) : Option SessionChange → Option SessionKey
  | none => own
  | some (.started k) => some k
  | some .ended => none

theorem receive_started (own : Option SessionKey) (k : SessionKey) :
    ((CookieJar.mk (cookiesOf own)).receive (sessionCookie (.started k))) =
      ⟨cookiesOf (some k)⟩ := by
  have hcookie : (sessionCookie (.started k)).toList =
      k.pair.toList ++ ';' :: " Path=/; HttpOnly; SameSite=Strict".toList := by
    simp [sessionCookie, SessionKey.pair]
  have hpair : (sessionCookie (.started k)).toList.takeWhile (· != ';') = k.pair.toList := by
    rw [hcookie]
    exact takeWhile_of_absent fun h => (SessionKey.not_separator_mem_pair h).1 rfl
  have hsplit : splitOnce? '=' k.pair.toList =
      some (SessionKey.cookieName.toList, k.text.toList) := by
    rw [SessionKey.pair_toList]
    exact splitOnce?_append (by decide)
  have hblank : ∀ c ∈ k.text.toList, isBlank c = false :=
    fun c hc => (plain_of_mem plain_keyChars (SessionKey.mem_keyChars hc)).2
  have hname : trimChars SessionKey.cookieName.toList = SessionKey.cookieName.toList :=
    trimChars_of_no_blank fun c hc => (plain_of_mem plain_cookieName hc).2
  have hnonempty : k.text ≠ "" := by
    intro h
    have hlist := k.text_toList
    rw [h] at hlist
    simp at hlist
  simp only [CookieJar.receive, hpair, hsplit, hname, trimChars_of_no_blank hblank,
    String.ofList_toList, if_neg hnonempty]
  cases own with
  | none => rfl
  | some old => simp [cookiesOf, insertEntry]

theorem receive_ended (own : Option SessionKey) :
    (CookieJar.mk (cookiesOf own)).receive (sessionCookie .ended) = ⟨cookiesOf none⟩ := by
  have hcookie : (sessionCookie .ended).toList = (SessionKey.cookieName.toList ++ ['=']) ++
      ';' :: " Path=/; Max-Age=0; HttpOnly; SameSite=Strict".toList := by
    simp [sessionCookie]
  have hpair : (sessionCookie .ended).toList.takeWhile (· != ';') =
      SessionKey.cookieName.toList ++ ['='] := by
    rw [hcookie]
    exact takeWhile_of_absent (by decide)
  have hsplit : splitOnce? '=' (SessionKey.cookieName.toList ++ ['=']) =
      some (SessionKey.cookieName.toList, []) := splitOnce?_append (by decide)
  have hname : String.ofList (trimChars SessionKey.cookieName.toList) = SessionKey.cookieName := by
    rw [trimChars_of_no_blank fun c hc => (plain_of_mem plain_cookieName hc).2,
      String.ofList_toList]
  have hempty : String.ofList (trimChars []) = "" := by simp [trimChars]
  simp only [CookieJar.receive, hpair, hsplit, hname, hempty, if_pos]
  cases own with
  | none => rfl
  | some old => simp [cookiesOf]

/-- **A jar keeps what it is told**: after each reply it holds the cookie of the session that its
owner has by then, and no other. -/
theorem receive_change (own : Option SessionKey) (change : Option SessionChange) :
    (change.map sessionCookie).toList.foldl CookieJar.receive ⟨cookiesOf own⟩ =
      ⟨cookiesOf (SessionChange.after own change)⟩ := by
  cases change with
  | none => rfl
  | some change =>
    simp only [Option.map_some, Option.toList_some, List.foldl_cons, List.foldl_nil]
    cases change with
    | started k => rw [receive_started, SessionChange.after]
    | ended => rw [receive_ended, SessionChange.after]

end AcctAdmin.Server
