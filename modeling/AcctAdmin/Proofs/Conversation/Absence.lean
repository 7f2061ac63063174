import AcctAdmin.Client.Link
import AcctAdmin.Proofs.Conversation.Relogin
import AcctAdmin.Proofs.Protocol.Codec
import AcctAdmin.Proofs.Text.Numeral

/-!
# What is taken for absence

Somebody who asks for something that may not be there is told that it is not when an error says so:
a refusal with that code, or a 404 that is no response at all. Errors come of every post that the
conversation makes on the way, its own logins included, and an error does not tell which post it
came of. So it is the last reply that decides (`absent_iff_last_reply`), whatever it was a reply to.
-/

set_option autoImplicit false

namespace AcctAdmin.Client

open AcctAdmin.Protocol AcctAdmin.Text

variable {World Channel : Type}

/-! ## Replies -/

/-- The response that a reply is, if it is one. -/
def HttpReply.response? (g : Generation) (reply : HttpReply) : Option Response :=
  if reply.contentType.getD "" = g.contentType then (g.readResponse reply.body).toOption else none

/-- Whether a reply says that something is not there: as a response with that code, or as a 404 that
is no response. -/
def HttpReply.SaysAbsent (g : Generation) (reply : HttpReply) : Prop :=
  match reply.response? g with
  | some (.refused r) => r.code = .notFound
  | some (.success _ _) => False
  | none => reply.status = 404

/-- Whether what a command has brought back is taken for absence. -/
def MeansAbsent : Except Error Response → Prop
  | .error e => e.isNotFound = true
  | .ok (.refused r) => r.code = .notFound
  | .ok (.success _ _) => False

theorem isNotFound_protocol {message : String} {attributes : Attributes} {status : Nat}
    (h : attributes.get? Error.statusAttribute = some (decimal status)) :
    (Error.protocol message attributes).isNotFound = true ↔ status = 404 := by
  have hword : (some (decimal status) == some "404") = true ↔ decimal status = decimal 404 := by
    rw [show decimal 404 = "404" by decide]
    simp
  simp only [Error.isNotFound, h]
  rw [hword]
  exact ⟨decimal_injective, congrArg decimal⟩

theorem isNotFound_ofCodec (e : CodecError) : (Error.ofCodec e).isNotFound = false := by
  have hnone : e.attributes.get? Error.statusAttribute = none := by
    cases e <;> simp [CodecError.attributes, Attributes.ofList, Attributes.get?_insert,
      Error.statusAttribute]
  simp [Error.isNotFound, Error.ofCodec, hnone]

theorem isNotFound_replyMismatch (c : Command) (id : RequestId) (reply : Reply) :
    (replyMismatch c id reply).isNotFound = false := by
  simp [Error.isNotFound, replyMismatch, Attributes.ofList, Attributes.get?_insert,
    Error.statusAttribute]

/-- What a reply is read as means absence just if the reply says so. -/
theorem meansAbsent_readReply (g : Generation) (k : CommandKind) (reply : HttpReply) :
    MeansAbsent (Link.readReply g k reply) ↔ reply.SaysAbsent g := by
  unfold Link.readReply HttpReply.SaysAbsent HttpReply.response?
  by_cases htype : reply.contentType.getD "" = g.contentType
  · simp only [htype, if_true]
    cases hread : g.readResponse reply.body with
    | ok response =>
      cases response with
      | success id answer => exact Iff.rfl
      | refused r => exact Iff.rfl
    | error e => exact isNotFound_protocol ((Attributes.get?_insert ..).trans (if_pos rfl))
  · simp only [htype, if_false]
    exact isNotFound_protocol ((Attributes.get?_insert ..).trans (if_pos rfl))

/-- A reply of the wrong kind is an error, but not one of absence. -/
theorem isNotFound_answerTo {c : Command} {result : Except Error Response} :
    (∃ e, answerTo c result = .error e ∧ e.isNotFound = true) ↔ MeansAbsent result := by
  unfold answerTo
  cases result with
  | error e => simp [Except.bind, Outcome.toAnswer, MeansAbsent]
  | ok response =>
    cases response with
    | refused r =>
      simp [Except.bind, Outcome.ofResponse, Outcome.toAnswer, MeansAbsent, Error.isNotFound]
    | success id answer =>
      refine iff_of_false ?_ fun h => h
      rintro ⟨e, he, hfound⟩
      simp only [Except.bind, Outcome.ofResponse] at he
      split at he
      · cases he
      · cases he
        rw [isNotFound_replyMismatch] at hfound
        cases hfound

/-! ## Posts -/

/-- Something that was posted, and what came of it. -/
structure Posting where
  url : Url
  result : Except ChannelError HttpReply

/-- Whether the reply to a posting says that something is not there. -/
def Posting.SaysAbsent (g : Generation) (p : Posting) : Prop :=
  ∃ reply, p.result = .ok reply ∧ reply.SaysAbsent g

/-- The same network, with everything written down that is posted. -/
def Network.recorded (net : Network World Channel) : Network (World × List Posting) Channel where
  dial w :=
    let (channel, world) := net.dial w.1
    (channel, world, w.2)
  get channel url timeout w :=
    let (result, channel, world) := net.get channel url timeout w.1
    (result, channel, world, w.2)
  post channel url contentType body timeout w :=
    let (result, channel, world) := net.post channel url contentType body timeout w.1
    (result, channel, world, w.2 ++ [⟨url, result⟩])
  close channel w := (net.close channel w.1, w.2)
  resolve := net.resolve

section Sending

variable {net : Network World Channel} {base : Url} {spoken : List Generation}
  {link link' : Link Channel} {c : Command} {timeout : Duration} {w w' : World}
  {result : Except Error Response}

/-- Whether a link leads to the same places as another. -/
structure Link.Alike (link link' : Link Channel) : Prop where
  generation : link'.generation = link.generation
  loginUrl : link'.loginUrl = link.loginUrl
  commandUrl : link'.commandUrl = link.commandUrl

/-- What is posted for a command: nothing, if the generation does not speak it. -/
theorem posts_of_send (log : List Posting)
    (hsend : (net.carrier base spoken).send link c timeout w = (result, link', w')) :
    ∃ posts, (net.recorded.carrier base spoken).send link c timeout (w, log) =
        (result, link', w', log ++ posts) ∧
      link.Alike link' ∧
      ((posts = [] ∧ link.generation.allowsCommand c.kind = false ∧ ¬ MeansAbsent result ∧
          ∃ e, result = .error e) ∨
        ∃ p, posts = [p] ∧ link.generation.allowsCommand c.kind = true ∧
          p.url = link.urlFor c.kind ∧ (MeansAbsent result ↔ p.SaysAbsent link.generation)) := by
  simp only [Network.carrier, Link.send, Generation.commandText] at hsend ⊢
  cases hspoken : link.generation.allowsCommand c.kind with
  | false =>
    simp only [hspoken, Bool.false_eq_true, if_false] at hsend ⊢
    cases hsend
    refine ⟨[], by simp, ⟨rfl, rfl, rfl⟩, .inl ⟨rfl, trivial, ?_, _, rfl⟩⟩
    simp [MeansAbsent, isNotFound_ofCodec]
  | true =>
    simp only [hspoken, if_true, Network.recorded] at hsend ⊢
    generalize (Envelope.render _).toUTF8 = body at hsend ⊢
    rcases hpost : net.post link.channel (link.urlFor c.kind) link.generation.contentType
      body timeout w with ⟨came, channel, world⟩
    simp only [hpost] at hsend ⊢
    cases came with
    | error e =>
      cases hsend
      refine ⟨_, rfl, ⟨rfl, rfl, rfl⟩, .inr ⟨_, rfl, trivial, rfl, iff_of_false ?_ ?_⟩⟩
      · cases e <;> simp [MeansAbsent, ChannelError.toError, Error.isNotFound]
      · rintro ⟨reply, hreply, -⟩
        cases hreply
    | ok reply =>
      cases hsend
      refine ⟨_, rfl, ⟨rfl, rfl, rfl⟩, .inr ⟨_, rfl, trivial, rfl, ?_⟩⟩
      rw [meansAbsent_readReply]
      constructor
      · exact fun h => ⟨reply, rfl, h⟩
      · rintro ⟨same, hsame, h⟩
        cases hsame
        exact h

end Sending

/-! ## Commands -/

namespace Conversation

variable {net : Network World Channel} {base : Url} {spoken : List Generation}
  {link link' : Link Channel} {c : Command} {login : Login} {timeout : Duration} {left : Nat}
  {posts later : List Posting} {p : Posting} {result : Except Error (Answer c)}

/-- Where is posted to for a command, if every chance to log in again is taken. -/
def places (link : Link Channel) (c : Command) : Nat → List Url
  | 0 => [link.urlFor c.kind]
  | left + 1 => link.urlFor c.kind :: link.loginUrl :: places link c left

/-- What was posted for a command that may be preceded by so many more logins, and what it comes
to. -/
structure Posts (link : Link Channel) (c : Command) (left : Nat) (posts : List Posting)
    (result : Except Error (Answer c)) : Prop where
  order : posts.map (·.url) <+: places link c left
  spoken : posts = [] ↔ link.generation.allowsCommand c.kind = false
  answered : posts.length % 2 = 0 → ∃ e, result = .error e
  absent : (∃ e, result = .error e ∧ e.isNotFound = true) ↔
    ∃ p, posts.getLast? = some p ∧ p.SaysAbsent link.generation

theorem places_congr (h : link.Alike link') : places link' c left = places link c left := by
  have hurl : link'.urlFor c.kind = link.urlFor c.kind := by
    simp only [Link.urlFor, h.loginUrl, h.commandUrl]
  induction left with
  | zero => simp only [places, hurl]
  | succ left ih => simp only [places, hurl, h.loginUrl, ih]

theorem Posts.of_alike (h : Posts link' c left posts result) (halike : link.Alike link') :
    Posts link c left posts result where
  order := places_congr halike ▸ h.order
  spoken := halike.generation ▸ h.spoken
  answered := h.answered
  absent := halike.generation ▸ h.absent

theorem Posts.nothing (hspoken : link.generation.allowsCommand c.kind = false)
    (herror : ∃ e, result = .error e)
    (h : ¬ ∃ e, result = .error e ∧ e.isNotFound = true) : Posts link c left [] result where
  order := List.nil_prefix
  spoken := by simp [hspoken]
  answered _ := herror
  absent := iff_of_false h (by simp)

theorem Posts.once (hspoken : link.generation.allowsCommand c.kind = true)
    (hurl : p.url = link.urlFor c.kind)
    (habsent : (∃ e, result = .error e ∧ e.isNotFound = true) ↔ p.SaysAbsent link.generation) :
    Posts link c left [p] result where
  order := by cases left <;> simp [places, hurl]
  spoken := by simp [hspoken]
  answered h := by cases h
  absent := by simpa using habsent

/-- A post whose reply does not say so does not decide. -/
theorem Posts.after {q : Posting} (hspoken : link.generation.allowsCommand c.kind = true)
    (hp : p.url = link.urlFor c.kind) (hq : q.url = link.loginUrl)
    (hnot : ¬ q.SaysAbsent link.generation) (h : Posts link c left posts result) :
    Posts link c (left + 1) (p :: q :: posts) result where
  order := by
    obtain ⟨rest, hrest⟩ := h.order
    exact ⟨rest, by simp [places, hp, hq, ← hrest]⟩
  spoken := by simp [hspoken]
  answered heven := by
    simp only [List.length_cons] at heven
    exact h.answered (by omega)
  absent := by
    rw [h.absent]
    cases posts with
    | nil => simp [hnot]
    | cons first rest => simp

/-- The login has the last word, and it is an error. -/
theorem Posts.relogin {q : Posting} {e : Error}
    (hspoken : link.generation.allowsCommand c.kind = true) (hp : p.url = link.urlFor c.kind)
    (hq : q.url = link.loginUrl) (habsent : e.isNotFound = true ↔ q.SaysAbsent link.generation) :
    Posts link c (left + 1) [p, q] (.error e) where
  order := by cases left <;> simp [places, hp, hq]
  spoken := by simp [hspoken]
  answered _ := ⟨e, rfl⟩
  absent := by simpa using habsent

/-- A refusal that can be mended comes in reply to a post, and is none of absence. -/
theorem posts_of_mendable {came : Except Error Response} {w w' : World} (log : List Posting)
    (hsend : (net.carrier base spoken).send link c timeout w = (came, link', w'))
    (hmend : Mendable c came) :
    ∃ p, (net.recorded.carrier base spoken).send link c timeout (w, log) =
        (came, link', w', log ++ [p]) ∧
      link.Alike link' ∧ link.generation.allowsCommand c.kind = true ∧
      p.url = link.urlFor c.kind ∧ ¬ p.SaysAbsent link.generation := by
  obtain ⟨posts, hrecorded, halike, hposts⟩ := posts_of_send log hsend
  obtain ⟨r, rfl, hr⟩ := hmend
  have hnot : ¬ MeansAbsent (.ok (.refused r)) := by
    intro (hcode : r.code = .notFound)
    simp [isMendable, Refusal.isAuthentication, hcode] at hr
  rcases hposts with ⟨-, -, -, e, he⟩ | ⟨p, rfl, hspoken, hp, habsent⟩
  · cases he
  · exact ⟨p, hrecorded, halike, hspoken, hp, habsent.not.1 hnot⟩

/-- What is posted for a login that a conversation makes on its own account. -/
theorem posts_of_relogin {answer : Except Error Response} {w w' : World} (log : List Posting)
    (hsend : (net.carrier base spoken).send link (.login login) timeout w = (answer, link', w')) :
    ∃ posts, (net.recorded.carrier base spoken).send link (.login login) timeout (w, log) =
        (answer, link', w', log ++ posts) ∧
      link.Alike link' ∧
      (∀ user, answerTo (.login login) answer = .ok user →
        ∃ q, posts = [q] ∧ q.url = link.loginUrl ∧ ¬ q.SaysAbsent link.generation) ∧
      (∀ e, answerTo (.login login) answer = .error e →
        posts = [] ∧ e.isNotFound = false ∨
        ∃ q, posts = [q] ∧ q.url = link.loginUrl ∧
          (e.isNotFound = true ↔ q.SaysAbsent link.generation)) := by
  obtain ⟨posts, hrecorded, halike, hposts⟩ := posts_of_send log hsend
  refine ⟨posts, hrecorded, halike, fun user haccepted => ?_, fun e hlost => ?_⟩
  · have hnot : ¬ MeansAbsent answer := by
      rw [← isNotFound_answerTo, haccepted]
      simp
    rcases hposts with ⟨-, -, -, e, rfl⟩ | ⟨q, rfl, -, hurl, habsent⟩
    · cases haccepted
    · exact ⟨q, rfl, hurl, habsent.not.1 hnot⟩
  · have hmeans : e.isNotFound = true ↔ MeansAbsent answer := by
      rw [← isNotFound_answerTo, hlost]
      simp
    rcases hposts with ⟨rfl, -, hnot, -⟩ | ⟨q, rfl, -, hurl, habsent⟩
    · exact .inl ⟨rfl, by simpa using hmeans.not.2 hnot⟩
    · exact .inr ⟨q, rfl, hurl, hmeans.trans habsent⟩

/-- A command that has the last word is all that is posted. -/
theorem settled_posts {came : Except Error Response} {w w' : World} (login : Login)
    (log : List Posting)
    (hsend : (net.carrier base spoken).send link c timeout w = (came, link', w'))
    (hfinal : Mendable c came → left = 0) (turns : Nat) :
    ∃ result after posts,
      attempt (net.carrier base spoken) c left ⟨.joined link login, timeout⟩ w =
        (result, after, w') ∧
      attempt (net.recorded.carrier base spoken) c left ⟨.joined link login, timeout⟩ (w, log) =
        (result, after, w', log ++ posts) ∧
      Posts link c turns posts result := by
  obtain ⟨posts, hrecorded, -, hposts⟩ := posts_of_send log hsend
  refine ⟨_, _, posts, attempt_settled hsend hfinal, attempt_settled hrecorded hfinal, ?_⟩
  rcases hposts with ⟨rfl, hspoken, hnot, e, rfl⟩ | ⟨p, rfl, hspoken, hurl, habsent⟩
  · exact .nothing hspoken ⟨e, rfl⟩ (isNotFound_answerTo.not.2 hnot)
  · exact .once hspoken hurl (isNotFound_answerTo.trans habsent)

theorem attempt_posts (net : Network World Channel) (base : Url) (spoken : List Generation)
    (login : Login) (timeout : Duration) (left : Nat) (link : Link Channel) (w : World)
    (log : List Posting) :
    ∃ result after w' posts,
      attempt (net.carrier base spoken) c left ⟨.joined link login, timeout⟩ w =
        (result, after, w') ∧
      attempt (net.recorded.carrier base spoken) c left ⟨.joined link login, timeout⟩ (w, log) =
        (result, after, w', log ++ posts) ∧
      Posts link c left posts result := by
  -- the links differ from turn to turn, but lead to the same places
  induction left, link, w using attempt_induction (net.carrier base spoken) c login timeout
    generalizing log with
  | settled left link w came link' w' hsend hfinal =>
    obtain ⟨result, after, posts, hplain, hwatched, hposts⟩ :=
      settled_posts login log hsend hfinal left
    exact ⟨result, after, w', posts, hplain, hwatched, hposts⟩
  | lost left link w came link' w' answer link'' w'' e hsend hmend hlogin he =>
    obtain ⟨p, hrecorded, halike, hspoken, hp, hsays⟩ := posts_of_mendable log hsend hmend
    obtain ⟨posts, hrecorded', -, -, hlost⟩ := posts_of_relogin (log ++ [p]) hlogin
    rw [halike.generation, halike.loginUrl] at hlost
    have hwatched := attempt_lost left hrecorded hmend hrecorded' he
    rw [List.append_assoc] at hwatched
    refine ⟨_, _, _, p :: posts, attempt_lost left hsend hmend hlogin he, hwatched, ?_⟩
    rcases hlost e he with ⟨rfl, hfound⟩ | ⟨q, rfl, hq, habsent⟩
    · exact .once hspoken hp (by simp [hfound, hsays])
    · exact .relogin hspoken hp hq habsent
  | again left link w came link' w' answer link'' w'' user hsend hmend hlogin haccepted ih =>
    obtain ⟨p, hrecorded, halike, hspoken, hp, -⟩ := posts_of_mendable log hsend hmend
    obtain ⟨posts, hrecorded', halike', hknown, -⟩ := posts_of_relogin (log ++ [p]) hlogin
    rw [halike.generation, halike.loginUrl] at hknown
    obtain ⟨q, rfl, hq, hnot⟩ := hknown user haccepted
    obtain ⟨result, after, w₃, posts, hplain, hwatched, hposts⟩ := ih (log ++ [p] ++ [q])
    refine ⟨result, after, w₃, p :: q :: posts, ?_, ?_, ?_⟩
    · rw [attempt_again left hsend hmend hlogin haccepted, hplain]
    · rw [attempt_again left hrecorded hmend hrecorded' haccepted, hwatched]
      simp
    · exact .after hspoken hp hq hnot ((hposts.of_alike halike').of_alike halike)

/-! ## What may not be there -/

variable {t after : Conversation (Link Channel)} {w w' : World}

/-- What is made of a result when its error may be one of absence. -/
def orAbsent (result : Except Error (Answer c)) : Except Error (Option (Answer c)) :=
  match result with
  | .ok payload => .ok (some payload)
  | .error e => if e.isNotFound then .ok none else .error e

theorem executeOptional_of_execute {World Line : Type} {carrier : Carrier World Line}
    {t after : Conversation Line} {w w' : World}
    (h : t.execute carrier c w = (result, after, w')) :
    t.executeOptional carrier c w = (orAbsent result, after, w') := by
  unfold executeOptional orAbsent
  rw [h]
  cases result with
  | ok payload => rfl
  | error e => rfl

theorem execute_apart {World Line : Type} {carrier : Carrier World Line} {bound : Option Line}
    {w : World} :
    (⟨.apart bound, timeout⟩ : Conversation Line).execute carrier c w =
      (.error .notLoggedIn, ⟨.apart bound, timeout⟩, w) := rfl

/-- An error is at most made an absence, never an answer. -/
theorem orAbsent_ne_some {e : Error} (payload : Answer c) :
    orAbsent (.error e : Except Error (Answer c)) ≠ .ok (some payload) := by
  unfold orAbsent
  dsimp only
  split
  · exact fun h => by cases h
  · exact fun h => by cases h

theorem orAbsent_eq_none :
    orAbsent result = .ok none ↔ ∃ e, result = .error e ∧ e.isNotFound = true := by
  cases result with
  | ok payload => simp [orAbsent]
  | error e =>
    cases hfound : e.isNotFound with
    | false => simp [orAbsent, hfound]
    | true => simp [orAbsent, hfound]

/-- Everything that is posted for a command; a login is not repeated. -/
theorem execute_posts (net : Network World Channel) (base : Url) (spoken : List Generation)
    (c : Command) (link : Link Channel) (login : Login) (timeout : Duration) (w : World) :
    ∃ result after w' posts,
      (⟨.joined link login, timeout⟩ : Conversation _).execute (net.carrier base spoken) c w =
        (result, after, w') ∧
      (⟨.joined link login, timeout⟩ : Conversation _).execute (net.recorded.carrier base spoken) c
        (w, []) = (result, after, w', posts) ∧
      Posts link c (if c.kind.isLogin then 0 else maxRelogins) posts result := by
  cases hc : c.kind.isLogin with
  | false => exact attempt_posts net base spoken login timeout maxRelogins link w []
  | true =>
    rcases hsend : (net.carrier base spoken).send link c timeout w with ⟨came, link', w'⟩
    have hfinal : Mendable c came → maxRelogins = 0 := by
      rintro ⟨r, -, hr⟩
      simp [isMendable, hc] at hr
    obtain ⟨result, after, posts, hplain, hwatched, hposts⟩ :=
      settled_posts login [] hsend hfinal 0
    exact ⟨result, after, w', posts, hplain, hwatched, hposts⟩

/-- **The last reply decides whether something is absent.** For a command that asks for something
that may not be there, a conversation that is logged in posts to where commands go, to where logins
go, and so on in turns, twice over at most; a command that is itself a login it posts once, to where
logins go, and one that the generation does not speak not at all. It reports that nothing is there
just if a reply came for the last post, and said so. A reply to one of its own logins is no
exception; but what a conversation has been given, it was given for the command itself. A
conversation that is not logged in posts nothing and says that it is not. -/
theorem absent_iff_last_reply {result : Except Error (Option (Answer c))}
    (h : t.executeOptional (net.carrier base spoken) c w = (result, after, w')) :
    ∃ posts,
      t.executeOptional (net.recorded.carrier base spoken) c (w, []) = (result, after, w', posts) ∧
      (∀ bound, t.standing = .apart bound → posts = [] ∧ result = .error .notLoggedIn) ∧
      ∀ link login, t.standing = .joined link login →
        (c.kind.isLogin = true → posts.map (·.url) <+: [link.loginUrl]) ∧
        (c.kind.isLogin = false → posts.map (·.url) <+:
          [link.commandUrl, link.loginUrl, link.commandUrl, link.loginUrl, link.commandUrl]) ∧
        (posts = [] ↔ link.generation.allowsCommand c.kind = false) ∧
        (posts.length % 2 = 0 → ∀ payload, result ≠ .ok (some payload)) ∧
        (result = .ok none ↔
          ∃ p, posts.getLast? = some p ∧ p.SaysAbsent link.generation) := by
  rcases t with ⟨standing, timeout⟩
  cases standing with
  | apart bound =>
    rw [executeOptional_of_execute execute_apart] at h
    cases h
    refine ⟨[], executeOptional_of_execute execute_apart, fun _ _ => ⟨rfl, rfl⟩, ?_⟩
    intro link login hstanding
    cases hstanding
  | joined link login =>
    obtain ⟨came, after', w'', posts, hplain, hwatched, hposts⟩ :=
      execute_posts net base spoken c link login timeout w
    rw [executeOptional_of_execute hplain] at h
    cases h
    refine ⟨posts, executeOptional_of_execute hwatched, ?_, ?_⟩
    · intro bound hstanding
      cases hstanding
    intro link₀ login₀ hstanding
    cases hstanding
    refine ⟨fun hc => ?_, fun hc => ?_, hposts.spoken, fun heven payload => ?_,
      orAbsent_eq_none.trans hposts.absent⟩
    · simpa [hc, places, Link.urlFor] using hposts.order
    · simpa [hc, places, maxRelogins, Link.urlFor] using hposts.order
    · obtain ⟨e, rfl⟩ := hposts.answered heven
      exact orAbsent_ne_some payload

/-- A network that brings back what it is told to, whatever is posted and wherever. -/
def scriptedNetwork : Network (List HttpReply) Unit where
  dial w := ((), w)
  get _ _ _ w := delivered w
  post _ _ _ _ _ w := delivered w
  close _ w := w
where
  delivered : List HttpReply → Delivery (List HttpReply) Unit
    | [] => (.error (.io "script exhausted"), (), [])
    | reply :: rest => (.ok reply, (), rest)

def accountsUrl (place : String) : Url :=
  ⟨"http", some ⟨"", none, .domain "accounts.example", none⟩, .rooted ["adm", "1", "1", place],
    none, none⟩

def accountsLink : Link Unit := ⟨generation11, accountsUrl "login", accountsUrl "command", ()⟩

def knownToAccounts : Conversation (Link Unit) :=
  ⟨.joined accountsLink default, standardTimeout⟩

def expiry : Refusal :=
  ⟨default, "session expired", .authentication, .empty, some "Log in again.", .client⟩

/-- The server no longer knows the session. -/
def expiryReply : HttpReply :=
  ⟨401, some generation11.contentType,
    ((generation11.responseText (.refused expiry)).toOption.getD "").toUTF8⟩

/-- There is nothing at a URL, not even a server of this protocol. -/
def nothingThere : HttpReply := ⟨404, some "text/html", "<h1>no</h1>".toUTF8⟩

theorem readReply_expiryReply (k : CommandKind) :
    Link.readReply generation11 k expiryReply = .ok (.refused expiry) := by
  obtain ⟨text, htext, hread⟩ := generation11.refusal_comes_back expiry
  have hbody : expiryReply.body = text.toUTF8 := by
    simp [expiryReply, htext, Except.toOption]
  have hcode : Code.ofText Code.authentication.text = .authentication := by decide
  simp only [Link.readReply, hbody, hread]
  simp [expiryReply, expiry, hcode]

theorem readReply_nothingThere (k : CommandKind) :
    Link.readReply generation11 k nothingThere =
      .error (Link.unexpectedContentType generation11 k "text/html" 404) := by
  have htype : "text/html" ≠ generation11.contentType := by decide
  simp [Link.readReply, nothingThere, htype]

theorem scriptedNetwork_send {c : Command} {reply : HttpReply} {came : Except Error Response}
    (hspoken : generation11.allowsCommand c.kind = true)
    (hread : Link.readReply generation11 c.kind reply = came) (timeout : Duration)
    (rest : List HttpReply) (log : List Posting) :
    (scriptedNetwork.carrier default []).send accountsLink c timeout (reply :: rest) =
      (came, accountsLink, rest) ∧
    (scriptedNetwork.recorded.carrier default []).send accountsLink c timeout
        (reply :: rest, log) =
      (came, accountsLink, rest, log ++ [⟨accountsLink.urlFor c.kind, .ok reply⟩]) := by
  obtain ⟨text, htext⟩ : ∃ text, accountsLink.generation.commandText c = .ok text :=
    ⟨_, if_pos hspoken⟩
  subst hread
  constructor
  · simp only [Network.carrier, Link.send, htext]
    rfl
  · simp only [Network.carrier, Link.send, htext]
    rfl

/-- A 404 at the place where commands go is absence. -/
theorem bare_404_is_absence :
    ∃ after posts,
      knownToAccounts.executeOptional (scriptedNetwork.carrier default []) (.userGet default)
        [nothingThere] = (.ok none, after, []) ∧
      knownToAccounts.executeOptional (scriptedNetwork.recorded.carrier default [])
        (.userGet default) ([nothingThere], []) = (.ok none, after, [], posts) ∧
      posts.map (·.url) <+: [accountsUrl "command", accountsUrl "login", accountsUrl "command",
        accountsUrl "login", accountsUrl "command"] ∧
      ∃ p, posts.getLast? = some p ∧ p.SaysAbsent generation11 := by
  obtain ⟨hsend, -⟩ := scriptedNetwork_send (c := .userGet default) rfl
    (readReply_nothingThere .userGet) standardTimeout [] []
  have hplain : knownToAccounts.executeOptional (scriptedNetwork.carrier default [])
      (.userGet default) [nothingThere] = (.ok none, knownToAccounts, []) :=
    executeOptional_of_execute (attempt_settled hsend nofun)
  obtain ⟨posts, hwatched, -, hjoined⟩ := absent_iff_last_reply hplain
  obtain ⟨-, horder, -, -, habsent⟩ := hjoined accountsLink default rfl
  exact ⟨_, posts, hplain, hwatched, horder rfl, habsent.1 rfl⟩

/-- The session has expired, and the login that is to mend it finds nothing where logins go. That
passes for the absence of what was asked for. -/
theorem failed_login_passes_for_absence :
    ∃ after posts,
      knownToAccounts.executeOptional (scriptedNetwork.recorded.carrier default [])
        (.userGet default) ([expiryReply, nothingThere], []) = (.ok none, after, [], posts) ∧
      posts = [⟨accountsUrl "command", .ok expiryReply⟩, ⟨accountsUrl "login", .ok nothingThere⟩] ∧
      accountsUrl "login" ≠ accountsUrl "command" := by
  have hsend : (scriptedNetwork.recorded.carrier default []).send accountsLink (.userGet default)
      standardTimeout ([expiryReply, nothingThere], []) =
        (.ok (.refused expiry), accountsLink, [nothingThere],
          [⟨accountsUrl "command", .ok expiryReply⟩]) :=
    (scriptedNetwork_send (c := .userGet default) rfl (readReply_expiryReply .userGet)
      standardTimeout [nothingThere] []).2
  have hlogin := (scriptedNetwork_send (c := .login default) rfl (readReply_nothingThere .login)
    standardTimeout [] [⟨accountsUrl "command", .ok expiryReply⟩]).2
  have hrun : knownToAccounts.execute (scriptedNetwork.recorded.carrier default [])
      (.userGet default) ([expiryReply, nothingThere], []) =
        (.error (Link.unexpectedContentType generation11 .login "text/html" 404), knownToAccounts,
          [], [⟨accountsUrl "command", .ok expiryReply⟩,
            ⟨accountsUrl "login", .ok nothingThere⟩]) :=
    attempt_lost 1 hsend ⟨expiry, rfl, rfl⟩ hlogin rfl
  exact ⟨_, _, executeOptional_of_execute hrun, rfl, by decide⟩

end Conversation

end AcctAdmin.Client
