import AcctAdmin.Client.Link
import AcctAdmin.Proofs.Protocol.Offers
import AcctAdmin.Url.Reader
import Mathlib.Data.List.TakeWhile

/-!
# Places

A client that asks at the root of a server is led to the two endpoints of the generation that it
takes, and these are where the server has them.
-/

set_option autoImplicit false

namespace AcctAdmin

/-! ## Paths that lead on -/

namespace Url

/-- Whether a text is a path that leads on from where it is read, and nothing else. -/
structure LeadsOn (s : String) : Prop where
  clean : cleaned s = s.toList
  unschemed : splitScheme? s.toList = none
  whole : s.toList.all (fun c => !endsPath c) = true
  below : s.toList.head?.any (fun c => c != '/' && c != '\\') = true

/-- What leads on is gone down from where the base is. -/
theorem join?_of_leadsOn {s : String} (h : LeadsOn s) {base : Url} {passed : List String}
    (hpath : base.path = .rooted passed) :
    base.join? s = some { base with
      path := .rooted (segmentsBelow (isWebScheme base.scheme) passed.dropLast s.toList)
      query := none
      fragment := none } := by
  have htake : s.toList.takeWhile (fun c => !endsPath c) = s.toList :=
    List.takeWhile_eq_self_iff.2 (List.all_eq_true.1 h.whole)
  have hdrop : s.toList.dropWhile (fun c => !endsPath c) = [] :=
    List.dropWhile_eq_nil_iff.2 (List.all_eq_true.1 h.whole)
  have hbase : base.isBase = true := by rw [isBase, hpath]
  have hbelow := h.below
  simp only [join?, read?, h.clean, h.unschemed, hbase, if_true, readBelow?, htake, hdrop, hpath]
  cases hcs : s.toList with
  | nil => simp [hcs] at hbelow
  | cons c rest =>
    have hdown : ¬ (c = '/' ∨ c = '\\') := by simpa [hcs] using hbelow
    simp only [if_neg hdown]
    rfl

/-- Nothing leads on from where there is no root. -/
theorem join?_of_rootless {s text : String} (h : LeadsOn s) {base : Url}
    (hpath : base.path = .rootless text) : base.join? s = none := by
  have hbase : base.isBase = false := by rw [isBase, hpath]
  have hhead : ¬ s.toList.head? = some '#' := by
    intro hhash
    obtain ⟨rest, hrest⟩ := List.head?_eq_some_iff.1 hhash
    have hwhole := h.whole
    simp [hrest, endsPath] at hwhole
  simp [join?, read?, h.clean, h.unschemed, hbase, hhead]

theorem resolve_of_leadsOn {s : String} (h : LeadsOn s) {base : Url} {passed : List String}
    (hpath : base.path = .rooted passed) :
    base.resolve s = .ok { base with
      path := .rooted (segmentsBelow (isWebScheme base.scheme) passed.dropLast s.toList)
      query := none
      fragment := none } := by
  rw [resolve, join?_of_leadsOn h hpath]

theorem resolve_of_rootless {s text : String} (h : LeadsOn s) {base : Url}
    (hpath : base.path = .rootless text) : base.resolve s = .error "the path is no URL" := by
  rw [resolve, join?_of_rootless h hpath]

end Url

end AcctAdmin

namespace AcctAdmin.Client

open AcctAdmin.Protocol AcctAdmin.Server AcctAdmin.Text

variable {g : Generation} {base : Url} {e : Endpoint}

theorem forall_generations {P : Generation → Prop} :
    (∀ g ∈ generations, P g) ↔ P generation10 ∧ P generation11 := by
  simp [generations]

/-! ## The way to a generation -/

/-- The segments of the path that leads to a generation. -/
def wayTo (g : Generation) : List String :=
  ["adm", decimal g.major.toNat, decimal g.minor.toNat]

theorem leadsOn_endpointPath (hg : g ∈ generations) : Url.LeadsOn g.endpointPath := by
  revert g
  rw [forall_generations]
  constructor <;> exact ⟨by decide, by decide, by decide, by decide⟩

theorem segmentsBelow_endpointPath (hg : g ∈ generations) (isWeb : Bool) (passed : List String) :
    Url.segmentsBelow isWeb passed g.endpointPath.toList = passed ++ wayTo g ++ [""] := by
  have hway : ∀ g ∈ generations, Url.segmentsBelow isWeb passed g.endpointPath.toList =
      (wayTo g).foldl (fun passed segment => passed ++ [segment]) passed ++ [""] := by
    rw [forall_generations]
    constructor <;> cases isWeb <;> rfl
  rw [hway g hg]
  simp [wayTo]

theorem leadsOn_endpoint (e : Endpoint) : Url.LeadsOn e.text := by
  cases e <;> exact ⟨by decide, by decide, by decide, by decide⟩

theorem segmentsBelow_endpoint (isWeb : Bool) (passed : List String) (e : Endpoint) :
    Url.segmentsBelow isWeb passed e.text.toList = passed ++ [e.text] := by
  cases e <;> cases isWeb <;> rfl

/-- A place in a directory of a base. -/
def placeUnder (base : Url) (passed : List String) (place : String) : Url :=
  { base with path := .rooted (passed ++ [place]), query := none, fragment := none }

/-- A place below the generation that a base leads to. -/
def placeBelow (base : Url) (g : Generation) (place : String) : Url :=
  { base with path := .rooted (wayTo g ++ [place]), query := none, fragment := none }

/-- The path of an endpoint's URL is the one that the server has the endpoint at. -/
theorem path_placeBelow (hg : g ∈ generations) (base : Url) (e : Endpoint) :
    (placeBelow base g e.text).path.text = endpointPath g e := by
  have hpath : (UrlPath.rooted (wayTo g ++ [e.text])).text = endpointPath g e := by
    revert g
    rw [forall_generations]
    cases e <;> decide
  exact hpath

/-! ## Links -/

variable {World Channel : Type} {channel : Channel}

/-- The link to a generation in a directory of a base. -/
def linkUnder (base : Url) (passed : List String) (g : Generation) (channel : Channel) :
    Link Channel :=
  ⟨g, placeUnder base (passed ++ wayTo g) Endpoint.login.text,
    placeUnder base (passed ++ wayTo g) Endpoint.command.text, channel⟩

/-- The link to a generation of the server that a base belongs to. -/
def linkTo (base : Url) (g : Generation) (channel : Channel) : Link Channel :=
  ⟨g, placeBelow base g Endpoint.login.text, placeBelow base g Endpoint.command.text, channel⟩

theorem ofEndpoint_placeUnder (g : Generation) (base : Url) (passed : List String)
    (channel : Channel) :
    Link.ofEndpoint g (placeUnder base (passed ++ wayTo g) "") channel =
      .ok (linkUnder base passed g channel) := by
  set directory := placeUnder base (passed ++ wayTo g) "" with hdirectory
  have hsame : directory.asDirectory = directory := by
    simp [hdirectory, placeUnder, Url.asDirectory, UrlPath.asDirectory]
  have hplace (e : Endpoint) : Link.placeBelow directory e.text =
      .ok (placeUnder base (passed ++ wayTo g) e.text) := by
    rw [Link.placeBelow, Url.join?_of_leadsOn (leadsOn_endpoint e) rfl, segmentsBelow_endpoint,
      List.dropLast_concat]
    rfl
  have hlogin := hplace .login
  have hcommand := hplace .command
  simp only [Endpoint.text] at hlogin hcommand
  rw [Link.ofEndpoint, hsame, hlogin, hcommand]
  rfl

section Negotiating

variable {net : Network World Channel} {spoken : List Generation} {timeout : Duration}
  {w w' : World} {channel' : Channel} {reply : HttpReply}

theorem endpointOf_endpointPath (hresolve : net.resolve = Url.resolve) (hg : g ∈ generations)
    {passed : List String} (hpath : base.path = .rooted passed) :
    Link.endpointOf net base g.endpointPath =
      .ok (placeUnder base (passed.dropLast ++ wayTo g) "") := by
  rw [Link.endpointOf, hresolve, Url.resolve_of_leadsOn (leadsOn_endpointPath hg) hpath]
  simp [placeUnder, Url.asDirectory, UrlPath.asDirectory, segmentsBelow_endpointPath hg]

theorem endpointOf_of_rootless (hresolve : net.resolve = Url.resolve) (hg : g ∈ generations)
    {text : String} (hpath : base.path = .rootless text) :
    ∃ e, Link.endpointOf net base g.endpointPath = .error e := by
  rw [Link.endpointOf, hresolve, Url.resolve_of_rootless (leadsOn_endpointPath hg) hpath]
  exact ⟨_, rfl⟩

/-- What the advertisement of a server settles. -/
theorem settle_of_shown (hspoken : spoken ⊆ generations) (hsome : spoken ≠ [])
    (hstatus : reply.status = 200)
    (hbody : reply.body = (advertisementOf spoken).render.toUTF8) :
    settle net base (standardGenerations.map Link.speaking) reply =
      (Link.endpointOf net base (latest spoken).endpointPath).map
        fun endpoint => ((Link.speaking (latest spoken) : Supported World Channel (Link Channel)),
          endpoint) := by
  set supported : List (Supported World Channel (Link Channel)) :=
    standardGenerations.map Link.speaking
  have hchoice : choose? Supported.generation (advertisementOf spoken).offers supported =
      some ⟨Link.speaking (latest spoken), (latest spoken).identifier,
        (latest spoken).endpointPath⟩ := by
    refine (choose?_map Supported.generation _ Link.speaking standardGenerations).trans ?_
    exact congrArg (Option.map (Choice.map Link.speaking)) (select?_advertisement hspoken hsome)
  rw [settle, hstatus, hbody, Advertisement.ofBytes?_render]
  simp only [hchoice]
  cases Link.endpointOf net base (latest spoken).endpointPath <;> rfl

/-- A client that is shown what a server offers opens a link to the last generation that the server
speaks, in the directory that its base is in. -/
theorem negotiate_of_rooted (hresolve : net.resolve = Url.resolve)
    (hspoken : spoken ⊆ generations) (hsome : spoken ≠ []) {passed : List String}
    (hpath : base.path = .rooted passed)
    (hget : net.get channel base timeout w = (.ok reply, channel', w'))
    (hstatus : reply.status = 200)
    (hbody : reply.body = (advertisementOf spoken).render.toUTF8) :
    negotiate net base (standardGenerations.map Link.speaking) channel timeout w =
      (.ok (linkUnder base passed.dropLast (latest spoken) channel'), w') := by
  have hg := hspoken (latest_mem hspoken hsome)
  rw [negotiate, hget]
  simp only [settle_of_shown hspoken hsome hstatus hbody,
    endpointOf_endpointPath hresolve hg hpath]
  exact congrArg (·, w') (ofEndpoint_placeUnder (latest spoken) base passed.dropLast channel')

/-- At the root of a server that is the link to it. -/
theorem negotiate_of_shown (hresolve : net.resolve = Url.resolve)
    (hspoken : spoken ⊆ generations) (hsome : spoken ≠ []) (hroot : base.path = .rooted [""])
    (hget : net.get channel base timeout w = (.ok reply, channel', w'))
    (hstatus : reply.status = 200)
    (hbody : reply.body = (advertisementOf spoken).render.toUTF8) :
    negotiate net base (standardGenerations.map Link.speaking) channel timeout w =
      (.ok (linkTo base (latest spoken) channel'), w') :=
  negotiate_of_rooted hresolve hspoken hsome hroot hget hstatus hbody

end Negotiating

end AcctAdmin.Client
