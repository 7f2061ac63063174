import AcctAdmin.Server.Execution
import AcctAdmin.Net.SocketAddress
import AcctAdmin.Protocol.Redacted
import AcctAdmin.Protocol.Generation
import AcctAdmin.Toml.Reader

/-!
# Server settings

What a server is told when it starts: where it listens, which generations it speaks, how long
sessions live, how large pages are, how many logins a host may try, and who its first
administrator is. Everything but the administrator has a standard value, so that an empty file is
a complete one. Settings are checked before they are used; the first thing wrong is reported.
-/

set_option autoImplicit false

namespace AcctAdmin.Server

open AcctAdmin.Protocol AcctAdmin.Text AcctAdmin.Net

/-! ## Settings -/

/-- How long a session may idle, and how often idle ones are swept, in seconds. -/
structure SessionSettings where
  idleTimeout : UInt64
  sweepInterval : UInt64
deriving DecidableEq, Inhabited

/-- How many logins a host may try within a window of so many seconds. -/
structure AttemptSettings where
  attempts : UInt32
  window : UInt64
deriving DecidableEq, Inhabited

/-- What a server is told when it starts. -/
structure Settings where
  listen : SocketAddress
  /-- The generations to speak, by their numbers. -/
  versions : List String
  session : SessionSettings
  pages : PageLimits
  attempts : AttemptSettings
  firstAdmin : Option FirstAdmin
deriving DecidableEq, Inhabited

def SessionSettings.standard : SessionSettings := ⟨1800, 60⟩

def PageLimits.standardLimits : PageLimits := ⟨50, 500⟩

def AttemptSettings.standard : AttemptSettings := ⟨10, 60⟩

def Settings.standard : Settings where
  listen := .v4 (.ofNat 0x7f000001) 7480
  versions := ["1.0", "1.1"]
  session := .standard
  pages := .standardLimits
  attempts := .standard
  firstAdmin := none

/-- A first administrator on one line, the password hidden. -/
def FirstAdmin.shown (a : FirstAdmin) : String :=
  shownRecord "BootstrapAdmin"
    [("name", quoted a.name), ("email", quoted a.email), ("real_name", quoted a.realName),
     ("password", redaction)]

/-! ## Errors -/

/-- How settings that are sound one by one do not make sense together, or have no effect. -/
inductive Flaw where
  | emptyPages
  | standardAboveMax
  | noSessionTime
  | noAttempts
deriving DecidableEq, Inhabited

def Flaw.message : Flaw → String
  | emptyPages => "page sizes must be positive"
  | standardAboveMax => "default_page_size exceeds max_page_size"
  | noSessionTime => "session intervals must be positive"
  | noAttempts => "rate limit must allow attempts"

/-- Why there are no settings. -/
inductive SettingsError where
  /-- There is no file, or it is not a text. -/
  | unreadable
  | malformed
  | unknownVersion (entry : String)
  | noVersions
  | flawed (flaw : Flaw)
deriving DecidableEq, Inhabited

/-- The text of an error, where it does not depend on the place of the file. -/
def SettingsError.message? : SettingsError → Option String
  | unreadable | malformed => none
  | unknownVersion entry => some ("unknown protocol version " ++ quoted entry)
  | noVersions => some "no protocol versions enabled"
  | flawed flaw => some flaw.message

/-! ## Checks -/

/-- The generation that an entry names by its numbers, blanks around it aside. -/
def generationNumbered? (entry : String) : Option Generation := do
  let (major, minor) ← splitOnce? '.' (trim entry).toList
  let major ← readBounded? UInt32.size major
  let minor ← readBounded? UInt32.size minor
  Identifier.generation? ⟨protocolName, UInt32.ofNat major, UInt32.ofNat minor⟩

/-- The generations that entries name, each once, where it comes first. -/
def generationsNumbered : List String → Except SettingsError (List Generation)
  | entries => do
    let found ← entries.mapM fun entry =>
      match generationNumbered? entry with
      | some g => .ok g
      | none => .error (SettingsError.unknownVersion entry)
    if found.isEmpty then .error .noVersions else .ok (firsts found)
where
  firsts (found : List Generation) : List Generation :=
    found.foldl (fun kept g =>
      if kept.any (·.identifier == g.identifier) then kept else kept ++ [g]) []

/-- The generations that a server with these settings speaks. -/
def Settings.generations (s : Settings) : Except SettingsError (List Generation) :=
  generationsNumbered s.versions

/-- The first flaw of settings, if there is one. -/
def Settings.flaw? (s : Settings) : Option Flaw :=
  if s.pages.standard = 0 ∨ s.pages.max = 0 then some .emptyPages
  else if s.pages.max < s.pages.standard then some .standardAboveMax
  else if s.session.idleTimeout = 0 ∨ s.session.sweepInterval = 0 then some .noSessionTime
  else if s.attempts.attempts = 0 ∨ s.attempts.window = 0 then some .noAttempts
  else none

/-- Lets settings pass that a server can run with. -/
def Settings.check (s : Settings) : Except SettingsError Settings := do
  let _ ← s.generations
  match s.flaw? with
  | some flaw => .error (.flawed flaw)
  | none => .ok s

/-! ## Reading -/

def readSession? (node : Toml.Node) : Option SessionSettings := do
  let r ← node.record? ["idle_timeout_secs", "sweep_interval_secs"]
  let standard := SessionSettings.standard
  let idle ← r.defaulted "idle_timeout_secs" Toml.Node.uint64? standard.idleTimeout
  let sweep ← r.defaulted "sweep_interval_secs" Toml.Node.uint64? standard.sweepInterval
  some ⟨idle, sweep⟩

def readPages? (node : Toml.Node) : Option PageLimits := do
  let r ← node.record? ["default_page_size", "max_page_size"]
  let standard := PageLimits.standardLimits
  let size ← r.defaulted "default_page_size" Toml.Node.uint32? standard.standard
  let max ← r.defaulted "max_page_size" Toml.Node.uint32? standard.max
  some ⟨size, max⟩

def readAttempts? (node : Toml.Node) : Option AttemptSettings := do
  let r ← node.record? ["attempts", "window_secs"]
  let standard := AttemptSettings.standard
  let attempts ← r.defaulted "attempts" Toml.Node.uint32? standard.attempts
  let window ← r.defaulted "window_secs" Toml.Node.uint64? standard.window
  some ⟨attempts, window⟩

def readFirstAdmin? (node : Toml.Node) : Option FirstAdmin := do
  let r ← node.record? ["name", "email", "real_name", "password"]
  let name ← r.required "name" Toml.Node.text?
  let email ← r.required "email" Toml.Node.text?
  let realName ← r.required "real_name" Toml.Node.text?
  let password ← r.required "password" Toml.Node.text?
  some ⟨name, email, realName, password⟩

/-- The settings in a document: what it does not mention is standard, and what is not a setting
does not matter. -/
def Settings.ofDocument? (members : Toml.Members) : Option Settings := do
  let r : Record Toml.Node := ⟨false, members⟩
  let standard := Settings.standard
  let listen ← r.defaulted "listen" (fun n => n.text?.bind SocketAddress.parse?) standard.listen
  let versions ← r.defaulted "versions" (Toml.Node.list? Toml.Node.text?) standard.versions
  let session ← r.defaulted "session" readSession? standard.session
  let pages ← r.defaulted "paging" readPages? standard.pages
  let attempts ← r.defaulted "rate_limit" readAttempts? standard.attempts
  let admin ← r.nullable "bootstrap" fun n => (readFirstAdmin? n).map some
  some ⟨listen, versions, session, pages, attempts, admin⟩

def Settings.ofBytes (bytes : ByteArray) : Except SettingsError Settings :=
  match String.fromUTF8? bytes with
  | none => .error .unreadable
  | some text =>
    match (Toml.Members.parse? text).bind Settings.ofDocument? with
    | none => .error .malformed
    | some settings => .ok settings

/-- The settings of a server, given what is in their file. A file that was asked for has to be
there; without one at the usual place, everything is standard. -/
def Settings.load (askedFor : Bool) : Option ByteArray → Except SettingsError Settings
  | some bytes => (Settings.ofBytes bytes).bind Settings.check
  | none => if askedFor then .error .unreadable else Settings.standard.check

/-- A server with these settings and nothing in it. -/
def Settings.server (s : Settings) : Service where
  store := .empty
  sessions := .empty (s.session.idleTimeout.toNat * 1000)
  attempts := .empty s.attempts.attempts.toNat (s.attempts.window.toNat * 1000)
  limits := s.pages

end AcctAdmin.Server
