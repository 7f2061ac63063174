import AcctAdmin.Server.Front
import AcctAdmin.Server.Settings

/-!
# Hosted servers

A server together with what it draws on while it runs: the time, and identifiers that have not
been used. A hosted server can be the world that a client of the same process acts in.
-/

set_option autoImplicit false

namespace AcctAdmin.Server

open AcctAdmin.Protocol

structure Hosted where
  server : Service
  spoken : List Generation
  now : Nat
  /-- A random number; identifiers are made from it and the ones that follow. -/
  supply : Nat

namespace Hosted

/-- The address that callers in the same process are seen at. -/
def localHost : String := "127.0.0.1"

/-- What the `n`-th attempt at a command is given. Nothing else runs meanwhile. -/
def draw (h : Hosted) (n : Nat) : Draw where
  account := ⟨.ofRandom (h.supply + 2 * n + 1)⟩
  session := .ofRandom (h.supply + 2 * n + 2)
  hashing := .made
  meanwhile store := store

/-- How many numbers are set aside for one request: one for the exchange, and two for each attempt
at its command. -/
def perRequest : Nat := 64

def serve (r : Http.Request) (h : Hosted) : Http.Reply × Hosted :=
  let (reply, _, server) :=
    h.server.serve h.spoken ⟨localHost, h.now, ⟨.ofRandom h.supply⟩, h.draw⟩ r
  (reply, { h with server := server, supply := h.supply + perRequest })

/-- Starts a server, and creates its first administrator if the settings name one. -/
def start (s : Settings) (now supply : Nat) : Except SettingsError Hosted := do
  let spoken ← s.generations
  let h : Hosted := ⟨s.server, spoken, now, supply⟩
  match s.firstAdmin with
  | none => return h
  | some admin =>
    let (_, _, server) := h.server.bootstrap admin now (h.draw 0)
    return { h with server := server, supply := supply + perRequest }

end Hosted

end AcctAdmin.Server
