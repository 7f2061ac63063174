import AcctAdmin.Client.Agent
import AcctAdmin.Console.Run
import AcctAdmin.Server.Hosted
import Std.Time.DateTime.Timestamp

/-!
# Command line

The console, over a server in the same process: the server takes its settings from a file, starts
empty but for its first administrator, and lives as long as the command.
-/

set_option autoImplicit false

namespace AcctAdmin.Main

open AcctAdmin.Console AcctAdmin.Server

/-- The values that environment variables have for arguments. -/
def environment : IO (Except Usage Given) := do
  let mut given : Given := []
  for a in [Argument.server, .user, .password, .timeout, .newPassword] do
    if let some name := a.environmentName? then
      if let some text ← IO.getEnv name then
        match a.shape.read? text with
        | some value => given := given ++ [⟨a, value⟩]
        | none => return .error (.badValue a text)
  return .ok given

/-- The settings in the file that the environment names, or else at the usual place. -/
def settings : IO (Except SettingsError Settings) := do
  let named ← IO.getEnv "WARDEN_CONFIG"
  let home := (← IO.getEnv "HOME").getD ""
  let path := named.getD (home ++ "/.config/warden/wardend.toml")
  let file ← (IO.FS.readBinFile path).toBaseIO
  return Settings.load named.isSome file.toOption

def run (i : Invocation) : IO UInt32 := do
  let now := (← Std.Time.Timestamp.now).toMillisecondsSinceUnixEpoch.toInt.toNat
  let supply ← IO.rand 0 (Nat.pow 2 64)
  let seed ← IO.rand 0 (Nat.pow 2 62)
  match (← settings).bind fun s => Hosted.start s now (supply * Nat.pow 2 62 + seed) with
  | .error e =>
    IO.eprintln (e.message?.getD "the settings cannot be read")
    return 1
  | .ok world =>
    let (outcome, _) := i.run (Client.Agent.network (Client.directWire Hosted.serve)) world
    for line in outcome.out do IO.println line
    for line in outcome.err do IO.eprintln line
    return outcome.exit

end AcctAdmin.Main

def main (args : List String) : IO UInt32 := do
  match (← AcctAdmin.Main.environment).bind fun given =>
    AcctAdmin.Console.Invocation.read given args with
  | .ok invocation => AcctAdmin.Main.run invocation
  | .error usage =>
    for line in usage.lines do
      if usage.exit = 0 then IO.println line else IO.eprintln line
    return usage.exit
