import AcctAdmin.Console.Argument

/-!
# Usage

Why a command line ends before any command: it asked for help, or it is no line that this tool
understands.
-/

set_option autoImplicit false

namespace AcctAdmin.Console

/-- Why there is no command to carry out. -/
inductive Usage where
  | help
  | version
  | nothingAsked
  /-- Something was said, but no command named. -/
  | noCommand
  | unknownCommand (word : String)
  | unknownArgument (text : String)
  | noValue (argument : Argument)
  /-- A value for an option that takes none. -/
  | needlessValue (word : String)
  | badValue (argument : Argument) (text : String)
  /-- Two arguments that exclude each other, or one that was given twice. -/
  | conflict (first second : Argument)
  | missing (argument : Argument)
deriving DecidableEq, Inhabited

namespace Usage

/-- The word that names the reason, for scripts. -/
def word : Usage → String
  | help => "DisplayHelp"
  | version => "DisplayVersion"
  | nothingAsked => "DisplayHelpOnMissingArgumentOrSubcommand"
  | noCommand => "MissingSubcommand"
  | unknownCommand _ => "InvalidSubcommand"
  | unknownArgument _ => "UnknownArgument"
  | noValue _ => "InvalidValue"
  | needlessValue _ => "TooManyValues"
  | badValue .. => "ValueValidation"
  | conflict .. => "ArgumentConflict"
  | missing _ => "MissingRequiredArgument"

/-- How the tool is used, line by line. -/
def overview : List String :=
  ["usage: warden [--server URL] [-u USER] [--password TEXT] [--timeout SECONDS] COMMAND",
   "",
   "commands:",
   "  protocols",
   "  users search [QUERY] [--email TEXT] [--limit N] [--pages N]",
   "  users get ID",
   "  users create NAME --email TEXT --real-name TEXT --new-password TEXT [--admin]",
   "  users delete ID",
   "  users ban ID --reason TEXT [--expires UNIX_SECONDS]",
   "  users unban ID",
   "  audit search [--owner ID] [--kind WORD] [--message TEXT] [--limit N] [--pages N]"]

def lines : Usage → List String
  | help | nothingAsked => overview
  | version => ["warden 0.3.0"]
  | noCommand => ["error: a command is missing"]
  | unknownCommand word => ["error: unknown command " ++ Text.quoted word]
  | unknownArgument t => ["error: unexpected argument " ++ Text.quoted t]
  | noValue a => ["error: " ++ a.word ++ " needs a value"]
  | needlessValue word => ["error: " ++ word ++ " takes no value"]
  | badValue a t => ["error: " ++ Text.quoted t ++ " is no value for " ++ a.word]
  | conflict a b => ["error: " ++ a.word ++ " cannot be given beside " ++ b.word]
  | missing a => ["error: " ++ a.word ++ " is missing"]

/-- Asking for help or for the version is no failure. -/
def exit : Usage → UInt32
  | help | version => 0
  | _ => 2

end Usage

end AcctAdmin.Console
