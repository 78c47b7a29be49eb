import LoginServer.Config.Basic
import LoginServer.Site
import LoginServer.Toml.Parser

/-!
# Configuration files

A configuration file sets some of the settings; the others keep their standard
values, and keys that are not settings are ignored.
-/

namespace LoginServer.Config

/-- Why no configuration could be read from a file. -/
inductive LoadFault where
  | unreadable (path : String) (fault : IoFault)
  | malformed (path : String)
  deriving DecidableEq, Repr

/-- What is said of a text that is not a configuration. -/
def malformedText : String := "Failed to parse TOML"

/-- The wording of a fault, with its cause behind a colon. -/
def LoadFault.message : LoadFault → String
  | .unreadable path fault =>
      "Failed to read config file at '" ++ path ++ "': " ++ fault.text
  | .malformed path =>
      "Invalid config file '" ++ path ++ "': " ++ malformedText

/-- A text. -/
def text? : Toml.Value → Option String
  | .text content => some content
  | _ => none

/-- A whole number below a bound. -/
def natural? (bound : Nat) : Toml.Value → Option Nat
  | .integer number =>
      if 0 ≤ number ∧ number < bound then some number.toNat else none
  | _ => none

/-- Whether a value is a table or a list that holds nothing. -/
def isEmptyValue : Toml.Value → Bool
  | .table _ [] | .list [] => true
  | _ => false

/-- A way of serving: its word, or a table in which its word is the only key and
holds nothing. -/
def dispatch? : Toml.Value → Option Dispatch
  | .text word => Dispatch.ofWord? word
  | .table _ [(word, value)] =>
      if isEmptyValue value then Dispatch.ofWord? word else none
  | _ => none

/-- The value of a setting, or the given one if the setting is not made. -/
def setting {Kind : Type} (entries : Toml.Entries) (key : String)
    (read : Toml.Value → Option Kind) (otherwise : Kind) : Option Kind :=
  match entries.lookup key with
  | none => some otherwise
  | some value => read value

/-- The configuration that a table of settings describes, if every setting in it
has a value of the right kind. -/
def ofEntries? (entries : Toml.Entries) : Option Config := do
  let host ← setting entries "host" text? standard.host
  let port ← setting entries "port"
    (fun value => (natural? UInt16.size value).map Nat.toUInt16) standard.port
  let logLevel ← setting entries "log_level" text? standard.logLevel
  let maxClients ←
    setting entries "max_clients" (natural? UInt64.size) standard.maxClients
  let maxLineLength ←
    setting entries "max_line_length" (natural? UInt64.size)
      standard.maxLineLength
  let accountsFile ←
    setting entries "accounts_file" text? standard.accountsFile
  let dispatch ← setting entries "dispatch" dispatch? standard.dispatch
  let activityLog ← setting entries "activity_log"
    (fun value => (text? value).map some) standard.activityLog
  return {
    host, port, logLevel, maxClients, maxLineLength, accountsFile, dispatch,
    activityLog }

/-- The configuration that a text describes. -/
def parse? (text : String) : Option Config := do
  ofEntries? (← Toml.parse text)

/-- The file that is read when no other is named, if it exists. -/
def usualPath : String := "sessiond.toml"

/-- Reads the configuration from a file. -/
def fromFile (site : Site) (path : String) : Except LoadFault Config :=
  match site.readText path with
  | .error fault => .error (.unreadable path fault)
  | .ok text =>
      match parse? text with
      | none => .error (.malformed path)
      | some config => .ok config

/-- The configuration from a named file, or from the usual one. -/
def load (site : Site) : Option String → Except LoadFault Config
  | some path => fromFile site path
  | none =>
      if site.holds usualPath then fromFile site usualPath
      else .ok standard

/-- A configuration with the port and the way of serving that are given. -/
def overridden (config : Config) (port : Option UInt16)
    (dispatch : Option Dispatch) : Config :=
  { config with
    port := port.getD config.port
    dispatch := dispatch.getD config.dispatch }

end LoginServer.Config
