import LoginServer.Server.Shared
import LoginServer.Session
import LoginServer.Text.Quoted

/-!
# Inspection texts

The parts of a server written out for an operator: the name of a thing and its
fields in curly brackets, texts in quotes.  Two dots stand for fields that are
left out.
-/

namespace LoginServer.Inspect

/-- A name and the fields between curly brackets. -/
def record (name : String) (fields : List (String × String)) : String :=
  let items := fields.map fun field => field.1 ++ ": " ++ field.2
  name ++ " \x7b " ++ ", ".intercalate items ++ " \x7d"

/-- A name and some of the fields. -/
def openRecord (name : String) (fields : List (String × String)) : String :=
  let items := fields.map fun field => field.1 ++ ": " ++ field.2
  name ++ " \x7b " ++ ", ".intercalate (items ++ [".."]) ++ " \x7d"

/-- The word for a status. -/
def status : Status → String
  | .active => "Active"
  | .banned => "Banned"

/-- The word for a way of serving. -/
def dispatch : Dispatch → String
  | .poll => "Poll"
  | .worker => "Worker"

/-- A text that may be absent. -/
def optionalText : Option String → String
  | none => "None"
  | some text => "Some(" ++ Text.quote text ++ ")"

/-- An account. -/
def account (account : Account) : String :=
  record "Account"
    [ ("username", Text.quote account.username),
      ("status", status account.status),
      ("in_session", toString account.inSession) ]

/-- A registry: its accounts by their names, in order. -/
def registry (registry : Registry) : String :=
  let entries := registry.accounts.map fun entry =>
    Text.quote entry.username ++ ": " ++ account entry
  let data := "\x7b" ++ ", ".intercalate entries ++ "\x7d"
  record "AccountRegistry" [("accounts", record "Mutex" [("data", data)])]

/-- The state of a session. -/
def sessionState : SessionState → String
  | .unauthenticated => "Unauthenticated"
  | .authenticated username => "Authenticated(" ++ Text.quote username ++ ")"

/-- A session. -/
def session (session : Session) : String :=
  openRecord "Session"
    [ ("session_id", toString session.id.toNat),
      ("peer", session.peer.render),
      ("state", sessionState session.state) ]

/-- A configuration. -/
def config (config : Config) : String :=
  record "Config"
    [ ("host", Text.quote config.host),
      ("port", toString config.port.toNat),
      ("log_level", Text.quote config.logLevel),
      ("max_clients", toString config.maxClients),
      ("max_line_length", toString config.maxLineLength),
      ("accounts_file", Text.quote config.accountsFile),
      ("dispatch", dispatch config.dispatch),
      ("activity_log", optionalText config.activityLog) ]

/-- The counters. -/
def counters (counters : Counters) : String :=
  record "StatsState"
    [ ("total_connections", toString counters.total.toNat),
      ("refused_connections", toString counters.refused.toNat),
      ("connected_clients", toString counters.connected.toNat),
      ("total_commands", toString counters.commands.toNat) ]

/-- What connections share. -/
def shared (shared : Shared) : String :=
  openRecord "ServerState"
    [ ("config", config shared.config),
      ("registry", registry shared.registry),
      ("stats", counters shared.counters) ]

end LoginServer.Inspect
