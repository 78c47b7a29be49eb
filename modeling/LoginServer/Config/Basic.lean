import LoginServer.Notice
import LoginServer.Protocol.Frame
import LoginServer.Text.Blank

/-!
# Configuration

The settings of a server, their defaults, and the conditions on them.
-/

namespace LoginServer

/-- How connections are served. -/
inductive Dispatch where
  /-- One loop waits for all connections. -/
  | poll
  /-- One worker for each connection. -/
  | worker
  deriving DecidableEq, Repr

namespace Dispatch

/-- The word for a way of serving. -/
def word : Dispatch → String
  | .poll => "poll"
  | .worker => "worker"

/-- The way of serving with exactly the given word. -/
def ofWord? (word : String) : Option Dispatch :=
  if word = "poll" then some .poll
  else if word = "worker" then some .worker
  else none

@[simp] theorem ofWord?_word (dispatch : Dispatch) :
    ofWord? dispatch.word = some dispatch := by
  cases dispatch <;> rfl

end Dispatch

/-- The settings of a server. -/
structure Config where
  host : String
  port : UInt16
  logLevel : String
  /-- Connections beyond this number are refused. -/
  maxClients : Nat
  /-- The most bytes of a client line, without its terminator. -/
  maxLineLength : Nat
  accountsFile : String
  dispatch : Dispatch
  /-- The file to which exchanges are recorded. -/
  activityLog : Option String
  deriving DecidableEq, Repr

namespace Config

/-- The settings of a server that is told nothing. -/
def standard : Config :=
  { host := "0.0.0.0"
    port := 5550
    logLevel := "info"
    maxClients := 1024
    maxLineLength := Frame.defaultLimit
    accountsFile := "account.txt"
    dispatch := .worker
    activityLog := none }

instance : Inhabited Config := ⟨standard⟩

/-- The setting that makes a configuration unusable. -/
inductive Flaw where
  | zeroPort
  | blankHost
  | noClients
  | noLineLength
  | blankAccountsFile
  deriving DecidableEq, Repr

/-- The wording of a flaw. -/
def Flaw.message : Flaw → String
  | .zeroPort => "port cannot be 0"
  | .blankHost => "host cannot be empty"
  | .noClients => "max_clients cannot be 0"
  | .noLineLength => "max_line_length cannot be 0"
  | .blankAccountsFile => "accounts_file cannot be empty"

/-- The first flaw of a configuration. -/
def flaw? (config : Config) : Option Flaw :=
  if config.port = 0 then some .zeroPort
  else if Text.isAllBlank config.host.toList then some .blankHost
  else if config.maxClients = 0 then some .noClients
  else if config.maxLineLength = 0 then some .noLineLength
  else if Text.isAllBlank config.accountsFile.toList then
    some .blankAccountsFile
  else none

/-- The number of connections above which polling them is worth a warning. -/
def manyPolled : Nat := 4096

/-- Checks a configuration.  One that can be used may still be worth a
warning. -/
def validate (config : Config) : Except Flaw Unit × List Notice :=
  match config.flaw? with
  | some flaw => (.error flaw, [])
  | none =>
      if config.dispatch = .poll ∧ manyPolled < config.maxClients then
        (.ok (), [.manyPolledClients config.maxClients])
      else (.ok (), [])

end Config
end LoginServer
