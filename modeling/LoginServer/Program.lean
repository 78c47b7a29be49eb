import LoginServer.CommandLine
import LoginServer.Config.File
import LoginServer.LogFilter
import LoginServer.Server.Startup
import LoginServer.Text.Terminal

/-!
# The program

What the program does with its arguments before it serves: it prints its
version, complains about arguments or a configuration it cannot use, or starts a
server.
-/

namespace LoginServer.Program

/-- The version of the program. -/
def version : String := "0.3.1"

/-- How a run of the program begins to end. -/
inductive Ending where
  | exit (code : UInt8)
  | serving (server : Server) (filter : LogFilter)

/-- What a run prints before it ends or serves. -/
structure Report where
  output : List String
  complaints : List String
  ending : Ending

/-- A notice as a line of output. -/
def outputLine (notice : Notice) : String :=
  notice.level.label ++ " " ++ notice.source ++ ": "
    ++ Text.disarmed notice.message

/-- The lines of output for the notices that a filter shows. -/
def outputLines (filter : LogFilter) (notices : List Notice) : List String :=
  (notices.filter filter.shows).map outputLine

/-- A run that only complains. -/
def complain (complaints : List String) : Report :=
  { output := [], complaints, ending := .exit 1 }

/-- Starts a server with a configuration, unless the configuration cannot be
used. -/
def start (site : Site) (config : Config) : Report :=
  let (filter, complaints) := LogFilter.parse config.logLevel
  match config.validate with
  | (.error flaw, _) =>
      { output := outputLines filter [.invalidConfiguration flaw.message]
        complaints
        ending := .exit 1 }
  | (.ok (), warned) =>
      let (started, notices) := Server.start site config
      let notices := warned ++ .starting version :: notices
      match started with
      | .error fault =>
          { output := outputLines filter
              (notices ++ [.runtimeFailed fault.message])
            complaints := complaints ++ fault.report
            ending := .exit 1 }
      | .ok server =>
          { output := outputLines filter notices
            complaints
            ending := .serving server filter }

/-- The configuration that arguments lead to, or what the program does
instead of starting a server. -/
def prepare (site : Site) (arguments : List String) : Except Report Config :=
  if arguments.contains "--version" then
    .error
      { output := ["sessiond version " ++ version]
        complaints := []
        ending := .exit 0 }
  else
    match CommandLine.parse arguments with
    | .error fault => .error (complain [fault.message, CommandLine.usage])
    | .ok line =>
        match Config.load site line.configPath with
        | .error fault =>
            .error (complain
              ["Failed to load configuration: " ++ fault.message])
        | .ok config => .ok (config.overridden (some line.port) line.dispatch)

/-- Runs the program with arguments. -/
def run (site : Site) (arguments : List String) : Report :=
  match prepare site arguments with
  | .error report => report
  | .ok config => start site config

end LoginServer.Program
