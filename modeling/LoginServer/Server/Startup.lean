import LoginServer.Account.Directory
import LoginServer.Activity.Log
import LoginServer.Config.Basic
import LoginServer.Server.Dispatcher
import LoginServer.Site

/-!
# Starting and stopping a server

A server starts by loading its accounts, opening its activity log if it keeps
one, and listening.  Each of these can fail, and then there is no server.  It
stops by ending all connections and then its activity log.
-/

namespace LoginServer

/-- Why a server could not start. -/
inductive StartupFault where
  | accounts (path : String) (failure : Failure)
  | activityLog (path : String) (failure : Failure)
  | listening (endpoint : String) (fault : IoFault)
  deriving DecidableEq, Repr

namespace StartupFault

/-- What could not be done. -/
def context : StartupFault → String
  | .accounts path _ => "Failed to load accounts from '" ++ path ++ "'"
  | .activityLog path _ => "Failed to open activity log '" ++ path ++ "'"
  | .listening endpoint _ => "Failed to bind " ++ endpoint

/-- Why it could not be done. -/
def cause : StartupFault → String
  | .accounts _ failure | .activityLog _ failure => failure.message
  | .listening _ fault => fault.text

/-- What could not be done and why, in one line. -/
def message (fault : StartupFault) : String :=
  fault.context ++ ": " ++ fault.cause

/-- What could not be done and why, as the last words of a program. -/
def report (fault : StartupFault) : List String :=
  ["Error: " ++ fault.context, "", "Caused by:", "    " ++ fault.cause]

end StartupFault

/-- A server that listens. -/
structure Server where
  address : Address
  dispatcher : Dispatcher
  activity : Option ActivityLog

/-- What is left of a server that has stopped. -/
structure Stopped where
  shared : Shared
  activity : Option ActivityLog
  notices : List Notice

namespace Server

/-- Starts a server around a registry and an activity log. -/
def listen (site : Site) (config : Config) (registry : Registry)
    (activity : Option ActivityLog) :
    Except StartupFault Server × List Notice :=
  match site.listen config.host config.port with
  | .error fault =>
      let endpoint := config.host ++ ":" ++ toString config.port.toNat
      (.error (.listening endpoint fault), [])
  | .ok address =>
      let dispatcher := Dispatcher.start (.start config registry)
      (.ok { address, dispatcher, activity },
        [.listening address.render config.dispatch.word])

/-- The registry of the accounts in a file. -/
def loadRegistry (site : Site) (path : String) :
    Except StartupFault Registry × List Notice :=
  match site.readText path with
  | .error fault => (.error (.accounts path (.io fault)), [])
  | .ok source =>
      match Directory.load source with
      | .error fault => (.error (.accounts path fault.toFailure), [])
      | .ok accounts =>
          let (registry, notices) := Registry.ofAccounts accounts
          (.ok registry, notices ++ [.accountsLoaded registry.size path])

/-- The activity log of a configuration, if it asks for one. -/
def openActivity (site : Site) :
    Option String → Except StartupFault (Option ActivityLog) × List Notice
  | none => (.ok none, [.activityLogDisabled])
  | some path =>
      match site.openSink path with
      | .error fault => (.error (.activityLog path (.io fault)), [])
      | .ok sink => (.ok (some (.opened sink)), [.activityLogOpened path])

/-- Starts a server as its configuration says. -/
def start (site : Site) (config : Config) :
    Except StartupFault Server × List Notice :=
  let limits := Notice.limits config.maxClients config.maxLineLength
  match loadRegistry site config.accountsFile with
  | (.error fault, notices) => (.error fault, limits :: notices)
  | (.ok registry, loaded) =>
      match openActivity site config.activityLog with
      | (.error fault, notices) =>
          (.error fault, limits :: loaded ++ notices)
      | (.ok activity, opened) =>
          let (started, notices) := listen site config registry activity
          (started, limits :: loaded ++ opened ++ notices)

/-- Stops a server: first its dispatcher, then its activity log. -/
def stop (server : Server) : Stopped :=
  let (shared, ended) := server.dispatcher.stop
  let (activity, drained) :=
    match server.activity with
    | none => (none, [])
    | some log =>
        let (log, notices) := log.shutDown
        (some log, notices)
  { shared
    activity
    notices := ended ++ .waitingForTasks :: drained ++ [.shutdownComplete] }

end Server
end LoginServer
