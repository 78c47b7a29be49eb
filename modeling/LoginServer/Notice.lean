import LoginServer.Address.Basic
import LoginServer.Failure

/-!
# Notices

What the server tells its operator.  A notice names its cause; its level, the
part of the program it comes from, and its wording are functions of that cause.
Operations return their notices in the order in which they arise.  What is told
of panics and of tasks that outlast a time limit is left out.
-/

namespace LoginServer

/-- The weight of a notice. -/
inductive Level where
  | debug
  | info
  | warn
  | error
  deriving DecidableEq, Repr

namespace Level

/-- The word for a level. -/
def label : Level → String
  | .debug => "DEBUG"
  | .info => "INFO"
  | .warn => "WARN"
  | .error => "ERROR"

/-- Levels in ascending order of weight. -/
def rank : Level → Nat
  | .debug => 1
  | .info => 2
  | .warn => 3
  | .error => 4

end Level

/-- Something worth telling the operator. -/
inductive Notice where
  -- The account directory.
  | duplicateAccount (username : String)
  | accountBusy (username : String)
  | accountReleased (username : String)
  -- One session.
  | commandReceived (session : UInt64) (keyword : String) (peer : Address)
  | loggedIn (session : UInt64) (username : String) (peer : Address)
  | postAccepted (session : UInt64) (byteCount : Nat)
  | loggedOut (session : UInt64) (username : String)
  -- Framing and admission.
  | tailDiscarded (byteCount : Nat)
  | slotReleased (session : UInt64) (peer : Address)
  -- The activity log.
  | activityLogOpened (path : String)
  | activityQueueFull
  | activityWriterGone
  | activityDraining
  | activityWriteFailed (fault : IoFault)
  | activityFlushFailed (fault : IoFault)
  -- Configuration and startup.
  | manyPolledClients (limit : Nat)
  | starting (version : String)
  | invalidConfiguration (reason : String)
  | runtimeFailed (reason : String)
  | limits (clients lineLength : Nat)
  | accountsLoaded (count : Nat) (path : String)
  | activityLogDisabled
  | listening (endpoint dispatch : String)
  -- Connections under the polling dispatcher.
  | polledAccepted (peer : Address)
  | polledRefused (peer : Address) (failure : Failure)
  | polledGreetingFailed (peer : Address) (failure : Failure)
  | polledClosed (peer : Address)
  | polledRejected (peer : Address) (failure : Failure)
  | polledFailed (peer : Address) (failure : Failure)
  | polledAcceptFailed (fault : IoFault)
  | pollStopped
  | polledAllClosed (count : Nat)
  -- Connections under the worker dispatcher.
  | workerAccepted (peer : Address)
  | workerRefused (peer : Address) (failure : Failure)
  | workerInterrupted (peer : Address)
  | workerRejected (peer : Address) (failure : Failure)
  | workerFlushFailed (peer : Address) (failure : Failure)
  | workerClosed (peer : Address)
  | workerFinished (session : UInt64) (peer : Address)
  | workerFailed (peer : Address) (failure : Failure)
  | workerAcceptFailed (fault : IoFault)
  | acceptStopped
  | workersAllClosed
  -- The end of a run.
  | signalsUnavailable (fault : IoFault)
  | signalReceived (name : String)
  | waitingForTasks
  | shutdownComplete
  deriving DecidableEq, Repr

namespace Notice

/-- A failed connection is no more than a remark if the peer has just left. -/
def failureLevel (failure : Failure) : Level :=
  if failure.isNormalDisconnect then .debug else .warn

/-- The weight of a notice. -/
def level : Notice → Level
  | .duplicateAccount _ | .activityQueueFull | .activityWriteFailed _
  | .activityFlushFailed _ | .manyPolledClients _ | .polledRefused _ _
  | .polledGreetingFailed _ _ | .polledRejected _ _ | .workerRefused _ _
  | .workerRejected _ _ | .signalsUnavailable _ => .warn
  | .invalidConfiguration _ | .runtimeFailed _ | .polledAcceptFailed _
  | .workerAcceptFailed _ => .error
  | .polledFailed _ failure | .workerFailed _ failure => failureLevel failure
  | .accountBusy _ | .accountReleased _ | .commandReceived _ _ _
  | .postAccepted _ _ | .tailDiscarded _ | .slotReleased _ _
  | .activityWriterGone | .polledClosed _ | .workerFlushFailed _ _
  | .workerClosed _ | .workerFinished _ _ => .debug
  | _ => .info

/-- The part of the program that a notice comes from. -/
def source : Notice → String
  | .duplicateAccount _ | .accountBusy _ | .accountReleased _ =>
      "sessiond::core::accounts::registry"
  | .commandReceived _ _ _ | .loggedIn _ _ _ | .postAccepted _ _
  | .loggedOut _ _ => "sessiond::connection::session"
  | .tailDiscarded _ => "sessiond::core::protocol::line_frame"
  | .slotReleased _ _ => "sessiond::connection::guard"
  | .activityLogOpened _ | .activityQueueFull | .activityWriterGone
  | .activityDraining | .activityWriteFailed _ | .activityFlushFailed _ =>
      "sessiond::core::activity"
  | .manyPolledClients _ => "sessiond::config"
  | .starting _ | .invalidConfiguration _ | .runtimeFailed _ => "sessiond"
  | .limits _ _ | .accountsLoaded _ _ | .activityLogDisabled
  | .listening _ _ => "sessiond::server::initialization"
  | .polledAccepted _ | .polledRefused _ _ | .polledGreetingFailed _ _
  | .polledClosed _ | .polledRejected _ _ | .polledFailed _ _
  | .polledAcceptFailed _ | .pollStopped | .polledAllClosed _ =>
      "sessiond::server::poller"
  | .workerInterrupted _ | .workerRejected _ _ | .workerFlushFailed _ _
  | .workerClosed _ | .workerFinished _ _ => "sessiond::connection::handler"
  | .workerAccepted _ | .workerRefused _ _ | .workerFailed _ _
  | .workerAcceptFailed _ | .acceptStopped | .workersAllClosed =>
      "sessiond::server::connection_loop"
  | .signalsUnavailable _ | .signalReceived _ | .waitingForTasks
  | .shutdownComplete => "sessiond::server"

/-- A phrase about a session. -/
def ofSession (session : UInt64) (phrase : String) : String :=
  "Session " ++ toString session.toNat ++ phrase

/-- A failed connection, worded for a peer that has just left or otherwise. -/
def failedConnection (peer : Address) (failure : Failure) (phrase : String) :
    String :=
  if failure.isNormalDisconnect then
    "Connection from " ++ peer.render ++ " closed by peer: " ++ failure.message
  else
    phrase ++ failure.message

/-- A connection of one peer and what happened to it. -/
def aboutPeer (before : String) (peer : Address) (failure : Failure) : String :=
  before ++ peer.render ++ ": " ++ failure.message

/-- The wording of a notice. -/
def message : Notice → String
  | .duplicateAccount username =>
      "Duplicate account '" ++ username
        ++ "' in directory; the later record wins."
  | .accountBusy username =>
      "Account '" ++ username ++ "' is already logged in elsewhere."
  | .accountReleased username =>
      "Released session for account '" ++ username ++ "'."
  | .commandReceived session keyword peer =>
      ofSession session
        (": Received command " ++ keyword ++ " from " ++ peer.render)
  | .loggedIn session username peer =>
      ofSession session
        (": '" ++ username ++ "' logged in from " ++ peer.render)
  | .postAccepted session byteCount =>
      ofSession session
        (": accepted post of " ++ toString byteCount ++ " bytes")
  | .loggedOut session username =>
      ofSession session (": '" ++ username ++ "' logged out")
  | .tailDiscarded byteCount =>
      "Discarding " ++ toString byteCount
        ++ " bytes of unterminated input at end of stream."
  | .slotReleased session peer =>
      "ConnectionGuard dropping, releasing slot for session "
        ++ toString session.toNat ++ " (" ++ peer.render ++ ")"
  | .activityLogOpened path =>
      "Activity log enabled. Writing to " ++ path ++ "."
  | .activityQueueFull => "Activity log queue is full; dropping event."
  | .activityWriterGone =>
      "Activity log writer has stopped; dropping event."
  | .activityDraining =>
      "Activity log writer shutting down. Draining pending events."
  | .activityWriteFailed fault =>
      "Failed to write activity log entry: " ++ fault.text
  | .activityFlushFailed fault =>
      "Failed to flush activity log: " ++ fault.text
  | .manyPolledClients limit =>
      "max_clients = " ++ toString limit
        ++ " with the poll dispatcher; every readiness wait scans all connections."
  | .starting version => "Starting sessiond " ++ version ++ "..."
  | .invalidConfiguration reason => "Invalid configuration: " ++ reason
  | .runtimeFailed reason => "Server runtime error: " ++ reason
  | .limits clients lineLength =>
      "Server configured with max_clients = " ++ toString clients
        ++ ", max_line_length = " ++ toString lineLength ++ " bytes."
  | .accountsLoaded count path =>
      "Loaded " ++ toString count ++ " accounts from " ++ path
  | .activityLogDisabled =>
      "Activity log is disabled in the configuration."
  | .listening endpoint dispatch =>
      "sessiond listening on " ++ endpoint ++ " (" ++ dispatch ++ " dispatch)"
  | .polledAccepted peer | .workerAccepted peer =>
      "Accepted new connection from: " ++ peer.render
  | .polledRefused peer failure | .workerRefused peer failure =>
      aboutPeer "Refusing connection from " peer failure
  | .polledGreetingFailed peer failure =>
      aboutPeer "Failed to greet " peer failure
  | .polledClosed peer | .workerClosed peer =>
      "Connection from " ++ peer.render ++ " closed by peer."
  | .polledRejected peer failure | .workerRejected peer failure =>
      aboutPeer "Rejecting connection from " peer failure
  | .polledFailed peer failure =>
      failedConnection peer failure
        ("Connection error for " ++ peer.render ++ ": ")
  | .polledAcceptFailed fault | .workerAcceptFailed fault =>
      "Failed to accept connection: " ++ fault.text
  | .pollStopped => "Shutdown signal received, stopping poll loop."
  | .polledAllClosed count =>
      "Closed " ++ toString count ++ " polled connections."
  | .workerInterrupted peer =>
      "Connection handler for " ++ peer.render ++ " received shutdown signal."
  | .workerFlushFailed peer failure =>
      aboutPeer "Failed to flush replies to " peer failure
  | .workerFinished session peer =>
      ofSession session (" for " ++ peer.render ++ " finished.")
  | .workerFailed peer failure =>
      failedConnection peer failure
        ("Connection from " ++ peer.render ++ " terminated unexpectedly: ")
  | .acceptStopped => "Shutdown signal received, stopping accept loop."
  | .workersAllClosed => "All client connections closed."
  | .signalsUnavailable fault =>
      "Failed to register signal handlers: " ++ fault.text
        ++ ". Graceful shutdown on signal is unavailable."
  | .signalReceived name =>
      name ++ " received, initiating graceful shutdown."
  | .waitingForTasks => "Waiting for background tasks to finish..."
  | .shutdownComplete => "Server shutdown complete."

/-- A notice as its level and its wording. -/
def render (notice : Notice) : String :=
  notice.level.label ++ " " ++ notice.message

end Notice
end LoginServer
