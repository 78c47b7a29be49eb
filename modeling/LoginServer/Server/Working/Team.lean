import LoginServer.Numbered
import LoginServer.Server.Working.Connection

/-!
# The worker dispatcher

Every admitted connection gets a worker.  The workers share the registry,
the counters and the slots, and take their steps in any order.
-/

namespace LoginServer.Working

/-- The shared state and the connections that have workers, by their
handles. -/
structure Team where
  shared : Shared
  connections : Numbered Connection

/-- What a step of the dispatcher or of a worker brings about. -/
structure Dispatched where
  team : Team
  /-- The bytes that the socket of the connection accepted. -/
  sent : Bytes
  exchanges : List Exchange
  notices : List Notice

namespace Team

/-- No connections yet. -/
def start (shared : Shared) : Team :=
  { shared, connections := .empty }

/-- What a step of the worker of a handle means for all: a connection that has
ended is removed. -/
def dispatched (team : Team) (handle : Nat) (worked : Worked) :
    Dispatched :=
  let connections :=
    if worked.connection.phase = .ended then
      team.connections.remove handle
    else team.connections.put handle worked.connection
  { team := { shared := worked.shared, connections }
    sent := worked.sent
    exchanges := worked.exchanges
    notices := worked.notices }

/-- Takes an arrival: admits it and starts its worker, or refuses it without a
word. -/
def take (team : Team) (peer : Address) (broken : Option Break) :
    Dispatched :=
  let (session, shared) := (team.shared.count Counters.arrive).nextSession
  match shared.enter session peer with
  | (.error failure, shared) =>
      { team := { team with shared }
        sent := []
        exchanges := []
        notices := [.workerRefused peer failure] }
  | (.ok slot, shared) =>
      let connection :=
        Connection.opened slot shared.config.maxLineLength
      let begun := team.dispatched session.toNat
        (connection.greet shared broken)
      { begun with notices := .workerAccepted peer :: begun.notices }

/-- No client could be accepted. -/
def missArrival (team : Team) (fault : IoFault) : Dispatched :=
  { team
    sent := []
    exchanges := []
    notices := [.workerAcceptFailed fault] }

/-- A stimulus reaches the worker of a handle, which then works until it waits
or has ended. -/
def settle (team : Team) (handle : Nat) (stimulus : Stimulus) :
    Dispatched :=
  match team.connections.get? handle with
  | none => { team, sent := [], exchanges := [], notices := [] }
  | some connection =>
      team.dispatched handle (connection.settle team.shared stimulus)

/-- The workers of handles hear of the shutdown one after the other. -/
def stopEach (team : Team) : List Nat → Team × List Notice
  | [] => (team, [])
  | handle :: handles =>
      let first := team.settle handle .shutdown
      let (team, later) := first.team.stopEach handles
      (team, first.notices ++ later)

/-- The dispatcher ends at a shutdown, after all its workers. -/
def stop (team : Team) : Shared × List Notice :=
  let (team, notices) := team.stopEach team.connections.numbers
  (team.shared, .acceptStopped :: notices ++ [.workersAllClosed])

end Team
end LoginServer.Working
