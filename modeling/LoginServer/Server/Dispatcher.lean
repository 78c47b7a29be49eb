import LoginServer.Server.Polling.Loop
import LoginServer.Server.Working.Team

/-!
# Dispatchers

A dispatcher serves the connections of a server in one of the two ways.  Here it
deals with clients that take every reply at once: whichever way it is, a
connection has then sent all replies when it waits for the client.
-/

namespace LoginServer

/-- The part of a server that serves its connections. -/
inductive Dispatcher where
  | polling (loop : Polling.Loop)
  | working (team : Working.Team)

/-- What a connected client does. -/
inductive ClientAct where
  | sends (chunk : Chunk)
  /-- It sends nothing more. -/
  | finishes
  | fails (fault : IoFault)

/-- What a dispatcher does about an act of a client. -/
structure Reaction where
  dispatcher : Dispatcher
  /-- The bytes that the client is sent. -/
  sent : Bytes
  exchanges : List Exchange
  notices : List Notice

namespace Dispatcher

/-- The dispatcher that a configuration asks for, without connections. -/
def start (shared : Shared) : Dispatcher :=
  match shared.config.dispatch with
  | .poll => .polling (.start shared)
  | .worker => .working (.start shared)

/-- What the connections share. -/
def shared : Dispatcher → Shared
  | .polling loop => loop.shared
  | .working team => team.shared

/-- Whether the connection of a handle is live. -/
def isLive (dispatcher : Dispatcher) (handle : Nat) : Bool :=
  match dispatcher with
  | .polling loop => (loop.connections.get? handle).isSome
  | .working team => (team.connections.get? handle).isSome

/-- An attempt to write to a client that takes all it is given. -/
def roomy : List WriteOutcome :=
  [.accepted UInt64.size]

/-- What a polled socket has to read after an act of its client. -/
def readOf : ClientAct → ReadOutcome
  | .sends chunk => .chunk chunk
  | .finishes => .endOfStream
  | .fails fault => .failed fault

/-- What a worker hears of an act of its client. -/
def stimulusOf : ClientAct → Working.Stimulus
  | .sends chunk => .arrival chunk.bytes
  | .finishes => .endOfStream
  | .fails fault => .readFailed fault

/-- A part of a pass as a reaction. -/
def ofPart (part : Polling.Part) : Reaction :=
  { dispatcher := .polling part.loop
    sent := part.sent.flatMap Prod.snd
    exchanges := part.exchanges
    notices := part.notices }

/-- A step of a worker as a reaction. -/
def ofDispatched (dispatched : Working.Dispatched) : Reaction :=
  { dispatcher := .working dispatched.team
    sent := dispatched.sent
    exchanges := dispatched.exchanges
    notices := dispatched.notices }

/-- A client arrives.  Its connection has the handle given out last, if it is
admitted. -/
def arrive (dispatcher : Dispatcher) (peer : Address) : Reaction :=
  match dispatcher with
  | .polling loop =>
      ofPart (loop.accept (some (.ok { peer, writes := roomy })))
  | .working team => ofDispatched (team.take peer none)

/-- No client could be accepted, for the given reason. -/
def missArrival (dispatcher : Dispatcher) (fault : IoFault) : Reaction :=
  match dispatcher with
  | .polling loop => ofPart (loop.accept (some (.error fault)))
  | .working team => ofDispatched (team.missArrival fault)

/-- The client of a handle acts. -/
def react (dispatcher : Dispatcher) (handle : Nat) (act : ClientAct) :
    Reaction :=
  match dispatcher with
  | .polling loop =>
      let turn : Polling.SocketTurn :=
        { writesBefore := roomy, read := readOf act, writesAfter := roomy }
      ofPart (loop.serve turn handle)
  | .working team => ofDispatched (team.settle handle (stimulusOf act))

/-- Ends all connections. -/
def stop : Dispatcher → Shared × List Notice
  | .polling loop => loop.stop
  | .working team => team.stop

end Dispatcher
end LoginServer
