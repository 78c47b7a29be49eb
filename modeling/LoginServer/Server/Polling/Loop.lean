import LoginServer.Numbered
import LoginServer.Server.Polling.Connection

/-!
# The polling dispatcher

One loop owns all connections.  In each pass it takes at most one arrival and
then serves every connection once, in the order of the handles.
-/

namespace LoginServer.Polling

/-- The shared state and the live connections by their handles. -/
structure Loop where
  shared : Shared
  connections : Numbered Connection

/-- What the loop does that others can learn of, with the handle of the
connection. -/
inductive Incident where
  /-- A greeting or an answered line is recorded. -/
  | recorded (handle : Nat) (exchange : Exchange)
  /-- A connection is removed. -/
  | removed (handle : Nat)
  deriving DecidableEq, Repr

/-- The exchange that an incident records. -/
def Incident.exchange? : Incident → Option Exchange
  | .recorded _ exchange => some exchange
  | .removed _ => none

/-- What a part of a pass brings about. -/
structure Part where
  loop : Loop
  /-- The bytes that were read, by the handles of the connections. -/
  read : List (Nat × Bytes)
  /-- The bytes that sockets accepted, by the handles of the connections. -/
  sent : List (Nat × Bytes)
  /-- What happened, in order. -/
  incidents : List Incident
  notices : List Notice

namespace Part

/-- The recorded exchanges, in order. -/
def exchanges (part : Part) : List Exchange :=
  part.incidents.filterMap Incident.exchange?

/-- A part of a pass in which nothing happens. -/
def idle (loop : Loop) : Part :=
  { loop, read := [], sent := [], incidents := [], notices := [] }

/-- What one part of a pass and then another bring about. -/
def followedBy (first later : Part) : Part :=
  { later with
    read := first.read ++ later.read
    sent := first.sent ++ later.sent
    incidents := first.incidents ++ later.incidents
    notices := first.notices ++ later.notices }

end Part

/-- A client that has arrived, and what its socket does with the greeting. -/
structure Arrival where
  peer : Address
  writes : List WriteOutcome

namespace Loop

/-- No connections yet. -/
def start (shared : Shared) : Loop :=
  { shared, connections := .empty }

/-- Greets an admitted connection and keeps it, unless the greeting fails. -/
def welcome (loop : Loop) (slot : Slot) (writes : List WriteOutcome) :
    Part :=
  let connection :=
    Connection.opened slot loop.shared.config.maxLineLength
  let (greeting, exchange) := connection.session.greet
  let flushed := flush (Frame.encode greeting) writes
  let handle := slot.session.toNat
  let sent := [(handle, flushed.accepted)]
  let incidents := [Incident.recorded handle exchange]
  match flushed.fault with
  | some fault =>
      let (shared, notices) :=
        loop.shared.finish connection.session slot
      { loop := { loop with shared }
        read := []
        sent
        incidents
        notices :=
          [.polledAccepted slot.peer,
            .polledGreetingFailed slot.peer (.io fault)] ++ notices }
  | none =>
      let connection := { connection with pending := flushed.pending }
      { loop :=
          { loop with
            connections := loop.connections.put handle connection }
        read := []
        sent
        incidents
        notices := [.polledAccepted slot.peer] }

/-- Takes an arrival: admits and greets it, or refuses it without a word. -/
def take (loop : Loop) (arrival : Arrival) : Part :=
  let (session, shared) := (loop.shared.count Counters.arrive).nextSession
  match shared.enter session arrival.peer with
  | (.error failure, shared) =>
      { Part.idle { loop with shared } with
        notices := [.polledRefused arrival.peer failure] }
  | (.ok slot, shared) =>
      { loop with shared }.welcome slot arrival.writes

/-- What a pass does first about what has come of accepting a client: it takes
the client, or tells why there is none, or nothing has come yet. -/
def accept (loop : Loop) : Option (Except IoFault Arrival) → Part
  | none => .idle loop
  | some (.error fault) =>
      { Part.idle loop with notices := [.polledAcceptFailed fault] }
  | some (.ok arrival) => loop.take arrival

/-- Serves the connection of a handle; if that ends it, it is removed. -/
def serve (loop : Loop) (turn : SocketTurn) (handle : Nat) : Part :=
  match loop.connections.get? handle with
  | none => .idle loop
  | some connection =>
      let served := connection.serve loop.shared turn
      let read := [(handle, served.read)]
      let sent := [(handle, served.sent)]
      let incidents := served.exchanges.map (Incident.recorded handle)
      if served.isOpen then
        { loop :=
            { shared := served.shared
              connections :=
                loop.connections.put handle served.connection }
          read
          sent
          incidents
          notices := served.notices }
      else
        let (shared, notices) := served.shared.finish
          served.connection.session served.connection.slot
        { loop :=
            { shared, connections := loop.connections.remove handle }
          read
          sent
          incidents := incidents ++ [.removed handle]
          notices := served.notices ++ notices }

/-- Serves the connections of handles one after the other. -/
def serveEach (loop : Loop) (turns : Nat → SocketTurn) :
    List Nat → Part
  | [] => .idle loop
  | handle :: handles =>
      let first := loop.serve (turns handle) handle
      first.followedBy (first.loop.serveEach turns handles)

/-- What happens around the loop in one pass: perhaps a client is accepted, or
that fails, and what each socket does. -/
structure Occasion where
  accepted : Option (Except IoFault Arrival)
  turns : Nat → SocketTurn

/-- One pass of the loop: at most one arrival, then every connection once. -/
def pass (loop : Loop) (occasion : Occasion) : Part :=
  let first := loop.accept occasion.accepted
  first.followedBy
    (first.loop.serveEach occasion.turns first.loop.connections.numbers)

/-- Passes of the loop, one after the other. -/
def passes (loop : Loop) : List Occasion → Part
  | [] => .idle loop
  | occasion :: occasions =>
      let first := loop.pass occasion
      first.followedBy (first.loop.passes occasions)

/-- Ends connections in order. -/
def dropEach (shared : Shared) :
    List Connection → Shared × List Notice
  | [] => (shared, [])
  | connection :: rest =>
      let (shared, first) := shared.finish connection.session connection.slot
      let (shared, later) := dropEach shared rest
      (shared, first ++ later)

/-- The loop ends at a shutdown, and with it every connection. -/
def stop (loop : Loop) : Shared × List Notice :=
  let (shared, notices) := dropEach loop.shared loop.connections.values
  (shared,
    .pollStopped :: notices ++ [.polledAllClosed loop.connections.size])

end Loop
end LoginServer.Polling
