import LoginServer.Server.Answer
import LoginServer.Server.Transport

/-!
# Polled connections

A connection that one loop serves together with all others.  Serving it never
waits: replies that the socket does not accept stay with the connection, and a
connection with too many of them is not read from.
-/

namespace LoginServer.Polling

/-- A connection and what it holds between two services. -/
structure Connection where
  slot : Slot
  session : Session
  codec : Codec
  /-- Bytes received and not yet decoded. -/
  received : Bytes
  /-- Replies that the socket has not accepted yet. -/
  pending : Bytes
  deriving DecidableEq, Repr

/-- What the socket of a connection does during one service. -/
structure SocketTurn where
  writesBefore : List WriteOutcome
  read : ReadOutcome
  writesAfter : List WriteOutcome

/-- What one service of a connection brings about. -/
structure Served where
  /-- The connection goes on. -/
  isOpen : Bool
  connection : Connection
  shared : Shared
  /-- The bytes that were read from the socket. -/
  read : Bytes
  /-- The bytes that the socket accepted. -/
  sent : Bytes
  exchanges : List Exchange
  notices : List Notice

/-- A socket that has nothing to read and no room. -/
def SocketTurn.quiet : SocketTurn :=
  { writesBefore := [], read := .wouldBlock, writesAfter := [] }

namespace Connection

/-- The number of pending bytes from which on a connection is not read from. -/
def maxPending : Nat := 65536

/-- Too many replies are pending. -/
def isPiledUp (connection : Connection) : Bool :=
  maxPending ≤ connection.pending.length

/-- The peer of a connection. -/
def peer (connection : Connection) : Address :=
  connection.slot.peer

/-- A connection that has just been admitted, with nothing received or sent. -/
def opened (slot : Slot) (limit : Nat) : Connection :=
  { slot
    session := .opened slot.session slot.peer
    codec := .fresh limit
    received := []
    pending := [] }

/-- A service that has come to an end before it received anything. -/
def served (connection : Connection) (shared : Shared)
    (isOpen : Bool) (sent : Bytes) (notices : List Notice) : Served :=
  { isOpen, connection, shared, read := [], sent, exchanges := [], notices }

/-- The service of a connection that has received bytes: every complete line is
answered, and the replies are sent as far as there is room. -/
def receive (connection : Connection) (shared : Shared)
    (bytes : Bytes) (writes : List WriteOutcome) : Served :=
  let drained := connection.codec.drain (connection.received ++ bytes)
  let answered := shared.answerEach connection.session drained.lines
  let rejected := drained.failure.toList.map
    (Notice.polledRejected connection.peer)
  let flushed := flush (connection.pending ++ answered.replies) writes
  let broken := flushed.fault.toList.map fun fault =>
    Notice.polledFailed connection.peer (.io fault)
  { isOpen := drained.failure.isNone && flushed.fault.isNone
    connection :=
      { connection with
        session := answered.session
        codec := drained.codec
        received := drained.buffer
        pending := flushed.pending }
    shared := answered.shared
    read := bytes
    sent := flushed.accepted
    exchanges := answered.exchanges
    notices := answered.notices ++ rejected ++ broken }

/-- Serves a connection once: sends pending replies, reads one chunk unless
replies are still piled up, and answers the complete lines. -/
def serve (connection : Connection) (shared : Shared)
    (turn : SocketTurn) : Served :=
  let first := flush connection.pending turn.writesBefore
  let connection := { connection with pending := first.pending }
  match first.fault with
  | some fault =>
      connection.served shared false first.accepted
        [.polledFailed connection.peer (.io fault)]
  | none =>
      if connection.isPiledUp then
        connection.served shared true first.accepted []
      else
        match turn.read with
        | .wouldBlock => connection.served shared true first.accepted []
        | .failed fault =>
            connection.served shared false first.accepted
              [.polledFailed connection.peer (.io fault)]
        | .endOfStream =>
            let last := flush connection.pending turn.writesAfter
            { connection with pending := last.pending }.served shared false
              (first.accepted ++ last.accepted)
              [.polledClosed connection.peer]
        | .chunk chunk =>
            let received :=
              connection.receive shared chunk.bytes turn.writesAfter
            { received with sent := first.accepted ++ received.sent }

/-- Serves a connection once for each turn of its socket, until it ends. -/
def serveEach (connection : Connection) (shared : Shared) :
    List SocketTurn → Served
  | [] => connection.served shared true [] []
  | turn :: turns =>
      let first := connection.serve shared turn
      if first.isOpen then
        let later := first.connection.serveEach first.shared turns
        { later with
          read := first.read ++ later.read
          sent := first.sent ++ later.sent
          exchanges := first.exchanges ++ later.exchanges
          notices := first.notices ++ later.notices }
      else first

end Connection
end LoginServer.Polling
