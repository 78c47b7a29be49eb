import LoginServer.Server.Answer
import LoginServer.Server.Transport

/-!
# Worker connections

A connection that has a worker to itself.  The worker waits for bytes and for
room to send; it answers one line at a time, and it sends the replies it has
gathered as soon as no complete line waits in its receive buffer.  Between two
lines it can hear of a shutdown.
-/

namespace LoginServer.Working

/-- Where a worker is. -/
inductive Phase where
  /-- A complete line may wait in the receive buffer. -/
  | decoding
  /-- More bytes have to arrive. -/
  | waiting
  /-- The stream has ended, and the receive buffer is decoded a last time. -/
  | ending
  /-- The connection has ended. -/
  | ended
  deriving DecidableEq, Repr

/-- A connection and what its worker holds between two steps. -/
structure Connection where
  slot : Slot
  session : Session
  codec : Codec
  /-- Bytes received and not yet decoded. -/
  received : Bytes
  /-- Replies gathered and not yet sent. -/
  gathered : Bytes
  phase : Phase
  deriving DecidableEq, Repr

/-- A fault that ends the sending of bytes, and the number of bytes accepted
before it. -/
structure Break where
  accepted : Nat
  fault : IoFault
  deriving DecidableEq, Repr

/-- Sends pending bytes and waits until all are accepted or a fault ends it. -/
def deliver (pending : Bytes) : Option Break → Flushed
  | none => { accepted := pending, pending := [], fault := none }
  | some broken =>
      { accepted := pending.take broken.accepted
        pending := pending.drop broken.accepted
        fault := some broken.fault }

/-- What happens to a worker. -/
inductive Stimulus where
  /-- It looks for the next line.  If it sends before gathering the reply or
  after it, that may break. -/
  | next (before after : Option Break)
  /-- Bytes arrive. -/
  | arrival (bytes : Bytes)
  /-- The stream ends. -/
  | endOfStream
  | readFailed (fault : IoFault)
  /-- It hears of the shutdown. -/
  | shutdown
  deriving DecidableEq, Repr

/-- What a step of a worker brings about. -/
structure Worked where
  connection : Connection
  shared : Shared
  /-- The bytes that the socket accepted. -/
  sent : Bytes
  exchanges : List Exchange
  notices : List Notice

/-- The effects of one step and then of another. -/
def Worked.followedBy (first later : Worked) : Worked :=
  { later with
    sent := first.sent ++ later.sent
    exchanges := first.exchanges ++ later.exchanges
    notices := first.notices ++ later.notices }

namespace Connection

/-- The number of gathered bytes from which on they are sent before another
reply is gathered. -/
def gatherLimit : Nat := 8192

/-- The peer of a connection. -/
def peer (connection : Connection) : Address :=
  connection.slot.peer

/-- A connection that has just been admitted and not yet greeted. -/
def opened (slot : Slot) (limit : Nat) : Connection :=
  { slot
    session := .opened slot.session slot.peer
    codec := .fresh limit
    received := []
    gathered := []
    phase := .waiting }

/-- A step without an effect but on the connection. -/
def worked (connection : Connection) (shared : Shared) : Worked :=
  { connection, shared, sent := [], exchanges := [], notices := [] }

/-- The worker has left its loop, because of a failure or not: the account and
then the slot are given back. -/
def finish (connection : Connection) (shared : Shared)
    (failure : Option Failure) : Worked :=
  let released := connection.session.release shared.registry
  let (shared, left) :=
    { shared with registry := released.registry }.leave connection.slot
  let finished :=
    Notice.workerFinished connection.slot.session connection.peer
  let failed := failure.toList.map (Notice.workerFailed connection.peer)
  let ended :=
    { connection with session := released.session, phase := .ended }
  { (ended.worked shared) with
    notices := released.notices ++ finished :: failed ++ left }

/-- A worker that has not yet entered its loop ends: its session holds no
account. -/
def abandon (connection : Connection) (shared : Shared)
    (failure : Failure) : Worked :=
  let (shared, left) := shared.leave connection.slot
  { ({ connection with phase := .ended }.worked shared) with
    notices := .workerFailed connection.peer failure :: left }

/-- The worker begins: it sends the greeting. -/
def greet (connection : Connection) (shared : Shared)
    (broken : Option Break) : Worked :=
  let (greeting, exchange) := connection.session.greet
  let delivered := deliver (Frame.encode greeting) broken
  let greeted :=
    { (connection.worked shared) with
      sent := delivered.accepted
      exchanges := [exchange] }
  match delivered.fault with
  | none => greeted
  | some fault =>
      greeted.followedBy (connection.abandon shared (.io fault))

/-- Gathers a reply: what has been gathered is sent before if it is too much,
and sent with the reply unless a complete line waits. -/
def gather (connection : Connection) (reply : Bytes)
    (before after : Option Break) : Flushed :=
  let first :=
    if gatherLimit ≤ connection.gathered.length then
      deliver connection.gathered before
    else { accepted := [], pending := connection.gathered, fault := none }
  match first.fault with
  | some _ => first
  | none =>
      let pending := first.pending ++ reply
      let second :=
        if Frame.hasLine connection.received then
          { accepted := [], pending, fault := none }
        else deliver pending after
      { second with accepted := first.accepted ++ second.accepted }

/-- Answers a line and gathers the reply. -/
def answerLine (connection : Connection) (shared : Shared)
    (line : String) (before after : Option Break) : Worked :=
  let answered := shared.answer connection.session line
  let gathered := connection.gather answered.replies before after
  let connection :=
    { connection with
      session := answered.session
      gathered := gathered.pending }
  let stepped : Worked :=
    { connection
      shared := answered.shared
      sent := gathered.accepted
      exchanges := answered.exchanges
      notices := answered.notices }
  match gathered.fault with
  | none => stepped
  | some fault =>
      stepped.followedBy
        (connection.finish answered.shared (some (.io fault)))

/-- A line is too long: the replies gathered before it are sent, and the worker
ends. -/
def reject (connection : Connection) (shared : Shared)
    (failure : Failure) (broken : Option Break) : Worked :=
  let delivered := deliver connection.gathered broken
  let flushFailed := delivered.fault.toList.map fun fault =>
    Notice.workerFlushFailed connection.peer (.io fault)
  let stepped :=
    { (connection.worked shared) with
      sent := delivered.accepted
      notices := .workerRejected connection.peer failure :: flushFailed }
  stepped.followedBy
    ({ connection with gathered := delivered.pending }.finish shared none)

/-- Looks for the next line, with the decoder of a stream that goes on or has
ended. -/
def next (connection : Connection) (shared : Shared)
    (before after : Option Break) : Worked :=
  let hasEnded := connection.phase = .ending
  let (reading, notices) :=
    if hasEnded then connection.codec.decodeEnd connection.received
    else (connection.codec.decode connection.received, [])
  let connection :=
    { connection with codec := reading.codec, received := reading.buffer }
  match reading.outcome with
  | .ok (some line) => connection.answerLine shared line before after
  | .error failure => connection.reject shared failure after
  | .ok none =>
      if hasEnded then
        { (connection.worked shared) with
          notices := notices ++ [Notice.workerClosed connection.peer] }.followedBy
            (connection.finish shared none)
      else { connection with phase := .waiting }.worked shared

/-- One step of a worker.  A stimulus that cannot happen where the worker is
changes nothing. -/
def step (connection : Connection) (shared : Shared)
    (stimulus : Stimulus) : Worked :=
  match stimulus, connection.phase with
  | .next before after, .decoding | .next before after, .ending =>
      connection.next shared before after
  | .arrival bytes, .waiting =>
      { connection with
        received := connection.received ++ bytes
        phase := .decoding }.worked shared
  | .endOfStream, .waiting =>
      { connection with phase := .ending }.worked shared
  | .readFailed fault, .waiting => connection.finish shared (some (.io fault))
  | .shutdown, .decoding | .shutdown, .waiting | .shutdown, .ending =>
      { (connection.worked shared) with
        notices := [.workerInterrupted connection.peer] }.followedBy
          (connection.finish shared none)
  | _, _ => connection.worked shared

/-- Whether a worker looks for lines rather than waits. -/
def isBusy (connection : Connection) : Bool :=
  connection.phase = .decoding || connection.phase = .ending

/-- A worker looks for lines, with nothing breaking, until it waits or has
ended, and at most the given number of times. -/
def work (connection : Connection) (shared : Shared) :
    Nat → Worked
  | 0 => connection.worked shared
  | looks + 1 =>
      if connection.isBusy then
        let first := connection.step shared (.next none none)
        first.followedBy (first.connection.work first.shared looks)
      else connection.worked shared

/-- A worker takes a stimulus and then looks for lines: at most once for each
byte that it holds, and once more to find none. -/
def settle (connection : Connection) (shared : Shared)
    (stimulus : Stimulus) : Worked :=
  let first := connection.step shared stimulus
  first.followedBy (first.connection.work first.shared
    (first.connection.received.length + 1))

/-- Serves a connection to whose worker nothing happens but the arrival of
chunks and the end of the stream. -/
def serveChunks (connection : Connection) (shared : Shared) :
    List Bytes → Worked
  | [] => connection.settle shared .endOfStream
  | chunk :: chunks =>
      let first := connection.settle shared (.arrival chunk)
      first.followedBy (first.connection.serveChunks first.shared chunks)

end Connection
end LoginServer.Working
