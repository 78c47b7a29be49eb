import LoginServer.Server.Polling.Connection

/-!
# The moments of a service

A service of a polled connection is a sequence of moments: between two of them
the socket accepts or refuses some bytes, or it delivers a chunk, or one line is
decoded and answered.
-/

namespace LoginServer

/-- What one attempt to send pending bytes comes to. -/
inductive Attempt where
  /-- The attempts are over, perhaps by a fault. -/
  | ended (fault : Option IoFault)
  /-- At most the given number of bytes are accepted; further attempts come to
  the later outcomes. -/
  | accepted (count : Nat) (later : List WriteOutcome)
  deriving DecidableEq, Repr

/-- One attempt to send pending bytes.  To accept nothing is a fault. -/
def attempt (pending : Bytes) : List WriteOutcome → Attempt
  | [] => .ended none
  | outcome :: later =>
      if pending.isEmpty then .ended none
      else
        match outcome with
        | .wouldBlock => .ended none
        | .failed fault => .ended (some fault)
        | .accepted count =>
            if count = 0 then .ended (some (.simple .writeZero))
            else .accepted count later

namespace Polling

/-- What a service does when pending replies have been sent as far as there is
room. -/
inductive Aim where
  | read
  /-- The answers to a chunk were sent. -/
  | finish
  /-- The stream has ended. -/
  | part
  deriving DecidableEq, Repr

inductive Stage where
  | sending (writes : List WriteOutcome) (aim : Aim)
  | reading
  | answering
  | ended
  deriving DecidableEq, Repr

/-- A moment of a service: its stage, what the socket does in the service, and
what the service has brought about so far. -/
structure Moment where
  stage : Stage
  turn : SocketTurn
  soFar : Served

namespace Moment

/-- The moment at which a service begins. -/
def first (connection : Connection) (shared : Shared)
    (turn : SocketTurn) : Moment :=
  { stage := .sending turn.writesBefore .read
    turn
    soFar := connection.served shared true [] [] }

def connection (moment : Moment) : Connection :=
  moment.soFar.connection

def proceed (moment : Moment) (stage : Stage) : Moment :=
  { moment with stage }

/-- The connection will not go on after the service. -/
def close (moment : Moment) (stage : Stage) (notice : Notice) : Moment :=
  { moment with
    stage
    soFar :=
      { moment.soFar with
        isOpen := false
        notices := moment.soFar.notices ++ [notice] } }

def fail (moment : Moment) (fault : IoFault) : Moment :=
  moment.close .ended
    (.polledFailed moment.connection.peer (.io fault))

def accept (moment : Moment) (count : Nat) (stage : Stage) : Moment :=
  { moment with
    stage
    soFar :=
      { moment.soFar with
        connection :=
          { moment.connection with
            pending := moment.connection.pending.drop count }
        sent :=
          moment.soFar.sent ++ moment.connection.pending.take count } }

/-- The attempts to send are over. -/
def settle (moment : Moment) : Aim → Option IoFault → Moment
  | .part, _ => moment.proceed .ended
  | _, some fault => moment.fail fault
  | .read, none => moment.proceed .reading
  | .finish, none => moment.proceed .ended

def send (moment : Moment) (writes : List WriteOutcome) (aim : Aim) :
    Moment :=
  match attempt moment.connection.pending writes with
  | .accepted count later => moment.accept count (.sending later aim)
  | .ended fault => moment.settle aim fault

def receive (moment : Moment) (bytes : Bytes) : Moment :=
  { moment with
    stage := .answering
    soFar :=
      { moment.soFar with
        connection :=
          { moment.connection with
            received := moment.connection.received ++ bytes }
        read := moment.soFar.read ++ bytes } }

def take (moment : Moment) : ReadOutcome → Moment
  | .wouldBlock => moment.proceed .ended
  | .failed fault => moment.fail fault
  | .endOfStream =>
      moment.close (.sending moment.turn.writesAfter .part)
        (.polledClosed moment.connection.peer)
  | .chunk chunk => moment.receive chunk.bytes

/-- One attempt to read, unless replies are piled up. -/
def read (moment : Moment) : Moment :=
  if moment.connection.isPiledUp then moment.proceed .ended
  else moment.take moment.turn.read

def reading (moment : Moment) : Reading :=
  moment.connection.codec.decode moment.connection.received

/-- The received bytes have been decoded once. -/
def decoded (moment : Moment) : Moment :=
  { moment with
    soFar :=
      { moment.soFar with
        connection :=
          { moment.connection with
            codec := moment.reading.codec
            received := moment.reading.buffer } } }

def reply (moment : Moment) (line : String) : Moment :=
  let answered :=
    moment.soFar.shared.answer moment.connection.session line
  { moment with
    soFar :=
      { moment.soFar with
        connection :=
          { moment.connection with
            session := answered.session
            pending := moment.connection.pending ++ answered.replies }
        shared := answered.shared
        exchanges := moment.soFar.exchanges ++ answered.exchanges
        notices := moment.soFar.notices ++ answered.notices } }

/-- One line is decoded and answered; when there is none, or one that is too
long, the replies are sent. -/
def answer (moment : Moment) : Moment :=
  let sending := Stage.sending moment.turn.writesAfter .finish
  match moment.reading.outcome with
  | .ok (some line) => moment.decoded.reply line
  | .ok none => moment.decoded.proceed sending
  | .error failure =>
      moment.decoded.close sending
        (.polledRejected moment.connection.peer failure)

def next (moment : Moment) : Moment :=
  match moment.stage with
  | .sending writes aim => moment.send writes aim
  | .reading => moment.read
  | .answering => moment.answer
  | .ended => moment

end Moment
end Polling
end LoginServer
