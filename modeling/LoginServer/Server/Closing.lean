import LoginServer.Activity.Journal
import LoginServer.Server.Working.Team

/-!
# The closing of a server

A server of the worker dispatcher goes on recording while it closes: the
acceptor, the workers and the writer of the activity log hear of the shutdown
one by one, in any order.  `Closing.step` is what one of them does next, and
`Closing.run` what they do one after the other.
-/

namespace LoginServer

open Working (Connection Dispatched Team)

/-- A server that is to be closed, or runs until then. -/
structure Closing where
  /-- What is shared, and the connections that have been greeted. -/
  team : Team
  /-- Connections that have been admitted and not yet greeted. -/
  admitted : Numbered Connection
  /-- The handles of the connections that were admitted after the announcement
  of the shutdown, of which they do not hear. -/
  late : List Nat
  isAccepting : Bool
  journal : Journal
  /-- Every event that a worker has recorded, in order. -/
  recorded : List Event
  /-- The recorded events that have entered the queue of the log. -/
  accepted : List Event

/-- What one of the parts does next. -/
inductive ClosingStep where
  /-- The shutdown is announced, to the acceptor, the workers and the writer. -/
  | announce
  /-- The writer of the log takes its next step. -/
  | write
  /-- The acceptor takes an arrival. -/
  | arrive (peer : Address)
  /-- The acceptor hears of the shutdown. -/
  | stopAccepting
  /-- The worker of an admitted connection greets, at some time. -/
  | greet (handle : Nat) (time : Timestamp) (broken : Option Working.Break)
  /-- A worker takes a step, at some time.  It may have looked for the shutdown
  before that was announced, and answer a line after that. -/
  | work (handle : Nat) (time : Timestamp) (stimulus : Working.Stimulus)
  deriving DecidableEq, Repr

namespace Closing

/-- A server without connections, in front of a log file with some content. -/
def start (content : Bytes) (shared : Shared) : Closing :=
  { team := .start shared
    admitted := .empty
    late := []
    isAccepting := true
    journal := .opened content
    recorded := []
    accepted := [] }

/-- An arrival is admitted and waits for its worker, or it is refused. -/
def arrive (closing : Closing) (peer : Address) : Closing :=
  let (session, shared) :=
    (closing.team.shared.count Counters.arrive).nextSession
  match shared.enter session peer with
  | (.error _, shared) =>
      { closing with team := { closing.team with shared } }
  | (.ok slot, shared) =>
      let handle := session.toNat
      { closing with
        team := { closing.team with shared }
        admitted := closing.admitted.put handle
          (.opened slot shared.config.maxLineLength)
        late :=
          if closing.journal.isAnnounced then handle :: closing.late
          else closing.late }

/-- A step of the log. -/
def logged (closing : Closing) (taken : JournalStep) : Option Closing :=
  (closing.journal.step taken).map fun done =>
    { closing with journal := done.journal }

/-- A worker has taken a step, and records its exchanges. -/
def worked (closing : Closing) (time : Timestamp) (dispatched : Dispatched) :
    Option Closing :=
  let events := dispatched.exchanges.map fun exchange => { time, exchange }
  (closing.journal.run (events.map .record)).map fun done =>
    { closing with
      team := dispatched.team
      journal := done.journal
      recorded := closing.recorded ++ events
      accepted := closing.accepted ++ done.accepted }

/-- A worker hears of the shutdown once it is announced, unless its connection
was admitted after that. -/
def hears (closing : Closing) (handle : Nat) : Bool :=
  closing.journal.isAnnounced && handle ∉ closing.late

/-- The next step of a part, if it can take it. -/
def step (closing : Closing) : ClosingStep → Option Closing
  | .announce =>
      if closing.journal.isAnnounced then none else closing.logged .announce
  | .write => closing.logged .write
  | .arrive peer =>
      if closing.isAccepting then some (closing.arrive peer) else none
  | .stopAccepting =>
      if closing.isAccepting && closing.journal.isAnnounced then
        some { closing with isAccepting := false }
      else none
  | .greet handle time broken =>
      (closing.admitted.get? handle).bind fun connection =>
        { closing with admitted := closing.admitted.remove handle }.worked time
          (closing.team.dispatched handle
            (connection.greet closing.team.shared broken))
  | .work handle time stimulus =>
      if stimulus = .shutdown ∧ closing.hears handle = false then none
      else
        (closing.team.connections.get? handle).bind fun connection =>
          closing.worked time
            (closing.team.dispatched handle
              (connection.step closing.team.shared stimulus))

/-- Steps one after the other. -/
def run (closing : Closing) : List ClosingStep → Option Closing
  | [] => some closing
  | taken :: steps =>
      (closing.step taken).bind fun next => next.run steps

/-- The server has closed: no connection is left or can arrive, and the writer
has stopped. -/
structure IsDone (closing : Closing) : Prop where
  closed : closing.isAccepting = false
  greeted : closing.admitted.size = 0
  ended : closing.team.connections.size = 0
  written : closing.journal.stage = .stopped

instance (closing : Closing) : Decidable closing.IsDone :=
  decidable_of_iff
    (closing.isAccepting = false ∧ closing.admitted.size = 0 ∧
      closing.team.connections.size = 0 ∧ closing.journal.stage = .stopped)
    ⟨fun ⟨closed, greeted, ended, written⟩ =>
        ⟨closed, greeted, ended, written⟩,
      fun done => ⟨done.closed, done.greeted, done.ended, done.written⟩⟩

end Closing
end LoginServer
