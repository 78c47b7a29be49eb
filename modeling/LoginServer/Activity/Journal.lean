import LoginServer.Activity.Log

/-!
# An activity log at work

Sessions record by the handles they have, the writer works, and a shutdown is
announced at some time.  Each of them takes one step at a time, in any order:
`Journal.step` is such a step, and `Journal.run` a run of them.
-/

namespace LoginServer

/-- Where the writer is between two of its steps. -/
inductive WriterStage where
  /-- It waits for an event, the shutdown, or the last handle to be dropped. -/
  | waiting
  /-- It has appended a record, and has not yet looked whether another event
  waits. -/
  | appended
  /-- It has closed the queue, and writes what is left in it. -/
  | draining
  | stopped
  deriving DecidableEq, Repr

/-- An activity log, its writer, and what the writer can hear of. -/
structure Journal where
  log : ActivityLog
  stage : WriterStage
  /-- The number of handles by which sessions can record. -/
  handles : Nat
  /-- The shutdown has been announced. -/
  isAnnounced : Bool
  deriving DecidableEq, Repr

/-- A step of a session, of the writer, or of whoever stops the server. -/
inductive JournalStep where
  | record (event : Event)
  /-- A handle is copied. -/
  | share
  /-- A handle is dropped. -/
  | drop
  | announce
  | write
  deriving DecidableEq, Repr

/-- What steps bring about: the events that have entered the queue, in order,
and what is told. -/
structure Journaled where
  journal : Journal
  accepted : List Event
  notices : List Notice
  deriving DecidableEq, Repr

/-- Steps and then other steps. -/
def Journaled.followedBy (first later : Journaled) : Journaled :=
  { later with
    accepted := first.accepted ++ later.accepted
    notices := first.notices ++ later.notices }

namespace ActivityLog

/-- The writer takes the next event out of the queue and appends its record, if
an event waits. -/
def appendNext? (log : ActivityLog) : Option (ActivityLog × List Notice) :=
  match log.queue with
  | [] => none
  | event :: rest =>
      let (sink, notices) := write log.sink event
      some ({ log with queue := rest, sink }, notices)

/-- The writer flushes the file. -/
def flushed (log : ActivityLog) : ActivityLog × List Notice :=
  let (sink, notices) := flush log.sink
  ({ log with sink }, notices)

/-- No event enters the queue any more. -/
def close (log : ActivityLog) : ActivityLog :=
  { log with closed := true }

end ActivityLog

namespace Journal

/-- A log and its writer, which has done nothing yet, with one handle. -/
def start (log : ActivityLog) : Journal :=
  { log, stage := .waiting, handles := 1, isAnnounced := false }

/-- A journal in front of a file that keeps what it is given. -/
def opened (content : Bytes) : Journal :=
  start (.opened (.opened .keeping content))

/-- The writer waits, and nothing has come for it to do. -/
def isIdle (journal : Journal) : Bool :=
  journal.stage = .waiting && !journal.isAnnounced &&
    journal.log.queue.isEmpty && journal.handles ≠ 0

/-- The writer has done something to the log, and is at another stage. -/
def wrote (journal : Journal) (stage : WriterStage)
    (done : ActivityLog × List Notice) : Journaled :=
  { journal := { journal with log := done.1, stage }
    accepted := []
    notices := done.2 }

/-- The next step of the writer, unless it waits or has stopped.  It looks for a
shutdown before it looks for an event. -/
def write (journal : Journal) : Option Journaled :=
  match journal.stage with
  | .waiting =>
      if journal.isAnnounced then
        some (journal.wrote .draining (journal.log.close, [.activityDraining]))
      else
        match journal.log.appendNext? with
        | some written => some (journal.wrote .appended written)
        | none =>
            if journal.handles = 0 then
              let (log, notices) := journal.log.flushed
              some (journal.wrote .stopped (log.close, notices))
            else none
  | .appended =>
      if journal.log.queue.isEmpty then
        some (journal.wrote .waiting journal.log.flushed)
      else some (journal.wrote .waiting (journal.log, []))
  | .draining =>
      match journal.log.appendNext? with
      | some written => some (journal.wrote .draining written)
      | none => some (journal.wrote .stopped journal.log.flushed)
  | .stopped => none

/-- A change of what the writer can hear of. -/
def changed (journal : Journal) : Journaled :=
  { journal, accepted := [], notices := [] }

/-- One step, if it can be taken. -/
def step (journal : Journal) : JournalStep → Option Journaled
  | .record event =>
      if journal.handles = 0 then none
      else
        let (log, notices) := journal.log.record event
        some
          { journal := { journal with log }
            accepted := log.queue.drop journal.log.queue.length
            notices }
  | .share =>
      if journal.handles = 0 then none
      else some { journal with handles := journal.handles + 1 }.changed
  | .drop =>
      if journal.handles = 0 then none
      else some { journal with handles := journal.handles - 1 }.changed
  | .announce => some { journal with isAnnounced := true }.changed
  | .write => journal.write

/-- Steps one after the other. -/
def run (journal : Journal) : List JournalStep → Option Journaled
  | [] => some journal.changed
  | taken :: steps =>
      (journal.step taken).bind fun first =>
        (first.journal.run steps).map first.followedBy

end Journal
end LoginServer
