import LoginServer.Activity.Event
import LoginServer.Activity.Sink
import LoginServer.Notice

/-!
# The activity log

Sessions put events into a bounded queue and never wait; an event that finds
the queue full or closed is dropped.  A writer takes the events from the queue
in order, appends their records to a file, and flushes the file whenever it has
emptied the queue.
-/

namespace LoginServer

/-- The queue between the sessions and the writer, and the writer's file. -/
structure ActivityLog where
  queue : List Event
  /-- The writer takes no further events. -/
  closed : Bool
  sink : Sink
  deriving DecidableEq, Repr

namespace ActivityLog

/-- The number of events that the queue takes. -/
def capacity : Nat := 4096

/-- A log in front of a file. -/
def opened (sink : Sink) : ActivityLog :=
  { queue := [], closed := false, sink }

/-- Puts an event into the queue, or drops it. -/
def record (log : ActivityLog) (event : Event) : ActivityLog × List Notice :=
  if log.closed then (log, [.activityWriterGone])
  else if log.queue.length < capacity then
    ({ log with queue := log.queue ++ [event] }, [])
  else (log, [.activityQueueFull])

/-- Puts events into the queue one after the other, as many as it takes, and
drops the others. -/
def recordAll (log : ActivityLog) (events : List Event) :
    ActivityLog × List Notice :=
  if log.closed then (log, List.replicate events.length .activityWriterGone)
  else
    let room := capacity - log.queue.length
    ({ log with queue := log.queue ++ events.take room },
      List.replicate (events.length - room) .activityQueueFull)

theorem recordAll_nil (log : ActivityLog) : log.recordAll [] = (log, []) := by
  cases log
  simp [recordAll]

/-- Recording events is recording the first one and then the others. -/
theorem recordAll_cons (log : ActivityLog) (event : Event)
    (events : List Event) :
    log.recordAll (event :: events) =
      (((log.record event).1.recordAll events).1,
        (log.record event).2 ++ ((log.record event).1.recordAll events).2) := by
  by_cases closed : log.closed = true
  · simp [recordAll, record, closed, List.replicate_succ]
  · by_cases fits : log.queue.length < capacity
    · have room : capacity - log.queue.length =
          (capacity - (log.queue.length + 1)) + 1 := by omega
      simp [recordAll, record, closed, fits, room]
    · have room : capacity - log.queue.length = 0 := by omega
      simp [recordAll, record, closed, fits, room, List.replicate_succ]

/-- The bytes that the writer appends for an event. -/
def lineOf (event : Event) : Bytes :=
  Text.Utf8.encode event.render.toList ++ [10]

/-- Appends the record of one event. -/
def write (sink : Sink) (event : Event) : Sink × List Notice :=
  match sink.append (lineOf event) with
  | (.ok (), sink) => (sink, [])
  | (.error fault, sink) => (sink, [.activityWriteFailed fault])

/-- Flushes the file. -/
def flush (sink : Sink) : Sink × List Notice :=
  match sink.flush with
  | (.ok (), sink) => (sink, [])
  | (.error fault, sink) => (sink, [.activityFlushFailed fault])

/-- The writer takes one event, and flushes if no other waits. -/
def writeNext (log : ActivityLog) : ActivityLog × List Notice :=
  match log.queue with
  | [] => (log, [])
  | event :: rest =>
      let (sink, written) := write log.sink event
      if rest.isEmpty then
        let (sink, flushed) := flush sink
        ({ log with queue := rest, sink }, written ++ flushed)
      else ({ log with queue := rest, sink }, written)

/-- The writer takes one event after the other, as many as are given. -/
def writeMany : Nat → ActivityLog → ActivityLog × List Notice
  | 0, log => (log, [])
  | count + 1, log =>
      let (log, first) := log.writeNext
      let (log, later) := writeMany count log
      (log, first ++ later)

/-- The writer works until the queue is empty. -/
def settle (log : ActivityLog) : ActivityLog × List Notice :=
  writeMany log.queue.length log

/-- Appends the records of events in order. -/
def writeEach (sink : Sink) : List Event → Sink × List Notice
  | [] => (sink, [])
  | event :: rest =>
      let (sink, first) := write sink event
      let (sink, later) := writeEach sink rest
      (sink, first ++ later)

/-- The writer hears of the shutdown: it takes no further events, writes those
that wait, flushes once, and stops.  A writer that has stopped hears nothing. -/
def shutDown (log : ActivityLog) : ActivityLog × List Notice :=
  if log.closed then (log, [])
  else
    let (sink, written) := writeEach log.sink log.queue
    let (sink, flushed) := flush sink
    ({ queue := [], closed := true, sink },
      .activityDraining :: written ++ flushed)

/-- No session can record any more: the writer works until the queue is empty,
flushes once more, and stops. -/
def finish (log : ActivityLog) : ActivityLog × List Notice :=
  if log.closed then (log, [])
  else
    let (log, settled) := log.settle
    let (sink, flushed) := flush log.sink
    ({ log with closed := true, sink }, settled ++ flushed)

end ActivityLog
end LoginServer
