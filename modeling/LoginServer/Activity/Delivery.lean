import LoginServer.Activity.Journal

/-!
# What the file of a journal is given

A journal that runs in front of a real file does not hold on to what it has
stored: after each step (`Journal.advance`) the portions that the step has
stored go to the file.  Whether the file has taken them shows after that
(`Journal.failed`).
-/

namespace LoginServer

namespace Sink

/-- The portions that have been stored, in order, and the sink without them. -/
def handOver (sink : Sink) : List Bytes × Sink :=
  (sink.stored.reverse, { sink with stored := [] })

/-- The file has failed to store a portion, which the next operation reports. -/
def failed (sink : Sink) (fault : IoFault) : Sink :=
  { sink with pending := some fault }

end Sink

/-- What steps bring about, and the portions that they have for the file, in
order.  The journal does not hold these any more. -/
structure Delivered where
  done : Journaled
  portions : List Bytes
  deriving DecidableEq, Repr

/-- Steps and then other steps. -/
def Delivered.followedBy (first later : Delivered) : Delivered :=
  { done := first.done.followedBy later.done
    portions := first.portions ++ later.portions }

/-- What steps bring about, with the portions handed over. -/
def Journaled.deliver (done : Journaled) : Delivered :=
  let (portions, sink) := done.journal.log.sink.handOver
  let log := { done.journal.log with sink }
  { done := { done with journal := { done.journal with log } }, portions }

namespace Journal

/-- One step, if it can be taken, after which its portions are handed over. -/
def advance (journal : Journal) (taken : JournalStep) : Option Delivered :=
  (journal.step taken).map Journaled.deliver

/-- Steps one after the other, with the portions of each handed over. -/
def advanceAll (journal : Journal) : List JournalStep → Option Delivered
  | [] => some { done := journal.changed, portions := [] }
  | taken :: steps =>
      (journal.advance taken).bind fun first =>
        (first.done.journal.advanceAll steps).map first.followedBy

/-- The file has failed to store what the last step of the writer had for it.
If the writer waits or has stopped that step was a flush, which fails; otherwise
the next operation on the file does. -/
def failed (journal : Journal) (fault : IoFault) : Journaled :=
  let log := { journal.log with sink := journal.log.sink.failed fault }
  match journal.stage with
  | .waiting | .stopped => journal.wrote journal.stage log.flushed
  | .appended | .draining => { journal with log }.changed

end Journal
end LoginServer
