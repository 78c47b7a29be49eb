import LoginServer.Activity.Delivery
import LoginServer.Proofs.JournalConservation

/-!
# Portions that are handed over

No step of a journal looks at what has been stored before it (`step_after`).  So
handing the portions over after each step loses nothing and changes nothing
else (`run_eq_advanceAll`), and what the file is given in all is what a journal
that holds on to everything has in its file (`delivered_of_stopped`).
-/

namespace LoginServer

variable {earlier : List Bytes}

/-! ## What has been stored before -/

/-- A sink that has stored some portions before all others. -/
def Sink.after (earlier : List Bytes) (sink : Sink) : Sink :=
  { sink with stored := sink.stored ++ earlier.reverse }

def ActivityLog.after (earlier : List Bytes) (log : ActivityLog) :
    ActivityLog :=
  { log with sink := log.sink.after earlier }

def Journal.after (earlier : List Bytes) (journal : Journal) : Journal :=
  { journal with log := journal.log.after earlier }

def Journaled.after (earlier : List Bytes) (done : Journaled) : Journaled :=
  { done with journal := done.journal.after earlier }

namespace Sink

@[simp] theorem buffer_after (sink : Sink) :
    (sink.after earlier).buffer = sink.buffer := rfl

theorem after_handOver (sink : Sink) :
    sink.handOver.2.after sink.handOver.1 = sink := by
  simp [handOver, after]

theorem content_after (earlier : List Bytes) (sink : Sink) :
    (sink.after earlier).content = earlier.flatten ++ sink.content := by
  simp [after, content]

theorem hand_after (sink : Sink) (portion : Bytes) :
    (sink.after earlier).hand portion =
      (sink.hand portion).map id (after earlier) := by
  obtain ⟨medium, stored, buffer, pending⟩ := sink
  cases pending <;> cases medium <;> rfl

theorem empty_after (sink : Sink) :
    (sink.after earlier).empty = sink.empty.map id (after earlier) := by
  rw [empty, empty, buffer_after, hand_after]
  split
  · rfl
  · rcases sink.hand sink.buffer with ⟨_ | _, handed⟩ <;> rfl

theorem append_after (sink : Sink) (bytes : Bytes) :
    (sink.after earlier).append bytes =
      (sink.append bytes).map id (after earlier) := by
  have ready :
      (if capacity < (sink.after earlier).buffer.length + bytes.length then
        (sink.after earlier).empty else (.ok (), sink.after earlier)) =
      (if capacity < sink.buffer.length + bytes.length then sink.empty
        else (.ok (), sink)).map id (after earlier) := by
    rw [empty_after, apply_ite (Prod.map id (after earlier))]
    rfl
  rw [append, append, ready]
  rcases (if capacity < sink.buffer.length + bytes.length then sink.empty
    else (.ok (), sink)) with ⟨_ | _, sink⟩
  · rfl
  · dsimp only [Prod.map_apply, id_eq]
    split
    · rfl
    · rw [hand_after]
      rcases sink.hand (bytes.take largestPortion) with ⟨_ | _, handed⟩
      · rfl
      · dsimp only [Prod.map_apply, id_eq]
        split
        · rfl
        · exact append_after handed (bytes.drop largestPortion)
termination_by bytes.length
decreasing_by
  rw [List.length_drop, largestPortion]
  simp only [capacity, largestPortion] at *
  omega

theorem flush_after (sink : Sink) :
    (sink.after earlier).flush = sink.flush.map id (after earlier) := by
  rw [flush, flush, empty_after]
  rcases sink.empty with ⟨_ | _, medium, stored, buffer, _ | _⟩ <;> rfl

end Sink

namespace ActivityLog

@[simp] theorem queue_after (log : ActivityLog) :
    (log.after earlier).queue = log.queue := rfl

@[simp] theorem closed_after (log : ActivityLog) :
    (log.after earlier).closed = log.closed := rfl

@[simp] theorem sink_after (log : ActivityLog) :
    (log.after earlier).sink = log.sink.after earlier := rfl

theorem write_after (sink : Sink) (event : Event) :
    write (sink.after earlier) event =
      (write sink event).map (Sink.after earlier) id := by
  rw [write, write, Sink.append_after]
  rcases sink.append (lineOf event) with ⟨_ | _, _⟩ <;> rfl

theorem appendNext?_after (log : ActivityLog) :
    (log.after earlier).appendNext? =
      log.appendNext?.map (Prod.map (after earlier) id) := by
  rw [appendNext?, appendNext?, queue_after, sink_after]
  cases log.queue with
  | nil => rfl
  | cons event rest =>
      dsimp only
      rw [write_after]
      rfl

theorem flushed_after (log : ActivityLog) :
    (log.after earlier).flushed = log.flushed.map (after earlier) id := by
  rw [flushed, flushed, flush, flush, sink_after, Sink.flush_after]
  rcases log.sink.flush with ⟨_ | _, _⟩ <;> rfl

theorem record_after (log : ActivityLog) (event : Event) :
    (log.after earlier).record event =
      (log.record event).map (after earlier) id := by
  rw [record, record, closed_after, queue_after]
  split
  · rfl
  · split <;> rfl

end ActivityLog

/-! ## Steps -/

namespace Journal

variable {journal : Journal}

@[simp] theorem log_after (journal : Journal) :
    (journal.after earlier).log = journal.log.after earlier := rfl

@[simp] theorem handles_after (journal : Journal) :
    (journal.after earlier).handles = journal.handles := rfl

theorem Writes.after {stage : WriterStage}
    {change : ActivityLog × List Notice}
    (writes : journal.Writes stage change) :
    (journal.after earlier).Writes stage
      (change.map (ActivityLog.after earlier) id) := by
  have appends {written : ActivityLog × List Notice}
      (appended : journal.log.appendNext? = some written) :
      (journal.log.after earlier).appendNext? =
        some (written.map (ActivityLog.after earlier) id) := by
    rw [ActivityLog.appendNext?_after, appended]
    rfl
  cases writes with
  | hear stage announced => exact .hear stage announced
  | append stage quiet appended => exact .append stage quiet (appends appended)
  | settle stage nothing =>
      rw [← ActivityLog.flushed_after]
      exact .settle stage nothing
  | goOn stage more => exact .goOn stage more
  | drain stage appended => exact .drain stage (appends appended)
  | shutDown stage nothing =>
      rw [← ActivityLog.flushed_after]
      exact .shutDown stage nothing
  | finish stage quiet nobody nothing =>
      have finished : (journal.after earlier).Writes .stopped _ :=
        .finish stage quiet nobody nothing
      rwa [log_after, ActivityLog.flushed_after] at finished

theorem write_after (journal : Journal) :
    (journal.after earlier).write =
      journal.write.map (Journaled.after earlier) := by
  cases taken : journal.write with
  | none =>
      have rests : journal.isIdle = true ∨ journal.stage = .stopped :=
        write_eq_none_iff.mp taken
      exact write_eq_none_iff.mpr rests
  | some done =>
      obtain ⟨stage, change, writes, rfl⟩ := writes_of_write taken
      exact writes.after.write

/-- What has been stored before a step stays where it is, and changes
nothing. -/
theorem step_after (journal : Journal) (taken : JournalStep) :
    (journal.after earlier).step taken =
      (journal.step taken).map (Journaled.after earlier) := by
  cases taken with
  | record event =>
      rw [step, step, handles_after, log_after, ActivityLog.record_after]
      split <;> rfl
  | share | drop =>
      rw [step, step, handles_after]
      split <;> rfl
  | announce => rfl
  | write => exact write_after journal

theorem run_after (journal : Journal) (steps : List JournalStep) :
    (journal.after earlier).run steps =
      (journal.run steps).map (Journaled.after earlier) := by
  induction steps generalizing journal with
  | nil => rfl
  | cons taken steps induction =>
      rw [run, run, step_after]
      cases journal.step taken with
      | none => rfl
      | some first =>
          dsimp only [Option.map_some, Option.bind_some, Journaled.after]
          rw [induction, Option.map_map, Option.map_map]
          rfl

end Journal

/-! ## Runs that hand their portions over -/

/-- What steps bring about if nothing is handed over. -/
def Delivered.whole (delivered : Delivered) : Journaled :=
  delivered.done.after delivered.portions

theorem Delivered.whole_followedBy (first later : Delivered) :
    (first.followedBy later).whole =
      first.whole.followedBy (later.whole.after first.portions) := by
  simp [whole, followedBy, Journaled.followedBy, Journaled.after,
    Journal.after, ActivityLog.after, Sink.after]

theorem Journaled.whole_deliver (done : Journaled) :
    done.deliver.whole = done := by
  obtain ⟨⟨log, stage, handles, isAnnounced⟩, accepted, notices⟩ := done
  have same := log.sink.after_handOver
  simp only [deliver, Delivered.whole, after, Journal.after, ActivityLog.after,
    same]

namespace Journal

/-- Handing over the portions after each step leaves the run as it is. -/
theorem run_eq_advanceAll (journal : Journal) (steps : List JournalStep) :
    journal.run steps =
      (journal.advanceAll steps).map Delivered.whole := by
  induction steps generalizing journal with
  | nil =>
      simp [run, advanceAll, Delivered.whole, Journaled.after, after, changed,
        ActivityLog.after, Sink.after]
  | cons taken steps induction =>
      rw [run, advanceAll, advance]
      cases journal.step taken with
      | none => rfl
      | some first =>
          have whole := first.whole_deliver
          have journal : first.deliver.done.journal.after
              first.deliver.portions = first.journal :=
            congrArg Journaled.journal whole
          rw [Option.map_some, Option.bind_some, Option.bind_some, ← journal,
            run_after, induction]
          simp only [Option.map_map]
          congr 1
          funext later
          rw [Function.comp_apply, Function.comp_apply, Function.comp_apply,
            Delivered.whole_followedBy, whole]

/-- Only the writer stores anything. -/
theorem sink_step_of_ne_write {journal : Journal} {taken : JournalStep}
    {done : Journaled} (other : taken ≠ .write)
    (step : journal.step taken = some done) :
    done.journal.log.sink = journal.log.sink := by
  cases taken with
  | record event =>
      have same : (journal.log.record event).1.sink = journal.log.sink := by
        rcases journal.log.record_cases event with ⟨_, _, entered⟩ |
          ⟨_, refused⟩
        · rw [entered]
        · rw [refused]
      rw [Journal.step] at step
      split at step
      · cases step
      · cases step
        exact same
  | share | drop =>
      rw [Journal.step] at step
      split at step
      · cases step
      · cases step
        rfl
  | announce =>
      cases step
      rfl
  | write => exact absurd rfl other

/-- A step of anybody but the writer has nothing for the file. -/
theorem portions_of_ne_write {journal : Journal} {taken : JournalStep}
    {delivered : Delivered} (other : taken ≠ .write)
    (advance : journal.advance taken = some delivered)
    (nothing : journal.log.sink.content = []) :
    delivered.portions.flatten = [] := by
  obtain ⟨done, step, rfl⟩ := Option.map_eq_some_iff.mp advance
  have same := congrArg Sink.content (sink_step_of_ne_write other step)
  exact same.trans nothing

theorem content_advanceAll {journal : Journal} {steps : List JournalStep}
    {delivered : Delivered}
    (run : journal.advanceAll steps = some delivered)
    (nothing : journal.log.sink.content = []) :
    delivered.done.journal.log.sink.content = [] := by
  induction steps generalizing journal delivered with
  | nil =>
      cases run
      exact nothing
  | cons taken steps induction =>
      obtain ⟨first, step, run⟩ := Option.bind_eq_some_iff.mp run
      obtain ⟨later, rest, rfl⟩ := Option.map_eq_some_iff.mp run
      obtain ⟨done, _taken, rfl⟩ := Option.map_eq_some_iff.mp step
      have handed : done.deliver.done.journal.log.sink.content = [] := rfl
      have left := induction rest handed
      exact left

/-- What the file of a journal that hands its portions over has been given once
the writer has stopped: the records of the events that were accepted, in
order. -/
theorem delivered_of_stopped {steps : List JournalStep}
    {delivered : Delivered}
    (run : (opened []).advanceAll steps = some delivered)
    (stopped : delivered.done.journal.stage = .stopped) :
    delivered.portions.flatten =
      delivered.done.accepted.flatMap ActivityLog.lineOf := by
  have kept : (opened []).run steps = some delivered.whole := by
    rw [run_eq_advanceAll, run]
    rfl
  have keeps := (Keeps.opened []).run kept
  calc delivered.portions.flatten
      = delivered.portions.flatten ++
          delivered.done.journal.log.sink.content := by
        rw [content_advanceAll run rfl, List.append_nil]
    _ = delivered.whole.journal.log.sink.content :=
        (Sink.content_after _ _).symm
    _ = delivered.done.accepted.flatMap ActivityLog.lineOf :=
        keeps.content_of_stopped stopped

end Journal

/-! ## A file that fails -/

theorem Sink.flush_failed (sink : Sink) (fault : IoFault) :
    (sink.failed fault).flush =
      (.error fault, { sink with pending := none }) := by
  obtain ⟨medium, stored, buffer, pending⟩ := sink
  cases buffer <;> rfl

/-- A failure to store a portion is told at once, or the next operation on the
file reports it.  Nothing that waits in the queue is lost. -/
theorem Journal.failed_cases (journal : Journal) (fault : IoFault) :
    let done := journal.failed fault
    done.journal.stage = journal.stage ∧
      done.journal.log.queue = journal.log.queue ∧
      ((done.notices = [.activityFlushFailed fault] ∧
          done.journal.log.sink.pending = none) ∨
        (done.notices = [] ∧
          done.journal.log.sink.pending = some fault)) := by
  have flushed (log : ActivityLog) :
      { log with sink := log.sink.failed fault }.flushed =
        ({ log with sink := { log.sink with pending := none } },
          [.activityFlushFailed fault]) := by
    simp only [ActivityLog.flushed, ActivityLog.flush, Sink.flush_failed]
  obtain ⟨log, stage, handles, isAnnounced⟩ := journal
  cases stage with
  | waiting | stopped =>
      simp only [failed, flushed]
      exact ⟨rfl, rfl, .inl ⟨rfl, rfl⟩⟩
  | appended | draining => exact ⟨rfl, rfl, .inr ⟨rfl, rfl⟩⟩

end LoginServer
