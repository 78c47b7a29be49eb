import LoginServer.Proofs.WriterSteps

/-!
# The journal keeps what it accepts

What the file holds, what is buffered before it, and the records of the events
that wait are together the content that the file had and the records of all
events that have been accepted, in order (`Journal.Keeps`).  No step changes
that, whoever takes it; so a writer that has stopped has written everything
(`Journal.run_conserves`).
-/

namespace LoginServer

/-! ## The file -/

namespace Sink

/-- A file that keeps what it is given and has not failed. -/
structure IsSound (sink : Sink) : Prop where
  keeps : sink.medium = .keeping
  well : sink.pending = none

/-- The content of the file once the buffer has been handed to it. -/
def text (sink : Sink) : Bytes :=
  sink.content ++ sink.buffer

variable {sink : Sink}

theorem isSound_opened (content : Bytes) :
    (opened .keeping content).IsSound :=
  ⟨rfl, rfl⟩

theorem IsSound.hand (sound : sink.IsSound) (portion : Bytes) :
    sink.hand portion =
      (.ok (), { sink with stored := portion :: sink.stored }) := by
  simp [Sink.hand, sound.keeps, sound.well]

theorem IsSound.empty (sound : sink.IsSound) :
    ∃ after, sink.empty = (.ok (), after) ∧ after.IsSound ∧
      after.text = sink.text ∧ after.buffer = [] := by
  rw [Sink.empty]
  cases held : sink.buffer with
  | nil => exact ⟨sink, rfl, sound, rfl, held⟩
  | cons byte bytes =>
      rw [if_neg (by simp), sound.hand]
      refine ⟨_, rfl, ⟨sound.keeps, sound.well⟩, ?_, rfl⟩
      simp [text, content, held]

/-- Before bytes are appended the buffer makes room for them, and is empty if
they are to go past it. -/
theorem IsSound.makeRoom (sound : sink.IsSound) (bytes : Bytes) :
    ∃ ready,
      (if capacity < sink.buffer.length + bytes.length then sink.empty
        else (.ok (), sink)) = (.ok (), ready) ∧
      ready.IsSound ∧ ready.text = sink.text ∧
      (capacity ≤ bytes.length → ready.buffer = []) := by
  split
  · obtain ⟨ready, emptied, sound', same, nothing⟩ := sound.empty
    exact ⟨ready, emptied, sound', same, fun _ => nothing⟩
  · next fits =>
      refine ⟨sink, rfl, sound, rfl, fun large => ?_⟩
      apply List.eq_nil_of_length_eq_zero
      omega

theorem IsSound.append {sink : Sink} (sound : sink.IsSound)
    (bytes : Bytes) :
    ∃ after, sink.append bytes = (.ok (), after) ∧ after.IsSound ∧
      after.text = sink.text ++ bytes := by
  obtain ⟨ready, made, sound', same, past⟩ := sound.makeRoom bytes
  rw [Sink.append, made]
  dsimp only
  by_cases small : bytes.length < capacity
  · rw [if_pos small]
    refine ⟨_, rfl, ⟨sound'.keeps, sound'.well⟩, ?_⟩
    rw [← same, text, text, List.append_assoc]
    rfl
  · have nothing := past (Nat.not_lt.mp small)
    let handed : Sink :=
      { ready with stored := bytes.take largestPortion :: ready.stored }
    have soundHanded : handed.IsSound := ⟨sound'.keeps, sound'.well⟩
    have grown : handed.text = sink.text ++ bytes.take largestPortion := by
      rw [← same]
      simp [handed, text, content, nothing]
    rw [if_neg small, sound'.hand]
    dsimp only
    split
    · next single =>
        refine ⟨handed, rfl, soundHanded, ?_⟩
        rw [grown, List.take_of_length_le single]
    · next further =>
        obtain ⟨after, appended, soundAfter, whole⟩ :=
          soundHanded.append (bytes.drop largestPortion)
        refine ⟨after, appended, soundAfter, ?_⟩
        rw [whole, grown, List.append_assoc, List.take_append_drop]
termination_by bytes.length
decreasing_by
  rw [List.length_drop, largestPortion]
  simp only [capacity] at small
  omega

theorem IsSound.flush (sound : sink.IsSound) :
    ∃ after, sink.flush = (.ok (), after) ∧ after.IsSound ∧
      after.text = sink.text ∧ after.buffer = [] := by
  obtain ⟨after, emptied, sound', same, nothing⟩ := sound.empty
  refine ⟨after, ?_, sound', same, nothing⟩
  rw [Sink.flush, emptied]
  simp [sound'.well]

end Sink

/-! ## The log -/

namespace ActivityLog

/-- The content of the file once every event that waits has been written. -/
def text (log : ActivityLog) : Bytes :=
  log.sink.text ++ log.queue.flatMap lineOf

variable {log next : ActivityLog} {notices : List Notice}

/-- An event enters the queue just if the queue is open and has room. -/
theorem record_cases (log : ActivityLog) (event : Event) :
    (log.closed = false ∧ log.queue.length < capacity ∧
      (log.record event).1 = { log with queue := log.queue ++ [event] }) ∨
    (¬(log.closed = false ∧ log.queue.length < capacity) ∧
      (log.record event).1 = log) := by
  rw [record]
  cases shut : log.closed with
  | true => exact .inr ⟨by simp, rfl⟩
  | false =>
      by_cases room : log.queue.length < capacity
      · exact .inl ⟨rfl, room, by simp [room]⟩
      · exact .inr ⟨by simp [room], by simp [room]⟩

theorem appendNext?_sound (sound : log.sink.IsSound)
    (taken : log.appendNext? = some (next, notices)) :
    next.sink.IsSound ∧ next.text = log.text ∧ next.closed = log.closed ∧
      notices = [] := by
  rw [appendNext?] at taken
  cases waiting : log.queue with
  | nil => simp [waiting] at taken
  | cons event rest =>
      obtain ⟨after, appended, sound', grown⟩ := sound.append (lineOf event)
      simp only [waiting, write, appended, Option.some.injEq,
        Prod.mk.injEq] at taken
      obtain ⟨rfl, rfl⟩ := taken
      refine ⟨sound', ?_, rfl, rfl⟩
      rw [text, text, waiting, grown, List.flatMap_cons, List.append_assoc]

theorem flushed_sound (sound : log.sink.IsSound) :
    ∃ after, log.flushed = (after, []) ∧ after.sink.IsSound ∧
      after.text = log.text ∧ after.queue = log.queue ∧
      after.closed = log.closed ∧ after.sink.buffer = [] := by
  obtain ⟨sink, done, sound', same, nothing⟩ := sound.flush
  refine ⟨{ log with sink }, ?_, sound', ?_, rfl, rfl, nothing⟩
  · simp [flushed, flush, done]
  · rw [text, text, same]

end ActivityLog

/-! ## One step -/

namespace Journal

/-- A journal whose file had some content and whose queue has accepted some
events. -/
structure Keeps (content : Bytes) (accepted : List Event)
    (journal : Journal) : Prop where
  sound : journal.log.sink.IsSound
  whole : journal.log.text =
    content ++ accepted.flatMap ActivityLog.lineOf
  closed : journal.log.closed = true ↔
    journal.stage = .draining ∨ journal.stage = .stopped
  flushed : journal.stage = .waiting → journal.log.queue = [] →
    journal.log.sink.buffer = []
  written : journal.stage = .stopped →
    journal.log.queue = [] ∧ journal.log.sink.buffer = []

namespace Keeps

variable {content : Bytes} {accepted : List Event} {journal : Journal}

theorem opened (content : Bytes) : Keeps content [] (opened content) := by
  constructor
  · exact Sink.isSound_opened content
  · simp [Journal.opened, start, ActivityLog.opened, ActivityLog.text,
      Sink.text, Sink.opened, Sink.content]
  · simp [Journal.opened, start, ActivityLog.opened]
  · intro _ _
    rfl
  · intro stopped
    cases stopped

/-- A writer that does not wait and has not stopped need not have flushed. -/
theorem busy {stage : WriterStage} {change : ActivityLog × List Notice}
    (waits : stage ≠ .waiting) (stopped : stage ≠ .stopped)
    (sound : change.1.sink.IsSound)
    (whole : change.1.text =
      content ++ accepted.flatMap ActivityLog.lineOf)
    (closed : change.1.closed = true ↔
      stage = .draining ∨ stage = .stopped) :
    Keeps content accepted (journal.wrote stage change).journal where
  sound := sound
  whole := whole
  closed := closed
  flushed := fun waiting => absurd waiting waits
  written := fun ended => absurd ended stopped

theorem writes {stage : WriterStage} {change : ActivityLog × List Notice}
    (keeps : Keeps content accepted journal)
    (writes : journal.Writes stage change) :
    Keeps content accepted (journal.wrote stage change).journal := by
  obtain ⟨after, flush, soundAfter, sameText, sameQueue, sameClosed, empty⟩ :=
    ActivityLog.flushed_sound keeps.sound
  have appends {next : ActivityLog × List Notice}
      (appended : journal.log.appendNext? = some next) :=
    ActivityLog.appendNext?_sound keeps.sound appended
  -- Whether the queue is closed shows at the stage that the writer leaves.
  have closed := keeps.closed
  cases writes with
  | hear stage announced =>
      apply busy (by decide) (by decide) keeps.sound keeps.whole
      simp [ActivityLog.close]
  | append stage quiet appended =>
      obtain ⟨sound, same, shut, _⟩ := appends appended
      apply busy (by decide) (by decide) sound (same.trans keeps.whole)
      simp_all
  | settle stage nothing =>
      rw [flush]
      refine ⟨soundAfter, sameText.trans keeps.whole, ?_, fun _ _ => empty, ?_⟩
      · simp_all [wrote]
      · intro stopped
        cases stopped
  | goOn stage more =>
      refine ⟨keeps.sound, keeps.whole, ?_, ?_, ?_⟩
      · simp_all [wrote]
      · intro _ nothing
        exact absurd nothing more
      · intro stopped
        cases stopped
  | drain stage appended =>
      obtain ⟨sound, same, shut, _⟩ := appends appended
      apply busy (by decide) (by decide) sound (same.trans keeps.whole)
      simp_all
  | shutDown stage nothing =>
      rw [flush]
      refine ⟨soundAfter, sameText.trans keeps.whole, ?_, ?_,
        fun _ => ⟨sameQueue.trans nothing, empty⟩⟩
      · simp_all [wrote]
      · intro waits
        cases waits
  | finish stage quiet nobody nothing =>
      rw [flush]
      refine ⟨soundAfter, sameText.trans keeps.whole, ?_, ?_,
        fun _ => ⟨sameQueue.trans nothing, empty⟩⟩
      · simp [wrote, ActivityLog.close]
      · intro waits
        cases waits

theorem record (keeps : Keeps content accepted journal) (event : Event) :
    let log := (journal.log.record event).1
    Keeps content
      (accepted ++ log.queue.drop journal.log.queue.length)
      { journal with log } := by
  rcases journal.log.record_cases event with ⟨shut, _, entered⟩ | ⟨_, same⟩
  · rw [entered]
    refine ⟨keeps.sound, ?_, keeps.closed, ?_, ?_⟩
    · have whole := keeps.whole
      rw [ActivityLog.text] at whole
      simp only [ActivityLog.text, List.flatMap_append, List.drop_left,
        ← List.append_assoc, whole]
    · intro _ nothing
      exact absurd nothing (by simp)
    · intro stopped
      have closed := keeps.closed.mpr (.inr stopped)
      rw [shut] at closed
      cases closed
  · simpa only [same, List.drop_length, List.append_nil] using keeps

/-- What a step of whoever it is does to what is kept. -/
theorem step {taken : JournalStep} {done : Journaled}
    (keeps : Keeps content accepted journal)
    (step : journal.step taken = some done) :
    Keeps content (accepted ++ done.accepted) done.journal := by
  cases taken with
  | record event =>
      rw [Journal.step] at step
      split at step
      · cases step
      · cases step
        exact keeps.record event
  | share | drop =>
      rw [Journal.step] at step
      split at step
      · cases step
      · cases step
        rw [changed, List.append_nil]
        exact { keeps with }
  | announce =>
      cases step
      rw [changed, List.append_nil]
      exact { keeps with }
  | write =>
      obtain ⟨stage, change, written, rfl⟩ := writes_of_write step
      rw [wrote, List.append_nil]
      exact keeps.writes written

theorem run {steps : List JournalStep} {done : Journaled}
    (keeps : Keeps content accepted journal)
    (run : journal.run steps = some done) :
    Keeps content (accepted ++ done.accepted) done.journal := by
  induction steps generalizing journal accepted done with
  | nil =>
      cases run
      rw [changed, List.append_nil]
      exact keeps
  | cons taken steps induction =>
      obtain ⟨first, step, run⟩ := Option.bind_eq_some_iff.mp run
      obtain ⟨later, rest, rfl⟩ := Option.map_eq_some_iff.mp run
      rw [Journaled.followedBy, ← List.append_assoc]
      exact induction (keeps.step step) rest

theorem content_of_stopped (keeps : Keeps content accepted journal)
    (stopped : journal.stage = .stopped) :
    journal.log.sink.content =
      content ++ accepted.flatMap ActivityLog.lineOf := by
  obtain ⟨nothing, flushed⟩ := keeps.written stopped
  have whole := keeps.whole
  rwa [ActivityLog.text, Sink.text, nothing, flushed, List.flatMap_nil,
    List.append_nil, List.append_nil] at whole

end Keeps

/-! ## Every run -/

/-- The events that enter the queue at the record of one. -/
theorem accepted_record {journal : Journal} (event : Event)
    (held : journal.handles ≠ 0) :
    ∃ done, journal.step (.record event) = some done ∧
      done.journal.log.queue = journal.log.queue ++ done.accepted ∧
      done.accepted =
        if journal.log.closed = false ∧
            journal.log.queue.length < ActivityLog.capacity
        then [event] else [] := by
  refine ⟨_, by rw [step, if_neg held], ?_⟩
  rcases journal.log.record_cases event with ⟨shut, room, entered⟩ |
    ⟨refused, same⟩
  · simp [entered, shut, room]
  · simp [same, refused]

/-- A file that keeps what it is given gets every record once and in order.
Whatever sessions, the writer and the shutdown have done so far:
an event enters the queue just if the queue is open and has room, and the writer
has closed it just when it drains it or has stopped; the file, the buffer and
the queue together hold what the file held at first and all that was accepted;
a writer that waits at an empty queue has nothing in its buffer; once it has
stopped, everything is in the file; and if the shutdown has been announced or no
handle is left, it does stop. -/
theorem run_conserves {content : Bytes} {steps : List JournalStep}
    {done : Journaled} (run : (opened content).run steps = some done) :
    let journal := done.journal
    let whole := content ++ done.accepted.flatMap ActivityLog.lineOf
    (∀ event, journal.handles ≠ 0 →
      ∃ next, journal.step (.record event) = some next ∧
        next.journal.log.queue = journal.log.queue ++ next.accepted ∧
        next.accepted =
          if journal.log.closed = false ∧
              journal.log.queue.length < ActivityLog.capacity
          then [event] else []) ∧
      (journal.log.closed = true ↔
        journal.stage = .draining ∨ journal.stage = .stopped) ∧
      journal.log.sink.content ++ journal.log.sink.buffer ++
        journal.log.queue.flatMap ActivityLog.lineOf = whole ∧
      (journal.stage = .waiting → journal.log.queue = [] →
        journal.log.sink.buffer = []) ∧
      (journal.stage = .stopped → journal.log.sink.content = whole) ∧
      (journal.isAnnounced = true ∨ journal.handles = 0 →
        ∃ count last notices,
          journal.Works count last notices ∧ last.stage = .stopped) := by
  intro journal whole
  have keeps : Keeps content done.accepted journal :=
    (Keeps.opened content).run run
  exact ⟨fun event held => accepted_record event held, keeps.closed,
    keeps.whole, keeps.flushed, keeps.content_of_stopped, exists_stopped⟩

/-- One event is written and flushed; of the next two, one comes before and one
after the announcement of the shutdown; the last one comes when the queue has
been closed. -/
theorem run_conserves_of_late_event :
    let event (second : Nat) : Event :=
      { time := ⟨2024, 1, 2, 3, 4, second⟩
        exchange := .greeting (.v4 ⟨127, 0, 0, 1⟩ 40000) }
    let steps : List JournalStep :=
      [.share, .record (event 1), .write, .write, .record (event 2), .drop,
        .announce, .record (event 3), .write, .record (event 4), .write, .drop,
        .write, .write]
    ∃ done, (opened [65, 10]).run steps = some done ∧
      done.accepted = [event 1, event 2, event 3] ∧
      done.journal.stage = .stopped ∧
      done.journal.log.sink.content =
        [65, 10] ++ done.accepted.flatMap ActivityLog.lineOf := by
  intro event steps
  obtain ⟨done, run, accepted, stopped⟩ :
      ∃ done, (opened [65, 10]).run steps = some done ∧
        done.accepted = [event 1, event 2, event 3] ∧
        done.journal.stage = .stopped :=
    ⟨_, rfl, rfl, rfl⟩
  obtain ⟨_, _, _, _, written, _⟩ := run_conserves run
  exact ⟨done, run, accepted, stopped, written stopped⟩

end Journal
end LoginServer
