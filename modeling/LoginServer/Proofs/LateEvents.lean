import LoginServer.Proofs.JournalConservation
import LoginServer.Server.Closing
import Mathlib.Data.List.Induction

/-!
# Events recorded while a server closes

The writer of the activity log hears of the shutdown without regard to the
workers.  Until it does, every event enters the log; what the workers record
after that is lost, and nothing else is (`Closing.run_keeps_until_heard`).
-/

namespace LoginServer

/-! ## Several events at once -/

namespace ActivityLog

/-- The first of the given events that the queue takes. -/
def taken (log : ActivityLog) (events : List Event) : List Event :=
  if log.closed then [] else events.take (capacity - log.queue.length)

theorem queue_recordAll (log : ActivityLog) (events : List Event) :
    (log.recordAll events).1.queue = log.queue ++ log.taken events := by
  rw [recordAll, taken]
  split
  · exact (List.append_nil _).symm
  · rfl

theorem closed_recordAll (log : ActivityLog) (events : List Event) :
    (log.recordAll events).1.closed = log.closed := by
  rw [recordAll]
  split <;> rfl

theorem taken_cons (log : ActivityLog) (event : Event)
    (events : List Event) :
    log.taken (event :: events) =
      (log.record event).1.queue.drop log.queue.length ++
        (log.record event).1.taken events := by
  rcases log.record_cases event with ⟨isOpen, room, entered⟩ |
    ⟨refused, same⟩
  · have more : capacity - log.queue.length =
        (capacity - (log.queue.length + 1)) + 1 := by omega
    simp [entered, taken, isOpen, more]
  · rw [same, List.drop_length, List.nil_append, taken, taken]
    split
    · rfl
    · next isOpen =>
        rw [Bool.not_eq_true] at isOpen
        have none : capacity - log.queue.length = 0 := by
          have full := not_and.mp refused isOpen
          omega
        rw [none, List.take_zero, List.take_zero]

/-- A queue that is open, and is not full when it has taken events, has taken
all of them. -/
theorem taken_of_room {log : ActivityLog} {events : List Event}
    (isOpen : log.closed = false)
    (room : (log.recordAll events).1.queue.length < capacity) :
    log.taken events = events := by
  rw [queue_recordAll, List.length_append] at room
  rw [taken, if_neg (by simp [isOpen])] at room ⊢
  rw [List.length_take] at room
  exact List.take_of_length_le (by omega)

end ActivityLog

theorem Journal.run_records {journal : Journal} (held : journal.handles ≠ 0)
    (events : List Event) :
    journal.run (events.map .record) =
      some
        { journal := { journal with log := (journal.log.recordAll events).1 }
          accepted := journal.log.taken events
          notices := (journal.log.recordAll events).2 } := by
  induction events generalizing journal with
  | nil =>
      rw [ActivityLog.recordAll_nil, ActivityLog.taken, List.take_nil, ite_self]
      rfl
  | cons event events induction =>
      let next : Journal :=
        { journal with log := (journal.log.record event).1 }
      have later := @induction next held
      have first : journal.step (.record event) =
          some
            { journal := next
              accepted := next.log.queue.drop journal.log.queue.length
              notices := (journal.log.record event).2 } := by
        rw [step, if_neg held]
      rw [List.map_cons, run, first, Option.bind_some, later,
        ActivityLog.recordAll_cons, ActivityLog.taken_cons]
      rfl

/-- The writer does not open a queue again. -/
theorem Journal.Keeps.closed_of_writes {content : Bytes}
    {accepted : List Event} {journal : Journal} {stage : WriterStage}
    {change : ActivityLog × List Notice}
    (keeps : Keeps content accepted journal)
    (writes : journal.Writes stage change)
    (closed : journal.log.closed = true) : change.1.closed = true := by
  apply (keeps.writes writes).closed.mpr
  have left := keeps.closed.mp closed
  cases writes with
  | hear | drain => exact .inl rfl
  | shutDown | finish => exact .inr rfl
  | append waits | settle waits | goOn waits => simp [waits] at left

/-! ## What a worker records -/

namespace Working.Connection

theorem exchanges_greet (connection : Connection) (shared : Shared)
    (broken : Option Break) :
    (connection.greet shared broken).exchanges =
      [.greeting connection.session.peer] := by
  simp only [greet]
  split <;> rfl

theorem exchanges_answerLine (connection : Connection) (shared : Shared)
    (line : String) (before after : Option Break) :
    (connection.answerLine shared line before after).exchanges =
      [(connection.session.answer shared.registry line).2] := by
  simp only [answerLine]
  split <;> rfl

/-- What the decoder of a worker that looks for a line makes of its buffer. -/
def reading (connection : Connection) : Reading :=
  if connection.phase = .ending then
    (connection.codec.decodeEnd connection.received).1
  else connection.codec.decode connection.received

theorem exchanges_step_of_line {connection : Connection} {line : String}
    (busy : connection.isBusy = true)
    (found : connection.reading.outcome = .ok (some line)) (shared : Shared)
    (before after : Option Break) :
    (connection.step shared (.next before after)).exchanges =
      [(connection.session.answer shared.registry line).2] := by
  have looks : connection.step shared (.next before after) =
      connection.next shared before after := by
    cases phase : connection.phase <;> simp_all [isBusy, step]
  rw [looks, next]
  rw [reading] at found
  by_cases ending : connection.phase = .ending
  · rw [if_pos ending] at found
    simp only [ending, if_true, found, exchanges_answerLine]
  · rw [if_neg ending] at found
    simp only [ending, if_false, found, exchanges_answerLine]

end Working.Connection

/-! ## One step -/

namespace Closing

open Working (Team)

variable {content : Bytes} {closing next : Closing} {taken : ClosingStep}

theorem journal_arrive (closing : Closing) (peer : Address) :
    (closing.arrive peer).journal = closing.journal ∧
      (closing.arrive peer).recorded = closing.recorded ∧
      (closing.arrive peer).accepted = closing.accepted := by
  rw [arrive]
  dsimp only
  split <;> exact ⟨rfl, rfl, rfl⟩

theorem events_of_worked (held : closing.journal.handles ≠ 0)
    {time : Timestamp} {dispatched : Working.Dispatched}
    (worked : closing.worked time dispatched = some next) :
    ∃ events : List Event,
      events = (dispatched.exchanges.map fun exchange => { time, exchange }) ∧
        next.recorded = closing.recorded ++ events ∧
        next.accepted =
          closing.accepted ++ closing.journal.log.taken events ∧
        next.journal =
          { closing.journal with
            log := (closing.journal.log.recordAll events).1 } := by
  rw [Closing.worked, Journal.run_records held] at worked
  cases worked
  exact ⟨_, rfl, rfl, rfl, rfl⟩

/-- A greeting is recorded, whether or not the client gets it. -/
theorem recorded_of_greet (held : closing.journal.handles ≠ 0) {handle : Nat}
    {time : Timestamp} {broken : Option Working.Break}
    {connection : Working.Connection}
    (found : closing.admitted.get? handle = some connection)
    (step : closing.step (.greet handle time broken) = some next) :
    next.recorded =
      closing.recorded ++
        [{ time, exchange := .greeting connection.session.peer }] := by
  rw [Closing.step, found, Option.bind_some] at step
  obtain ⟨events, same, recorded, _⟩ :=
    events_of_worked (by exact held) step
  rw [recorded, same, Team.dispatched, connection.exchanges_greet]
  rfl

/-- Every line that a worker answers is recorded, with its answer, whether or
not the client gets that. -/
theorem recorded_of_line (held : closing.journal.handles ≠ 0) {handle : Nat}
    {time : Timestamp} {before after : Option Working.Break}
    {connection : Working.Connection} {line : String}
    (found : closing.team.connections.get? handle = some connection)
    (busy : connection.isBusy = true)
    (reads : connection.reading.outcome = .ok (some line))
    (step : closing.step (.work handle time (.next before after)) =
      some next) :
    let answer := connection.session.answer closing.team.shared.registry line
    next.recorded = closing.recorded ++ [{ time, exchange := answer.2 }] := by
  rw [Closing.step, if_neg (fun hears => by cases hears.1), found,
    Option.bind_some] at step
  obtain ⟨events, same, recorded, _⟩ := events_of_worked held step
  rw [recorded, same, Team.dispatched,
    Working.Connection.exchanges_step_of_line busy reads]
  rfl

/-- An arrival that finds a slot free and is then greeted is what the dispatcher
takes at once. -/
theorem take_of_arrive_greet (closing : Closing) (peer : Address)
    (broken : Option Working.Break)
    (room : closing.team.shared.freeSlots ≠ 0) :
    ∃ handle connection,
      let arrived := closing.arrive peer
      let begun := arrived.team.dispatched handle
        (connection.greet arrived.team.shared broken)
      let taken := closing.team.take peer broken
      arrived.admitted = closing.admitted.put handle connection ∧
        begun.team = taken.team ∧ begun.sent = taken.sent ∧
        begun.exchanges = taken.exchanges := by
  obtain ⟨free, slots⟩ := Nat.exists_eq_succ_of_ne_zero room
  simp only [arrive, Team.take, Shared.nextSession, Shared.count, Shared.enter,
    slots]
  exact ⟨_, _, rfl, rfl, rfl, rfl⟩

/-- What a step means for the log: the shutdown is announced, if anything; or
the writer takes a step; or events are recorded. -/
theorem step_cases (held : closing.journal.handles ≠ 0)
    (step : closing.step taken = some next) :
    (next.recorded = closing.recorded ∧ next.accepted = closing.accepted ∧
      ∃ isAnnounced, next.journal = { closing.journal with isAnnounced }) ∨
    (next.recorded = closing.recorded ∧ next.accepted = closing.accepted ∧
      taken = .write ∧ ∃ stage change, closing.journal.Writes stage change ∧
        next.journal = (closing.journal.wrote stage change).journal) ∨
    ∃ events,
      next.recorded = closing.recorded ++ events ∧
        next.accepted =
          closing.accepted ++ closing.journal.log.taken events ∧
        next.journal =
          { closing.journal with
            log := (closing.journal.log.recordAll events).1 } := by
  cases taken with
  | announce =>
      rw [Closing.step] at step
      split at step
      · cases step
      · cases step
        exact .inl ⟨rfl, rfl, true, rfl⟩
  | write =>
      obtain ⟨done, written, rfl⟩ := Option.map_eq_some_iff.mp step
      obtain ⟨stage, change, writes, rfl⟩ := Journal.writes_of_write written
      exact .inr (.inl ⟨rfl, rfl, rfl, stage, change, writes, rfl⟩)
  | arrive peer =>
      rw [Closing.step] at step
      split at step
      · cases step
        obtain ⟨journal, recorded, accepted⟩ := closing.journal_arrive peer
        exact .inl ⟨recorded, accepted, _, journal⟩
      · cases step
  | stopAccepting =>
      rw [Closing.step] at step
      split at step
      · cases step
        exact .inl ⟨rfl, rfl, _, rfl⟩
      · cases step
  | greet handle time broken =>
      obtain ⟨connection, _, greeted⟩ := Option.bind_eq_some_iff.mp step
      obtain ⟨events, _, brought⟩ := events_of_worked (by exact held) greeted
      exact .inr (.inr ⟨events, brought⟩)
  | work handle time stimulus =>
      rw [Closing.step] at step
      split at step
      · cases step
      · obtain ⟨connection, _, worked⟩ := Option.bind_eq_some_iff.mp step
        obtain ⟨events, _, brought⟩ := events_of_worked held worked
        exact .inr (.inr ⟨events, brought⟩)

/-- The log of a server whose file had some content at first, while the queue
has never been full. -/
structure Accounts (content : Bytes) (closing : Closing) : Prop where
  keeps : Journal.Keeps content closing.accepted closing.journal
  held : closing.journal.handles ≠ 0
  whole : closing.journal.log.closed = false →
    closing.accepted = closing.recorded

theorem Accounts.start (content : Bytes) (shared : Shared) :
    Accounts content (start content shared) :=
  ⟨.opened content, Nat.one_ne_zero, fun _ => rfl⟩

theorem Accounts.step (accounts : Accounts content closing)
    (step : closing.step taken = some next)
    (room : next.journal.log.queue.length < ActivityLog.capacity) :
    Accounts content next := by
  rcases step_cases accounts.held step with
    ⟨recorded, accepted, isAnnounced, journal⟩ |
    ⟨recorded, accepted, _, stage, change, writes, journal⟩ |
    ⟨events, recorded, accepted, journal⟩
  · constructor
    · rw [accepted, journal]
      exact { accounts.keeps with }
    · rw [journal]
      exact accounts.held
    · rw [recorded, accepted, journal]
      exact accounts.whole
  · constructor
    · rw [accepted, journal]
      exact accounts.keeps.writes writes
    · rw [journal]
      exact accounts.held
    · rw [recorded, accepted, journal]
      intro isOpen
      apply accounts.whole
      rw [← Bool.not_eq_true] at isOpen ⊢
      exact mt (accounts.keeps.closed_of_writes writes) isOpen
  · rw [journal] at room
    constructor
    · rw [accepted, journal]
      exact accounts.keeps.run (Journal.run_records accounts.held events)
    · rw [journal]
      exact accounts.held
    · rw [recorded, accepted, journal]
      intro isOpen
      rw [ActivityLog.closed_recordAll] at isOpen
      rw [accounts.whole isOpen, ActivityLog.taken_of_room isOpen room]

/-- Nothing is accepted any more once the queue is closed. -/
theorem Accounts.step_of_closed (accounts : Accounts content closing)
    (step : closing.step taken = some next)
    (closed : closing.journal.log.closed = true) :
    next.accepted = closing.accepted ∧
      closing.recorded <+: next.recorded := by
  rcases step_cases accounts.held step with
    ⟨recorded, accepted, _⟩ | ⟨recorded, accepted, _⟩ |
    ⟨events, recorded, accepted, _⟩
  · exact ⟨accepted, recorded ▸ List.prefix_rfl⟩
  · exact ⟨accepted, recorded ▸ List.prefix_rfl⟩
  · rw [ActivityLog.taken, if_pos closed, List.append_nil] at accepted
    exact ⟨accepted, recorded ▸ List.prefix_append _ _⟩

/-- Only the writer closes the queue, when it hears of the shutdown. -/
theorem Accounts.heard_of_step (accounts : Accounts content closing)
    (step : closing.step taken = some next)
    (isOpen : closing.journal.log.closed = false)
    (closed : next.journal.log.closed = true) :
    taken = .write ∧ closing.journal.isAnnounced = true ∧
      closing.journal.stage = .waiting ∧
      next.recorded = closing.recorded ∧
      next.accepted = closing.accepted := by
  rcases step_cases accounts.held step with
    ⟨_, _, isAnnounced, journal⟩ |
    ⟨recorded, accepted, write, stage, change, writes, journal⟩ |
    ⟨events, _, _, journal⟩
  · rw [journal, isOpen] at closed
    cases closed
  · rw [journal] at closed
    have reached := (accounts.keeps.writes writes).closed.mp closed
    have notDraining : closing.journal.stage ≠ .draining := fun draining => by
      rw [accounts.keeps.closed.mpr (.inl draining)] at isOpen
      cases isOpen
    cases writes with
    | hear waits announced =>
        exact ⟨write, announced, waits, recorded, accepted⟩
    | append | settle | goOn =>
        rcases reached with stage | stage <;> cases stage
    | drain draining | shutDown draining => exact absurd draining notDraining
    | finish _ _ nobody => exact absurd nobody accounts.held
  · rw [journal, ActivityLog.closed_recordAll, isOpen] at closed
    cases closed

/-! ## Every run -/

theorem run_concat (closing : Closing) (steps : List ClosingStep)
    (taken : ClosingStep) :
    closing.run (steps ++ [taken]) =
      (closing.run steps).bind fun middle => middle.step taken := by
  induction steps generalizing closing with
  | nil =>
      change (closing.step taken).bind (run · []) = closing.step taken
      cases closing.step taken <;> rfl
  | cons first steps induction =>
      rw [List.cons_append, run, run, Option.bind_assoc]
      congr 1
      funext next
      exact induction next

/-- The point of a run at which the writer heard of the shutdown. -/
structure HeardAt (content : Bytes) (shared : Shared)
    (steps : List ClosingStep) (heard : Closing) : Prop where
  step : ∃ before after, steps = before ++ .write :: after ∧
    (start content shared).run before = some heard
  announced : heard.journal.isAnnounced = true
  waiting : heard.journal.stage = .waiting

theorem accounts_of_run {shared : Shared} {steps : List ClosingStep}
    {last : Closing} (run : (start content shared).run steps = some last)
    (room : ∀ before middle, before <+: steps →
      (start content shared).run before = some middle →
      middle.journal.log.queue.length < ActivityLog.capacity) :
    Accounts content last ∧
      (last.journal.log.closed = true →
        ∃ heard, HeardAt content shared steps heard ∧
          heard.recorded = last.accepted ∧
          heard.recorded <+: last.recorded) := by
  induction steps using List.reverseRecOn generalizing last with
  | nil =>
      cases run
      refine ⟨.start content shared, fun closed => ?_⟩
      cases closed
  | append_singleton steps taken induction =>
      have roomAtEnd := room _ _ List.prefix_rfl run
      rw [run_concat] at run
      obtain ⟨middle, ran, step⟩ := Option.bind_eq_some_iff.mp run
      obtain ⟨accounts, heardBefore⟩ := induction ran fun before other front =>
        room before other (front.trans (List.prefix_append _ _))
      refine ⟨accounts.step step roomAtEnd, fun closed => ?_⟩
      -- The writer has heard of the shutdown at this step or before it.
      cases isOpen : middle.journal.log.closed with
      | false =>
          obtain ⟨rfl, announced, waiting, recorded, accepted⟩ :=
            accounts.heard_of_step step isOpen closed
          refine ⟨middle, ⟨⟨steps, [], rfl, ran⟩, announced, waiting⟩, ?_, ?_⟩
          · rw [accepted, accounts.whole isOpen]
          · exact recorded ▸ List.prefix_rfl
      | true =>
          obtain ⟨heard, ⟨⟨before, after, cut, ran⟩, announced, waiting⟩, same,
            front⟩ := heardBefore isOpen
          obtain ⟨accepted, more⟩ := accounts.step_of_closed step isOpen
          refine ⟨heard, ⟨⟨before, after ++ [taken], ?_, ran⟩, announced,
            waiting⟩, same.trans accepted.symm, front.trans more⟩
          rw [cut, List.append_assoc]
          rfl

/-- Records take room in a file, so a file tells how many of them it holds. -/
theorem flatMap_lineOf_inj_of_prefix {front events : List Event}
    (isFront : front <+: events) (content : Bytes) :
    content ++ front.flatMap ActivityLog.lineOf =
        content ++ events.flatMap ActivityLog.lineOf ↔
      events = front := by
  obtain ⟨more, rfl⟩ := isFront
  rw [List.append_right_inj, List.flatMap_append, List.self_eq_append_right,
    List.append_right_eq_self, List.flatMap_eq_nil_iff]
  constructor
  · intro empty
    apply List.eq_nil_iff_forall_not_mem.mpr
    intro event member
    exact absurd (empty event member) (by simp [ActivityLog.lineOf])
  · rintro rfl event member
    cases member

/-- When a server has closed whose queue has never been full, the log holds what
it held at first and the records of all events that the workers had recorded at
the step at which the writer heard of the shutdown.  The events that they
recorded later are missing: the log is complete just if there are none. -/
theorem run_keeps_until_heard {content : Bytes} {shared : Shared}
    {steps : List ClosingStep} {last : Closing}
    (run : (start content shared).run steps = some last)
    (room : ∀ before middle, before <+: steps →
      (start content shared).run before = some middle →
      middle.journal.log.queue.length < ActivityLog.capacity)
    (done : last.IsDone) :
    ∃ heard, HeardAt content shared steps heard ∧
      heard.recorded <+: last.recorded ∧
      last.journal.log.sink.content =
        content ++ heard.recorded.flatMap ActivityLog.lineOf ∧
      (last.journal.log.sink.content =
          content ++ last.recorded.flatMap ActivityLog.lineOf ↔
        last.recorded = heard.recorded) := by
  obtain ⟨accounts, heardBefore⟩ := accounts_of_run run room
  have closed := accounts.keeps.closed.mpr (.inr done.written)
  obtain ⟨heard, heardAt, same, front⟩ := heardBefore closed
  have file := accounts.keeps.content_of_stopped done.written
  rw [← same] at file
  refine ⟨heard, heardAt, front, file, ?_⟩
  rw [file]
  exact flatMap_lineOf_inj_of_prefix front content

theorem room_of_takes {closing : Closing} {steps : List ClosingStep}
    (rooms : ∀ count, count < steps.length + 1 →
      ((closing.run (steps.take count)).all fun middle =>
        middle.journal.log.queue.length < ActivityLog.capacity) = true) :
    ∀ before middle, before <+: steps → closing.run before = some middle →
      middle.journal.log.queue.length < ActivityLog.capacity := by
  intro before middle isFront ran
  have rooms' := rooms before.length (Nat.lt_succ_of_le isFront.length_le)
  rw [← List.prefix_iff_eq_take.mp isFront, ran] at rooms'
  exact of_decide_eq_true rooms'

/-- A worker answers a line after the shutdown has been announced, and before
the writer hears of it. -/
theorem run_keeps_until_heard_of_last_line :
    let peer : Address := .v4 ⟨127, 0, 0, 1⟩ 40000
    let time (second : Nat) : Timestamp := ⟨2024, 1, 2, 3, 4, second⟩
    let shared := Shared.start .standard .empty
    let steps : List ClosingStep :=
      [.arrive peer, .greet 1 (time 1) none, .write, .write,
        .work 1 (time 2) (.arrival [66, 89, 69, 13, 10]), .announce,
        .work 1 (time 3) (.next none none), .write,
        .work 1 (time 4) .shutdown, .stopAccepting, .write, .write]
    let events : List Event :=
      [⟨time 1, .greeting peer⟩, ⟨time 3, ⟨peer, some "BYE", .notLoggedIn⟩⟩]
    ∃ last heard, (start [65, 10] shared).run steps = some last ∧
      (∀ before middle, before <+: steps →
        (start [65, 10] shared).run before = some middle →
        middle.journal.log.queue.length < ActivityLog.capacity) ∧
      last.IsDone ∧ last.recorded = events ∧
      last.journal.log.sink.content =
        [65, 10] ++ events.flatMap ActivityLog.lineOf ∧
      HeardAt [65, 10] shared steps heard ∧ events = heard.recorded := by
  intro peer time shared steps events
  have room := room_of_takes
    (by decide +kernel : ∀ count, count < steps.length + 1 →
      (((start [65, 10] shared).run (steps.take count)).all fun middle =>
        middle.journal.log.queue.length < ActivityLog.capacity) = true)
  have ends : (((start [65, 10] shared).run steps).any fun last =>
      last.IsDone ∧ last.recorded = events ∧
        last.journal.log.sink.content =
          [65, 10] ++ events.flatMap ActivityLog.lineOf) = true := by
    decide +kernel
  obtain ⟨last, run, atEnd⟩ := (Option.any_eq_true _ _).mp ends
  obtain ⟨done, recorded, file⟩ := of_decide_eq_true atEnd
  obtain ⟨heard, heardAt, _, _, complete⟩ :=
    run_keeps_until_heard run room done
  rw [recorded] at complete
  exact ⟨last, heard, run, room, done, recorded, file, heardAt,
    complete.mp file⟩

/-- The writer hears of the shutdown while a worker answers a line, and the line
is missing from the log of the closed server. -/
theorem late_line_lost :
    let peer : Address := .v4 ⟨127, 0, 0, 1⟩ 40000
    let time (second : Nat) : Timestamp := ⟨2024, 1, 2, 3, 4, second⟩
    let shared := Shared.start .standard .empty
    let steps : List ClosingStep :=
      [.arrive peer, .greet 1 (time 1) none, .write, .write,
        .work 1 (time 2) (.arrival [66, 89, 69, 13, 10]), .announce, .write,
        .work 1 (time 3) (.next none none), .work 1 (time 4) .shutdown,
        .stopAccepting, .write]
    let greeting : Event := ⟨time 1, .greeting peer⟩
    let line : Event := ⟨time 3, ⟨peer, some "BYE", .notLoggedIn⟩⟩
    (∀ before middle, before <+: steps →
      (start [65, 10] shared).run before = some middle →
      middle.journal.log.queue.length < ActivityLog.capacity) ∧
    ∃ last, (start [65, 10] shared).run steps = some last ∧ last.IsDone ∧
      last.recorded = [greeting, line] ∧
      last.journal.log.sink.content =
        [65, 10] ++ ActivityLog.lineOf greeting ∧
      last.journal.log.sink.content ≠
        [65, 10] ++ [greeting, line].flatMap ActivityLog.lineOf := by
  intro peer time shared steps greeting line
  constructor
  · apply room_of_takes
    decide +kernel
  · have ends : (((start [65, 10] shared).run steps).any fun last =>
        last.IsDone ∧ last.recorded = [greeting, line] ∧
          last.journal.log.sink.content =
            [65, 10] ++ ActivityLog.lineOf greeting ∧
          last.journal.log.sink.content ≠
            [65, 10] ++ [greeting, line].flatMap ActivityLog.lineOf) =
        true := by
      decide +kernel
    obtain ⟨last, run, atEnd⟩ := (Option.any_eq_true _ _).mp ends
    exact ⟨last, run, of_decide_eq_true atEnd⟩

end Closing
end LoginServer
