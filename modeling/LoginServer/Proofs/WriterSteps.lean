import LoginServer.Activity.Journal

/-!
# The steps of the writer

`Journal.Writes` says what a step of the writer can be.  A writer that nobody
interrupts does in many steps what the log does at once, whether it empties the
queue (`works_settle`), hears of the shutdown (`works_shutDown`), or has nobody
left to write for (`works_finish`).  Once it has to end it does, after finitely
many steps (`exists_stopped`).
-/

namespace LoginServer

namespace ActivityLog

theorem appendNext?_eq_none_iff {log : ActivityLog} :
    log.appendNext? = none ↔ log.queue = [] := by
  rw [appendNext?]
  cases log.queue <;> simp

theorem queue_writeNext (log : ActivityLog) :
    log.writeNext.1.queue = log.queue.tail := by
  rw [writeNext]
  cases waiting : log.queue with
  | nil => exact waiting
  | cons event rest =>
      dsimp only
      split <;> rfl

theorem queue_writeMany (count : Nat) (log : ActivityLog) :
    (log.writeMany count).1.queue = log.queue.drop count := by
  induction count generalizing log with
  | zero => rfl
  | succ count induction =>
      change (writeMany count log.writeNext.1).1.queue = _
      rw [induction, queue_writeNext, List.drop_tail]

theorem queue_settle (log : ActivityLog) : log.settle.1.queue = [] := by
  rw [settle, queue_writeMany, List.drop_length]

end ActivityLog

namespace Journal

/-- The steps of the writer: its next stage, and the log and what is told
then. -/
inductive Writes (journal : Journal) :
    WriterStage → ActivityLog × List Notice → Prop where
  | hear (stage : journal.stage = .waiting)
      (announced : journal.isAnnounced = true) :
      Writes journal .draining (journal.log.close, [.activityDraining])
  | append {written : ActivityLog × List Notice}
      (stage : journal.stage = .waiting)
      (quiet : journal.isAnnounced = false)
      (appended : journal.log.appendNext? = some written) :
      Writes journal .appended written
  | settle (stage : journal.stage = .appended)
      (nothing : journal.log.queue = []) :
      Writes journal .waiting journal.log.flushed
  | goOn (stage : journal.stage = .appended)
      (more : journal.log.queue ≠ []) :
      Writes journal .waiting (journal.log, [])
  | drain {written : ActivityLog × List Notice}
      (stage : journal.stage = .draining)
      (appended : journal.log.appendNext? = some written) :
      Writes journal .draining written
  | shutDown (stage : journal.stage = .draining)
      (nothing : journal.log.queue = []) :
      Writes journal .stopped journal.log.flushed
  | finish (stage : journal.stage = .waiting)
      (quiet : journal.isAnnounced = false)
      (nobody : journal.handles = 0)
      (nothing : journal.log.queue = []) :
      Writes journal .stopped
        (journal.log.flushed.1.close, journal.log.flushed.2)

theorem writes_of_write {journal : Journal} {done : Journaled}
    (taken : journal.write = some done) :
    ∃ stage change, journal.Writes stage change ∧
      done = journal.wrote stage change := by
  rw [write] at taken
  cases stage : journal.stage with
  | waiting =>
      simp only [stage] at taken
      split at taken
      · next announced =>
          cases taken
          exact ⟨_, _, .hear stage announced, rfl⟩
      · next quiet =>
          rw [Bool.not_eq_true] at quiet
          cases waiting : journal.log.appendNext? with
          | some written =>
              simp only [waiting, Option.some.injEq] at taken
              exact ⟨_, _, .append stage quiet waiting, taken.symm⟩
          | none =>
              have nothing := ActivityLog.appendNext?_eq_none_iff.mp waiting
              simp only [waiting] at taken
              split at taken
              · next nobody =>
                  cases taken
                  exact ⟨_, _, .finish stage quiet nobody nothing, rfl⟩
              · cases taken
  | appended =>
      simp only [stage] at taken
      split at taken
      · next nothing =>
          cases taken
          exact ⟨_, _, .settle stage (List.isEmpty_iff.mp nothing), rfl⟩
      · next more =>
          cases taken
          exact ⟨_, _, .goOn stage (mt List.isEmpty_iff.mpr more), rfl⟩
  | draining =>
      simp only [stage] at taken
      cases waiting : journal.log.appendNext? with
      | some written =>
          simp only [waiting, Option.some.injEq] at taken
          exact ⟨_, _, .drain stage waiting, taken.symm⟩
      | none =>
          have nothing := ActivityLog.appendNext?_eq_none_iff.mp waiting
          simp only [waiting, Option.some.injEq] at taken
          exact ⟨_, _, .shutDown stage nothing, taken.symm⟩
  | stopped =>
      simp only [stage] at taken
      cases taken

theorem Writes.write {journal : Journal} {stage : WriterStage}
    {change : ActivityLog × List Notice}
    (writes : journal.Writes stage change) :
    journal.write = some (journal.wrote stage change) := by
  cases writes with
  | hear stage announced => rw [Journal.write, stage]; simp [announced]
  | append stage quiet appended =>
      rw [Journal.write, stage]
      simp [quiet, appended]
  | settle stage nothing => rw [Journal.write, stage]; simp [nothing]
  | goOn stage more => rw [Journal.write, stage]; simp [more]
  | drain stage appended => rw [Journal.write, stage]; simp [appended]
  | shutDown stage nothing =>
      rw [Journal.write, stage]
      simp [ActivityLog.appendNext?_eq_none_iff.mpr nothing]
  | finish stage quiet nobody nothing =>
      rw [Journal.write, stage]
      simp [quiet, nobody, ActivityLog.appendNext?_eq_none_iff.mpr nothing]

/-- The writer can go on unless it has nothing to do or has stopped. -/
theorem write_eq_none_iff {journal : Journal} :
    journal.write = none ↔
      journal.isIdle = true ∨ journal.stage = .stopped := by
  rw [write, isIdle]
  cases stage : journal.stage with
  | waiting =>
      cases announced : journal.isAnnounced with
      | true => simp
      | false =>
          cases waiting : journal.log.appendNext? with
          | some written =>
              have more : journal.log.queue ≠ [] := by
                rw [ne_eq, ← ActivityLog.appendNext?_eq_none_iff, waiting]
                exact Option.some_ne_none written
              simp [more]
          | none =>
              have nothing := ActivityLog.appendNext?_eq_none_iff.mp waiting
              simp [nothing]
  | appended =>
      dsimp only
      split <;> simp
  | draining => cases journal.log.appendNext? <;> simp
  | stopped => simp

/-! ## Several steps -/

variable {journal : Journal}

theorem run_append {steps : List JournalStep} {first : Journaled}
    (run : journal.run steps = some first) (later : List JournalStep) :
    journal.run (steps ++ later) =
      (first.journal.run later).map first.followedBy := by
  induction steps generalizing journal first with
  | nil =>
      cases run
      change journal.run later = (journal.run later).map _
      cases journal.run later <;> rfl
  | cons taken steps induction =>
      obtain ⟨one, step, run⟩ := Option.bind_eq_some_iff.mp run
      obtain ⟨rest, ran, rfl⟩ := Option.map_eq_some_iff.mp run
      rw [List.cons_append, Journal.run, step, Option.bind_some,
        induction ran, Option.map_map]
      congr 1
      funext last
      simp [Journaled.followedBy]

/-- The writer takes some steps, and nobody interrupts it. -/
def Works (journal : Journal) (count : Nat) (last : Journal)
    (notices : List Notice) : Prop :=
  journal.run (List.replicate count .write) =
    some { journal := last, accepted := [], notices }

namespace Works

theorem refl (journal : Journal) : journal.Works 0 journal [] :=
  rfl

theorem one {stage : WriterStage} {change : ActivityLog × List Notice}
    (writes : journal.Writes stage change) :
    journal.Works 1 { journal with log := change.1, stage } change.2 := by
  have taken : journal.step .write = some (journal.wrote stage change) :=
    writes.write
  rw [Works, List.replicate_one, run, taken]
  simp [run, changed, wrote, Journaled.followedBy]

theorem trans {middle last : Journal} {count count' : Nat}
    {notices notices' : List Notice}
    (first : journal.Works count middle notices)
    (later : middle.Works count' last notices') :
    journal.Works (count + count') last (notices ++ notices') := by
  rw [Works] at first later ⊢
  rw [← List.replicate_append_replicate, run_append first, later]
  rfl

end Works

/-! ## The queue is emptied -/

/-- Taking an event and looking for another one is what the log does for one
event. -/
theorem works_writeNext {event : Event} {rest : List Event}
    (stage : journal.stage = .waiting) (quiet : journal.isAnnounced = false)
    (waiting : journal.log.queue = event :: rest) :
    journal.Works 2 { journal with log := journal.log.writeNext.1 }
      journal.log.writeNext.2 := by
  have append := Works.one (.append stage quiet
    (show journal.log.appendNext? = some _ by
      rw [ActivityLog.appendNext?, waiting]))
  cases rest with
  | nil =>
      have next := append.trans (.one (.settle rfl rfl))
      simpa [ActivityLog.writeNext, ActivityLog.flushed, waiting, stage]
        using next
  | cons second rest =>
      have next := append.trans (.one (.goOn rfl (List.cons_ne_nil _ _)))
      simpa [ActivityLog.writeNext, waiting, stage] using next

theorem works_writeMany (stage : journal.stage = .waiting)
    (quiet : journal.isAnnounced = false) (count : Nat)
    (enough : count ≤ journal.log.queue.length) :
    journal.Works (2 * count)
      { journal with log := (journal.log.writeMany count).1 }
      (journal.log.writeMany count).2 := by
  induction count generalizing journal with
  | zero => exact .refl journal
  | succ count induction =>
      obtain ⟨event, rest, waiting⟩ :=
        List.exists_cons_of_length_pos (by omega : 0 < journal.log.queue.length)
      have first := works_writeNext stage quiet waiting
      have left : journal.log.writeNext.1.queue = rest := by
        rw [ActivityLog.queue_writeNext, waiting, List.tail_cons]
      rw [waiting, List.length_cons] at enough
      have later := @induction { journal with log := journal.log.writeNext.1 }
        stage quiet (by rw [left]; omega)
      have both := first.trans later
      rwa [show 2 + 2 * count = 2 * (count + 1) by omega] at both

/-- The writer empties the queue as the log does at once. -/
theorem works_settle (stage : journal.stage = .waiting)
    (quiet : journal.isAnnounced = false) :
    journal.Works (2 * journal.log.queue.length)
      { journal with log := journal.log.settle.1 } journal.log.settle.2 :=
  works_writeMany stage quiet _ (Nat.le_refl _)

theorem works_writeEach (stage : journal.stage = .draining) :
    journal.Works journal.log.queue.length
      { journal with
        log :=
          { journal.log with
            queue := []
            sink :=
              (ActivityLog.writeEach journal.log.sink journal.log.queue).1 } }
      (ActivityLog.writeEach journal.log.sink journal.log.queue).2 := by
  induction waiting : journal.log.queue generalizing journal with
  | nil =>
      have same : { journal.log with queue := [] } = journal.log := by
        rw [← waiting]
      rw [ActivityLog.writeEach, same]
      exact .refl journal
  | cons event rest induction =>
      have append := Works.one (.drain stage
        (show journal.log.appendNext? = some _ by
          rw [ActivityLog.appendNext?, waiting]))
      let next : Journal :=
        { journal with
          log :=
            { journal.log with
              queue := rest
              sink := (ActivityLog.write journal.log.sink event).1 }
          stage := .draining }
      have later := @induction next rfl rfl
      have both := append.trans later
      rw [Nat.add_comm] at both
      rw [ActivityLog.writeEach, stage]
      exact both

/-! ## The writer stops -/

/-- The writer that finds the shutdown announced does what the log does at
once, and has stopped. -/
theorem works_shutDown (stage : journal.stage = .waiting)
    (announced : journal.isAnnounced = true)
    (isOpen : journal.log.closed = false) :
    journal.Works (journal.log.queue.length + 2)
      { journal with log := journal.log.shutDown.1, stage := .stopped }
      journal.log.shutDown.2 := by
  have heard := Works.one (.hear stage announced)
  have drained := heard.trans (works_writeEach rfl)
  have stopped := drained.trans (.one (.shutDown rfl rfl))
  have count : 1 + journal.log.close.queue.length + 1 =
      journal.log.queue.length + 2 := by
    rw [Nat.add_comm 1]
    rfl
  rw [count] at stopped
  simpa [ActivityLog.shutDown, ActivityLog.flushed, ActivityLog.close, isOpen]
    using stopped

/-- The writer whom nobody can give another event does what the log does at
once, and has stopped. -/
theorem works_finish (stage : journal.stage = .waiting)
    (quiet : journal.isAnnounced = false) (nobody : journal.handles = 0)
    (isOpen : journal.log.closed = false) :
    journal.Works (2 * journal.log.queue.length + 1)
      { journal with log := journal.log.finish.1, stage := .stopped }
      journal.log.finish.2 := by
  have settled := works_settle stage quiet
  have stopped := settled.trans
    (.one (.finish stage quiet nobody journal.log.queue_settle))
  simpa [ActivityLog.finish, ActivityLog.flushed, ActivityLog.close, isOpen]
    using stopped

theorem exists_stopped_of_draining (stage : journal.stage = .draining) :
    ∃ count last notices,
      journal.Works count last notices ∧ last.stage = .stopped :=
  ⟨_, _, _, (works_writeEach stage).trans (.one (.shutDown stage rfl)), rfl⟩

theorem exists_stopped_of_waiting (stage : journal.stage = .waiting)
    (ending : journal.isAnnounced = true ∨ journal.handles = 0) :
    ∃ count last notices,
      journal.Works count last notices ∧ last.stage = .stopped := by
  by_cases announced : journal.isAnnounced = true
  · have heard := Works.one (.hear stage announced)
    let next : Journal :=
      { journal with log := journal.log.close, stage := .draining }
    obtain ⟨count, last, notices, works, stopped⟩ :=
      exists_stopped_of_draining (rfl : next.stage = .draining)
    exact ⟨_, last, _, heard.trans works, stopped⟩
  · have nobody := ending.resolve_left announced
    rw [Bool.not_eq_true] at announced
    have stopped := (works_settle stage announced).trans
      (.one (.finish stage announced nobody journal.log.queue_settle))
    exact ⟨_, _, _, stopped, rfl⟩

/-- Once the shutdown is announced, or nobody can record, the writer stops
after some steps. -/
theorem exists_stopped
    (ending : journal.isAnnounced = true ∨ journal.handles = 0) :
    ∃ count last notices,
      journal.Works count last notices ∧ last.stage = .stopped := by
  -- What the writer has just appended is flushed, or not, before it looks.
  have wait {change : ActivityLog × List Notice}
      (writes : journal.Writes .waiting change) :
      ∃ count last notices,
        journal.Works count last notices ∧ last.stage = .stopped := by
    let next : Journal := { journal with log := change.1, stage := .waiting }
    obtain ⟨count, last, notices, works, stopped⟩ :=
      exists_stopped_of_waiting (rfl : next.stage = .waiting) ending
    exact ⟨_, last, _, (Works.one writes).trans works, stopped⟩
  cases stage : journal.stage with
  | waiting => exact exists_stopped_of_waiting stage ending
  | appended =>
      by_cases nothing : journal.log.queue = []
      · exact wait (.settle stage nothing)
      · exact wait (.goOn stage nothing)
  | draining => exact exists_stopped_of_draining stage
  | stopped => exact ⟨0, journal, [], .refl journal, stage⟩

end Journal
end LoginServer
