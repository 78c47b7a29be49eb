import LoginServer.Proofs.AnsweredLines
import LoginServer.Proofs.ChunkingIndependence
import LoginServer.Server.Working.Connection

/-!
# Runs of a worker

A worker gathers replies only while a complete line waits among the bytes that
it has received, so it has sent all of them when it waits for more bytes.  With
nothing breaking, a worker that is fed a stream in chunks answers the lines that
the whole stream yields (`serveChunks_answers`).
-/

namespace LoginServer.Working.Connection

/-- Gathered replies wait only for the reply to another complete line. -/
def Prompt (connection : Connection) : Prop :=
  connection.gathered = [] ∨ Frame.hasLine connection.received = true

/-- A worker that waits for bytes: it has answered every complete line and sent
every reply. -/
structure Waits (connection : Connection) : Prop where
  phase : connection.phase = .waiting
  gathered : connection.gathered = []
  rest : connection.codec.AtRest connection.received

theorem waits_opened (slot : Slot) (limit : Nat) :
    (opened slot limit).Waits := by
  constructor
  · rfl
  · rfl
  · exact Codec.atRest_fresh limit

theorem Prompt.gathered_of_none {connection : Connection}
    (prompt : connection.Prompt) {limit : Nat}
    (nothing : Frame.split limit 0 connection.received = .ok none) :
    connection.gathered = [] := by
  rcases prompt with empty | waiting
  · exact empty
  · have absent := (Frame.split_eq_none_iff.mp nothing).1
    simp [Frame.hasLine, absent] at waiting

/-! ## One step -/

/-- Gathering a reply loses nothing, and keeps replies back only if a complete
line waits. -/
theorem gather_spec (connection : Connection) (reply : Bytes) :
    let gathered := connection.gather reply none none
    gathered.fault = none ∧
      gathered.accepted ++ gathered.pending = connection.gathered ++ reply ∧
      (gathered.pending = [] ∨
        Frame.hasLine connection.received = true) := by
  simp only [gather]
  by_cases much : gatherLimit ≤ connection.gathered.length <;>
    by_cases waiting : Frame.hasLine connection.received = true <;>
    simp [much, waiting, deliver]

theorem answerLine_unbroken (connection : Connection) (shared : Shared)
    (line : String) :
    connection.answerLine shared line none none =
      let answered := shared.answer connection.session line
      let gathered := connection.gather answered.replies none none
      { connection :=
          { connection with
            session := answered.session
            gathered := gathered.pending }
        shared := answered.shared
        sent := gathered.accepted
        exchanges := answered.exchanges
        notices := answered.notices } := by
  simp only [answerLine]
  rw [(connection.gather_spec
    (shared.answer connection.session line).replies).1]

theorem next_of_line {connection : Connection} {line rest : Bytes}
    (phase : connection.phase = .decoding)
    (fits : connection.codec.Fits connection.received)
    (taken : Frame.split connection.codec.limit 0 connection.received =
      .ok (some (line, rest)))
    (shared : Shared) :
    connection.step shared (.next none none) =
      { connection with
        codec := .fresh connection.codec.limit
        received := rest }.answerLine
          shared (Frame.lineText line) none none := by
  simp [step, next, phase, Codec.decode_of_line fits taken]

theorem next_of_none {connection : Connection}
    (phase : connection.phase = .decoding)
    (fits : connection.codec.Fits connection.received)
    (nothing : Frame.split connection.codec.limit 0 connection.received =
      .ok none)
    (shared : Shared) :
    connection.step shared (.next none none) =
      { connection with
        codec :=
          { connection.codec with searched := connection.received.length }
        phase := .waiting }.worked shared := by
  simp [step, next, phase, Codec.decode_of_none fits nothing]

theorem next_of_error {connection : Connection} {failure : Failure}
    (phase : connection.phase = .decoding)
    (fits : connection.codec.Fits connection.received)
    (failed : Frame.split connection.codec.limit 0 connection.received =
      .error failure)
    (shared : Shared) :
    connection.step shared (.next none none) =
      { connection with codec := .fresh connection.codec.limit }.reject
        shared failure none := by
  simp [step, next, phase, Codec.decode_of_error fits failed]

/-- At the end of the stream a worker that has answered every line ends. -/
theorem next_of_ending {connection : Connection}
    (phase : connection.phase = .ending)
    (rest : connection.codec.AtRest connection.received) (shared : Shared) :
    let worked := connection.step shared (.next none none)
    worked.sent = [] ∧ worked.exchanges = [] ∧
      worked.connection.phase = .ended ∧
      worked.connection.gathered = connection.gathered ∧
      worked.shared =
        (shared.finish connection.session connection.slot).1 := by
  obtain ⟨codec, received, notices, nothing⟩ := rest.decodeEnd
  simp only [step, next, phase, nothing, if_true]
  exact ⟨rfl, rfl, rfl, rfl, rfl⟩

/-- A refusal sends what has been gathered, and ends the worker. -/
theorem reject_unbroken (connection : Connection) (shared : Shared)
    (failure : Failure) :
    let worked := connection.reject shared failure none
    worked.sent = connection.gathered ∧ worked.exchanges = [] ∧
      worked.connection.phase = .ended ∧ worked.connection.gathered = [] ∧
      worked.shared =
        (shared.finish connection.session connection.slot).1 := by
  simp [reject, deliver, finish, Shared.finish, worked, Worked.followedBy]

/-! ## Working until more bytes are needed -/

theorem work_of_idle {connection : Connection}
    (idle : connection.isBusy = false) (shared : Shared) (looks : Nat) :
    connection.work shared looks = connection.worked shared := by
  cases looks with
  | zero => rfl
  | succ looks => simp [work, idle]

/-- What a worker has done when it has dealt with all lines of a buffer: it has
answered them and sent what it had gathered, and then it waits, or it has ended
because a line is too long. -/
structure Settled (connection : Connection) (shared : Shared)
    (taken : Extracted) (worked : Worked) : Prop where
  sent : worked.sent = connection.gathered ++
    (shared.answerEach connection.session taken.lines).replies
  exchanges : worked.exchanges =
    (shared.answerEach connection.session taken.lines).exchanges
  waits : taken.failure = none →
    worked.connection.Waits ∧
      worked.connection.slot = connection.slot ∧
      worked.connection.codec.limit = connection.codec.limit ∧
      worked.connection.received = taken.buffer ∧
      worked.connection.session =
        (shared.answerEach connection.session taken.lines).session ∧
      worked.shared =
        (shared.answerEach connection.session taken.lines).shared
  ended : taken.failure ≠ none →
    worked.connection.phase = .ended ∧
      worked.shared =
        ((shared.answerEach connection.session taken.lines).shared.finish
          (shared.answerEach connection.session taken.lines).session
          connection.slot).1

theorem Settled.prepend {connection : Connection} {shared : Shared}
    {first later : Worked} {taken : Extracted} {line : String}
    (slot : first.connection.slot = connection.slot)
    (limit : first.connection.codec.limit = connection.codec.limit)
    (session : first.connection.session =
      (shared.answer connection.session line).session)
    (shared' : first.shared =
      (shared.answer connection.session line).shared)
    (sent : first.sent ++ first.connection.gathered =
      connection.gathered ++ (shared.answer connection.session line).replies)
    (exchanges : first.exchanges =
      (shared.answer connection.session line).exchanges)
    (settled : first.connection.Settled first.shared taken later) :
    connection.Settled shared { taken with lines := line :: taken.lines }
      (first.followedBy later) := by
  obtain ⟨laterSent, laterExchanges, waits, ended⟩ := settled
  rw [session, shared'] at laterSent laterExchanges waits ended
  rw [slot, limit] at waits
  rw [slot] at ended
  constructor
  · simp only [Worked.followedBy, laterSent, Shared.answerEach]
    rw [← List.append_assoc, sent, List.append_assoc]
  · simp only [Worked.followedBy, laterExchanges, exchanges,
      Shared.answerEach]
  · intro whole
    rw [Shared.answerEach]
    exact waits whole
  · intro failed
    rw [Shared.answerEach]
    exact ended failed

theorem work_of_decoding {connection : Connection}
    (phase : connection.phase = .decoding) (shared : Shared) (looks : Nat) :
    connection.work shared (looks + 1) =
      let first := connection.step shared (.next none none)
      first.followedBy (first.connection.work first.shared looks) := by
  have busy : connection.isBusy = true := by simp [isBusy, phase]
  rw [work, if_pos busy]

theorem settled_reject {connection : Connection} {failure : Failure}
    (phase : connection.phase = .decoding)
    (fits : connection.codec.Fits connection.received)
    (failed : Frame.split connection.codec.limit 0 connection.received =
      .error failure)
    (shared : Shared) (looks : Nat) :
    connection.Settled shared
      (Frame.extractAll connection.codec.limit connection.received)
      (connection.work shared (looks + 1)) := by
  obtain ⟨sent, exchanges, ended, _gathered, after⟩ :=
    reject_unbroken { connection with codec := .fresh connection.codec.limit }
      shared failure
  rw [work_of_decoding phase, next_of_error phase fits failed,
    Frame.extractAll_of_error failed]
  dsimp only
  rw [work_of_idle (by simp [isBusy, ended])]
  constructor
  · simp [worked, Worked.followedBy, Shared.answerEach, sent]
  · simp [worked, Worked.followedBy, Shared.answerEach, exchanges]
  · intro whole
    cases whole
  · intro _
    exact ⟨ended, after⟩

theorem settled_wait {connection : Connection}
    (phase : connection.phase = .decoding)
    (fits : connection.codec.Fits connection.received)
    (prompt : connection.Prompt)
    (nothing : Frame.split connection.codec.limit 0 connection.received =
      .ok none)
    (shared : Shared) (looks : Nat) :
    connection.Settled shared
      (Frame.extractAll connection.codec.limit connection.received)
      (connection.work shared (looks + 1)) := by
  have gathered := prompt.gathered_of_none nothing
  have absent := (Frame.split_eq_none_iff.mp nothing).1
  rw [work_of_decoding phase, next_of_none phase fits nothing,
    Frame.extractAll_of_none nothing]
  dsimp only
  rw [work_of_idle rfl]
  constructor
  · simp [worked, Worked.followedBy, Shared.answerEach, gathered]
  · simp [worked, Worked.followedBy, Shared.answerEach]
  · intro _
    have waits : Waits
        { connection with
          codec :=
            { connection.codec with
              searched := connection.received.length }
          phase := .waiting } :=
      { phase := rfl
        gathered := gathered
        rest := ⟨Codec.fits_searched absent, nothing⟩ }
    exact ⟨waits, rfl, rfl, rfl, rfl, rfl⟩
  · intro failed
    exact absurd rfl failed

/-- A worker that may look often enough deals with all the lines that it has
received. -/
theorem settled_work {connection : Connection} {shared : Shared}
    {looks : Nat} (phase : connection.phase = .decoding)
    (fits : connection.codec.Fits connection.received)
    (prompt : connection.Prompt)
    (enough : connection.received.length < looks) :
    connection.Settled shared
      (Frame.extractAll connection.codec.limit connection.received)
      (connection.work shared looks) := by
  induction looks generalizing connection shared with
  | zero => exact absurd enough (Nat.not_lt_zero _)
  | succ looks induction =>
      cases result :
          Frame.split connection.codec.limit 0 connection.received with
      | error failure => exact settled_reject phase fits result shared looks
      | ok found =>
          cases found with
          | none => exact settled_wait phase fits prompt result shared looks
          | some pair =>
              obtain ⟨line, rest⟩ := pair
              let after : Connection :=
                { connection with
                  codec := .fresh connection.codec.limit
                  received := rest }
              let reply :=
                (shared.answer connection.session
                  (Frame.lineText line)).replies
              -- The reply may wait with the gathered ones, but then the next
              -- look finds the line on which it waits.
              obtain ⟨_fault, kept, promptAfter⟩ := after.gather_spec reply
              have shorter := Frame.length_rest_lt_of_split result
              have enoughAfter : rest.length < looks := by omega
              rw [work_of_decoding phase, next_of_line phase fits result,
                Frame.extractAll_of_line result, answerLine_unbroken]
              exact Settled.prepend rfl rfl rfl rfl kept rfl
                (induction phase (Codec.fits_fresh _ _) promptAfter
                  enoughAfter)

/-! ## Whole streams -/

theorem settle_arrival {connection : Connection} (waits : connection.Waits)
    (shared : Shared) (chunk : Bytes) :
    connection.Settled shared
      (Frame.extractAll connection.codec.limit
        (connection.received ++ chunk))
      (connection.settle shared (.arrival chunk)) := by
  let filled : Connection :=
    { connection with
      received := connection.received ++ chunk
      phase := .decoding }
  have arrived : connection.step shared (.arrival chunk) =
      filled.worked shared := by
    simp [step, waits.phase, filled]
  have fits : filled.codec.Fits filled.received := waits.rest.fits.append chunk
  have settled : filled.Settled shared
      (Frame.extractAll filled.codec.limit filled.received)
      (filled.work shared (filled.received.length + 1)) :=
    settled_work rfl fits (Or.inl waits.gathered) (Nat.lt_succ_self _)
  obtain ⟨sent, exchanges, waiting, ended⟩ := settled
  rw [settle, arrived]
  exact ⟨sent, exchanges, waiting, ended⟩

theorem settle_endOfStream {connection : Connection}
    (waits : connection.Waits) (shared : Shared) :
    let worked := connection.settle shared .endOfStream
    worked.sent = [] ∧ worked.exchanges = [] ∧
      worked.connection.phase = .ended ∧
      worked.shared =
        (shared.finish connection.session connection.slot).1 := by
  let ending : Connection := { connection with phase := .ending }
  have heard : connection.step shared .endOfStream =
      ending.worked shared := by
    simp [step, waits.phase, ending]
  have rest : ending.codec.AtRest ending.received := waits.rest
  let last := ending.step shared (.next none none)
  obtain ⟨sent, exchanges, phase, _gathered, after⟩ : last.sent = [] ∧
      last.exchanges = [] ∧ last.connection.phase = .ended ∧
      last.connection.gathered = connection.gathered ∧
      last.shared =
        (shared.finish connection.session connection.slot).1 :=
    next_of_ending rfl rest shared
  have idle : last.connection.isBusy = false := by simp [isBusy, phase]
  have worked : connection.settle shared .endOfStream =
      (ending.worked shared).followedBy
        (last.followedBy (last.connection.worked last.shared)) := by
    rw [settle, heard, ← work_of_idle idle last.shared ending.received.length]
    rfl
  rw [worked]
  exact ⟨by simp [Worked.followedBy, Connection.worked, sent],
    by simp [Worked.followedBy, Connection.worked, exchanges], phase, after⟩

theorem settle_of_ended {connection : Connection}
    (ended : connection.phase = .ended) (shared : Shared)
    (stimulus : Stimulus) :
    connection.settle shared stimulus = connection.worked shared := by
  have ignored : connection.step shared stimulus =
      connection.worked shared := by
    cases stimulus <;> simp [step, ended]
  have idle : connection.isBusy = false := by simp [isBusy, ended]
  rw [settle, ignored]
  dsimp only [worked]
  rw [work_of_idle idle]
  rfl

theorem serveChunks_of_ended {connection : Connection}
    (ended : connection.phase = .ended) (shared : Shared)
    (chunks : List Bytes) :
    connection.serveChunks shared chunks = connection.worked shared := by
  induction chunks with
  | nil => exact settle_of_ended ended shared .endOfStream
  | cons chunk chunks induction =>
      rw [serveChunks, settle_of_ended ended]
      dsimp only [worked]
      rw [induction]
      rfl

/-- With nothing breaking, a worker answers the lines of its stream, however
the stream is cut into chunks, and then gives back what it holds. -/
theorem serveChunks_answers {connection : Connection}
    (waits : connection.Waits) (shared : Shared) (chunks : List Bytes) :
    let taken := Frame.extractAll connection.codec.limit
      (connection.received ++ chunks.flatten)
    let answered := shared.answerEach connection.session taken.lines
    let worked := connection.serveChunks shared chunks
    worked.connection.phase = .ended ∧
      worked.shared =
        (answered.shared.finish answered.session connection.slot).1 ∧
      worked.sent = answered.replies ∧
      worked.exchanges = answered.exchanges := by
  induction chunks generalizing connection shared with
  | nil =>
      obtain ⟨sent, exchanges, phase, after⟩ :=
        settle_endOfStream waits shared
      have nothing := Frame.extractAll_of_none waits.rest.nothing
      simp only [List.flatten_nil, List.append_nil, nothing,
        Shared.answerEach, serveChunks]
      exact ⟨phase, after, sent, exchanges⟩
  | cons chunk chunks induction =>
      have whole := Frame.extractAll_append connection.codec.limit
        (connection.received ++ chunk) chunks.flatten
      obtain ⟨sent, exchanges, waiting, ended⟩ :=
        settle_arrival waits shared chunk
      rw [waits.gathered, List.nil_append] at sent
      dsimp only
      rw [List.flatten_cons, ← List.append_assoc, whole, serveChunks]
      cases failure : (Frame.extractAll connection.codec.limit
          (connection.received ++ chunk)).failure with
      | some failure =>
          obtain ⟨phase, after⟩ := ended (by simp [failure])
          dsimp only
          rw [serveChunks_of_ended phase]
          simp only [Worked.followedBy, worked, List.append_nil]
          exact ⟨phase, after, sent, exchanges⟩
      | none =>
          obtain ⟨waitsLater, slot, limit, received, session, after⟩ :=
            waiting failure
          have later := induction waitsLater
            (connection.settle shared (.arrival chunk)).shared
          rw [limit, received, session, after, slot] at later
          obtain ⟨phase, laterShared, laterSent, laterExchanges⟩ := later
          simp only [Worked.followedBy]
          rw [after, sent, exchanges, Shared.answerEach_append]
          exact ⟨phase, laterShared, congrArg _ laterSent,
            congrArg _ laterExchanges⟩

end LoginServer.Working.Connection
