import Mathlib.Logic.Function.Iterate
import LoginServer.Protocol.Stream
import LoginServer.Server.Polling.Moment

/-!
# A service is the sequence of its moments

Flushing is attempting again and again, and draining is decoding again and
again.  A service that is followed moment by moment therefore ends, and it has
then brought about what it brings about as a whole (`Moment.settles_first`).
-/

namespace LoginServer

/-! ## Attempts -/

/-- Flushing is one attempt and then flushing what is left. -/
theorem flush_eq (pending : Bytes) (writes : List WriteOutcome) :
    flush pending writes =
      match attempt pending writes with
      | .ended fault => { accepted := [], pending, fault }
      | .accepted count later =>
          { flush (pending.drop count) later with
            accepted :=
              pending.take count ++
                (flush (pending.drop count) later).accepted } := by
  cases writes with
  | nil => rfl
  | cons outcome later =>
      cases pending with
      | nil => rfl
      | cons byte rest =>
          cases outcome with
          | wouldBlock | failed fault => rfl
          | accepted count =>
              by_cases zero : count = 0
              · subst zero
                rfl
              · simp [flush, attempt, zero]

theorem length_lt_of_attempt {pending : Bytes}
    {writes later : List WriteOutcome} {count : Nat}
    (accepted : attempt pending writes = .accepted count later) :
    later.length < writes.length := by
  cases writes with
  | nil => cases accepted
  | cons outcome rest =>
      have same : later = rest := by
        simp only [attempt] at accepted
        split at accepted
        · cases accepted
        · cases outcome with
          | wouldBlock | failed fault => cases accepted
          | accepted other =>
              dsimp only at accepted
              split at accepted <;> cases accepted
              rfl
      rw [same]
      exact Nat.lt_succ_self _

/-! ## Draining -/

namespace Codec

variable {codec : Codec} {buffer : Bytes}

theorem drain_of_line {line : String}
    (decoded : (codec.decode buffer).outcome = .ok (some line)) :
    let reading := codec.decode buffer
    codec.drain buffer =
      { reading.codec.drain reading.buffer with
        lines := line :: (reading.codec.drain reading.buffer).lines } := by
  rw [drain]
  dsimp only
  split
  · next other same =>
      cases decoded.symm.trans same
      rfl
  · next same => cases decoded.symm.trans same
  · next failure same => cases decoded.symm.trans same

theorem drain_of_none (decoded : (codec.decode buffer).outcome = .ok none) :
    codec.drain buffer =
      { lines := [], failure := none
        codec := (codec.decode buffer).codec
        buffer := (codec.decode buffer).buffer } := by
  rw [drain]
  dsimp only
  split
  · next line same => cases decoded.symm.trans same
  · rfl
  · next failure same => cases decoded.symm.trans same

theorem drain_of_error {failure : Failure}
    (decoded : (codec.decode buffer).outcome = .error failure) :
    codec.drain buffer =
      { lines := [], failure := some failure
        codec := (codec.decode buffer).codec
        buffer := (codec.decode buffer).buffer } := by
  rw [drain]
  dsimp only
  split
  · next line same => cases decoded.symm.trans same
  · next same => cases decoded.symm.trans same
  · next other same =>
      cases decoded.symm.trans same
      rfl

end Codec

namespace Polling.Moment

/-- The service ends after some moments, and has then brought about the given
result. -/
def Settles (moment : Moment) (served : Served) : Prop :=
  ∃ steps, (next^[steps] moment).stage = .ended ∧
    (next^[steps] moment).soFar = served

theorem settles_of_ended {moment : Moment} {served : Served}
    (ended : moment.stage = .ended) (same : moment.soFar = served) :
    moment.Settles served :=
  ⟨0, ended, same⟩

theorem settles_of_next {moment : Moment} {served : Served}
    (settles : moment.next.Settles served) : moment.Settles served := by
  obtain ⟨steps, ended, same⟩ := settles
  exact ⟨steps + 1, ended, same⟩

/-! ## One step -/

section Steps

variable {moment : Moment}

theorem next_of_sending {writes : List WriteOutcome} {aim : Aim}
    (stage : moment.stage = .sending writes aim) :
    moment.next = moment.send writes aim := by
  simp only [next, stage]

theorem next_of_piledUp (stage : moment.stage = .reading)
    (piledUp : moment.connection.isPiledUp = true) :
    moment.next = moment.proceed .ended := by
  simp only [next, stage, read, piledUp, if_true]

theorem next_of_reading (stage : moment.stage = .reading)
    (room : moment.connection.isPiledUp = false) :
    moment.next = moment.take moment.turn.read := by
  simp only [next, stage, read, room, Bool.false_eq_true, if_false]

theorem next_of_line {line : String} (stage : moment.stage = .answering)
    (outcome : moment.reading.outcome = .ok (some line)) :
    moment.next = moment.decoded.reply line := by
  simp only [next, stage, answer, outcome]

theorem next_of_none (stage : moment.stage = .answering)
    (outcome : moment.reading.outcome = .ok none) :
    moment.next =
      moment.decoded.proceed (.sending moment.turn.writesAfter .finish) := by
  simp only [next, stage, answer, outcome]

theorem next_of_error {failure : Failure} (stage : moment.stage = .answering)
    (outcome : moment.reading.outcome = .error failure) :
    moment.next =
      moment.decoded.close (.sending moment.turn.writesAfter .finish)
        (.polledRejected moment.connection.peer failure) := by
  simp only [next, stage, answer, outcome]

end Steps

/-! ## Sending -/

/-- Pending replies have been flushed with the given result, and the attempts
to send are over. -/
def flushed (moment : Moment) (aim : Aim) (result : Flushed) : Moment :=
  let sent : Moment :=
    { moment with
      soFar :=
        { moment.soFar with
          connection := { moment.connection with pending := result.pending }
          sent := moment.soFar.sent ++ result.accepted } }
  sent.settle aim result.fault

theorem flushed_nothing (moment : Moment) (aim : Aim)
    (fault : Option IoFault) :
    moment.flushed aim
        { accepted := [], pending := moment.connection.pending, fault } =
      moment.settle aim fault := by
  rw [flushed, List.append_nil]
  rfl

theorem flushed_accept (moment : Moment) (count : Nat) (stage : Stage)
    (aim : Aim) (result : Flushed) :
    (moment.accept count stage).flushed aim result =
      moment.flushed aim
        { result with
          accepted :=
            moment.connection.pending.take count ++ result.accepted } := by
  obtain ⟨accepted, pending, fault⟩ := result
  cases aim <;> cases fault <;>
    simp [flushed, settle, proceed, fail, close, accept, connection]

theorem settles_of_sending {moment : Moment} {served : Served}
    {writes : List WriteOutcome} {aim : Aim}
    (stage : moment.stage = .sending writes aim)
    (settles :
      (moment.flushed aim (flush moment.connection.pending writes)).Settles
        served) :
    moment.Settles served := by
  -- The induction is on the outcomes that are left, as in `flush`.
  apply settles_of_next
  rw [next_of_sending stage, send]
  rw [flush_eq] at settles
  cases attempted : attempt moment.connection.pending writes with
  | ended fault =>
      rw [attempted] at settles
      rwa [flushed_nothing] at settles
  | accepted count later =>
      have fewer := length_lt_of_attempt attempted
      rw [attempted] at settles
      apply settles_of_sending rfl
      rw [flushed_accept]
      exact settles
termination_by writes.length

/-! ## Answering -/

def answered (moment : Moment) (drained : Drained) : Moment :=
  let result :=
    moment.soFar.shared.answerEach moment.connection.session drained.lines
  let rejected := drained.failure.toList.map
    (Notice.polledRejected moment.connection.peer)
  { moment with
    stage := .sending moment.turn.writesAfter .finish
    soFar :=
      { moment.soFar with
        isOpen := moment.soFar.isOpen && drained.failure.isNone
        connection :=
          { moment.connection with
            session := result.session
            codec := drained.codec
            received := drained.buffer
            pending := moment.connection.pending ++ result.replies }
        shared := result.shared
        exchanges := moment.soFar.exchanges ++ result.exchanges
        notices := moment.soFar.notices ++ (result.notices ++ rejected) } }

theorem settles_of_answering {moment : Moment} {served : Served}
    (stage : moment.stage = .answering)
    (settles :
      (moment.answered
        (moment.connection.codec.drain moment.connection.received)).Settles
        served) :
    moment.Settles served := by
  -- The induction is on the buffer, which each line makes shorter.
  apply settles_of_next
  cases outcome : moment.reading.outcome with
  | error failure =>
      rw [next_of_error stage outcome]
      rw [Codec.drain_of_error outcome] at settles
      simpa [answered, close, decoded, reading, connection,
        Shared.answerEach] using settles
  | ok line? =>
      cases line? with
      | none =>
          rw [next_of_none stage outcome]
          rw [Codec.drain_of_none outcome] at settles
          simpa [answered, proceed, decoded, reading, connection,
            Shared.answerEach] using settles
      | some line =>
          have shorter := Codec.length_buffer_lt_of_decode outcome
          have still : (moment.decoded.reply line).stage = .answering := stage
          rw [next_of_line stage outcome]
          rw [Codec.drain_of_line outcome] at settles
          apply settles_of_answering still
          simpa [answered, reply, decoded, reading, connection,
            Connection.peer, Shared.answerEach] using settles
termination_by moment.connection.received.length

/-! ## The whole service -/

/-- The moment at which a service may read, with what it has sent. -/
def toRead (connection : Connection) (shared : Shared) (turn : SocketTurn)
    (sent : Bytes) : Moment :=
  { stage := .reading
    turn
    soFar := connection.served shared true sent [] }

/-- Lines that are answered one by one are answered together. -/
theorem settles_received (connection : Connection) (shared : Shared)
    (turn : SocketTurn) (sent bytes : Bytes) :
    let received := connection.receive shared bytes turn.writesAfter
    ((toRead connection shared turn sent).receive bytes).Settles
      { received with sent := sent ++ received.sent } := by
  apply settles_of_answering rfl
  apply settles_of_sending rfl
  rw [Connection.receive]
  let drained := connection.codec.drain (connection.received ++ bytes)
  let result := shared.answerEach connection.session drained.lines
  let pending := connection.pending ++ result.replies
  change (flushed _ .finish (flush pending turn.writesAfter)).Settles _
  obtain ⟨accepted, left, fault⟩ := flush pending turn.writesAfter
  apply settles_of_ended
  · cases fault <;> rfl
  · cases fault with
    | none =>
        simp only [Option.isNone_none, Bool.and_true, Option.toList_none,
          List.map_nil, List.append_nil]
        rfl
    | some fault =>
        simp only [Option.isNone_some, Bool.and_false, Option.toList_some,
          List.map_cons, List.map_nil]
        rfl

/-- A service ends, and what it has then brought about is what it brings about
as a whole. -/
theorem settles_first (connection : Connection) (shared : Shared)
    (turn : SocketTurn) :
    (first connection shared turn).Settles
      (connection.serve shared turn) := by
  apply settles_of_sending rfl
  rw [Connection.serve]
  change (flushed _ .read (flush connection.pending _)).Settles _
  obtain ⟨sent, pending, fault⟩ :=
    flush connection.pending turn.writesBefore
  cases fault with
  | some fault => exact settles_of_ended rfl rfl
  | none =>
      let waiting : Connection := { connection with pending }
      let moment := toRead waiting shared turn sent
      have stage : moment.stage = .reading := rfl
      change moment.Settles _
      apply settles_of_next
      cases piledUp : waiting.isPiledUp with
      | true =>
          rw [next_of_piledUp stage piledUp]
          exact settles_of_ended rfl rfl
      | false =>
          rw [next_of_reading stage piledUp]
          change (moment.take turn.read).Settles _
          cases turn.read with
          | wouldBlock => exact settles_of_ended rfl rfl
          | failed fault => exact settles_of_ended rfl rfl
          | endOfStream =>
              apply settles_of_sending rfl
              exact settles_of_ended rfl rfl
          | chunk chunk =>
              exact settles_received waiting shared turn sent chunk.bytes

end Polling.Moment
end LoginServer
