import LoginServer.Proofs.AnsweredLines
import LoginServer.Proofs.ChunkingIndependence
import LoginServer.Server.Polling.Connection

/-!
# Serving a polled connection

One service either leaves the session and the received bytes alone, or it
receives a chunk and answers the complete lines that the chunk brings about
(`serve_cases`).  Between two services of an open connection no complete line
waits, so that services whose replies are accepted answer the lines of all the
bytes that they read (`serveEach_delivered`).
-/

namespace LoginServer

theorem fault_flush_of_pending {pending : Bytes}
    {outcomes : List WriteOutcome}
    (accepted : (flush pending outcomes).pending = []) :
    (flush pending outcomes).fault = none := by
  induction outcomes generalizing pending with
  | nil => rfl
  | cons outcome outcomes induction =>
      unfold flush at accepted ⊢
      by_cases empty : pending.isEmpty
      · rw [if_pos empty]
      · rw [if_neg empty] at accepted ⊢
        have nonempty : pending ≠ [] := by simpa using empty
        cases outcome with
        | wouldBlock => rfl
        | failed fault => exact absurd accepted nonempty
        | accepted count =>
            dsimp only at accepted ⊢
            by_cases zero : count = 0
            · rw [if_pos zero] at accepted
              exact absurd accepted nonempty
            · rw [if_neg zero] at accepted ⊢
              exact induction accepted

theorem accepted_flush_of_pending {pending : Bytes}
    {outcomes : List WriteOutcome}
    (accepted : (flush pending outcomes).pending = []) :
    (flush pending outcomes).accepted = pending := by
  have whole := accepted_append_pending pending outcomes
  rwa [accepted, List.append_nil] at whole

@[simp] theorem flush_nil (outcomes : List WriteOutcome) :
    flush [] outcomes = { accepted := [], pending := [], fault := none } := by
  cases outcomes <;> rfl

namespace Polling

/-- Turns of a socket that deliver a stream and then its end: each read finds
the next bytes of the stream or nothing. -/
inductive Delivers : List SocketTurn → Bytes → Prop where
  | ended {turn : SocketTurn} {turns : List SocketTurn} :
      turn.read = .endOfStream → Delivers (turn :: turns) []
  | blocked {turn : SocketTurn} {turns : List SocketTurn} {stream : Bytes} :
      turn.read = .wouldBlock → Delivers turns stream →
      Delivers (turn :: turns) stream
  | chunk {turn : SocketTurn} {turns : List SocketTurn} {stream : Bytes}
      {chunk : Chunk} :
      turn.read = .chunk chunk → Delivers turns stream →
      Delivers (turn :: turns) (chunk.bytes ++ stream)

namespace Connection

/-- No complete line waits among the received bytes. -/
def Drained (connection : Connection) : Prop :=
  connection.codec.AtRest connection.received

/-- Whatever the number of services so far, the socket has accepted everything
that it was offered. -/
def Unhindered (connection : Connection) (shared : Shared)
    (turns : List SocketTurn) : Prop :=
  ∀ count,
    (connection.serveEach shared (turns.take count)).connection.pending = []

theorem drained_opened (slot : Slot) (limit : Nat) :
    (opened slot limit).Drained :=
  Codec.atRest_fresh limit

/-! ## One service -/

/-- What one service can do: it reads nothing and answers nothing, or it
receives a chunk. -/
theorem serve_cases (connection : Connection) (shared : Shared)
    (turn : SocketTurn) :
    (∃ isOpen pending sent notices,
      connection.serve shared turn =
        { connection with pending }.served shared isOpen sent notices) ∨
      ∃ chunk pending sent, turn.read = .chunk chunk ∧
        connection.serve shared turn =
          let received :=
            { connection with pending }.receive shared chunk.bytes
              turn.writesAfter
          { received with sent := sent ++ received.sent } := by
  rw [serve]
  cases fault : (flush connection.pending turn.writesBefore).fault with
  | some fault => exact Or.inl ⟨_, _, _, _, rfl⟩
  | none =>
      dsimp only
      split
      · exact Or.inl ⟨_, _, _, _, rfl⟩
      · cases read : turn.read with
        | wouldBlock => exact Or.inl ⟨_, _, _, _, rfl⟩
        | failed fault => exact Or.inl ⟨_, _, _, _, rfl⟩
        | endOfStream => exact Or.inl ⟨_, _, _, _, rfl⟩
        | chunk chunk => exact Or.inr ⟨chunk, _, _, rfl, rfl⟩

theorem config_serve (connection : Connection) (shared : Shared)
    (turn : SocketTurn) :
    (connection.serve shared turn).shared.config = shared.config := by
  rcases connection.serve_cases shared turn with
    ⟨isOpen, pending, sent, notices, unread⟩ |
      ⟨chunk, pending, sent, _read, received⟩
  · rw [unread]
    rfl
  · rw [received]
    exact Shared.config_answerEach shared _ _

theorem lastSession_serve (connection : Connection) (shared : Shared)
    (turn : SocketTurn) :
    (connection.serve shared turn).shared.lastSession =
      shared.lastSession := by
  rcases connection.serve_cases shared turn with
    ⟨isOpen, pending, sent, notices, unread⟩ |
      ⟨chunk, pending, sent, _read, received⟩
  · rw [unread]
    rfl
  · rw [received]
    exact Shared.lastSession_answerEach shared _ _

/-- What further bytes of a connection complete. -/
def completedBy (connection : Connection) (bytes : Bytes) : Extracted :=
  Frame.extractAll connection.codec.limit (connection.received ++ bytes)

/-- A service has answered the lines that the bytes which it read complete, and
the connection stays open only if none of them is too long. -/
structure Answers (connection : Connection) (shared : Shared)
    (served : Served) : Prop where
  slot : served.connection.slot = connection.slot
  limit : served.connection.codec.limit = connection.codec.limit
  session : served.connection.session =
    (shared.answerEach connection.session
      (connection.completedBy served.read).lines).session
  after : served.shared =
    (shared.answerEach connection.session
      (connection.completedBy served.read).lines).shared
  exchanges : served.exchanges =
    (shared.answerEach connection.session
      (connection.completedBy served.read).lines).exchanges
  received : served.connection.received =
    (connection.completedBy served.read).buffer
  drained : (connection.completedBy served.read).failure = none →
    served.connection.Drained
  whole : served.isOpen = true →
    (connection.completedBy served.read).failure = none

theorem completedBy_nil {connection : Connection}
    (drained : connection.Drained) :
    connection.completedBy [] =
      { lines := [], failure := none, buffer := connection.received } := by
  rw [completedBy, List.append_nil]
  exact Frame.extractAll_of_none drained.nothing

theorem drain_eq_completedBy {connection : Connection}
    (drained : connection.Drained) (bytes : Bytes) :
    (connection.codec.drain (connection.received ++ bytes)).extracted =
      connection.completedBy bytes :=
  Codec.extracted_drain (drained.fits.append bytes)

theorem Drained.receive_answers {connection : Connection}
    (drained : connection.Drained) (shared : Shared) (bytes : Bytes)
    (writes : List WriteOutcome) :
    connection.Answers shared (connection.receive shared bytes writes) := by
  have same := drain_eq_completedBy drained bytes
  have limit := Codec.limit_drain connection.codec
    (connection.received ++ bytes)
  constructor
  · rfl
  · exact limit
  · simp only [receive, ← same, Drained.extracted]
  · simp only [receive, ← same, Drained.extracted]
  · simp only [receive, ← same, Drained.extracted]
  · simp only [receive, ← same, Drained.extracted]
  · intro whole
    have noFailure : (connection.codec.drain
        (connection.received ++ bytes)).failure = none :=
      (congrArg Extracted.failure same).trans whole
    exact Codec.atRest_drain (drained.fits.append bytes) noFailure
  · simp only [receive, ← same, Drained.extracted, Bool.and_eq_true,
      Option.isNone_iff_eq_none]
    exact And.left

theorem Drained.served_answers {connection : Connection}
    (drained : connection.Drained) (shared : Shared) (isOpen : Bool)
    (pending sent : Bytes) (notices : List Notice) :
    connection.Answers shared
      ({ connection with pending }.served shared isOpen sent notices) := by
  have nothing := completedBy_nil drained
  constructor
  · rfl
  · rfl
  · simp only [served, nothing, Shared.answerEach]
  · simp only [served, nothing, Shared.answerEach]
  · simp only [served, nothing, Shared.answerEach]
  · simp only [served, nothing]
  · intro _
    exact drained
  · intro _
    simp only [served, nothing]

/-- Whatever one service comes to, it answers the lines that it completes. -/
theorem Drained.serve_answers {connection : Connection}
    (drained : connection.Drained) (shared : Shared) (turn : SocketTurn) :
    connection.Answers shared (connection.serve shared turn) := by
  rcases connection.serve_cases shared turn with
    ⟨isOpen, pending, sent, notices, unread⟩ |
      ⟨chunk, pending, sent, _read, received⟩
  · rw [unread]
    exact drained.served_answers shared isOpen pending sent notices
  · rw [received]
    let waiting : Connection := { connection with pending }
    have drained' : waiting.Drained := drained
    obtain ⟨slot, limit, session, after, exchanges, left, emptied, whole⟩ :=
      drained'.receive_answers shared chunk.bytes turn.writesAfter
    exact ⟨slot, limit, session, after, exchanges, left, emptied, whole⟩

theorem completedBy_append_of_failure {connection : Connection}
    {bytes : Bytes} {failure : Failure}
    (failed : (connection.completedBy bytes).failure = some failure)
    (later : Bytes) :
    (connection.completedBy (bytes ++ later)).lines =
      (connection.completedBy bytes).lines := by
  rw [completedBy] at failed
  rw [completedBy, ← List.append_assoc, Frame.extractAll_append, failed]
  rfl

/-- What a connection completes after a service continues what it completed
before. -/
theorem Answers.completedBy_append {connection : Connection}
    {shared : Shared} {served : Served}
    (answers : connection.Answers shared served)
    (whole : (connection.completedBy served.read).failure = none)
    (later : Bytes) :
    connection.completedBy (served.read ++ later) =
      { served.connection.completedBy later with
        lines :=
          (connection.completedBy served.read).lines ++
            (served.connection.completedBy later).lines } := by
  have limit := answers.limit
  have received := answers.received
  rw [completedBy] at whole
  rw [completedBy, ← List.append_assoc, Frame.extractAll_append, whole]
  simp only [completedBy, limit, received]

/-- If all replies to a chunk are accepted, only a line that is too long ends
the connection. -/
theorem Drained.receive_accepted {connection : Connection}
    (drained : connection.Drained) (empty : connection.pending = [])
    {shared : Shared} {bytes : Bytes} {writes : List WriteOutcome}
    (accepted :
      (connection.receive shared bytes writes).connection.pending = []) :
    let taken := connection.completedBy bytes
    let served := connection.receive shared bytes writes
    served.isOpen = taken.failure.isNone ∧
      served.sent =
        (shared.answerEach connection.session taken.lines).replies := by
  have same := drain_eq_completedBy drained bytes
  simp only [receive, empty, List.nil_append] at accepted
  have noFault := fault_flush_of_pending accepted
  have sent := accepted_flush_of_pending accepted
  simp only [receive, empty, List.nil_append, noFault, sent, ← same,
    Drained.extracted, Option.isNone_none, Bool.and_true, and_self]

theorem serve_of_no_pending {connection : Connection}
    (empty : connection.pending = []) (shared : Shared) (turn : SocketTurn) :
    connection.serve shared turn =
      match turn.read with
      | .wouldBlock => connection.served shared true [] []
      | .failed fault =>
          connection.served shared false []
            [.polledFailed connection.peer (.io fault)]
      | .endOfStream =>
          connection.served shared false [] [.polledClosed connection.peer]
      | .chunk chunk =>
          connection.receive shared chunk.bytes turn.writesAfter := by
  obtain ⟨slot, session, codec, received, pending⟩ := connection
  subst empty
  rw [serve]
  simp only [flush_nil]
  have roomy : isPiledUp ⟨slot, session, codec, received, []⟩ = false := rfl
  rw [roomy]
  cases turn.read <;> rfl

/-! ## Services until the end of the stream -/

theorem serveEach_of_ended {connection : Connection} {shared : Shared}
    {turn : SocketTurn} (ends : (connection.serve shared turn).isOpen = false)
    (turns : List SocketTurn) :
    connection.serveEach shared (turn :: turns) =
      connection.serve shared turn := by
  simp only [serveEach, ends, Bool.false_eq_true, if_false]

theorem Unhindered.first {connection : Connection} {shared : Shared}
    {turn : SocketTurn} {turns : List SocketTurn}
    (unhindered : connection.Unhindered shared (turn :: turns)) :
    (connection.serve shared turn).connection.pending = [] := by
  have once := unhindered 1
  simp only [List.take_succ_cons, List.take_zero, serveEach] at once
  split at once <;> exact once

theorem Unhindered.later {connection : Connection} {shared : Shared}
    {turn : SocketTurn} {turns : List SocketTurn}
    (unhindered : connection.Unhindered shared (turn :: turns))
    (goesOn : (connection.serve shared turn).isOpen = true) :
    (connection.serve shared turn).connection.Unhindered
      (connection.serve shared turn).shared turns := by
  intro count
  have more := unhindered (count + 1)
  simpa only [List.take_succ_cons, serveEach, goesOn, if_true] using more

/-- A connection whose replies are accepted, served until the end of its stream,
has answered the lines that the whole stream yields, and has ended. -/
theorem serveEach_delivered {connection : Connection} {shared : Shared}
    {turns : List SocketTurn} {stream : Bytes}
    (drained : connection.Drained) (empty : connection.pending = [])
    (delivers : Delivers turns stream)
    (unhindered : connection.Unhindered shared turns) :
    let lines := (connection.completedBy stream).lines
    let answered := shared.answerEach connection.session lines
    let served := connection.serveEach shared turns
    served.isOpen = false ∧
      served.connection.slot = connection.slot ∧
      served.connection.session = answered.session ∧
      served.shared = answered.shared ∧
      served.sent = answered.replies ∧
      served.exchanges = answered.exchanges := by
  -- Between two services nothing is pending and no complete line waits, so
  -- what is still to be delivered continues what has been received.
  induction delivers generalizing connection shared with
  | @ended turn turns read =>
      have first : connection.serve shared turn =
          connection.served shared false []
            [.polledClosed connection.peer] := by
        rw [serve_of_no_pending empty, read]
      have nothing := completedBy_nil drained
      simp [serveEach, first, served, nothing, Shared.answerEach]
  | @blocked turn turns stream read delivers induction =>
      have first : connection.serve shared turn =
          connection.served shared true [] [] := by
        rw [serve_of_no_pending empty, read]
      have goesOn : (connection.serve shared turn).isOpen = true := by
        rw [first]
        rfl
      have unhinderedLater := unhindered.later goesOn
      rw [first] at unhinderedLater
      have later := induction drained empty unhinderedLater
      simpa [serveEach, first, served] using later
  | @chunk turn turns stream chunk read delivers induction =>
      have first : connection.serve shared turn =
          connection.receive shared chunk.bytes turn.writesAfter := by
        rw [serve_of_no_pending empty, read]
      have answers := drained.receive_answers shared chunk.bytes
        turn.writesAfter
      have accepted := unhindered.first
      rw [first] at accepted
      obtain ⟨isOpen, sent⟩ := drained.receive_accepted empty accepted
      cases failure : (connection.completedBy chunk.bytes).failure with
      | some failure =>
          have ends : (connection.serve shared turn).isOpen = false := by
            rw [first, isOpen, failure]
            rfl
          have sameLines :=
            completedBy_append_of_failure failure stream
          rw [serveEach_of_ended ends, sameLines]
          refine ⟨ends, ?_⟩
          rw [first]
          exact ⟨answers.slot, answers.session, answers.after, sent,
            answers.exchanges⟩
      | none =>
          have goesOn : (connection.serve shared turn).isOpen = true := by
            rw [first, isOpen, failure]
            rfl
          have unhinderedLater := unhindered.later goesOn
          rw [first] at unhinderedLater
          have later :=
            induction (answers.drained failure) accepted unhinderedLater
          have lines : (connection.completedBy (chunk.bytes ++ stream)).lines =
              (connection.completedBy chunk.bytes).lines ++
                ((connection.receive shared chunk.bytes
                  turn.writesAfter).connection.completedBy stream).lines :=
            congrArg Extracted.lines
              (answers.completedBy_append failure stream)
          rw [answers.session, answers.after, answers.slot] at later
          obtain ⟨ended, slot, session, after, sentLater, exchanges⟩ := later
          simp only [serveEach, goesOn, if_true]
          rw [first, answers.after, answers.exchanges, sent, lines,
            Shared.answerEach_append]
          exact ⟨ended, slot, session, after, congrArg _ sentLater,
            congrArg _ exchanges⟩

end Connection

end Polling

end LoginServer
