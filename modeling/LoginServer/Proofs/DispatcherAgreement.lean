import LoginServer.Proofs.PolledLoop
import LoginServer.Proofs.WorkerRun

/-!
# Both ways of serving agree

A connection that nothing disturbs has the same conversation whether it is
polled or has a worker to itself: the conversation of a client that sends the
accepted lines of its stream (`conversations_agree`).  It does not depend on the
pieces in which the stream arrives, nor on bytes that hold no accepted line.
-/

namespace LoginServer

/-- What a connection has done from its greeting to its end. -/
structure Conversation where
  /-- It has ended and has given back what it held. -/
  isOver : Bool
  sent : Bytes
  exchanges : List Exchange
  /-- What it shared, as it leaves it. -/
  shared : Shared

namespace Conversation

/-- The conversation of an admitted client that sends the given lines and
leaves. -/
def ofLines (shared : Shared) (slot : Slot) (lines : List String) :
    Conversation :=
  let answered :=
    shared.answerEach (.opened slot.session slot.peer) lines
  { isOver := true
    sent := Frame.encode .connected ++ answered.replies
    exchanges := .greeting slot.peer :: answered.exchanges
    shared := (answered.shared.finish answered.session slot).1 }

theorem sent_ofLines (shared : Shared) (slot : Slot) (lines : List String) :
    (ofLines shared slot lines).sent =
      (ofLines shared slot lines).exchanges.flatMap fun exchange =>
        Frame.encode exchange.reply := by
  simp only [ofLines, List.flatMap_cons, Shared.replies_answerEach]
  rfl

theorem inputs_ofLines (shared : Shared) (slot : Slot)
    (lines : List String) :
    (ofLines shared slot lines).exchanges.filterMap Exchange.input =
      lines := by
  simp only [ofLines, List.filterMap_cons, Shared.inputs_answerEach]
  rfl

theorem commands_ofLines (shared : Shared) (slot : Slot)
    (lines : List String) :
    (ofLines shared slot lines).shared.counters.commands =
      shared.counters.commands + UInt64.ofNat lines.length :=
  Shared.commands_answerEach shared _ lines

end Conversation

/-! ## A polled connection -/

namespace Polling

/-- The conversation that a part of the passes is, if there is but one
connection. -/
def Part.conversation (part : Part) : Conversation :=
  { isOver := part.loop.connections.entries.isEmpty
    sent := part.sent.flatMap Prod.snd
    exchanges := part.exchanges
    shared := part.loop.shared }

/-- The conversation that the services of a connection are, if it is removed
when it has ended. -/
def Served.conversation (served : Served) : Conversation :=
  { isOver := !served.isOpen
    sent := served.sent
    exchanges := served.exchanges
    shared :=
      if served.isOpen then served.shared
      else
        (served.shared.finish served.connection.session
          served.connection.slot).1 }

theorem Part.conversation_followedBy (first later : Part) :
    (first.followedBy later).conversation =
      { later.conversation with
        sent := first.conversation.sent ++ later.conversation.sent
        exchanges :=
          first.conversation.exchanges ++ later.conversation.exchanges } := by
  simp only [conversation, followedBy, exchanges, List.flatMap_append,
    List.filterMap_append]

namespace Loop

/-- A loop with one connection. -/
def alone (shared : Shared) (handle : Nat) (connection : Connection) :
    Loop :=
  { shared, connections := .put .empty handle connection }

/-- A pass in which nobody arrives and the sockets do the same. -/
def Occasion.serving (turn : SocketTurn) : Occasion :=
  { accepted := none, turns := fun _ => turn }

theorem pass_nobody (shared : Shared) (turn : SocketTurn) :
    (start shared).pass (.serving turn) = .idle (start shared) :=
  rfl

theorem passes_nobody (shared : Shared) (turns : List SocketTurn) :
    (start shared).passes (turns.map Occasion.serving) =
      .idle (start shared) := by
  induction turns with
  | nil => rfl
  | cons turn turns induction =>
      rw [List.map_cons, passes, pass_nobody]
      dsimp only [Part.idle]
      rw [induction]
      rfl

theorem pass_alone (shared : Shared) (handle : Nat)
    (connection : Connection) (turn : SocketTurn) :
    (alone shared handle connection).pass (.serving turn) =
      (alone shared handle connection).serve turn handle := by
  have handles : (alone shared handle connection).connections.numbers =
      [handle] := rfl
  simp only [pass, accept, Occasion.serving, Part.idle, handles, serveEach,
    Part.followedBy, List.nil_append, List.append_nil]

theorem get?_alone (shared : Shared) (handle : Nat)
    (connection : Connection) :
    (alone shared handle connection).connections.get? handle =
      some connection :=
  Numbered.get?_put_self _ handle connection

theorem serve_alone_of_open {shared : Shared} {handle : Nat}
    {connection : Connection} {turn : SocketTurn}
    (goesOn : (connection.serve shared turn).isOpen = true) :
    let served := connection.serve shared turn
    (alone shared handle connection).serve turn handle =
      { loop := alone served.shared handle served.connection
        read := [(handle, served.read)]
        sent := [(handle, served.sent)]
        incidents := served.exchanges.map (Incident.recorded handle)
        notices := served.notices } := by
  have replaced (later : Connection) :
      (alone shared handle connection).connections.put handle later =
        .put .empty handle later := by
    apply Numbered.eq_of_entries
    simp [alone, Numbered.put, Numbered.putIn, Numbered.empty]
  rw [serve_of_open (get?_alone shared handle connection) goesOn, replaced]
  rfl

theorem serve_alone_of_ended {shared : Shared} {handle : Nat}
    {connection : Connection} {turn : SocketTurn}
    (ends : (connection.serve shared turn).isOpen = false) :
    let served := connection.serve shared turn
    let finished :=
      served.shared.finish served.connection.session served.connection.slot
    (alone shared handle connection).serve turn handle =
      { loop := start finished.1
        read := [(handle, served.read)]
        sent := [(handle, served.sent)]
        incidents :=
          served.exchanges.map (Incident.recorded handle) ++
            [.removed handle]
        notices := served.notices ++ finished.2 } := by
  have removed :
      (alone shared handle connection).connections.remove handle =
        .empty := by
    apply Numbered.eq_of_entries
    simp [alone, Numbered.put, Numbered.putIn, Numbered.empty,
      Numbered.remove]
  rw [serve_of_ended (get?_alone shared handle connection) ends, removed]
  rfl

/-- A loop serves its only connection until that ends. -/
theorem conversation_passes_alone (shared : Shared) (handle : Nat)
    (connection : Connection) (turns : List SocketTurn) :
    ((alone shared handle connection).passes
        (turns.map Occasion.serving)).conversation =
      (connection.serveEach shared turns).conversation := by
  induction turns generalizing shared connection with
  | nil => rfl
  | cons turn turns induction =>
      rw [List.map_cons, passes, pass_alone, Part.conversation_followedBy]
      cases isOpen : (connection.serve shared turn).isOpen with
      | true =>
          rw [serve_alone_of_open isOpen, induction]
          simp only [Part.conversation, Part.exchanges, filterMap_recorded,
            Connection.serveEach, isOpen, if_true, Served.conversation,
            List.flatMap_cons, List.flatMap_nil, List.append_nil]
      | false =>
          rw [serve_alone_of_ended isOpen, passes_nobody,
            Connection.serveEach_of_ended isOpen]
          simp only [Part.conversation, Part.exchanges, Part.idle,
            List.filterMap_append, filterMap_recorded, Served.conversation,
            isOpen]
          simp [Incident.exchange?, start, Numbered.empty]

end Loop

/-- The conversation of a connection that a loop serves alone, once for each
turn of its socket. -/
def converse (shared : Shared) (slot : Slot)
    (greeting : List WriteOutcome) (turns : List SocketTurn) :
    Conversation :=
  let welcomed := (Loop.start shared).welcome slot greeting
  let later := welcomed.loop.passes (turns.map Loop.Occasion.serving)
  (welcomed.followedBy later).conversation

/-- The socket of a connection accepts the greeting and all replies when they
are offered. -/
structure Accepts (shared : Shared) (slot : Slot)
    (greeting : List WriteOutcome) (turns : List SocketTurn) : Prop where
  welcomed : (flush (Frame.encode .connected) greeting).pending = []
  unhindered :
    (Connection.opened slot shared.config.maxLineLength).Unhindered
      shared turns

/-- A polled connection whose replies are accepted has the conversation of a
client that sends the accepted lines of its stream. -/
theorem converse_eq_ofLines {shared : Shared} {slot : Slot}
    {greeting : List WriteOutcome} {turns : List SocketTurn}
    {stream : Bytes} (accepts : Accepts shared slot greeting turns)
    (delivers : Delivers turns stream) :
    converse shared slot greeting turns =
      .ofLines shared slot
        ((Frame.acceptedLines shared.config.maxLineLength stream).map
          Frame.lineText) := by
  let connection := Connection.opened slot shared.config.maxLineLength
  have empty : connection.pending = [] := rfl
  have welcomed : (Loop.start shared).welcome slot greeting =
      { loop := .alone shared slot.session.toNat connection
        read := []
        sent := [(slot.session.toNat, Frame.encode .connected)]
        incidents :=
          [.recorded slot.session.toNat (.greeting slot.peer)]
        notices := [.polledAccepted slot.peer] } := by
    have noFault := fault_flush_of_pending accepts.welcomed
    have accepted := accepted_flush_of_pending accepts.welcomed
    simp only [Loop.welcome, Session.greet, Loop.start, noFault, accepted,
      accepts.welcomed]
    rfl
  have drained : connection.Drained := Connection.drained_opened _ _
  obtain ⟨ended, sameSlot, session, after, sent, exchanges⟩ :=
    Connection.serveEach_delivered drained empty delivers accepts.unhindered
  have lines := Frame.extractAll_lines shared.config.maxLineLength stream
  rw [converse, Part.conversation_followedBy, welcomed]
  dsimp only
  rw [Loop.conversation_passes_alone, ← lines]
  simp only [Served.conversation, ended, sent, exchanges, after, session,
    sameSlot]
  rfl

end Polling

/-! ## A connection with a worker -/

namespace Working

/-- The conversation that the steps of a worker are. -/
def Worked.conversation (worked : Worked) : Conversation :=
  { isOver := worked.connection.phase = .ended
    sent := worked.sent
    exchanges := worked.exchanges
    shared := worked.shared }

/-- The conversation of a connection whose worker takes its stream in
chunks. -/
def converse (shared : Shared) (slot : Slot) (chunks : List Bytes) :
    Conversation :=
  let connection := Connection.opened slot shared.config.maxLineLength
  let greeted := connection.greet shared none
  let later := greeted.connection.serveChunks greeted.shared chunks
  (greeted.followedBy later).conversation

/-- A connection with a worker has the conversation of a client that sends the
accepted lines of its stream. -/
theorem converse_eq_ofLines (shared : Shared) (slot : Slot)
    (chunks : List Bytes) :
    converse shared slot chunks =
      .ofLines shared slot
        ((Frame.acceptedLines shared.config.maxLineLength
          chunks.flatten).map Frame.lineText) := by
  let connection := Connection.opened slot shared.config.maxLineLength
  have waits : connection.Waits := Connection.waits_opened _ _
  have greeted : connection.greet shared none =
      { (connection.worked shared) with
        sent := Frame.encode .connected
        exchanges := [.greeting slot.peer] } := rfl
  obtain ⟨phase, after, sent, exchanges⟩ :=
    Connection.serveChunks_answers waits shared chunks
  have lines := Frame.extractAll_lines shared.config.maxLineLength
    chunks.flatten
  have unfolded : converse shared slot chunks =
      ((connection.greet shared none).followedBy
        (connection.serveChunks shared chunks)).conversation := rfl
  rw [unfolded, greeted, ← lines]
  simp only [Worked.followedBy, Worked.conversation, phase, after, sent,
    exchanges]
  rfl

end Working

/-! ## Agreement -/

/-- Both ways of serving agree on every connection.  If sockets accept what
they are offered, a polled connection and one with a worker that get the same
stream, in whatever pieces, have the same conversation: the greeting, a reply to
each accepted line in turn, as many counted commands, and the same registry at
the end.  Bytes that hold no accepted line may be exchanged for others without
a change: the bytes after the last line, and all bytes from an over-long line
on. -/
theorem conversations_agree {shared : Shared} {slot : Slot}
    {greeting : List WriteOutcome} {turns : List Polling.SocketTurn}
    {stream : Bytes} {chunks : List Bytes}
    (accepts : Polling.Accepts shared slot greeting turns)
    (delivers : Polling.Delivers turns stream)
    (cut : chunks.flatten = stream) :
    let limit := shared.config.maxLineLength
    let lines := (Frame.acceptedLines limit stream).map Frame.lineText
    let polled := Polling.converse shared slot greeting turns
    let worked := Working.converse shared slot chunks
    polled = worked ∧ polled.isOver = true ∧
      polled.exchanges.head? = some (.greeting slot.peer) ∧
      polled.exchanges.filterMap Exchange.input = lines ∧
      polled.sent = (polled.exchanges.flatMap fun exchange =>
        Frame.encode exchange.reply) ∧
      polled.shared.counters.commands =
        shared.counters.commands + UInt64.ofNat lines.length ∧
      ∀ front tail other greeting' turns' chunks',
        stream = front ++ tail → Frame.EndsLine front →
        Frame.Hopeless limit tail → Frame.Hopeless limit other →
        Polling.Accepts shared slot greeting' turns' →
        Polling.Delivers turns' (front ++ other) →
        chunks'.flatten = front ++ other →
        Polling.converse shared slot greeting' turns' = polled ∧
          Working.converse shared slot chunks' = worked := by
  intro limit lines polled worked
  have polledLines : polled = .ofLines shared slot lines :=
    Polling.converse_eq_ofLines accepts delivers
  have workedLines : worked = .ofLines shared slot lines := by
    have served := Working.converse_eq_ofLines shared slot chunks
    rwa [cut] at served
  rw [polledLines, workedLines]
  refine ⟨rfl, rfl, rfl, Conversation.inputs_ofLines _ _ _,
    Conversation.sent_ofLines _ _ _, Conversation.commands_ofLines _ _ _, ?_⟩
  intro front tail other greeting' turns' chunks' parts ended hopeless
    hopelessOther acceptsOther deliversOther cutOther
  have sameLines : Frame.acceptedLines limit (front ++ other) =
      Frame.acceptedLines limit stream := by
    rw [parts, Frame.acceptedLines_append_of_hopeless ended hopelessOther,
      Frame.acceptedLines_append_of_hopeless ended hopeless]
  constructor
  · rw [Polling.converse_eq_ofLines acceptsOther deliversOther,
      sameLines]
  · rw [Working.converse_eq_ofLines, cutOther, sameLines]

/-- A client logs in by a line that arrives in two pieces, and leaves within
the next line, which is not carried out. -/
theorem conversations_agree_on_unfinished_line :
    let slot : Slot := { session := 1, peer := .v4 ⟨127, 0, 0, 1⟩ 40000 }
    let records := [Account.idle "alice" .active]
    let shared := Shared.start .standard (Registry.ofAccounts records).1
    let first : Chunk :=
      ⟨Text.Utf8.encode "USER alice\r".toList, by decide, by decide⟩
    let second : Chunk :=
      ⟨Text.Utf8.encode "\nBYE".toList, by decide, by decide⟩
    let room : List WriteOutcome := [.accepted 64]
    let turns : List Polling.SocketTurn :=
      [{ writesBefore := [], read := .chunk first, writesAfter := room },
        .quiet,
        { writesBefore := [], read := .chunk second, writesAfter := room },
        { writesBefore := [], read := .endOfStream, writesAfter := [] }]
    let stream := first.bytes ++ second.bytes
    let polled := Polling.converse shared slot room turns
    Polling.Accepts shared slot room turns ∧
      Polling.Delivers turns stream ∧ [stream].flatten = stream ∧
      polled = Working.converse shared slot [stream] ∧
      polled.exchanges.filterMap Exchange.input = ["USER alice"] := by
  intro slot records shared first second room turns stream polled
  have accepts : Polling.Accepts shared slot room turns := by
    constructor
    · decide
    · intro count
      let connection :=
        Polling.Connection.opened slot shared.config.maxLineLength
      have early : ∀ few ∈ List.range 5,
          (connection.serveEach shared (turns.take few)).connection.pending =
            [] := by
        decide +kernel
      rcases Nat.lt_or_ge count 5 with fewer | more
      · exact early count (List.mem_range.mpr fewer)
      · have all : turns.take count = turns.take 4 := by
          rw [List.take_of_length_le (Nat.le_of_succ_le more)]
          rfl
        rw [all]
        exact early 4 (by decide)
  have delivers : Polling.Delivers turns stream := by
    have parts : Polling.Delivers turns
        (first.bytes ++ (second.bytes ++ [])) :=
      .chunk rfl (.blocked rfl (.chunk rfl (.ended rfl)))
    rwa [List.append_nil] at parts
  have cut : [stream].flatten = stream := List.append_nil stream
  obtain ⟨same, _isOver, _greeting, inputs, _⟩ :=
    conversations_agree accepts delivers cut
  have lines : (Frame.acceptedLines shared.config.maxLineLength stream).map
      Frame.lineText = ["USER alice"] := by decide +kernel
  exact ⟨accepts, delivers, cut, same, inputs.trans lines⟩

end LoginServer
