import LoginServer.Proofs.DispatcherAgreement
import LoginServer.Proofs.PolledLines

/-!
# What sockets accept of the replies

The replies that a polled connection owes its client leave in order: what the
socket has accepted, followed by what is still pending, is the greeting and the
replies to all answered lines (`Past.conveyed`).  A connection that is removed
takes its pending replies with it; a worker waits until its replies are
accepted, and loses none (`replies_conveyed`).
-/

namespace LoginServer.Polling

/-- The reply that an incident tells of, if it is about the given connection. -/
def Incident.replyTo? (handle : Nat) : Incident → Option Reply
  | .recorded other exchange =>
      if other = handle then some exchange.reply else none
  | .removed _ => none

namespace Part

/-- The bytes that the socket of a connection accepted. -/
def sentTo (part : Part) (handle : Nat) : Bytes :=
  (part.sent.filter fun entry => entry.1 = handle).flatMap Prod.snd

/-- The greeting of a connection and the replies to its lines, as they are
sent. -/
def owedTo (part : Part) (handle : Nat) : Bytes :=
  (part.incidents.filterMap (Incident.replyTo? handle)).flatMap Frame.encode

theorem sentTo_followedBy (first later : Part) (handle : Nat) :
    (first.followedBy later).sentTo handle =
      first.sentTo handle ++ later.sentTo handle := by
  simp only [sentTo, followedBy, List.filter_append, List.flatMap_append]

theorem owedTo_followedBy (first later : Part) (handle : Nat) :
    (first.followedBy later).owedTo handle =
      first.owedTo handle ++ later.owedTo handle := by
  simp only [owedTo, followedBy, List.filterMap_append, List.flatMap_append]

end Part

/-- The replies of exchanges, as they are sent. -/
def repliesOf (exchanges : List Exchange) : Bytes :=
  exchanges.flatMap fun exchange => Frame.encode exchange.reply

theorem owed_recorded_self (handle : Nat) (exchanges : List Exchange) :
    ((exchanges.map (Incident.recorded handle)).filterMap
      (Incident.replyTo? handle)).flatMap Frame.encode =
        repliesOf exchanges := by
  induction exchanges with
  | nil => rfl
  | cons exchange exchanges induction =>
      simp only [List.map_cons, List.filterMap_cons, Incident.replyTo?,
        if_true, List.flatMap_cons, induction, repliesOf]

theorem owed_recorded_other {handle other : Nat} (different : other ≠ handle)
    (exchanges : List Exchange) :
    (exchanges.map (Incident.recorded handle)).filterMap
      (Incident.replyTo? other) = [] := by
  rw [List.filterMap_map, List.filterMap_eq_nil_iff]
  intro exchange _
  exact if_neg different.symm

/-! ## One service -/

namespace Connection

theorem receive_conserves (connection : Connection) (shared : Shared)
    (bytes : Bytes) (writes : List WriteOutcome) :
    let served := connection.receive shared bytes writes
    served.sent ++ served.connection.pending =
      connection.pending ++ repliesOf served.exchanges := by
  simp only [receive, accepted_append_pending, repliesOf,
    Shared.replies_answerEach]

/-- A service loses no reply and sends none twice: what it sends and what it
leaves pending are what was pending and the new replies. -/
theorem serve_conserves (connection : Connection) (shared : Shared)
    (turn : SocketTurn) :
    let served := connection.serve shared turn
    served.sent ++ served.connection.pending =
      connection.pending ++ repliesOf served.exchanges := by
  have first := accepted_append_pending connection.pending turn.writesBefore
  let flushed : Connection :=
    { connection with
      pending := (flush connection.pending turn.writesBefore).pending }
  have unread (isOpen : Bool) (notices : List Notice) :
      let served := flushed.served shared isOpen
        (flush connection.pending turn.writesBefore).accepted notices
      served.sent ++ served.connection.pending =
        connection.pending ++ repliesOf served.exchanges := by
    simpa [served, flushed, repliesOf] using first
  rw [serve]
  cases (flush connection.pending turn.writesBefore).fault with
  | some fault => exact unread false _
  | none =>
      dsimp only
      split
      · exact unread true []
      · cases turn.read with
        | wouldBlock => exact unread true []
        | failed fault => exact unread false _
        | endOfStream =>
            have last := accepted_append_pending
              (flush connection.pending turn.writesBefore).pending
              turn.writesAfter
            simp only [served, repliesOf, List.flatMap_nil, List.append_nil,
              List.append_assoc]
            rw [last, first]
        | chunk chunk =>
            have received := flushed.receive_conserves shared chunk.bytes
              turn.writesAfter
            dsimp only at received ⊢
            rw [List.append_assoc, received, ← List.append_assoc, first]

end Connection

namespace Loop

/-! ## One part -/

theorem sentTo_serve_self {loop : Loop} {handle : Nat}
    {connection : Connection}
    (found : loop.connections.get? handle = some connection)
    (turn : SocketTurn) :
    (loop.serve turn handle).sentTo handle =
        (connection.serve loop.shared turn).sent ∧
      (loop.serve turn handle).owedTo handle =
        repliesOf (connection.serve loop.shared turn).exchanges := by
  cases isOpen : (connection.serve loop.shared turn).isOpen with
  | true =>
      rw [serve_of_open found isOpen]
      exact ⟨by simp [Part.sentTo], owed_recorded_self handle _⟩
  | false =>
      rw [serve_of_ended found isOpen]
      refine ⟨by simp [Part.sentTo], ?_⟩
      rw [Part.owedTo, List.filterMap_append, List.flatMap_append,
        owed_recorded_self]
      exact List.append_nil _

theorem sentTo_serve_other (loop : Loop) (turn : SocketTurn)
    {handle other : Nat} (different : other ≠ handle) :
    (loop.serve turn handle).sentTo other = [] ∧
      (loop.serve turn handle).owedTo other = [] := by
  cases found : loop.connections.get? handle with
  | none =>
      rw [serve_of_absent found]
      exact ⟨rfl, rfl⟩
  | some connection =>
      cases isOpen : (connection.serve loop.shared turn).isOpen with
      | true =>
          rw [serve_of_open found isOpen]
          refine ⟨by simp [Part.sentTo, different.symm], ?_⟩
          rw [Part.owedTo, owed_recorded_other different]
          rfl
      | false =>
          rw [serve_of_ended found isOpen]
          refine ⟨by simp [Part.sentTo, different.symm], ?_⟩
          rw [Part.owedTo, List.filterMap_append,
            owed_recorded_other different]
          rfl

/-- An arrival concerns no connection but its own, and of its greeting nothing
is lost as long as it is kept. -/
theorem take_conserves (loop : Loop) (arrival : Arrival) :
    let taken := loop.take arrival
    let handle := (loop.shared.lastSession + 1).toNat
    (∀ other, other ≠ handle →
      taken.sentTo other = [] ∧ taken.owedTo other = [] ∧
        taken.loop.connections.get? other =
          loop.connections.get? other) ∧
      taken.sentTo handle <+: taken.owedTo handle ∧
      (taken.loop.connections = loop.connections ∨
        ∃ connection,
          taken.loop.connections.get? handle = some connection ∧
          taken.sentTo handle ++ connection.pending =
            taken.owedTo handle) := by
  intro taken handle
  cases room : loop.shared.freeSlots with
  | zero =>
      have refused := take_of_full room arrival
      simp only [taken, refused]
      exact ⟨fun _ _ => ⟨rfl, rfl, rfl⟩, List.prefix_refl _, Or.inl rfl⟩
  | succ free =>
      have whole := accepted_append_pending (Frame.encode .connected)
        arrival.writes
      have greeted := take_of_free room arrival
      simp only [taken, greeted, welcome, Session.greet]
      have own : loop.arrived.lastSession.toNat = handle := rfl
      cases (flush (Frame.encode .connected) arrival.writes).fault with
      | some fault =>
          refine ⟨?_, ?_, Or.inl rfl⟩
          · intro other different
            simp [Part.sentTo, Part.owedTo, Incident.replyTo?, own,
              different.symm]
          · simp only [Part.sentTo, Part.owedTo, own]
            simp [Incident.replyTo?, Exchange.greeting]
            exact ⟨_, whole⟩
      | none =>
          refine ⟨?_, ?_, Or.inr ⟨_, Numbered.get?_put_self _ _ _, ?_⟩⟩
          · intro other different
            refine ⟨by simp [Part.sentTo, own, different.symm],
              by simp [Part.owedTo, Incident.replyTo?, own, different.symm],
              Numbered.get?_put_other _ _ different⟩
          · simp [Part.sentTo, Part.owedTo, own, Incident.replyTo?,
              Exchange.greeting]
            exact ⟨_, whole⟩
          · simpa [Part.sentTo, Part.owedTo, own, Incident.replyTo?,
              Exchange.greeting] using whole

/-! ## Histories -/

/-- What a loop has done after some of the parts of its passes. -/
inductive Past (shared : Shared) : Part → Prop where
  | start : Past shared (.idle (.start shared))
  | take {history : Part} (arrival : Arrival) :
      Past shared history →
      history.loop.shared.lastSession.toNat + 1 < UInt64.size →
      Past shared (history.followedBy (history.loop.take arrival))
  | miss {history : Part} (fault : IoFault) :
      Past shared history →
      Past shared { history with
        notices := history.notices ++ [.polledAcceptFailed fault] }
  | serve {history : Part} (turn : SocketTurn) (handle : Nat) :
      Past shared history →
      Past shared (history.followedBy (history.loop.serve turn handle))

theorem past_passes {shared : Shared} {occasions : List Occasion}
    (room : shared.lastSession.toNat + arrivals occasions <
      UInt64.size) :
    Past shared ((start shared).passes occasions) := by
  have takes (history : Part) (arrival : Arrival)
      (past : Past shared history)
      (below : history.loop.shared.lastSession.toNat + 1 < UInt64.size) :
      Past shared (history.followedBy (history.loop.take arrival)) :=
    .take arrival past below
  have serves (history : Part) (turn : SocketTurn) (handle : Nat)
      (past : Past shared history) :
      Past shared (history.followedBy (history.loop.serve turn handle)) :=
    .serve turn handle past
  exact passes_induction takes (fun _history fault => .miss fault) serves
    occasions .start room

/-- What sockets have accepted is the front of what is owed to their clients,
and what is pending with a connection is the rest of it. -/
structure Conveyed (history : Part) : Prop where
  front : ∀ handle, history.sentTo handle <+: history.owedTo handle
  rest : ∀ (handle : Nat) (connection : Connection),
    history.loop.connections.get? handle = some connection →
      history.sentTo handle ++ connection.pending = history.owedTo handle
  fresh : ∀ handle, history.loop.shared.lastSession.toNat < handle →
    history.sentTo handle = [] ∧ history.owedTo handle = [] ∧
      history.loop.connections.get? handle = none

namespace Conveyed

theorem start (shared : Shared) : Conveyed (.idle (Loop.start shared)) := by
  constructor
  · intro handle
    exact List.prefix_refl _
  · intro handle connection found
    cases found
  · intro handle _
    exact ⟨rfl, rfl, rfl⟩

theorem change {history part : Part} (conveyed : Conveyed history)
    (handle : Nat)
    (above : history.loop.shared.lastSession.toNat ≤
      part.loop.shared.lastSession.toNat)
    (given : handle ≤ part.loop.shared.lastSession.toNat)
    (others : ∀ other, other ≠ handle →
      part.sentTo other = [] ∧ part.owedTo other = [] ∧
        part.loop.connections.get? other =
          history.loop.connections.get? other)
    (front : history.sentTo handle ++ part.sentTo handle <+:
      history.owedTo handle ++ part.owedTo handle)
    (rest : ∀ connection : Connection,
      part.loop.connections.get? handle = some connection →
        history.sentTo handle ++ part.sentTo handle ++ connection.pending =
          history.owedTo handle ++ part.owedTo handle) :
    Conveyed (history.followedBy part) := by
  constructor
  · intro number
    rw [Part.sentTo_followedBy, Part.owedTo_followedBy]
    by_cases here : number = handle
    · subst here
      exact front
    · obtain ⟨unsent, silent, _same⟩ := others number here
      rw [unsent, silent, List.append_nil, List.append_nil]
      exact conveyed.front number
  · intro number connection found
    rw [Part.sentTo_followedBy, Part.owedTo_followedBy]
    by_cases here : number = handle
    · subst here
      exact rest connection found
    · obtain ⟨unsent, silent, same⟩ := others number here
      rw [Part.loop_followedBy, same] at found
      rw [unsent, silent, List.append_nil, List.append_nil]
      exact conveyed.rest number connection found
  · intro number beyond
    rw [Part.loop_followedBy] at beyond
    have different : number ≠ handle := by omega
    obtain ⟨unsent, silent, same⟩ := others number different
    obtain ⟨noBytes, noReplies, absent⟩ :=
      conveyed.fresh number (Nat.lt_of_le_of_lt above beyond)
    rw [Part.sentTo_followedBy, Part.owedTo_followedBy,
      Part.loop_followedBy, same, unsent, silent, noBytes, noReplies]
    exact ⟨rfl, rfl, absent⟩

theorem take {history : Part} (conveyed : Conveyed history)
    (arrival : Arrival)
    (below : history.loop.shared.lastSession.toNat + 1 < UInt64.size) :
    Conveyed (history.followedBy (history.loop.take arrival)) := by
  let handle := (history.loop.shared.lastSession + 1).toNat
  have next : handle = history.loop.shared.lastSession.toNat + 1 :=
    toNat_add_one_of_lt below
  have last : (history.loop.take arrival).loop.shared.lastSession.toNat =
      handle :=
    congrArg UInt64.toNat (history.loop.take_cases arrival).2.2.2.1
  obtain ⟨others, front, kept⟩ := history.loop.take_conserves arrival
  have beyond : history.loop.shared.lastSession.toNat < handle := by omega
  obtain ⟨noBytes, noReplies, absent⟩ := conveyed.fresh handle beyond
  apply conveyed.change handle
  · omega
  · exact Nat.le_of_eq last.symm
  · exact others
  · rw [noBytes, noReplies]
    exact front
  · intro connection found
    rw [noBytes, noReplies]
    rcases kept with same | ⟨own, foundOwn, whole⟩
    · rw [same, absent] at found
      cases found
    · have same : own = connection :=
        Option.some.inj (foundOwn.symm.trans found)
      rw [← same]
      exact whole

/-- What the operator is told plays no part. -/
theorem told {history : Part} (conveyed : Conveyed history)
    (notices : List Notice) : Conveyed { history with notices } :=
  ⟨conveyed.front, conveyed.rest, conveyed.fresh⟩

/-- What a connection sends in a service and what it has pending afterwards are
what it owed and the new replies. -/
theorem sent_append_pending {history : Part} (conveyed : Conveyed history)
    {handle : Nat} {connection : Connection}
    (found : history.loop.connections.get? handle = some connection)
    (turn : SocketTurn) :
    let part := history.loop.serve turn handle
    let served := connection.serve history.loop.shared turn
    history.sentTo handle ++ part.sentTo handle ++
        served.connection.pending =
      history.owedTo handle ++ part.owedTo handle := by
  obtain ⟨sent, owed⟩ := sentTo_serve_self found turn
  have whole := connection.serve_conserves history.loop.shared turn
  have before := conveyed.rest handle connection found
  dsimp only at whole ⊢
  rw [sent, owed, List.append_assoc, whole, ← List.append_assoc, before]

theorem serve {history : Part} (conveyed : Conveyed history)
    (turn : SocketTurn) (handle : Nat) :
    Conveyed (history.followedBy (history.loop.serve turn handle)) := by
  cases found : history.loop.connections.get? handle with
  | none =>
      rw [serve_of_absent found, Part.followedBy_idle]
      exact conveyed
  | some connection =>
      have whole := conveyed.sent_append_pending found turn
      have kept := congrArg UInt64.toNat
        (history.loop.serve_kept turn handle).2
      have given : handle ≤ history.loop.shared.lastSession.toNat := by
        apply Nat.le_of_not_lt
        intro beyond
        rw [(conveyed.fresh handle beyond).2.2] at found
        cases found
      apply conveyed.change handle
      · exact Nat.le_of_eq kept.symm
      · exact Nat.le_trans given (Nat.le_of_eq kept.symm)
      · intro other different
        obtain ⟨unsent, silent⟩ :=
          history.loop.sentTo_serve_other turn different
        obtain ⟨_unread, _lines, same⟩ :=
          history.loop.serve_other turn different
        exact ⟨unsent, silent, same⟩
      · exact ⟨_, whole⟩
      · intro later foundLater
        rw [get?_serve_self found] at foundLater
        split at foundLater
        · cases foundLater
          exact whole
        · cases foundLater

end Conveyed

theorem Past.conveyed {shared : Shared} {history : Part}
    (past : Past shared history) : Conveyed history := by
  induction past with
  | start => exact Conveyed.start shared
  | take arrival _past below induction => exact induction.take arrival below
  | miss fault _past induction => exact induction.told _
  | serve turn handle _past induction => exact induction.serve turn handle

/-- Replies leave in order.  Whatever a loop has done, the socket of each
connection has accepted the front of the greeting and the replies to its
answered lines; as long as the connection is open the rest is pending with it,
and when it is removed it loses exactly what its last service leaves pending,
so that its client has been sent everything just if that is nothing.  A worker
that nothing breaks has sent everything when its connection ends. -/
theorem replies_conveyed {shared : Shared} {history : Part}
    (past : Past shared history) :
    (∀ handle, history.sentTo handle <+: history.owedTo handle) ∧
      (∀ (handle : Nat) (connection : Connection),
        history.loop.connections.get? handle = some connection →
        history.sentTo handle ++ connection.pending =
          history.owedTo handle) ∧
      (∀ (handle : Nat) (connection : Connection) (turn : SocketTurn),
        history.loop.connections.get? handle = some connection →
        let served := connection.serve history.loop.shared turn
        let after := history.followedBy (history.loop.serve turn handle)
        served.isOpen = false →
        after.loop.connections.get? handle = none ∧
          after.sentTo handle ++ served.connection.pending =
            after.owedTo handle ∧
          (after.sentTo handle = after.owedTo handle ↔
            served.connection.pending = [])) ∧
      ∀ (slot : Slot) (chunks : List Bytes),
        let worked := Working.converse shared slot chunks
        worked.isOver = true ∧ worked.sent = repliesOf worked.exchanges := by
  have conveyed := past.conveyed
  refine ⟨conveyed.front, conveyed.rest, ?_, ?_⟩
  · intro handle connection turn found served after ends
    have whole : after.sentTo handle ++ served.connection.pending =
        after.owedTo handle := by
      rw [Part.sentTo_followedBy, Part.owedTo_followedBy]
      exact conveyed.sent_append_pending found turn
    refine ⟨?_, whole, ?_⟩
    · have gone := get?_serve_self found turn
      rw [show (connection.serve history.loop.shared turn).isOpen = false
        from ends] at gone
      exact gone
    · rw [← whole]
      exact List.self_eq_append_right
  · intro slot chunks
    dsimp only
    rw [Working.converse_eq_ofLines]
    exact ⟨rfl, Conversation.sent_ofLines _ _ _⟩

/-- A socket takes three bytes of the greeting, then it has no room; the rest
and the reply to a line are pending. -/
theorem replies_conveyed_while_pending :
    let peer : Address := .v4 ⟨127, 0, 0, 1⟩ 40000
    let shared := Shared.start .standard .empty
    let line : Chunk := ⟨[88, 13, 10], by decide, by decide⟩
    let arrival : Arrival :=
      { peer, writes := [.accepted 3, .wouldBlock] }
    let asking : SocketTurn :=
      { writesBefore := [.wouldBlock], read := .chunk line
        writesAfter := [.wouldBlock] }
    let history := (start shared).passes
      [{ accepted := some (.ok arrival), turns := fun _ => .quiet },
        .serving asking]
    Past shared history ∧ history.sentTo 1 <+: history.owedTo 1 ∧
      history.sentTo 1 = (Frame.encode .connected).take 3 ∧
      history.owedTo 1 =
        Frame.encode .connected ++ Frame.encode .unknownRequest := by
  intro peer shared line arrival asking history
  have past : Past shared history := past_passes (by decide)
  obtain ⟨front, _⟩ := replies_conveyed past
  exact ⟨past, front 1, by decide +kernel, by decide +kernel⟩

/-- A polled connection can be removed before its client has been sent
everything, although its socket never fails: a client whose socket has no room
for a while sends a line and then ends its stream, or it sends a line that is
too long behind another one.  A worker sends both replies in either case. -/
theorem reply_lost_at_removal :
    let peer : Address := .v4 ⟨127, 0, 0, 1⟩ 40000
    let shared := Shared.start { Config.standard with maxLineLength := 4 }
      .empty
    let line : Chunk := ⟨[88, 13, 10], by decide, by decide⟩
    let tooLong : Chunk :=
      ⟨[88, 13, 10, 88, 88, 88, 88, 88, 88], by decide, by decide⟩
    let arrival : Arrival := { peer, writes := [.accepted 5] }
    let noRoom (read : ReadOutcome) : SocketTurn :=
      { writesBefore := [.wouldBlock], read, writesAfter := [.wouldBlock] }
    let run (reads : List ReadOutcome) :=
      (start shared).passes
        ({ accepted := some (.ok arrival), turns := fun _ => .quiet } ::
          reads.map fun read => .serving (noRoom read))
    let slot : Slot := { session := 1, peer }
    let worked (chunk : Chunk) :=
      (Working.converse shared slot [chunk.bytes]).sent
    let half := run [.chunk line, .endOfStream]
    let cut := run [.chunk tooLong]
    let replies := Frame.encode .connected ++ Frame.encode .unknownRequest
    half.loop.connections.get? 1 = none ∧ half.owedTo 1 = replies ∧
      half.sentTo 1 = Frame.encode .connected ∧ worked line = replies ∧
      cut.loop.connections.get? 1 = none ∧ cut.owedTo 1 = replies ∧
      cut.sentTo 1 = Frame.encode .connected ∧ worked tooLong = replies := by
  intro peer shared line tooLong arrival noRoom run slot worked half cut replies
  have half' : half.loop.connections.get? 1 = none ∧
      half.owedTo 1 = replies ∧ half.sentTo 1 = Frame.encode .connected := by
    decide +kernel
  have cut' : cut.loop.connections.get? 1 = none ∧
      cut.owedTo 1 = replies ∧ cut.sentTo 1 = Frame.encode .connected := by
    decide +kernel
  exact ⟨half'.1, half'.2.1, half'.2.2, by decide +kernel, cut'.1, cut'.2.1,
    cut'.2.2, by decide +kernel⟩

end Loop
end LoginServer.Polling
