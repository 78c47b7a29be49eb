import LoginServer.Proofs.PolledLives
import LoginServer.Proofs.ReplyDelivery
import LoginServer.Proofs.ServiceMoments

/-!
# Replies under partial writes

A socket may accept any part of what it is offered, in the middle of a code as
well.  At every moment of every service, what it has accepted and what is
pending are together the greeting and the replies to the lines answered so far
(`output_intact`).
-/

namespace LoginServer.Polling

/-- What a client is sent in the end: the greeting, and the code of each reply
on a line of its own. -/
def transcript (exchanges : List Exchange) : Bytes :=
  Text.Utf8.encode "100\r\n".toList ++
    exchanges.flatMap fun exchange =>
      Text.Utf8.encode (exchange.reply.code ++ "\r\n").toList

theorem encode_eq_code (reply : Reply) :
    Frame.encode reply =
      Text.Utf8.encode (reply.code ++ "\r\n").toList := by
  cases reply <;> decide

theorem transcript_eq (exchanges : List Exchange) :
    transcript exchanges =
      Frame.encode .connected ++ repliesOf exchanges := by
  simp only [transcript, repliesOf, encode_eq_code]
  rfl

theorem transcript_nil : transcript [] = Frame.encode .connected := by
  rw [transcript_eq]
  exact List.append_nil _

theorem transcript_append (first later : List Exchange) :
    transcript (first ++ later) = transcript first ++ repliesOf later := by
  rw [transcript_eq, transcript_eq, List.append_assoc]
  exact congrArg _ List.flatMap_append

/-- What was owed is continued by what is owed for further exchanges. -/
theorem transcript_of_conserved {sent pending accepted left : Bytes}
    {exchanges later : List Exchange}
    (before : sent ++ pending = transcript exchanges)
    (conserved : accepted ++ left = pending ++ repliesOf later) :
    sent ++ accepted ++ left = transcript (exchanges ++ later) :=
  calc
    sent ++ accepted ++ left = sent ++ (pending ++ repliesOf later) := by
      rw [List.append_assoc, conserved]
    _ = transcript exchanges ++ repliesOf later := by
      rw [← List.append_assoc, before]
    _ = transcript (exchanges ++ later) := (transcript_append _ _).symm

/-! ## The moments of a service -/

namespace Moment

/-- The socket has been offered what was owed before the service and the
replies of the service, and what it has not accepted is pending. -/
def Conveys (owed : Bytes) (moment : Moment) : Prop :=
  moment.soFar.sent ++ moment.connection.pending =
    owed ++ repliesOf moment.soFar.exchanges

section Steps

variable {owed : Bytes} {moment : Moment}

theorem Conveys.accept (conveys : moment.Conveys owed) (count : Nat)
    (stage : Stage) : (moment.accept count stage).Conveys owed := by
  have whole := List.take_append_drop count moment.connection.pending
  change moment.soFar.sent ++ moment.connection.pending.take count ++
    moment.connection.pending.drop count = _
  rw [List.append_assoc, whole]
  exact conveys

theorem Conveys.settle (conveys : moment.Conveys owed) (aim : Aim)
    (fault : Option IoFault) : (moment.settle aim fault).Conveys owed := by
  cases aim <;> cases fault <;> exact conveys

theorem Conveys.take (conveys : moment.Conveys owed) (outcome : ReadOutcome) :
    (moment.take outcome).Conveys owed := by
  cases outcome <;> exact conveys

theorem Conveys.reply (conveys : moment.Conveys owed) (line : String) :
    (moment.reply line).Conveys owed := by
  let answered :=
    moment.soFar.shared.answer moment.connection.session line
  have replies : answered.replies = repliesOf answered.exchanges :=
    (List.append_nil _).symm
  change moment.soFar.sent ++
      (moment.connection.pending ++ answered.replies) =
    owed ++ repliesOf (moment.soFar.exchanges ++ answered.exchanges)
  rw [← List.append_assoc, conveys, replies, List.append_assoc]
  exact congrArg _ List.flatMap_append.symm

/-- Whatever happens in a moment, no byte is lost, repeated or moved. -/
theorem Conveys.next (conveys : moment.Conveys owed) :
    moment.next.Conveys owed := by
  cases stage : moment.stage with
  | sending writes aim =>
      rw [next_of_sending stage, send]
      cases attempt moment.connection.pending writes with
      | ended fault => exact conveys.settle aim fault
      | accepted count later => exact conveys.accept count _
  | reading =>
      cases room : moment.connection.isPiledUp with
      | true =>
          rw [next_of_piledUp stage room]
          exact conveys
      | false =>
          rw [next_of_reading stage room]
          exact conveys.take moment.turn.read
  | answering =>
      cases outcome : moment.reading.outcome with
      | error failure =>
          rw [next_of_error stage outcome]
          exact conveys
      | ok line? =>
          cases line? with
          | none =>
              rw [next_of_none stage outcome]
              exact conveys
          | some line =>
              rw [next_of_line stage outcome]
              exact Conveys.reply conveys line
  | ended =>
      rw [Moment.next, stage]
      exact conveys

theorem Conveys.run (conveys : moment.Conveys owed) (steps : Nat) :
    (Moment.next^[steps] moment).Conveys owed := by
  induction steps with
  | zero => exact conveys
  | succ steps induction =>
      rw [Function.iterate_succ_apply']
      exact induction.next

end Steps

theorem conveys_first (connection : Connection) (shared : Shared)
    (turn : SocketTurn) :
    (first connection shared turn).Conveys connection.pending :=
  (List.append_nil _).symm

end Moment

/-! ## Lives -/

theorem Lives.intact {limit : Nat} {life : Life} (lives : Lives limit life) :
    life.sent ++ life.connection.pending = transcript life.exchanges := by
  induction lives with
  | greeted slot writes _whole =>
      exact (accepted_append_pending _ writes).trans transcript_nil.symm
  | @served life shared turn _lives _isOpen induction =>
      have conserved := life.connection.serve_conserves shared turn
      exact transcript_of_conserved induction conserved

/-- At every moment of every service in the life of a polled connection, the
bytes that its socket has accepted since the connection was opened, followed by
those that are pending, are the greeting and the replies to the lines answered
so far in their order; the client has seen a front of them.  So it is while the
connection is greeted.  The moments lead to what the service brings about, and
every connection of a loop has a life. -/
theorem output_intact :
    (∀ writes : List WriteOutcome,
      let greeting := flush (Frame.encode .connected) writes
      greeting.accepted ++ greeting.pending = transcript [] ∧
        greeting.accepted <+: transcript []) ∧
      (∀ (limit : Nat) (life : Life), Lives limit life →
        ∀ (shared : Shared) (turn : SocketTurn),
          let start := Moment.first life.connection shared turn
          start.Settles (life.connection.serve shared turn) ∧
            ∀ steps,
              let moment := Moment.next^[steps] start
              let accepted := life.sent ++ moment.soFar.sent
              let owed := transcript
                (life.exchanges ++ moment.soFar.exchanges)
              accepted ++ moment.connection.pending = owed ∧
                accepted <+: owed) ∧
      ∀ (shared : Shared) (occasions : List Loop.Occasion) (handle : Nat)
        (connection : Connection),
        let loop := ((Loop.start shared).passes occasions).loop
        loop.connections.get? handle = some connection →
          ∃ life, Lives shared.config.maxLineLength life ∧
            life.connection = connection := by
  refine ⟨?_, ?_, ?_⟩
  · intro writes greeting
    have whole : greeting.accepted ++ greeting.pending = transcript [] :=
      (accepted_append_pending _ writes).trans transcript_nil.symm
    exact ⟨whole, ⟨greeting.pending, whole⟩⟩
  · intro limit life lives shared turn start
    refine ⟨Moment.settles_first life.connection shared turn, ?_⟩
    intro steps moment accepted owed
    have conserved : moment.Conveys life.connection.pending :=
      (Moment.conveys_first life.connection shared turn).run steps
    have whole : accepted ++ moment.connection.pending = owed :=
      transcript_of_conserved lives.intact conserved
    exact ⟨whole, ⟨moment.connection.pending, whole⟩⟩
  · intro shared occasions handle connection loop found
    exact (Loop.passes_lived shared occasions).lives handle connection found

/-- A socket that takes two bytes of the greeting and then one byte or four at
a time has taken twelve of the fifteen bytes that it is owed when the second
line has been answered. -/
theorem output_intact_of_split_codes :
    let peer : Address := .v4 ⟨127, 0, 0, 1⟩ 40000
    let slot : Slot := { session := 1, peer }
    let shared := Shared.start .standard .empty
    let line : Chunk := ⟨[88, 13, 10], by decide, by decide⟩
    let asking : SocketTurn :=
      { writesBefore := [.accepted 1, .wouldBlock], read := .chunk line
        writesAfter := [.accepted 4] }
    let greeted := Life.greeted slot 16 [.accepted 2]
    let life := greeted.after (greeted.connection.serve shared asking)
    let moment :=
      Moment.next^[6] (Moment.first life.connection shared asking)
    let accepted := life.sent ++ moment.soFar.sent
    let owed := transcript (life.exchanges ++ moment.soFar.exchanges)
    let arrival : Arrival := { peer, writes := [.accepted 2] }
    let loop := ((Loop.start shared).passes
      [{ accepted := some (.ok arrival), turns := fun _ => asking }]).loop
    Lives 16 life ∧ accepted ++ moment.connection.pending = owed ∧
      owed = Text.Utf8.encode "100\r\n300\r\n300\r\n".toList ∧
      accepted = owed.take 12 ∧
      ∃ connection, loop.connections.get? 1 = some connection ∧
        ∃ life, Lives 4096 life ∧ life.connection = connection := by
  intro peer slot shared line asking greeted life moment accepted owed arrival
    loop
  have opened : Lives 16 greeted := .greeted slot _ (by decide +kernel)
  have lives : Lives 16 life := opened.served shared asking (by decide +kernel)
  have found : (loop.connections.get? 1).isSome = true := by decide +kernel
  obtain ⟨connection, same⟩ := Option.isSome_iff_exists.mp found
  obtain ⟨_greeting, services, loops⟩ := output_intact
  obtain ⟨_settles, moments⟩ := services 16 life lives shared asking
  obtain ⟨whole, _front⟩ := moments 6
  exact ⟨lives, whole, by decide +kernel, by decide +kernel, connection, same,
    loops shared _ 1 connection same⟩

end LoginServer.Polling
