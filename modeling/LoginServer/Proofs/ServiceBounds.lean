import LoginServer.Proofs.PolledLives
import LoginServer.Proofs.ServiceMoments

/-!
# Bounds of a service

A service reads one chunk at most, and only when few replies are pending.  A
chunk completes at most half as many lines as it has bytes, one more if a
carriage return has been waiting for it, and each line is answered by five
bytes.  So a client can neither fill the memory of the server nor leave a line
unanswered, whatever it sends and however little it takes (`service_bounded`).
-/

namespace LoginServer

namespace Frame

theorem length_linesFrom_le (begun stream : Bytes) :
    2 * (linesFrom begun stream).length ≤ stream.length := by
  fun_induction linesFrom begun stream with
  | case1 begun => exact Nat.le_refl _
  | case2 begun single => exact Nat.zero_le _
  | case3 begun first second rest here induction =>
      simp only [List.length_cons]
      omega
  | case4 begun first second rest notHere induction =>
      simp only [List.length_cons] at induction ⊢
      omega

/-- Behind a buffer without a terminator, a chunk completes at most half as many
lines as it has bytes; the first of them may take one byte only. -/
theorem length_completeLines_append_le {buffer : Bytes}
    (absent : findTerminator? buffer = none) (chunk : Bytes) :
    2 * (completeLines (buffer ++ chunk)).length ≤ chunk.length + 1 := by
  cases found : findTerminator? (buffer ++ chunk) with
  | none =>
      rw [completeLines_of_none found]
      exact Nat.zero_le _
  | some position =>
      have waiting := length_le_of_findTerminator?_append absent found
      have inside := length_of_findTerminator? found
      have later : 2 * (completeLines
          ((buffer ++ chunk).drop (position + 2))).length ≤ _ :=
        length_linesFrom_le [] _
      rw [List.length_drop] at later
      rw [List.length_append] at inside later
      rw [completeLines_of_some found, List.length_cons]
      omega

theorem length_encode (reply : Reply) : (encode reply).length = 5 := by
  cases reply <;> rfl

end Frame

theorem Shared.length_replies_answer (shared : Shared) (session : Session)
    (line : String) :
    (shared.answer session line).replies.length = 5 :=
  Frame.length_encode _

namespace Polling

/-- What waits in a connection holds no terminator, and is not much longer than
a line. -/
theorem Connection.Drained.waiting {connection : Connection} {limit : Nat}
    (drained : connection.Drained)
    (limited : connection.codec.limit = limit) :
    Frame.findTerminator? connection.received = none ∧
      connection.received.length < limit + 2 := by
  rw [← limited]
  exact Frame.split_eq_none_iff.mp drained.nothing

def Stage.IsEarly : Stage → Prop
  | .sending _ .read | .reading => True
  | _ => False

namespace Moment

/-- What holds at every moment of a service of a connection with a line limit.
Nothing has been answered before the service reads, and no line waits then; as
long as lines are answered, the pending replies are fewer than the maximum and
five bytes for each line. -/
structure Bounded (limit : Nat) (moment : Moment) : Prop where
  limited : moment.connection.codec.limit = limit
  fits : moment.connection.codec.Fits moment.connection.received
  received : moment.connection.received.length ≤ limit + 1 + 4096
  lines : moment.soFar.exchanges.length +
    (Frame.completeLines moment.connection.received).length ≤ 2048
  pending : moment.connection.pending.length ≤ 65535 + 5 * 2048
  early : moment.stage.IsEarly →
    moment.soFar.exchanges = [] ∧ moment.connection.Drained
  answering : moment.stage = .answering →
    moment.connection.pending.length ≤
      65535 + 5 * moment.soFar.exchanges.length

namespace Bounded

variable {limit : Nat} {moment : Moment}

/-- A service may go on as it likes, as long as it leaves the received bytes
alone, adds no replies and does not begin to answer lines. -/
theorem of_shrunk {later : Moment} (bounded : moment.Bounded limit)
    (codec : later.connection.codec = moment.connection.codec)
    (received : later.connection.received = moment.connection.received)
    (pending : later.connection.pending.length ≤
      moment.connection.pending.length)
    (exchanges : later.soFar.exchanges = moment.soFar.exchanges)
    (early : later.stage.IsEarly → moment.stage.IsEarly)
    (notAnswering : later.stage ≠ .answering) : later.Bounded limit := by
  constructor
  · rw [codec]
    exact bounded.limited
  · rw [codec, received]
    exact bounded.fits
  · rw [received]
    exact bounded.received
  · rw [exchanges, received]
    exact bounded.lines
  · exact Nat.le_trans pending bounded.pending
  · intro isEarly
    rw [exchanges, Connection.Drained, codec, received]
    exact bounded.early (early isEarly)
  · intro answering
    exact absurd answering notAnswering

theorem send (bounded : moment.Bounded limit)
    {writes : List WriteOutcome} {aim : Aim}
    (stage : moment.stage = .sending writes aim) :
    (moment.send writes aim).Bounded limit := by
  have early : aim = .read → moment.stage.IsEarly := by
    rintro rfl
    rw [stage]
    trivial
  rw [Moment.send]
  cases attempt moment.connection.pending writes with
  | accepted count later =>
      refine bounded.of_shrunk rfl rfl ?_ rfl ?_ (by simp [accept])
      · change (moment.connection.pending.drop count).length ≤ _
        rw [List.length_drop]
        exact Nat.sub_le _ _
      · cases aim with
        | read => exact fun _ => early rfl
        | finish | part => exact False.elim
  | ended fault =>
      cases aim with
      | read =>
          cases fault with
          | none =>
              exact bounded.of_shrunk rfl rfl (Nat.le_refl _) rfl
                (fun _ => early rfl) (by simp [settle, proceed])
          | some fault =>
              exact bounded.of_shrunk rfl rfl (Nat.le_refl _) rfl
                False.elim (by simp [settle, fail, close])
      | finish =>
          cases fault <;>
            exact bounded.of_shrunk rfl rfl (Nat.le_refl _) rfl
              False.elim (by simp [settle, proceed, fail, close])
      | part =>
          exact bounded.of_shrunk rfl rfl (Nat.le_refl _) rfl
            False.elim (by simp [settle, proceed])

theorem receive (bounded : moment.Bounded limit)
    (stage : moment.stage = .reading)
    (room : moment.connection.isPiledUp = false) (chunk : Chunk) :
    (moment.receive chunk.bytes).Bounded limit := by
  have isEarly : moment.stage.IsEarly := by
    rw [stage]
    trivial
  obtain ⟨nothingYet, drained⟩ := bounded.early isEarly
  obtain ⟨absent, short⟩ := drained.waiting bounded.limited
  have chunkShort : chunk.bytes.length ≤ 4096 := chunk.short
  have few : moment.connection.pending.length < 65536 :=
    Nat.lt_of_not_le (of_decide_eq_false room)
  constructor
  · exact bounded.limited
  · exact bounded.fits.append chunk.bytes
  · change (moment.connection.received ++ chunk.bytes).length ≤ _
    rw [List.length_append]
    omega
  -- A chunk of 4096 bytes ends 2048 lines at most, even if its first byte ends
  -- a line that has been waiting.
  · have completed :=
      Frame.length_completeLines_append_le absent chunk.bytes
    change moment.soFar.exchanges.length + (Frame.completeLines
      (moment.connection.received ++ chunk.bytes)).length ≤ _
    rw [nothingYet, List.length_nil]
    omega
  · exact bounded.pending
  · exact False.elim
  · intro _
    change moment.connection.pending.length ≤
      65535 + 5 * moment.soFar.exchanges.length
    omega

theorem read (bounded : moment.Bounded limit)
    (stage : moment.stage = .reading) : moment.read.Bounded limit := by
  rw [Moment.read]
  cases room : moment.connection.isPiledUp with
  | true =>
      exact bounded.of_shrunk rfl rfl (Nat.le_refl _) rfl False.elim
        (by simp [proceed])
  | false =>
      simp only [Bool.false_eq_true, if_false]
      cases moment.turn.read with
      | chunk chunk => exact bounded.receive stage room chunk
      | wouldBlock | endOfStream | failed fault =>
          exact bounded.of_shrunk rfl rfl (Nat.le_refl _) rfl False.elim
            (by simp [Moment.take, proceed, fail, close])

theorem reply (bounded : moment.Bounded limit)
    (stage : moment.stage = .answering) {line rest : Bytes}
    (taken : Frame.split moment.connection.codec.limit 0
      moment.connection.received = .ok (some (line, rest))) :
    (moment.decoded.reply (Frame.lineText line)).Bounded limit := by
  have decoded : moment.reading = _ :=
    Codec.decode_of_line bounded.fits taken
  have shorter := Frame.length_rest_lt_of_split taken
  obtain ⟨position, found, _short, _line, atRest⟩ :=
    Frame.split_eq_line_iff.mp taken
  -- The line moves from the buffer to the answered ones: the sum stays.
  have counted : (Frame.completeLines moment.connection.received).length =
      (Frame.completeLines rest).length + 1 := by
    rw [Frame.completeLines_of_some found, ← atRest, List.length_cons]
  have lines := bounded.lines
  have received := bounded.received
  have few := bounded.answering stage
  let later := moment.decoded.reply (Frame.lineText line)
  have left : later.connection.received = rest :=
    congrArg Reading.buffer decoded
  have codec : later.connection.codec =
      .fresh moment.connection.codec.limit :=
    congrArg Reading.codec decoded
  have answered : later.soFar.exchanges.length =
      moment.soFar.exchanges.length + 1 :=
    List.length_append
  have owed : later.connection.pending.length =
      moment.connection.pending.length + 5 := by
    have five := moment.soFar.shared.length_replies_answer
      moment.connection.session (Frame.lineText line)
    exact List.length_append.trans (congrArg _ five)
  change later.Bounded limit
  constructor
  · rw [codec]
    exact bounded.limited
  · rw [codec, left]
    exact Codec.fits_fresh _ _
  · rw [left]
    omega
  · rw [left, answered]
    omega
  · omega
  · intro isEarly
    rw [show later.stage = .answering from stage] at isEarly
    exact isEarly.elim
  · intro _
    omega

theorem of_searched {later : Moment} {writes : List WriteOutcome}
    (bounded : moment.Bounded limit)
    (limited : later.connection.codec.limit = moment.connection.codec.limit)
    (fits : later.connection.codec.Fits moment.connection.received)
    (received : later.connection.received = moment.connection.received)
    (pending : later.connection.pending = moment.connection.pending)
    (exchanges : later.soFar.exchanges = moment.soFar.exchanges)
    (stage : later.stage = .sending writes .finish) :
    later.Bounded limit := by
  constructor
  · exact limited.trans bounded.limited
  · rwa [received]
  · rw [received]
    exact bounded.received
  · rw [exchanges, received]
    exact bounded.lines
  · rw [pending]
    exact bounded.pending
  · rw [stage]
    exact False.elim
  · intro answering
    cases stage.symm.trans answering

theorem answered (bounded : moment.Bounded limit)
    (stage : moment.stage = .answering) : moment.next.Bounded limit := by
  cases taken : Frame.split moment.connection.codec.limit 0
      moment.connection.received with
  | error failure =>
      have decoded : moment.reading = _ :=
        Codec.decode_of_error bounded.fits taken
      rw [next_of_error stage (congrArg Reading.outcome decoded)]
      apply bounded.of_searched
      · exact Codec.limit_decode _ _
      · change moment.reading.codec.Fits _
        rw [decoded]
        exact Codec.fits_fresh _ _
      · exact congrArg Reading.buffer decoded
      · rfl
      · rfl
      · rfl
  | ok line? =>
      cases line? with
      | none =>
          have decoded : moment.reading = _ :=
            Codec.decode_of_none bounded.fits taken
          have absent := (Frame.split_eq_none_iff.mp taken).1
          rw [next_of_none stage (congrArg Reading.outcome decoded)]
          apply bounded.of_searched
          · exact Codec.limit_decode _ _
          · change moment.reading.codec.Fits _
            rw [decoded]
            exact Codec.fits_searched absent
          · exact congrArg Reading.buffer decoded
          · rfl
          · rfl
          · rfl
      | some cut =>
          have decoded : moment.reading = _ :=
            Codec.decode_of_line bounded.fits taken
          rw [next_of_line stage (congrArg Reading.outcome decoded)]
          exact bounded.reply stage taken

theorem next (bounded : moment.Bounded limit) :
    moment.next.Bounded limit := by
  cases stage : moment.stage with
  | sending writes aim =>
      rw [next_of_sending stage]
      exact bounded.send stage
  | reading =>
      simp only [Moment.next, stage]
      exact bounded.read stage
  | answering => exact bounded.answered stage
  | ended =>
      rw [Moment.next, stage]
      exact bounded

theorem run (bounded : moment.Bounded limit) (steps : Nat) :
    (Moment.next^[steps] moment).Bounded limit := by
  induction steps with
  | zero => exact bounded
  | succ steps induction =>
      rw [Function.iterate_succ_apply']
      exact induction.next

end Bounded

theorem roomy_of_read {moment : Moment}
    (reads : moment.next.soFar.read ≠ moment.soFar.read) :
    moment.connection.pending.length < 65536 := by
  cases stage : moment.stage with
  | reading =>
      cases room : moment.connection.isPiledUp with
      | false => exact Nat.lt_of_not_le (of_decide_eq_false room)
      | true =>
          rw [next_of_piledUp stage room] at reads
          exact absurd rfl reads
  | sending writes aim =>
      exfalso
      apply reads
      rw [next_of_sending stage, send]
      cases attempt moment.connection.pending writes with
      | accepted count later => rfl
      | ended fault => cases aim <;> cases fault <;> rfl
  | answering =>
      exfalso
      apply reads
      rw [Moment.next, stage]
      dsimp only [answer]
      cases moment.reading.outcome with
      | error failure => rfl
      | ok line? => cases line? <;> rfl
  | ended =>
      rw [Moment.next, stage] at reads
      exact absurd rfl reads

end Moment

/-! ## Lives -/

/-- A connection that waits for its next service holds no complete line, not
much more than the beginning of a line, and a bounded number of replies. -/
structure Connection.Waits (limit : Nat) (connection : Connection) : Prop where
  limited : connection.codec.limit = limit
  drained : connection.Drained
  pending : connection.pending.length ≤ 65535 + 5 * 2048

namespace Connection.Waits

variable {limit : Nat} {connection : Connection}

theorem bounded_first (waits : connection.Waits limit) (shared : Shared)
    (turn : SocketTurn) :
    (Moment.first connection shared turn).Bounded limit := by
  obtain ⟨absent, short⟩ := waits.drained.waiting waits.limited
  constructor
  · exact waits.limited
  · exact waits.drained.fits
  · change connection.received.length ≤ _
    omega
  · change 0 + (Frame.completeLines connection.received).length ≤ _
    rw [Frame.completeLines_of_none absent]
    exact Nat.zero_le _
  · exact waits.pending
  · exact fun _ => ⟨rfl, waits.drained⟩
  · intro answering
    cases answering

theorem serve (waits : connection.Waits limit) (shared : Shared)
    (turn : SocketTurn)
    (goesOn : (connection.serve shared turn).isOpen = true) :
    (connection.serve shared turn).connection.Waits limit := by
  have answers := waits.drained.serve_answers shared turn
  obtain ⟨steps, _ended, same⟩ := Moment.settles_first connection shared turn
  have bounded := (waits.bounded_first shared turn).run steps
  constructor
  · exact answers.limit.trans waits.limited
  · exact answers.drained (answers.whole goesOn)
  · rw [← same]
    exact bounded.pending

theorem unbroken (waits : connection.Waits limit) :
    ¬Frame.terminator <:+: connection.received ∧
      connection.received.length ≤ limit + 1 := by
  obtain ⟨absent, short⟩ := waits.drained.waiting waits.limited
  exact ⟨Frame.findTerminator?_eq_none_iff.mp absent,
    Nat.le_of_lt_succ short⟩

end Connection.Waits

theorem Lives.waits {limit : Nat} {life : Life} (lives : Lives limit life) :
    life.connection.Waits limit := by
  induction lives with
  | greeted slot writes _whole =>
      have whole := accepted_append_pending (Frame.encode .connected) writes
      have five := congrArg List.length whole
      rw [List.length_append, Frame.length_encode] at five
      constructor
      · rfl
      · exact Connection.drained_opened slot limit
      · change (flush (Frame.encode .connected) writes).pending.length ≤ _
        omega
  | served shared turn _lives isOpen induction =>
      exact induction.serve shared turn isOpen

/-- However a client behaves, its connection takes little memory and no line is
left unanswered.  In the life of a connection every service ends; if it leaves
the connection open, the received bytes hold no terminator and are at most one
more than the limit.  At every moment of a service they are at most one chunk
more, bytes are read only while fewer replies are pending than the maximum, at
most 2048 lines have been answered, and what is pending is bounded.  So no
connection of a loop that waits holds a complete line. -/
theorem service_bounded :
    (∀ (limit : Nat) (life : Life), Lives limit life →
      ∀ (shared : Shared) (turn : SocketTurn),
        let start := Moment.first life.connection shared turn
        let served := life.connection.serve shared turn
        start.Settles served ∧
          (served.isOpen = true →
            ¬Frame.terminator <:+: served.connection.received ∧
              served.connection.received.length ≤ limit + 1) ∧
          ∀ steps,
            let moment := Moment.next^[steps] start
            moment.connection.received.length ≤ limit + 1 + 4096 ∧
              (moment.next.soFar.read ≠ moment.soFar.read →
                moment.connection.pending.length < 65536) ∧
              moment.soFar.exchanges.length ≤ 2048 ∧
              moment.connection.pending.length ≤ 65535 + 5 * 2048) ∧
      ∀ (shared : Shared) (occasions : List Loop.Occasion) (handle : Nat)
        (connection : Connection),
        let limit := shared.config.maxLineLength
        let loop := ((Loop.start shared).passes occasions).loop
        loop.connections.get? handle = some connection →
          Frame.hasLine connection.received = false ∧
            connection.received.length ≤ limit + 1 ∧
            connection.pending.length ≤ 65535 + 5 * 2048 := by
  constructor
  · intro limit life lives shared turn start served
    have waits := lives.waits
    refine ⟨Moment.settles_first life.connection shared turn, ?_, ?_⟩
    · intro goesOn
      exact (waits.serve shared turn goesOn).unbroken
    · intro steps moment
      have bounded : moment.Bounded limit :=
        (waits.bounded_first shared turn).run steps
      refine ⟨bounded.received, Moment.roomy_of_read, ?_, bounded.pending⟩
      exact Nat.le_trans (Nat.le_add_right _ _) bounded.lines
  · intro shared occasions handle connection limit loop found
    have lived := Loop.passes_lived shared occasions
    obtain ⟨life, lives, rfl⟩ := lived.lives handle connection found
    have waits := lives.waits
    obtain ⟨unbroken, short⟩ := waits.unbroken
    have absent := Frame.findTerminator?_eq_none_iff.mpr unbroken
    refine ⟨?_, short, waits.pending⟩
    rw [Frame.hasLine, absent]
    rfl

/-- A chunk begins with the line feed that a waiting carriage return lacks; it
completes two lines, and the beginning of a third one waits.  A loop with such a
client waits likewise. -/
theorem service_bounded_of_split_terminator :
    let peer : Address := .v4 ⟨127, 0, 0, 1⟩ 40000
    let shared := Shared.start { Config.standard with maxLineLength := 4 }
      .empty
    let turn (chunk : Chunk) : SocketTurn :=
      { writesBefore := [], read := .chunk chunk, writesAfter := [] }
    let half : Chunk := ⟨[65, 13], by decide, by decide⟩
    let rest : Chunk := ⟨[10, 66, 13, 10, 67], by decide, by decide⟩
    let greeted := Life.greeted { session := 1, peer } 4 []
    let life := greeted.after (greeted.connection.serve shared (turn half))
    let served := life.connection.serve shared (turn rest)
    let moment :=
      Moment.next^[1] (Moment.first life.connection shared (turn rest))
    let arrival : Arrival := { peer, writes := [] }
    let loop := ((Loop.start shared).passes
      [{ accepted := some (.ok arrival), turns := fun _ => turn half }]).loop
    Lives 4 life ∧ served.isOpen = true ∧ served.exchanges.length = 2 ∧
      served.connection.received = [67] ∧
      ¬Frame.terminator <:+: served.connection.received ∧
      moment.next.soFar.read = rest.bytes ∧ moment.soFar.read = [] ∧
      moment.connection.pending.length < 65536 ∧
      ∃ connection, loop.connections.get? 1 = some connection ∧
        Frame.hasLine connection.received = false := by
  intro peer shared turn half rest greeted life served moment arrival loop
  have opened : Lives 4 greeted := .greeted _ _ (by decide +kernel)
  have lives : Lives 4 life := opened.served shared _ (by decide +kernel)
  have goesOn : served.isOpen = true := by decide +kernel
  have found : (loop.connections.get? 1).isSome = true := by decide +kernel
  have reads : moment.next.soFar.read = rest.bytes := by decide +kernel
  have unread : moment.soFar.read = [] := by decide +kernel
  obtain ⟨connection, same⟩ := Option.isSome_iff_exists.mp found
  obtain ⟨services, loops⟩ := service_bounded
  obtain ⟨_settles, waits, moments⟩ := services 4 life lives shared (turn rest)
  obtain ⟨_received, roomy, _lines, _pending⟩ := moments 1
  refine ⟨lives, goesOn, by decide +kernel, by decide +kernel,
    (waits goesOn).1, reads, unread, roomy ?_, connection, same,
    (loops shared _ 1 connection same).1⟩
  rw [show moment.next.soFar.read = rest.bytes from reads,
    show moment.soFar.read = [] from unread]
  exact rest.nonempty

end Polling
end LoginServer
