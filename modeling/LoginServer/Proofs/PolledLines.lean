import LoginServer.Proofs.PolledLoop

/-!
# The lines of each polled connection

Every connection of a loop is answered the lines of the bytes that were read
from it, whatever is read from the others in between.  `Accounted` says so of a
history of the loop, and every part of a pass preserves it.
-/

namespace LoginServer.Polling

/-- The line that an incident answers, if it is about the given connection. -/
def Incident.lineOf? (handle : Nat) : Incident → Option String
  | .recorded other exchange =>
      if other = handle then exchange.input else none
  | .removed _ => none

namespace Part

/-- The lines of a connection that were answered, in order. -/
def linesOf (part : Part) (handle : Nat) : List String :=
  part.incidents.filterMap (Incident.lineOf? handle)

/-- The bytes that were read from a connection. -/
def bytesOf (part : Part) (handle : Nat) : Bytes :=
  (part.read.filter fun entry => entry.1 = handle).flatMap Prod.snd

theorem linesOf_followedBy (first later : Part) (handle : Nat) :
    (first.followedBy later).linesOf handle =
      first.linesOf handle ++ later.linesOf handle :=
  List.filterMap_append

theorem bytesOf_followedBy (first later : Part) (handle : Nat) :
    (first.followedBy later).bytesOf handle =
      first.bytesOf handle ++ later.bytesOf handle := by
  simp only [bytesOf, followedBy, List.filter_append, List.flatMap_append]

end Part

theorem lineOf_recorded_self {exchanges : List Exchange} (handle : Nat) :
    (exchanges.map (Incident.recorded handle)).filterMap
      (Incident.lineOf? handle) = exchanges.filterMap Exchange.input := by
  rw [List.filterMap_map]
  congr 1
  funext exchange
  exact if_pos rfl

theorem lineOf_recorded_other {exchanges : List Exchange}
    {handle other : Nat} (different : other ≠ handle) :
    (exchanges.map (Incident.recorded handle)).filterMap
      (Incident.lineOf? other) = [] := by
  rw [List.filterMap_map, List.filterMap_eq_nil_iff]
  intro exchange _
  exact if_neg different.symm

namespace Loop

/-! ## What one part reads and answers -/

theorem bytesOf_take (loop : Loop) (arrival : Arrival) (handle : Nat) :
    (loop.take arrival).bytesOf handle = [] := by
  rw [Part.bytesOf, (loop.take_cases arrival).1]
  rfl

theorem linesOf_take (loop : Loop) (arrival : Arrival) (handle : Nat) :
    (loop.take arrival).linesOf handle = [] := by
  obtain ⟨_read, _config, _registry, _lastSession, refused | greeted⟩ :=
    loop.take_cases arrival
  · rw [Part.linesOf, refused.1]
    rfl
  · rw [Part.linesOf, greeted.1]
    simp [Incident.lineOf?, Exchange.greeting]

theorem bytesOf_serve_self {loop : Loop} {handle : Nat}
    {connection : Connection}
    (found : loop.connections.get? handle = some connection)
    (turn : SocketTurn) :
    (loop.serve turn handle).bytesOf handle =
      (connection.serve loop.shared turn).read := by
  cases isOpen : (connection.serve loop.shared turn).isOpen with
  | true =>
      rw [serve_of_open found isOpen]
      simp [Part.bytesOf]
  | false =>
      rw [serve_of_ended found isOpen]
      simp [Part.bytesOf]

theorem linesOf_serve_self {loop : Loop} {handle : Nat}
    {connection : Connection}
    (found : loop.connections.get? handle = some connection)
    (turn : SocketTurn) :
    (loop.serve turn handle).linesOf handle =
      (connection.serve loop.shared turn).exchanges.filterMap
        Exchange.input := by
  cases isOpen : (connection.serve loop.shared turn).isOpen with
  | true =>
      rw [serve_of_open found isOpen]
      exact lineOf_recorded_self handle
  | false =>
      rw [serve_of_ended found isOpen, Part.linesOf, List.filterMap_append,
        lineOf_recorded_self]
      exact List.append_nil _

theorem get?_serve_self {loop : Loop} {handle : Nat}
    {connection : Connection}
    (found : loop.connections.get? handle = some connection)
    (turn : SocketTurn) :
    (loop.serve turn handle).loop.connections.get? handle =
      if (connection.serve loop.shared turn).isOpen then
        some (connection.serve loop.shared turn).connection
      else none := by
  cases isOpen : (connection.serve loop.shared turn).isOpen with
  | true =>
      rw [serve_of_open found isOpen]
      exact Numbered.get?_put_self _ _ _
  | false =>
      rw [serve_of_ended found isOpen]
      exact Numbered.get?_remove_self _ _

/-- A service does not concern other connections. -/
theorem serve_other (loop : Loop) (turn : SocketTurn) {handle other : Nat}
    (different : other ≠ handle) :
    let part := loop.serve turn handle
    part.bytesOf other = [] ∧ part.linesOf other = [] ∧
      part.loop.connections.get? other = loop.connections.get? other := by
  cases found : loop.connections.get? handle with
  | none =>
      rw [serve_of_absent found]
      exact ⟨rfl, rfl, rfl⟩
  | some connection =>
      cases isOpen : (connection.serve loop.shared turn).isOpen with
      | true =>
          rw [serve_of_open found isOpen]
          refine ⟨by simp [Part.bytesOf, different.symm],
            lineOf_recorded_other different,
            Numbered.get?_put_other _ _ different⟩
      | false =>
          rw [serve_of_ended found isOpen]
          refine ⟨by simp [Part.bytesOf, different.symm], ?_,
            Numbered.get?_remove_other _ different⟩
          rw [Part.linesOf, List.filterMap_append,
            lineOf_recorded_other different]
          rfl

/-! ## One connection -/

/-- A connection has been answered the lines of the bytes that were read from
it, and as long as it is open, what is left of them waits with it. -/
structure UpToDate (limit : Nat) (lines : List String) (bytes : Bytes)
    (connection? : Option Connection) : Prop where
  lines : lines = (Frame.extractAll limit bytes).lines
  limited : ∀ connection ∈ connection?, connection.codec.limit = limit
  drained : ∀ connection ∈ connection?, connection.Drained
  whole : ∀ connection ∈ connection?,
    (Frame.extractAll limit bytes).failure = none
  received : ∀ connection ∈ connection?,
    connection.received = (Frame.extractAll limit bytes).buffer

theorem upToDate_nil (limit : Nat) : UpToDate limit [] [] none := by
  constructor
  · rw [Frame.extractAll_nil]
  all_goals
    intro connection absent
    cases absent

theorem upToDate_opened (slot : Slot) (limit : Nat) (pending : Bytes) :
    UpToDate limit [] []
      (some { Connection.opened slot limit with pending }) := by
  constructor
  · rw [Frame.extractAll_nil]
  · rintro connection ⟨⟩
    rfl
  · rintro connection ⟨⟩
    exact Codec.atRest_fresh limit
  · intro connection _
    rw [Frame.extractAll_nil]
  · rintro connection ⟨⟩
    rw [Frame.extractAll_nil]
    rfl

theorem UpToDate.serve {limit : Nat} {lines : List String} {bytes : Bytes}
    {connection : Connection}
    (upToDate : UpToDate limit lines bytes (some connection))
    (shared : Shared) (turn : SocketTurn) :
    let served := connection.serve shared turn
    UpToDate limit (lines ++ served.exchanges.filterMap Exchange.input)
      (bytes ++ served.read)
      (if served.isOpen then some served.connection else none) := by
  intro served
  have known : connection ∈ some connection := rfl
  have answers := (upToDate.drained connection known).serve_answers shared turn
  have limited := upToDate.limited connection known
  have whole := Frame.extractAll_append limit bytes served.read
  rw [upToDate.whole connection known] at whole
  dsimp only at whole
  rw [← upToDate.received connection known] at whole
  have completed : Frame.extractAll limit
      (connection.received ++ served.read) =
        connection.completedBy served.read := by
    rw [Connection.completedBy, limited]
  rw [completed] at whole
  have inputs : served.exchanges.filterMap Exchange.input =
      (connection.completedBy served.read).lines := by
    rw [answers.exchanges]
    exact Shared.inputs_answerEach _ _ _
  have stillOpen : ∀ later ∈
      (if served.isOpen then some served.connection else none),
      served.isOpen = true ∧ served.connection = later := by
    intro later kept
    split at kept
    · next isOpen => exact ⟨isOpen, Option.some.inj kept⟩
    · cases kept
  constructor
  · rw [whole, upToDate.lines, inputs]
  · intro later kept
    obtain ⟨_isOpen, rfl⟩ := stillOpen later kept
    exact answers.limit.trans limited
  · intro later kept
    obtain ⟨isOpen, rfl⟩ := stillOpen later kept
    exact answers.drained (answers.whole isOpen)
  · intro later kept
    rw [whole]
    exact answers.whole (stillOpen later kept).1
  · intro later kept
    obtain ⟨_isOpen, rfl⟩ := stillOpen later kept
    rw [whole]
    exact answers.received

/-! ## Histories -/

/-- Every connection of a history is up to date, and from connections that are
still to come nothing has been read. -/
structure Accounted (limit : Nat) (history : Part) : Prop where
  limited : history.loop.shared.config.maxLineLength = limit
  upToDate : ∀ handle,
    UpToDate limit (history.linesOf handle) (history.bytesOf handle)
      (history.loop.connections.get? handle)
  fresh : ∀ handle, history.loop.shared.lastSession.toNat < handle →
    history.bytesOf handle = [] ∧
      history.loop.connections.get? handle = none

namespace Accounted

theorem start (shared : Shared) :
    Accounted shared.config.maxLineLength (.idle (Loop.start shared)) := by
  constructor
  · rfl
  · intro handle
    exact upToDate_nil _
  · intro handle _
    exact ⟨rfl, rfl⟩

theorem take {limit : Nat} {history : Part}
    (accounted : Accounted limit history)
    (below : history.loop.shared.lastSession.toNat + 1 < UInt64.size)
    (arrival : Arrival) :
    Accounted limit
      (history.followedBy (history.loop.take arrival)) := by
  let slot : Slot :=
    { session := history.loop.shared.lastSession + 1
      peer := arrival.peer }
  have next : slot.session.toNat =
      history.loop.shared.lastSession.toNat + 1 :=
    toNat_add_one_of_lt below
  obtain ⟨_read, config, _registry, lastSession, outcome⟩ :=
    history.loop.take_cases arrival
  have sameLines (handle : Nat) :
      (history.followedBy (history.loop.take arrival)).linesOf handle =
        history.linesOf handle := by
    rw [Part.linesOf_followedBy, linesOf_take, List.append_nil]
  have sameBytes (handle : Nat) :
      (history.followedBy (history.loop.take arrival)).bytesOf handle =
        history.bytesOf handle := by
    rw [Part.bytesOf_followedBy, bytesOf_take, List.append_nil]
  have kept : (history.loop.take arrival).loop.connections =
        history.loop.connections ∨
      ∃ pending, (history.loop.take arrival).loop.connections =
        history.loop.connections.put slot.session.toNat
          { Connection.opened slot limit with pending } := by
    rw [← accounted.limited]
    rcases outcome with ⟨_silent, same⟩ | ⟨_greeted, kept⟩
    · exact Or.inl same
    · exact kept
  constructor
  · exact (congrArg Config.maxLineLength config).trans accounted.limited
  · intro handle
    rw [sameLines, sameBytes, Part.loop_followedBy]
    rcases kept with same | ⟨pending, put⟩
    · rw [same]
      exact accounted.upToDate handle
    · rw [put]
      by_cases here : handle = slot.session.toNat
      · subst here
        have beyond : history.loop.shared.lastSession.toNat <
            slot.session.toNat := by omega
        obtain ⟨nothing, _⟩ := accounted.fresh slot.session.toNat beyond
        have lines := (accounted.upToDate slot.session.toNat).lines
        have empty := (upToDate_nil limit).lines
        rw [nothing, ← empty] at lines
        rw [nothing, lines, Numbered.get?_put_self]
        exact upToDate_opened slot limit pending
      · rw [Numbered.get?_put_other _ _ here]
        exact accounted.upToDate handle
  · intro handle beyond
    have above : slot.session.toNat < handle := by
      rwa [Part.loop_followedBy, lastSession] at beyond
    have further : history.loop.shared.lastSession.toNat < handle := by
      omega
    obtain ⟨nothing, absent⟩ := accounted.fresh handle further
    rw [sameBytes, Part.loop_followedBy]
    refine ⟨nothing, ?_⟩
    rcases kept with same | ⟨pending, put⟩
    · rw [same]
      exact absent
    · rw [put, Numbered.get?_put_other _ _ (Nat.ne_of_gt above)]
      exact absent

/-- What the operator is told plays no part. -/
theorem told {limit : Nat} {history : Part}
    (accounted : Accounted limit history) (notices : List Notice) :
    Accounted limit { history with notices } :=
  ⟨accounted.limited, accounted.upToDate, accounted.fresh⟩

theorem serve {limit : Nat} {history : Part}
    (accounted : Accounted limit history) (turn : SocketTurn)
    (handle : Nat) :
    Accounted limit
      (history.followedBy (history.loop.serve turn handle)) := by
  obtain ⟨config, lastSession⟩ := history.loop.serve_kept turn handle
  cases found : history.loop.connections.get? handle with
  | none =>
      rw [serve_of_absent found, Part.followedBy_idle]
      exact accounted
  | some connection =>
      constructor
      · exact (congrArg Config.maxLineLength config).trans accounted.limited
      · intro other
        rw [Part.linesOf_followedBy, Part.bytesOf_followedBy,
          Part.loop_followedBy]
        by_cases here : other = handle
        · subst here
          rw [linesOf_serve_self found, bytesOf_serve_self found,
            get?_serve_self found]
          have upToDate := accounted.upToDate other
          rw [found] at upToDate
          exact upToDate.serve history.loop.shared turn
        · obtain ⟨unread, silent, same⟩ :=
            history.loop.serve_other turn here
          rw [unread, silent, same, List.append_nil, List.append_nil]
          exact accounted.upToDate other
      · intro other beyond
        rw [Part.loop_followedBy, lastSession] at beyond
        obtain ⟨nothing, absent⟩ := accounted.fresh other beyond
        have different : other ≠ handle := by
          rintro rfl
          rw [absent] at found
          cases found
        obtain ⟨unread, _silent, same⟩ :=
          history.loop.serve_other turn different
        rw [Part.bytesOf_followedBy, unread, List.append_nil,
          Part.loop_followedBy, same]
        exact ⟨nothing, absent⟩

end Accounted
end Loop
end LoginServer.Polling
