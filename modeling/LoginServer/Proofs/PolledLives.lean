import LoginServer.Proofs.PolledLoop

/-!
# Lives of polled connections

A connection is greeted, and it is then served as long as it stays open; in
between, others change what all connections share.  No connection of a loop
comes about in another way (`Loop.passes_lived`).
-/

namespace LoginServer.Polling

/-- A connection between two services, with the bytes that its socket has
accepted and the lines that were answered since its greeting. -/
structure Life where
  connection : Connection
  sent : Bytes
  exchanges : List Exchange

namespace Life

/-- The life of an admitted connection whose greeting has been sent as far as
there was room. -/
def greeted (slot : Slot) (limit : Nat) (writes : List WriteOutcome) : Life :=
  let flushed := flush (Frame.encode .connected) writes
  { connection :=
      { Connection.opened slot limit with pending := flushed.pending }
    sent := flushed.accepted
    exchanges := [] }

def after (life : Life) (served : Served) : Life :=
  { connection := served.connection
    sent := life.sent ++ served.sent
    exchanges := life.exchanges ++ served.exchanges }

end Life

/-- The lives that connections with a line limit can have: a greeting that does
not fail, and then any number of services that leave the connection open, each
with any shared state and any turn of the socket. -/
inductive Lives (limit : Nat) : Life → Prop where
  | greeted (slot : Slot) (writes : List WriteOutcome) :
      (flush (Frame.encode .connected) writes).fault = none →
      Lives limit (.greeted slot limit writes)
  | served {life : Life} (shared : Shared) (turn : SocketTurn) :
      Lives limit life →
      (life.connection.serve shared turn).isOpen = true →
      Lives limit (life.after (life.connection.serve shared turn))

namespace Loop

/-! ## The connections of a loop -/

/-- What taking arrivals and serving connections preserve holds after any
passes. -/
theorem passes_keep {Holds : Loop → Prop}
    (takes : ∀ (loop : Loop) (arrival : Arrival), Holds loop →
      Holds (loop.take arrival).loop)
    (serves : ∀ (loop : Loop) (turn : SocketTurn) (handle : Nat),
      Holds loop → Holds (loop.serve turn handle).loop)
    (occasions : List Occasion) {loop : Loop} (holds : Holds loop) :
    Holds (loop.passes occasions).loop := by
  have servesEach (turns : Nat → SocketTurn) (handles : List Nat)
      {loop : Loop} (holds : Holds loop) :
      Holds (loop.serveEach turns handles).loop := by
    induction handles generalizing loop with
    | nil => exact holds
    | cons handle handles induction =>
        rw [serveEach, Part.loop_followedBy]
        exact induction (serves loop (turns handle) handle holds)
  induction occasions generalizing loop with
  | nil => exact holds
  | cons occasion occasions induction =>
      rw [passes, Part.loop_followedBy]
      apply induction
      rw [pass, Part.loop_followedBy]
      apply servesEach
      obtain ⟨accepted, turns⟩ := occasion
      cases accepted with
      | none => exact holds
      | some outcome =>
          cases outcome with
          | error fault => exact holds
          | ok arrival => exact takes loop arrival holds

def AllLive (limit : Nat) (connections : Numbered Connection) : Prop :=
  ∀ (handle : Nat) (connection : Connection),
    connections.get? handle = some connection →
      ∃ life, Lives limit life ∧ life.connection = connection

structure Lived (limit : Nat) (loop : Loop) : Prop where
  limited : loop.shared.config.maxLineLength = limit
  lives : AllLive limit loop.connections

/-- An arrival leaves the connections as they are, or one that has been greeted
is put among them. -/
theorem connections_take (loop : Loop) (arrival : Arrival) :
    (loop.take arrival).loop.connections = loop.connections ∨
      ∃ slot,
        (flush (Frame.encode .connected) arrival.writes).fault = none ∧
        (loop.take arrival).loop.connections =
          loop.connections.put slot.session.toNat
            (Life.greeted slot loop.shared.config.maxLineLength
              arrival.writes).connection := by
  cases room : loop.shared.freeSlots with
  | zero =>
      rw [take_of_full room]
      exact Or.inl rfl
  | succ free =>
      let slot : Slot :=
        { session := loop.arrived.lastSession, peer := arrival.peer }
      rw [take_of_free room, welcome]
      dsimp only [Session.greet]
      cases fault :
          (flush (Frame.encode .connected) arrival.writes).fault with
      | some fault => exact Or.inl rfl
      | none => exact Or.inr ⟨slot, rfl, rfl⟩

theorem AllLive.put {limit : Nat} {connections : Numbered Connection}
    {life : Life} (lives : AllLive limit connections) (own : Lives limit life)
    (number : Nat) :
    AllLive limit (connections.put number life.connection) := by
  intro handle connection found
  by_cases here : handle = number
  · subst here
    rw [Numbered.get?_put_self] at found
    exact ⟨life, own, Option.some.inj found⟩
  · rw [Numbered.get?_put_other _ _ here] at found
    exact lives handle connection found

theorem AllLive.remove {limit : Nat} {connections : Numbered Connection}
    (lives : AllLive limit connections) (number : Nat) :
    AllLive limit (connections.remove number) := by
  intro handle connection found
  by_cases here : handle = number
  · subst here
    rw [Numbered.get?_remove_self] at found
    cases found
  · rw [Numbered.get?_remove_other _ here] at found
    exact lives handle connection found

namespace Lived

variable {limit : Nat} {loop : Loop}

theorem start (shared : Shared) :
    Lived shared.config.maxLineLength (.start shared) := by
  constructor
  · rfl
  · intro handle connection found
    cases found

theorem take (lived : Lived limit loop) (arrival : Arrival) :
    Lived limit (loop.take arrival).loop := by
  obtain ⟨_read, config, _others⟩ := loop.take_cases arrival
  constructor
  · exact (congrArg Config.maxLineLength config).trans lived.limited
  · rcases loop.connections_take arrival with same | ⟨slot, whole, kept⟩
    · rw [same]
      exact lived.lives
    · rw [kept, lived.limited]
      exact lived.lives.put (.greeted slot arrival.writes whole) _

theorem serve (lived : Lived limit loop) (turn : SocketTurn)
    (handle : Nat) : Lived limit (loop.serve turn handle).loop := by
  obtain ⟨config, _lastSession⟩ := loop.serve_kept turn handle
  constructor
  · exact (congrArg Config.maxLineLength config).trans lived.limited
  · cases found : loop.connections.get? handle with
    | none =>
        rw [serve_of_absent found]
        exact lived.lives
    | some connection =>
        obtain ⟨life, lives, rfl⟩ := lived.lives handle connection found
        cases isOpen : (life.connection.serve loop.shared turn).isOpen with
        | true =>
            rw [serve_of_open found isOpen]
            exact lived.lives.put (lives.served loop.shared turn isOpen) _
        | false =>
            rw [serve_of_ended found isOpen]
            exact lived.lives.remove handle

end Lived

/-- Whatever passes a loop has made, its connections have been greeted and
served, and nothing else has happened to them. -/
theorem passes_lived (shared : Shared) (occasions : List Occasion) :
    Lived shared.config.maxLineLength
      ((start shared).passes occasions).loop := by
  have takes (loop : Loop) (arrival : Arrival)
      (lived : Lived shared.config.maxLineLength loop) :=
    lived.take arrival
  have serves (loop : Loop) (turn : SocketTurn) (handle : Nat)
      (lived : Lived shared.config.maxLineLength loop) :=
    lived.serve turn handle
  exact passes_keep takes serves occasions (Lived.start shared)

end Loop
end LoginServer.Polling
