import LoginServer.Proofs.PolledLoop
import LoginServer.Sessions

/-!
# Replaying a polled run

What the polling loop does to its connections can be done again by sessions
that answer one line at a time.  `Mirrors` relates a loop to such sessions, and
each part of a pass and the steps that replay it keep them related.
-/

namespace LoginServer

namespace Sessions

/-- The exchanges that steps record, in order. -/
def exchangesOf (sessions : Sessions) : List Step → List Exchange
  | [] => []
  | step :: steps =>
      (sessions.perform step).exchanges ++
        (sessions.perform step).sessions.exchangesOf steps

theorem performAll_append (sessions : Sessions) (first later : List Step) :
    sessions.performAll (first ++ later) =
      (sessions.performAll first).performAll later :=
  List.foldl_append

theorem exchangesOf_append (sessions : Sessions) (first later : List Step) :
    sessions.exchangesOf (first ++ later) =
      sessions.exchangesOf first ++
        (sessions.performAll first).exchangesOf later := by
  induction first generalizing sessions with
  | nil => rfl
  | cons step steps induction =>
      simp only [List.cons_append, exchangesOf, induction, List.append_assoc]
      rfl

/-- A session that begins at a free place changes nothing but that place. -/
theorem perform_opening {sessions : Sessions} {place : Nat}
    (free : sessions.live.get? place = none) (id : UInt64)
    (peer : Address) :
    let opened : Sessions :=
      { sessions with
        live := sessions.live.put place (.opened id peer) }
    sessions.performAll [.opening place id peer, .greeting place] = opened ∧
      sessions.exchangesOf [.opening place id peer, .greeting place] =
        [.greeting peer] := by
  simp [performAll, exchangesOf, perform, close, free, idle, Session.greet,
    Session.opened]

/-- A session that ends gives back its account and its place. -/
theorem perform_closing {sessions : Sessions} {place : Nat}
    {session : Session}
    (found : sessions.live.get? place = some session) :
    sessions.performAll [.closing place] =
        { registry := (session.release sessions.registry).registry
          live := sessions.live.remove place } ∧
      sessions.exchangesOf [.closing place] = [] := by
  simp [performAll, exchangesOf, perform, close, found, idle]

/-- Answering a line is a step of the session that answers it. -/
theorem perform_line {sessions : Sessions} {place : Nat} {session : Session}
    (found : sessions.live.get? place = some session) {shared : Shared}
    (same : sessions.registry = shared.registry) (line : String) :
    let answered := shared.answer session line
    let effect := sessions.perform (.line place line)
    effect.sessions =
        { registry := answered.shared.registry
          live := sessions.live.put place answered.session } ∧
      effect.exchanges = answered.exchanges := by
  simp only [perform, found, same]
  exact ⟨rfl, rfl⟩

/-- Answering lines one after the other is as many steps of one session, and
other sessions are not touched. -/
theorem performAll_lines {sessions : Sessions} {place : Nat}
    {session : Session} (found : sessions.live.get? place = some session)
    {shared : Shared} (same : sessions.registry = shared.registry)
    (lines : List String) :
    let answered := shared.answerEach session lines
    let steps := lines.map (Step.line place)
    let after := sessions.performAll steps
    after.registry = answered.shared.registry ∧
      after.live.get? place = some answered.session ∧
      (∀ other, other ≠ place →
        after.live.get? other = sessions.live.get? other) ∧
      sessions.exchangesOf steps = answered.exchanges := by
  induction lines generalizing sessions session shared with
  | nil => exact ⟨same, found, fun _ _ => rfl, rfl⟩
  | cons line lines induction =>
      obtain ⟨stepped, exchanges⟩ := perform_line found same line
      let next : Sessions :=
        { registry := (shared.answer session line).shared.registry
          live :=
            sessions.live.put place (shared.answer session line).session }
      have foundNext : next.live.get? place =
          some (shared.answer session line).session :=
        sessions.live.get?_put_self place _
      have sameNext : next.registry =
          (shared.answer session line).shared.registry := rfl
      obtain ⟨registry, kept, others, later⟩ :=
        induction foundNext sameNext
      have run (steps : List Step) :
          sessions.performAll (.line place line :: steps) =
            next.performAll steps := by
        rw [performAll, List.foldl_cons, stepped]
        rfl
      simp only [List.map_cons, run, exchangesOf, exchanges, stepped,
        Shared.answerEach]
      refine ⟨registry, kept, ?_, congrArg _ later⟩
      intro other different
      rw [others other different]
      exact sessions.live.get?_put_other _ different

end Sessions

namespace Polling

/-- The steps of sessions that do again what an incident tells: a greeted
connection begins its session. -/
def Incident.replay : Incident → List Sessions.Step
  | .recorded handle exchange =>
      match exchange.input with
      | none =>
          [.opening handle (UInt64.ofNat handle) exchange.peer,
            .greeting handle]
      | some line => [.line handle line]
  | .removed handle => [.closing handle]

/-- The steps of sessions that do again what a part tells. -/
def Part.replay (part : Part) : List Sessions.Step :=
  part.incidents.flatMap Incident.replay

theorem Part.replay_followedBy (first later : Part) :
    (first.followedBy later).replay = first.replay ++ later.replay :=
  List.flatMap_append

theorem replay_recorded {exchanges : List Exchange} {lines : List String}
    (inputs : exchanges.map Exchange.input = lines.map some)
    (handle : Nat) :
    (exchanges.map (Incident.recorded handle)).flatMap Incident.replay =
      lines.map (Sessions.Step.line handle) := by
  induction exchanges generalizing lines with
  | nil =>
      cases lines with
      | nil => rfl
      | cons line lines => simp at inputs
  | cons exchange exchanges induction =>
      cases lines with
      | nil => simp at inputs
      | cons line lines =>
          obtain ⟨here, later⟩ := List.cons.inj inputs
          simp only [List.map_cons, List.flatMap_cons, Incident.replay, here,
            induction later]
          rfl

/-- Sessions that are in the state of a loop: they share its registry, and at
the handle of every connection is its session.  Other sessions hold nothing, and
there are none at the handles that are still to be given out. -/
structure Mirrors (loop : Loop) (sessions : Sessions) : Prop where
  registry : sessions.registry = loop.shared.registry
  present : ∀ (handle : Nat) (connection : Connection),
    loop.connections.get? handle = some connection →
      sessions.live.get? handle = some connection.session
  gone : ∀ (handle : Nat) (session : Session),
    loop.connections.get? handle = none →
      sessions.live.get? handle = some session →
      session.state = .unauthenticated
  fresh : ∀ handle, loop.shared.lastSession.toNat < handle →
    sessions.live.get? handle = none

namespace Mirrors

theorem start (shared : Shared) :
    Mirrors (Loop.start shared) (Sessions.start shared.registry) := by
  constructor
  · rfl
  · intro handle connection found
    cases found
  · intro handle session _ found
    cases found
  · intro handle _
    rfl

/-- A handle is given out, and the connections stay the same. -/
theorem refuse {loop later : Loop} {sessions : Sessions}
    (mirrors : Mirrors loop sessions)
    (registry : later.shared.registry = loop.shared.registry)
    (above : loop.shared.lastSession.toNat ≤
      later.shared.lastSession.toNat)
    (same : later.connections = loop.connections) :
    Mirrors later sessions := by
  constructor
  · exact mirrors.registry.trans registry.symm
  · intro handle connection found
    rw [same] at found
    exact mirrors.present handle connection found
  · intro handle session absent found
    rw [same] at absent
    exact mirrors.gone handle session absent found
  · intro handle beyond
    exact mirrors.fresh handle (Nat.lt_of_le_of_lt above beyond)

/-- What happens at one handle need only be compared at that handle. -/
theorem change {loop later : Loop} {sessions after : Sessions}
    (mirrors : Mirrors loop sessions) (handle : Nat)
    (registry : after.registry = later.shared.registry)
    (above : loop.shared.lastSession.toNat ≤
      later.shared.lastSession.toNat)
    (given : handle ≤ later.shared.lastSession.toNat)
    (otherConnections : ∀ other, other ≠ handle →
      later.connections.get? other = loop.connections.get? other)
    (otherSessions : ∀ other, other ≠ handle →
      after.live.get? other = sessions.live.get? other)
    (present : ∀ connection : Connection,
      later.connections.get? handle = some connection →
        after.live.get? handle = some connection.session)
    (gone : ∀ session : Session,
      later.connections.get? handle = none →
        after.live.get? handle = some session →
        session.state = .unauthenticated) :
    Mirrors later after := by
  constructor
  · exact registry
  · intro number connection found
    by_cases here : number = handle
    · subst here
      exact present connection found
    · rw [otherConnections number here] at found
      rw [otherSessions number here]
      exact mirrors.present number connection found
  · intro number session absent found
    by_cases here : number = handle
    · subst here
      exact gone session absent found
    · rw [otherConnections number here] at absent
      rw [otherSessions number here] at found
      exact mirrors.gone number session absent found
  · intro number beyond
    have other : number ≠ handle := by omega
    rw [otherSessions number other]
    exact mirrors.fresh number (Nat.lt_of_le_of_lt above beyond)

/-- A handle is given out, and its session begins, whether its connection is
kept or not. -/
theorem enter {loop later : Loop} {sessions : Sessions}
    (mirrors : Mirrors loop sessions) {slot : Slot}
    (registry : later.shared.registry = loop.shared.registry)
    (lastSession : later.shared.lastSession = slot.session)
    (next : slot.session.toNat = loop.shared.lastSession.toNat + 1)
    (kept : later.connections = loop.connections ∨
      ∃ connection : Connection,
        connection.session = .opened slot.session slot.peer ∧
        later.connections =
          loop.connections.put slot.session.toNat connection) :
    Mirrors later
      { sessions with
        live :=
          sessions.live.put slot.session.toNat
            (.opened slot.session slot.peer) } := by
  have free : sessions.live.get? slot.session.toNat = none := by
    apply mirrors.fresh
    omega
  have sameLast := congrArg UInt64.toNat lastSession
  apply mirrors.change slot.session.toNat
  · exact mirrors.registry.trans registry.symm
  · omega
  · exact Nat.le_of_eq sameLast.symm
  · intro other different
    rcases kept with same | ⟨connection, _session, put⟩
    · rw [same]
    · rw [put, Numbered.get?_put_other _ _ different]
  · intro other different
    exact Numbered.get?_put_other _ _ different
  · intro connection found
    rcases kept with same | ⟨opened, session, put⟩
    · rw [same] at found
      have live := mirrors.present _ connection found
      rw [free] at live
      cases live
    · rw [put, Numbered.get?_put_self] at found
      cases found
      rw [session]
      exact sessions.live.get?_put_self _ _
  · intro session _ found
    rw [Numbered.get?_put_self] at found
    cases found
    rfl

theorem take {loop : Loop} {sessions : Sessions}
    (mirrors : Mirrors loop sessions)
    (below : loop.shared.lastSession.toNat + 1 < UInt64.size)
    (arrival : Arrival) :
    Mirrors (loop.take arrival).loop
        (sessions.performAll (loop.take arrival).replay) ∧
      sessions.exchangesOf (loop.take arrival).replay =
        (loop.take arrival).exchanges := by
  let slot : Slot :=
    { session := loop.shared.lastSession + 1, peer := arrival.peer }
  have next : slot.session.toNat = loop.shared.lastSession.toNat + 1 :=
    Loop.toNat_add_one_of_lt below
  obtain ⟨_read, _config, registry, lastSession, outcome⟩ :=
    loop.take_cases arrival
  rcases outcome with ⟨silent, same⟩ | ⟨greeted, kept⟩
  · rw [Part.replay, Part.exchanges, silent]
    have above : loop.shared.lastSession.toNat ≤
        (loop.take arrival).loop.shared.lastSession.toNat := by
      have same : (loop.take arrival).loop.shared.lastSession.toNat =
          slot.session.toNat := congrArg UInt64.toNat lastSession
      rw [same, next]
      exact Nat.le_succ _
    exact ⟨mirrors.refuse registry above same, rfl⟩
  · have free : sessions.live.get? slot.session.toNat = none := by
      apply mirrors.fresh
      omega
    obtain ⟨opened, exchanges⟩ :=
      Sessions.perform_opening free slot.session slot.peer
    have replayed : (loop.take arrival).replay =
        [.opening slot.session.toNat slot.session slot.peer,
          .greeting slot.session.toNat] := by
      rw [Part.replay, greeted, List.flatMap_cons, Incident.replay]
      simp only [Exchange.greeting, UInt64.ofNat_toNat]
      rfl
    rw [replayed, opened, exchanges, Part.exchanges, greeted]
    refine ⟨mirrors.enter registry lastSession next ?_, rfl⟩
    rcases kept with same | ⟨pending, put⟩
    · exact Or.inl same
    · exact Or.inr ⟨_, rfl, put⟩

theorem le_lastSession {loop : Loop} {sessions : Sessions}
    (mirrors : Mirrors loop sessions) {handle : Nat}
    {connection : Connection}
    (found : loop.connections.get? handle = some connection) :
    handle ≤ loop.shared.lastSession.toNat := by
  apply Nat.le_of_not_lt
  intro beyond
  have live := mirrors.present handle connection found
  rw [mirrors.fresh handle beyond] at live
  cases live

/-- The answers of one service are as many steps of its session. -/
theorem replay_service {loop : Loop} {sessions : Sessions}
    (mirrors : Mirrors loop sessions) {handle : Nat}
    {connection : Connection}
    (found : loop.connections.get? handle = some connection)
    (drained : connection.Drained) (turn : SocketTurn) :
    let served := connection.serve loop.shared turn
    let steps := (served.exchanges.map
      (Incident.recorded handle)).flatMap Incident.replay
    let after := sessions.performAll steps
    after.registry = served.shared.registry ∧
      after.live.get? handle = some served.connection.session ∧
      (∀ other, other ≠ handle →
        after.live.get? other = sessions.live.get? other) ∧
      sessions.exchangesOf steps = served.exchanges := by
  intro served steps after
  have answers := drained.serve_answers loop.shared turn
  let lines := (connection.completedBy served.read).lines
  have inputs : served.exchanges.map Exchange.input = lines.map some := by
    rw [answers.exchanges]
    exact Shared.map_input_answerEach _ _ _
  have replayed : steps = lines.map (Sessions.Step.line handle) :=
    replay_recorded inputs handle
  have live := mirrors.present handle connection found
  obtain ⟨registry, here, elsewhere, exchanges⟩ :=
    Sessions.performAll_lines live mirrors.registry lines
  rw [← replayed, ← answers.after] at registry
  rw [← replayed, ← answers.session] at here
  rw [← replayed] at elsewhere
  rw [← replayed, ← answers.exchanges] at exchanges
  exact ⟨registry, here, elsewhere, exchanges⟩

theorem serve_open {loop : Loop} {sessions : Sessions}
    (mirrors : Mirrors loop sessions) {handle : Nat}
    {connection : Connection} {turn : SocketTurn}
    (found : loop.connections.get? handle = some connection)
    (drained : connection.Drained)
    (goesOn : (connection.serve loop.shared turn).isOpen = true) :
    Mirrors (loop.serve turn handle).loop
        (sessions.performAll (loop.serve turn handle).replay) ∧
      sessions.exchangesOf (loop.serve turn handle).replay =
        (loop.serve turn handle).exchanges := by
  obtain ⟨registry, here, elsewhere, exchanges⟩ :=
    mirrors.replay_service found drained turn
  have kept := (loop.serve_kept turn handle).2
  rw [Loop.serve_of_open found goesOn] at kept ⊢
  have sameLast := congrArg UInt64.toNat kept
  simp only [Part.replay, Part.exchanges, filterMap_recorded]
  refine ⟨?_, exchanges⟩
  apply mirrors.change handle registry
  · exact Nat.le_of_eq sameLast.symm
  · rw [sameLast]
    exact mirrors.le_lastSession found
  · intro other different
    exact Numbered.get?_put_other _ _ different
  · exact elsewhere
  · intro later foundLater
    rw [Numbered.get?_put_self] at foundLater
    cases foundLater
    exact here
  · intro session absent
    rw [Numbered.get?_put_self] at absent
    cases absent

theorem serve_ended {loop : Loop} {sessions : Sessions}
    (mirrors : Mirrors loop sessions) {handle : Nat}
    {connection : Connection} {turn : SocketTurn}
    (found : loop.connections.get? handle = some connection)
    (drained : connection.Drained)
    (ends : (connection.serve loop.shared turn).isOpen = false) :
    Mirrors (loop.serve turn handle).loop
        (sessions.performAll (loop.serve turn handle).replay) ∧
      sessions.exchangesOf (loop.serve turn handle).replay =
        (loop.serve turn handle).exchanges := by
  obtain ⟨registry, here, elsewhere, exchanges⟩ :=
    mirrors.replay_service found drained turn
  obtain ⟨closed, silent⟩ := Sessions.perform_closing here
  have removal : [Incident.removed handle].flatMap Incident.replay =
      [.closing handle] := rfl
  have kept := (loop.serve_kept turn handle).2
  rw [Loop.serve_of_ended found ends] at kept ⊢
  have sameLast := congrArg UInt64.toNat kept
  simp only [Part.replay, Part.exchanges, List.flatMap_append,
    List.filterMap_append, filterMap_recorded]
  rw [removal, Sessions.performAll_append, Sessions.exchangesOf_append,
    closed, silent, exchanges]
  refine ⟨?_, rfl⟩
  apply mirrors.change handle
  · rw [registry]
    rfl
  · exact Nat.le_of_eq sameLast.symm
  · rw [sameLast]
    exact mirrors.le_lastSession found
  · intro other different
    exact Numbered.get?_remove_other _ different
  · intro other different
    exact (Numbered.get?_remove_other _ different).trans
      (elsewhere other different)
  · intro later foundLater
    rw [Numbered.get?_remove_self] at foundLater
    cases foundLater
  · intro session _ foundSession
    rw [Numbered.get?_remove_self] at foundSession
    cases foundSession

theorem serve {loop : Loop} {sessions : Sessions}
    (mirrors : Mirrors loop sessions)
    (drained : ∀ (handle : Nat) (connection : Connection),
      loop.connections.get? handle = some connection → connection.Drained)
    (turn : SocketTurn) (handle : Nat) :
    Mirrors (loop.serve turn handle).loop
        (sessions.performAll (loop.serve turn handle).replay) ∧
      sessions.exchangesOf (loop.serve turn handle).replay =
        (loop.serve turn handle).exchanges := by
  cases found : loop.connections.get? handle with
  | none =>
      rw [Loop.serve_of_absent found]
      exact ⟨mirrors, rfl⟩
  | some connection =>
      have emptied := drained handle connection found
      cases isOpen : (connection.serve loop.shared turn).isOpen with
      | true => exact mirrors.serve_open found emptied isOpen
      | false => exact mirrors.serve_ended found emptied isOpen

/-- Connections that all end at once end like sessions one after the other. -/
theorem registry_dropEach {entries : List (Nat × Connection)}
    (ascending : entries.Pairwise fun left right => left.1 < right.1)
    {shared : Shared} {sessions : Sessions}
    (same : sessions.registry = shared.registry)
    (present : ∀ entry ∈ entries,
      sessions.live.get? entry.1 = some entry.2.session) :
    (Loop.dropEach shared (entries.map Prod.snd)).1.registry =
      (sessions.performAll
        (entries.map fun entry => .closing entry.1)).registry := by
  -- A session that ends leaves the sessions at greater handles in their
  -- places, where the later connections find them.
  induction entries generalizing shared sessions with
  | nil => exact same.symm
  | cons entry entries induction =>
      obtain ⟨above, ascendingLater⟩ := List.pairwise_cons.mp ascending
      obtain ⟨closed, _⟩ :=
        Sessions.perform_closing (present entry List.mem_cons_self)
      have run (steps : List Sessions.Step) :
          sessions.performAll (.closing entry.1 :: steps) =
            (sessions.performAll [.closing entry.1]).performAll steps :=
        sessions.performAll_append [.closing entry.1] steps
      rw [List.map_cons, List.map_cons, run, closed, Loop.dropEach]
      apply induction ascendingLater
      · rw [same]
        rfl
      · intro later member
        have different : later.1 ≠ entry.1 :=
          Nat.ne_of_gt (above later member)
        exact (Numbered.get?_remove_other _ different).trans
          (present later (List.mem_cons_of_mem _ member))

theorem stop {loop : Loop} {sessions : Sessions}
    (mirrors : Mirrors loop sessions) :
    loop.stop.1.registry =
      (sessions.performAll
        (loop.connections.numbers.map .closing)).registry := by
  have numbers : loop.connections.numbers.map Sessions.Step.closing =
      loop.connections.entries.map fun entry => .closing entry.1 := by
    rw [Numbered.numbers, List.map_map]
    rfl
  rw [numbers]
  apply registry_dropEach loop.connections.ascending mirrors.registry
  intro entry member
  exact mirrors.present entry.1 entry.2 (Numbered.get?_eq_some_iff.mpr member)

end Mirrors
end Polling
end LoginServer
