import LoginServer.Proofs.NumberedItems
import LoginServer.Proofs.PolledService
import LoginServer.Server.Polling.Loop

/-!
# Runs of the polling loop

A run of the loop is a sequence of small parts: an arrival is taken, or none can
be, or one connection is served.  What each part preserves holds after every run
(`passes_induction`).  Within one pass the connections are served in the order
of their handles, each once at most.
-/

namespace LoginServer.Polling

/-- The connection that an incident is about. -/
def Incident.handle : Incident → Nat
  | .recorded handle _ => handle
  | .removed handle => handle

/-- Whether an incident is more than a greeting: the answer to a line, or a
removal. -/
def Incident.isStep : Incident → Bool
  | .recorded _ exchange => exchange.input.isSome
  | .removed _ => true

theorem filterMap_recorded (handle : Nat) (exchanges : List Exchange) :
    (exchanges.map (Incident.recorded handle)).filterMap
      Incident.exchange? = exchanges := by
  rw [List.filterMap_map]
  exact List.filterMap_some

namespace Part

/-- The handles of the connections that were served, in order. -/
def served (part : Part) : List Nat :=
  part.read.map Prod.fst

/-- The answers and removals, in order. -/
def steps (part : Part) : List Incident :=
  part.incidents.filter Incident.isStep

/-! ## Parts one after the other -/

theorem followedBy_idle (first : Part) :
    first.followedBy (idle first.loop) = first := by
  simp only [followedBy, idle, List.append_nil]

/-- After a failure to accept a client the history is as before, but for what
the operator has been told. -/
theorem followedBy_accept_error (first : Part) (fault : IoFault) :
    first.followedBy (first.loop.accept (some (.error fault))) =
      { first with
        notices := first.notices ++ [.polledAcceptFailed fault] } := by
  simp only [followedBy, Loop.accept, idle, List.append_nil]

theorem loop_followedBy (first later : Part) :
    (first.followedBy later).loop = later.loop :=
  rfl

theorem exchanges_followedBy (first later : Part) :
    (first.followedBy later).exchanges =
      first.exchanges ++ later.exchanges :=
  List.filterMap_append

theorem followedBy_assoc (first second third : Part) :
    (first.followedBy second).followedBy third =
      first.followedBy (second.followedBy third) := by
  simp only [followedBy, List.append_assoc]

end Part

namespace Loop

/-! ## One arrival -/

/-- The shared state after an arrival has been counted and has got a handle. -/
def arrived (loop : Loop) : Shared :=
  (loop.shared.count Counters.arrive).nextSession.2

theorem take_of_full {loop : Loop} (full : loop.shared.freeSlots = 0)
    (arrival : Arrival) :
    loop.take arrival =
      { Part.idle
          { loop with shared := loop.arrived.count Counters.refuse } with
        notices :=
          [.polledRefused arrival.peer
            (.connectionLimit loop.shared.config.maxClients)] } := by
  simp only [take, arrived, Shared.nextSession, Shared.enter, Shared.count,
    full]

theorem take_of_free {loop : Loop} {free : Nat}
    (room : loop.shared.freeSlots = free + 1) (arrival : Arrival) :
    loop.take arrival =
      { loop with
        shared :=
          { loop.arrived.count Counters.connect with
            freeSlots := free } }.welcome
        { session := loop.arrived.lastSession, peer := arrival.peer }
        arrival.writes := by
  simp only [take, arrived, Shared.nextSession, Shared.enter, Shared.count,
    room]

/-- An admitted connection is greeted, and it is kept unless that fails. -/
theorem welcome_cases (loop : Loop) (slot : Slot)
    (writes : List WriteOutcome) :
    let part := loop.welcome slot writes
    part.read = [] ∧
      part.incidents =
        [.recorded slot.session.toNat (.greeting slot.peer)] ∧
      (part.loop =
          { loop with
            shared :=
              (loop.shared.finish (.opened slot.session slot.peer) slot).1 } ∨
        ∃ pending,
          part.loop =
            { loop with
              connections :=
                loop.connections.put slot.session.toNat
                  { Connection.opened slot
                      loop.shared.config.maxLineLength with
                    pending } }) := by
  rw [welcome]
  dsimp only [Session.greet]
  split
  · exact ⟨rfl, rfl, Or.inl rfl⟩
  · exact ⟨rfl, rfl, Or.inr ⟨_, rfl⟩⟩

/-- An arrival gets the next handle.  It is refused without a word, or it is
greeted, and then it is kept unless the greeting fails. -/
theorem take_cases (loop : Loop) (arrival : Arrival) :
    let part := loop.take arrival
    let slot : Slot :=
      { session := loop.shared.lastSession + 1, peer := arrival.peer }
    part.read = [] ∧
      part.loop.shared.config = loop.shared.config ∧
      part.loop.shared.registry = loop.shared.registry ∧
      part.loop.shared.lastSession = slot.session ∧
      ((part.incidents = [] ∧ part.loop.connections = loop.connections) ∨
        part.incidents =
          [.recorded slot.session.toNat (.greeting slot.peer)] ∧
        (part.loop.connections = loop.connections ∨
          ∃ pending,
            part.loop.connections =
              loop.connections.put slot.session.toNat
                { Connection.opened slot
                    loop.shared.config.maxLineLength with
                  pending })) := by
  intro part slot
  cases room : loop.shared.freeSlots with
  | zero =>
      have refused := take_of_full room arrival
      simp only [part, refused]
      exact ⟨rfl, rfl, rfl, rfl, Or.inl ⟨rfl, rfl⟩⟩
  | succ free =>
      let admitted : Loop :=
        { loop with
          shared :=
            { loop.arrived.count Counters.connect with freeSlots := free } }
      have greeted : part = admitted.welcome slot arrival.writes :=
        take_of_free room arrival
      obtain ⟨unread, incidents, failed | ⟨pending, kept⟩⟩ :=
        admitted.welcome_cases slot arrival.writes
      · rw [greeted, failed]
        exact ⟨unread, rfl, rfl, rfl, Or.inr ⟨incidents, Or.inl rfl⟩⟩
      · rw [greeted, kept]
        exact ⟨unread, rfl, rfl, rfl,
          Or.inr ⟨incidents, Or.inr ⟨pending, rfl⟩⟩⟩

/-! ## One service -/

theorem serve_of_absent {loop : Loop} {handle : Nat}
    (absent : loop.connections.get? handle = none) (turn : SocketTurn) :
    loop.serve turn handle = .idle loop := by
  rw [serve, absent]

/-- A connection that stays open after its service takes its old place. -/
theorem serve_of_open {loop : Loop} {handle : Nat}
    {connection : Connection} {turn : SocketTurn}
    (found : loop.connections.get? handle = some connection)
    (goesOn : (connection.serve loop.shared turn).isOpen = true) :
    let served := connection.serve loop.shared turn
    loop.serve turn handle =
      { loop :=
          { shared := served.shared
            connections := loop.connections.put handle served.connection }
        read := [(handle, served.read)]
        sent := [(handle, served.sent)]
        incidents := served.exchanges.map (Incident.recorded handle)
        notices := served.notices } := by
  rw [serve, found]
  simp only [goesOn, if_true]

/-- A connection that ends by its service is removed. -/
theorem serve_of_ended {loop : Loop} {handle : Nat}
    {connection : Connection} {turn : SocketTurn}
    (found : loop.connections.get? handle = some connection)
    (ends : (connection.serve loop.shared turn).isOpen = false) :
    let served := connection.serve loop.shared turn
    let finished :=
      served.shared.finish served.connection.session served.connection.slot
    loop.serve turn handle =
      { loop :=
          { shared := finished.1
            connections := loop.connections.remove handle }
        read := [(handle, served.read)]
        sent := [(handle, served.sent)]
        incidents :=
          served.exchanges.map (Incident.recorded handle) ++
            [.removed handle]
        notices := served.notices ++ finished.2 } := by
  rw [serve, found]
  simp only [ends, Bool.false_eq_true, if_false]

/-- The handle given out last and the settings are not changed by a service. -/
theorem serve_kept (loop : Loop) (turn : SocketTurn) (handle : Nat) :
    let part := loop.serve turn handle
    part.loop.shared.config = loop.shared.config ∧
      part.loop.shared.lastSession = loop.shared.lastSession := by
  cases found : loop.connections.get? handle with
  | none =>
      rw [serve_of_absent found]
      exact ⟨rfl, rfl⟩
  | some connection =>
      have config := connection.config_serve loop.shared turn
      have lastSession := connection.lastSession_serve loop.shared turn
      cases isOpen : (connection.serve loop.shared turn).isOpen with
      | true =>
          rw [serve_of_open found isOpen]
          exact ⟨config, lastSession⟩
      | false =>
          rw [serve_of_ended found isOpen]
          exact ⟨config, lastSession⟩

/-! ## The order within a pass -/

theorem serve_traced (loop : Loop) (turn : SocketTurn) (handle : Nat) :
    let part := loop.serve turn handle
    part.served.Sublist [handle] ∧
      ∀ incident ∈ part.incidents, incident.handle ∈ part.served := by
  cases found : loop.connections.get? handle with
  | none =>
      rw [serve_of_absent found]
      exact ⟨List.nil_sublist _, by simp [Part.idle]⟩
  | some connection =>
      cases isOpen : (connection.serve loop.shared turn).isOpen with
      | true =>
          rw [serve_of_open found isOpen]
          exact ⟨List.Sublist.refl _, by simp [Part.served, Incident.handle]⟩
      | false =>
          rw [serve_of_ended found isOpen]
          refine ⟨List.Sublist.refl _, ?_⟩
          intro incident member
          rcases List.mem_append.mp member with recorded | removed
          · obtain ⟨exchange, _, rfl⟩ := List.mem_map.mp recorded
            exact List.mem_singleton_self handle
          · rw [List.mem_singleton.mp removed]
            exact List.mem_singleton_self handle

theorem serveEach_traced (loop : Loop) (turns : Nat → SocketTurn)
    (handles : List Nat) :
    let part := loop.serveEach turns handles
    part.served.Sublist handles ∧
      ∀ incident ∈ part.incidents, incident.handle ∈ part.served := by
  induction handles generalizing loop with
  | nil => exact ⟨List.nil_sublist _, by simp [serveEach, Part.idle]⟩
  | cons handle handles induction =>
      obtain ⟨once, traced⟩ := loop.serve_traced (turns handle) handle
      obtain ⟨inOrder, tracedLater⟩ :=
        induction (loop.serve (turns handle) handle).loop
      simp only [serveEach, Part.served, Part.followedBy, List.map_append]
      refine ⟨once.append inOrder, ?_⟩
      intro incident member
      rcases List.mem_append.mp member with first | later
      · exact List.mem_append_left _ (traced incident first)
      · exact List.mem_append_right _ (tracedLater incident later)

/-- The incidents of services in ascending order are grouped by their
connections. -/
theorem serveEach_grouped (loop : Loop) (turns : Nat → SocketTurn)
    {handles : List Nat} (ascending : handles.Pairwise (· < ·)) :
    ((loop.serveEach turns handles).incidents.map Incident.handle).Pairwise
      (· ≤ ·) := by
  induction handles generalizing loop with
  | nil => exact List.Pairwise.nil
  | cons handle handles induction =>
      obtain ⟨below, ascendingLater⟩ := List.pairwise_cons.mp ascending
      let first := loop.serve (turns handle) handle
      have handleOf : ∀ number ∈ first.incidents.map Incident.handle,
          number = handle := by
        intro number member
        obtain ⟨incident, known, rfl⟩ := List.mem_map.mp member
        obtain ⟨once, traced⟩ := loop.serve_traced (turns handle) handle
        exact List.mem_singleton.mp (once.subset (traced incident known))
      have handlesOf : ∀ number ∈
          (first.loop.serveEach turns handles).incidents.map Incident.handle,
          number ∈ handles := by
        intro number member
        obtain ⟨incident, known, rfl⟩ := List.mem_map.mp member
        obtain ⟨inOrder, traced⟩ := first.loop.serveEach_traced turns handles
        exact inOrder.subset (traced incident known)
      simp only [serveEach, Part.followedBy, List.map_append]
      refine List.pairwise_append.mpr
        ⟨?_, induction first.loop ascendingLater, ?_⟩
      · apply List.pairwise_of_forall_mem_list
        intro left leftMember right rightMember
        have same := (handleOf left leftMember).trans
          (handleOf right rightMember).symm
        exact Nat.le_of_eq same
      · intro left leftMember right rightMember
        rw [handleOf left leftMember]
        exact Nat.le_of_lt (below right (handlesOf right rightMember))

theorem steps_take (loop : Loop) (arrival : Arrival) :
    (loop.take arrival).steps = [] := by
  obtain ⟨_read, _config, _registry, _lastSession, refused | greeted⟩ :=
    loop.take_cases arrival
  · rw [Part.steps, refused.1]
    rfl
  · rw [Part.steps, greeted.1]
    rfl

theorem ordered_of_unread {first : Part} (unread : first.read = [])
    (noSteps : first.steps = []) (turns : Nat → SocketTurn) :
    let part := first.followedBy
      (first.loop.serveEach turns first.loop.connections.numbers)
    part.served.Pairwise (· < ·) ∧
      (part.steps.map Incident.handle).Pairwise (· ≤ ·) ∧
      ∀ incident ∈ part.steps, incident.handle ∈ part.served := by
  let handles := first.loop.connections.numbers
  let later := first.loop.serveEach turns handles
  have ascending := first.loop.connections.numbers_ascending
  obtain ⟨inOrder, traced⟩ := first.loop.serveEach_traced turns handles
  have grouped := first.loop.serveEach_grouped turns ascending
  have served : (first.followedBy later).served = later.served := by
    simp only [Part.served, Part.followedBy, unread, List.nil_append]
  have steps : (first.followedBy later).steps = later.steps := by
    rw [Part.steps] at noSteps
    simp only [Part.steps, Part.followedBy, List.filter_append, noSteps,
      List.nil_append]
  have among : later.steps.Sublist later.incidents := List.filter_sublist
  dsimp only
  rw [served, steps]
  refine ⟨ascending.sublist inOrder,
    grouped.sublist (among.map Incident.handle), ?_⟩
  intro incident member
  exact traced incident (among.subset member)

/-- In one pass every connection is served once at most, in the order of the
handles, and what is done for one connection stands together. -/
theorem pass_ordered (loop : Loop) (occasion : Occasion) :
    let part := loop.pass occasion
    part.served.Pairwise (· < ·) ∧
      (part.steps.map Incident.handle).Pairwise (· ≤ ·) ∧
      ∀ incident ∈ part.steps, incident.handle ∈ part.served := by
  obtain ⟨accepted, turns⟩ := occasion
  cases accepted with
  | none =>
      have unread : (loop.accept none).read = [] := rfl
      exact ordered_of_unread unread rfl turns
  | some outcome =>
      cases outcome with
      | error fault =>
          have unread : (loop.accept (some (.error fault))).read = [] := rfl
          exact ordered_of_unread unread rfl turns
      | ok arrival =>
          have unread := (loop.take_cases arrival).1
          exact ordered_of_unread unread (loop.steps_take arrival) turns

/-! ## Runs -/

theorem toNat_add_one_of_lt {handle : UInt64}
    (below : handle.toNat + 1 < UInt64.size) :
    (handle + 1).toNat = handle.toNat + 1 := by
  rw [UInt64.toNat_add]
  exact Nat.mod_eq_of_lt below

/-- The client that is accepted in a pass. -/
def Occasion.arrival? (occasion : Occasion) : Option Arrival :=
  match occasion.accepted with
  | some (.ok arrival) => some arrival
  | _ => none

/-- The number of arrivals in passes. -/
def arrivals (occasions : List Occasion) : Nat :=
  (occasions.filterMap Occasion.arrival?).length

theorem lastSession_serveEach (loop : Loop) (turns : Nat → SocketTurn)
    (handles : List Nat) :
    (loop.serveEach turns handles).loop.shared.lastSession =
      loop.shared.lastSession := by
  induction handles generalizing loop with
  | nil => rfl
  | cons handle handles induction =>
      exact (induction _).trans (loop.serve_kept (turns handle) handle).2

/-- Handles that suffice for some passes suffice for a client that is accepted
in the first of them, and then for the others. -/
theorem room_accept {loop : Loop} {occasion : Occasion}
    {later : List Occasion}
    (room : loop.shared.lastSession.toNat + arrivals (occasion :: later) <
      UInt64.size) :
    (occasion.arrival?.isSome →
      loop.shared.lastSession.toNat + 1 < UInt64.size) ∧
    (loop.accept occasion.accepted).loop.shared.lastSession.toNat +
      arrivals later < UInt64.size := by
  obtain ⟨accepted, turns⟩ := occasion
  cases accepted with
  | none => exact ⟨nofun, room⟩
  | some outcome =>
      cases outcome with
      | error fault => exact ⟨nofun, room⟩
      | ok arrival =>
          have counted : arrivals ({ accepted := some (.ok arrival), turns } ::
              later) = arrivals later + 1 := rfl
          rw [counted] at room
          have below : loop.shared.lastSession.toNat + 1 < UInt64.size := by
            omega
          have next := (loop.take_cases arrival).2.2.2.1
          refine ⟨fun _ => below, ?_⟩
          rw [accept, next, toNat_add_one_of_lt below]
          omega

/-- What the parts of passes preserve holds after any passes, as long as they do
not use up the handles. -/
theorem passes_induction {Holds : Part → Prop}
    (takes : ∀ (history : Part) (arrival : Arrival), Holds history →
      history.loop.shared.lastSession.toNat + 1 < UInt64.size →
      Holds (history.followedBy (history.loop.take arrival)))
    (misses : ∀ (history : Part) (fault : IoFault), Holds history →
      Holds { history with
        notices := history.notices ++ [.polledAcceptFailed fault] })
    (serves : ∀ (history : Part) (turn : SocketTurn) (handle : Nat),
      Holds history →
      Holds (history.followedBy (history.loop.serve turn handle)))
    (occasions : List Occasion) {history : Part} (holds : Holds history)
    (room : history.loop.shared.lastSession.toNat + arrivals occasions <
      UInt64.size) :
    Holds (history.followedBy (history.loop.passes occasions)) := by
  have servesEach (turns : Nat → SocketTurn) (handles : List Nat)
      {history : Part} (holds : Holds history) :
      Holds (history.followedBy (history.loop.serveEach turns handles)) := by
    induction handles generalizing history with
    | nil =>
        rw [serveEach, Part.followedBy_idle]
        exact holds
    | cons handle handles induction =>
        rw [serveEach, ← Part.followedBy_assoc]
        exact induction (serves history (turns handle) handle holds)
  have accepts (occasion : Occasion) {history : Part} (holds : Holds history)
      (below : occasion.arrival?.isSome →
        history.loop.shared.lastSession.toNat + 1 < UInt64.size) :
      Holds (history.followedBy (history.loop.accept occasion.accepted)) := by
    obtain ⟨accepted, turns⟩ := occasion
    cases accepted with
    | none =>
        rw [accept, Part.followedBy_idle]
        exact holds
    | some outcome =>
        cases outcome with
        | error fault =>
            rw [Part.followedBy_accept_error]
            exact misses history fault holds
        | ok arrival => exact takes history arrival holds (below rfl)
  -- Each pass is appended to the history, so that it is the history and not
  -- the rest of the run that the property is about.
  induction occasions generalizing history with
  | nil =>
      rw [passes, Part.followedBy_idle]
      exact holds
  | cons occasion occasions induction =>
      obtain ⟨below, roomLater⟩ := room_accept room
      let first := history.loop.accept occasion.accepted
      let handles := first.loop.connections.numbers
      have passed : history.loop.pass occasion =
          first.followedBy (first.loop.serveEach occasion.turns handles) := rfl
      rw [passes, ← Part.followedBy_assoc, passed, ← Part.followedBy_assoc]
      apply induction
        (servesEach occasion.turns handles (accepts occasion holds below))
      rw [Part.loop_followedBy, lastSession_serveEach, Part.loop_followedBy]
      exact roomLater

end Loop
end LoginServer.Polling
