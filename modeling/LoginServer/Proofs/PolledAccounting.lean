import LoginServer.Proofs.AccountHolding
import LoginServer.Proofs.PolledLines

/-!
# The accounts of the polling loop

The connections of a loop, its free slots, its counters and the flags of the
registry are kept in different places and tell the same story.  `Balanced` says
so of a history, and every part of a pass preserves it.
-/

namespace LoginServer

/-- What became of an arrival. -/
inductive Verdict where
  | admitted
  | refused
  deriving DecidableEq, Repr

/-- What a notice of the polling loop says of an arrival. -/
def Notice.verdict? : Notice → Option Verdict
  | .polledAccepted _ => some .admitted
  | .polledRefused _ _ => some .refused
  | _ => none

/-- Notices that say nothing of an arrival. -/
def Quiet (notices : List Notice) : Prop :=
  notices.filterMap Notice.verdict? = []

namespace Quiet

theorem append {first later : List Notice} (quiet : Quiet first)
    (quietLater : Quiet later) : Quiet (first ++ later) := by
  rw [Quiet, List.filterMap_append, quiet, quietLater]
  rfl

theorem login (registry : Registry) (username : String) :
    Quiet (registry.login username).2.2 := by
  rw [Registry.login]
  split
  · rfl
  · split
    · rfl
    · split <;> rfl

theorem logout (registry : Registry) (username : String) :
    Quiet (registry.logout username).2 := by
  rw [Registry.logout]
  split
  · rfl
  · split <;> rfl

theorem release (session : Session) (registry : Registry) :
    Quiet (session.release registry).notices := by
  rw [Session.release]
  split
  · rfl
  · exact (logout registry _).append rfl

theorem logIn (session : Session) (registry : Registry)
    (username : String) : Quiet (session.logIn registry username).notices := by
  have quiet := login registry username
  rw [Session.logIn]
  rcases attempt : registry.login username with ⟨result, next, notices⟩
  rw [attempt] at quiet
  cases result with
  | success => exact quiet.append rfl
  | notFound | banned | alreadyActive => exact quiet

theorem perform (session : Session) (registry : Registry)
    (command : Command) :
    Quiet (session.perform registry command).notices := by
  cases command with
  | user username =>
      cases state : session.state with
      | unauthenticated =>
          simpa only [Session.perform, state] using
            logIn session registry username
      | authenticated holder =>
          simp only [Session.perform, state]
          rfl
  | post text =>
      cases state : session.state <;> simp only [Session.perform, state] <;>
        rfl
  | bye =>
      cases state : session.state with
      | unauthenticated =>
          simp only [Session.perform, state]
          rfl
      | authenticated holder =>
          simp only [Session.perform, state]
          exact release session registry
  | unknown line => rfl

theorem answerEach (shared : Shared) (session : Session)
    (lines : List String) :
    Quiet (shared.answerEach session lines).notices := by
  induction lines generalizing shared session with
  | nil => rfl
  | cons line lines induction =>
      have first : Quiet (shared.answer session line).notices :=
        perform session shared.registry (Command.parse line)
      simp only [Shared.answerEach]
      exact first.append (induction _ _)

theorem finish (shared : Shared) (session : Session) (slot : Slot) :
    Quiet (shared.finish session slot).2 :=
  (release session shared.registry).append rfl

theorem serve (connection : Polling.Connection) (shared : Shared)
    (turn : Polling.SocketTurn) :
    Quiet (connection.serve shared turn).notices := by
  rw [Polling.Connection.serve]
  split
  · rfl
  · split
    · rfl
    · split
      · rfl
      · rfl
      · rfl
      · simp only [Polling.Connection.receive]
        refine ((answerEach _ _ _).append ?_).append ?_
        · rw [Quiet, List.filterMap_map, List.filterMap_eq_nil_iff]
          intro failure _
          rfl
        · rw [Quiet, List.filterMap_map, List.filterMap_eq_nil_iff]
          intro fault _
          rfl

end Quiet

/-- Answering lines keeps the registry in step with the session, whatever other
sessions hold. -/
theorem Shared.answerEach_heldBy {shared : Shared} {session : Session}
    {others : List String}
    (held : shared.registry.HeldBy (session.heldNames ++ others))
    (lines : List String) :
    (shared.answerEach session lines).shared.registry.HeldBy
      ((shared.answerEach session lines).session.heldNames ++ others) := by
  induction lines generalizing shared session with
  | nil => exact held
  | cons line lines induction =>
      have first : (shared.answer session line).shared.registry.HeldBy
          ((shared.answer session line).session.heldNames ++ others) :=
        Session.answer_heldBy held line
      simp only [Shared.answerEach]
      exact induction first

namespace Polling

namespace Part

/-- What became of the arrivals, in order. -/
def verdicts (part : Part) : List Verdict :=
  part.notices.filterMap Notice.verdict?

/-- The lines that were answered, in order. -/
def lines (part : Part) : List String :=
  part.exchanges.filterMap Exchange.input

theorem verdicts_followedBy (first later : Part) :
    (first.followedBy later).verdicts =
      first.verdicts ++ later.verdicts :=
  List.filterMap_append

theorem lines_followedBy (first later : Part) :
    (first.followedBy later).lines = first.lines ++ later.lines := by
  rw [lines, exchanges_followedBy, List.filterMap_append]
  rfl

end Part

namespace Loop

/-- The names that the sessions of the connections hold. -/
def heldNames (loop : Loop) : List String :=
  loop.connections.values.flatMap fun connection =>
    connection.session.heldNames

/-- The connections whose sessions are authenticated. -/
def authenticated (loop : Loop) : List Connection :=
  loop.connections.values.filter fun connection =>
    connection.session.username?.isSome

theorem length_heldNames (loop : Loop) :
    loop.heldNames.length = loop.authenticated.length := by
  have sessions := Session.length_flatMap_heldNames
    (loop.connections.values.map Connection.session)
  rwa [List.flatMap_map, List.filter_map, List.length_map] at sessions

/-! ## What became of arrivals -/

/-- An arrival that finds no free slot is counted and leaves no other trace. -/
theorem take_refuses {loop : Loop} (full : loop.shared.freeSlots = 0)
    (arrival : Arrival) :
    let taken := loop.take arrival
    taken.verdicts = [.refused] ∧ taken.incidents = [] ∧
      taken.sent = [] ∧
      taken.loop =
        { loop with shared := loop.arrived.count Counters.refuse } := by
  intro taken
  simp only [taken, take_of_full full]
  exact ⟨rfl, rfl, rfl, rfl⟩

/-- An arrival that finds a free slot is greeted; if the greeting fails it gives
the slot back, and otherwise it becomes a connection. -/
theorem take_admits {loop : Loop} {free : Nat}
    (room : loop.shared.freeSlots = free + 1) (arrival : Arrival) :
    let taken := loop.take arrival
    let slot : Slot :=
      { session := loop.shared.lastSession + 1, peer := arrival.peer }
    let shared : Shared :=
      { loop.arrived.count Counters.connect with freeSlots := free }
    taken.verdicts = [.admitted] ∧
      taken.incidents =
        [.recorded slot.session.toNat (.greeting slot.peer)] ∧
      (taken.loop =
          { loop with
            shared :=
              (shared.finish (.opened slot.session slot.peer) slot).1 } ∨
        ∃ pending,
          taken.loop =
            { shared
              connections :=
                loop.connections.put slot.session.toNat
                  { Connection.opened slot
                      loop.shared.config.maxLineLength with
                    pending } }) := by
  intro taken slot shared
  let admitted : Loop := { loop with shared }
  have greeted : taken = admitted.welcome slot arrival.writes :=
    take_of_free room arrival
  obtain ⟨_unread, incidents, kept⟩ :=
    admitted.welcome_cases slot arrival.writes
  rw [greeted]
  refine ⟨?_, incidents, kept⟩
  simp only [Part.verdicts, welcome, Session.greet]
  cases (flush (Frame.encode .connected) arrival.writes).fault with
  | some fault =>
      have quiet : List.filterMap Notice.verdict?
          (shared.finish (.opened slot.session slot.peer) slot).2 = [] :=
        Quiet.finish shared _ slot
      exact congrArg (Verdict.admitted :: ·) quiet
  | none => rfl

theorem verdicts_serve (loop : Loop) (turn : SocketTurn) (handle : Nat) :
    (loop.serve turn handle).verdicts = [] := by
  cases found : loop.connections.get? handle with
  | none =>
      rw [serve_of_absent found]
      rfl
  | some connection =>
      have quiet := Quiet.serve connection loop.shared turn
      cases isOpen : (connection.serve loop.shared turn).isOpen with
      | true =>
          rw [serve_of_open found isOpen]
          exact quiet
      | false =>
          rw [serve_of_ended found isOpen]
          exact quiet.append (Quiet.finish _ _ _)

/-! ## One part -/

/-- Who has a slot, what is counted and which accounts are in session fit
together after so many arrivals have been admitted or refused and so many lines
have been answered. -/
structure Balanced (limit admissions refusals answers : Nat)
    (loop : Loop) : Prop where
  slots : loop.connections.size + loop.shared.freeSlots = limit
  connected : loop.shared.counters.connected =
    UInt64.ofNat loop.connections.size
  total : loop.shared.counters.total = loop.shared.lastSession
  refused : loop.shared.counters.refused = UInt64.ofNat refusals
  commands : loop.shared.counters.commands = UInt64.ofNat answers
  handles : loop.shared.lastSession.toNat = admissions + refusals
  live : loop.connections.size ≤ admissions
  held : loop.shared.registry.HeldBy loop.heldNames

/-- The names that are held by all connections but one. -/
def heldElsewhere (loop : Loop) (handle : Nat) : List String :=
  (loop.connections.remove handle).values.flatMap fun connection =>
    connection.session.heldNames

theorem heldNames_perm {loop : Loop} {handle : Nat}
    {connection : Connection}
    (found : loop.connections.get? handle = some connection) :
    loop.heldNames.Perm
      (connection.session.heldNames ++ loop.heldElsewhere handle) :=
  (Numbered.values_perm_of_get? found).flatMap_right _

theorem heldNames_put_perm (loop : Loop) (shared : Shared) (handle : Nat)
    (connection : Connection) :
    (heldNames
      { shared, connections := loop.connections.put handle connection }).Perm
      (connection.session.heldNames ++ loop.heldElsewhere handle) :=
  (Numbered.values_put_perm loop.connections handle connection).flatMap_right _

theorem ofNat_succ (count : Nat) :
    UInt64.ofNat (count + 1) = UInt64.ofNat count + 1 :=
  UInt64.ofNat_add count 1

namespace Balanced

variable {limit admissions refusals answers : Nat} {loop : Loop}

theorem start {config : Config} {registry : Registry}
    (idle : ∀ account, account ∈ registry.accounts →
      account.inSession = false) :
    Balanced config.maxClients 0 0 0
      (Loop.start (Shared.start config registry)) := by
  constructor
  · exact Nat.zero_add _
  · rfl
  · rfl
  · rfl
  · rfl
  · rfl
  · exact Nat.le_refl 0
  · exact Registry.heldBy_nil idle

theorem take_full (balanced : Balanced limit admissions refusals answers loop)
    (below : loop.shared.lastSession.toNat + 1 < UInt64.size)
    (full : loop.shared.freeSlots = 0) (arrival : Arrival) :
    Balanced limit admissions (refusals + 1) answers
      (loop.take arrival).loop := by
  obtain ⟨_verdicts, _incidents, _unsent, taken⟩ :=
    take_refuses full arrival
  rw [taken]
  constructor
  · exact balanced.slots
  · exact balanced.connected
  · exact congrArg (· + 1) balanced.total
  · exact (congrArg (· + 1) balanced.refused).trans (ofNat_succ _).symm
  · exact balanced.commands
  · have next := toNat_add_one_of_lt below
    rw [balanced.handles] at next
    exact next
  · exact balanced.live
  · exact balanced.held

theorem enter (balanced : Balanced limit admissions refusals answers loop)
    (below : loop.shared.lastSession.toNat + 1 < UInt64.size)
    {free : Nat} (room : loop.shared.freeSlots = free + 1)
    {handle : Nat} (absent : loop.connections.get? handle = none)
    {connection : Connection} (nothing : connection.session.heldNames = []) :
    Balanced limit (admissions + 1) refusals answers
      { shared := { loop.arrived.count Counters.connect with freeSlots := free }
        connections := loop.connections.put handle connection } := by
  have size := Numbered.size_put_of_absent absent connection
  have slots := balanced.slots
  have live := balanced.live
  constructor
  · dsimp only
    omega
  · dsimp only
    rw [size, ofNat_succ, ← balanced.connected]
    rfl
  · exact congrArg (· + 1) balanced.total
  · exact balanced.refused
  · exact balanced.commands
  · have next := toNat_add_one_of_lt below
    rw [balanced.handles, Nat.add_right_comm] at next
    exact next
  · dsimp only
    omega
  · apply Registry.HeldBy.perm _ (heldNames_put_perm loop _ _ _).symm
    rw [heldElsewhere, Numbered.remove_of_get?_none absent, nothing]
    exact balanced.held

theorem leave (balanced : Balanced limit admissions refusals answers loop)
    {handle : Nat} {connection : Connection}
    (found : loop.connections.get? handle = some connection) (slot : Slot) :
    Balanced limit admissions refusals answers
      { shared := (loop.shared.finish connection.session slot).1
        connections := loop.connections.remove handle } := by
  have size := Numbered.size_eq_size_remove found
  have slots := balanced.slots
  have live := balanced.live
  have connected := balanced.connected
  rw [size, ofNat_succ] at connected
  constructor
  · have freed : (loop.shared.finish connection.session slot).1.freeSlots =
        loop.shared.freeSlots + 1 := rfl
    dsimp only
    omega
  · have counted :
        (loop.shared.finish connection.session slot).1.counters.connected =
          loop.shared.counters.connected - 1 := rfl
    dsimp only
    rw [counted, connected, UInt64.add_sub_cancel]
  · exact balanced.total
  · exact balanced.refused
  · exact balanced.commands
  · exact balanced.handles
  · dsimp only
    omega
  · exact (Session.release_heldBy
      (balanced.held.perm (heldNames_perm found))).1

theorem answer (balanced : Balanced limit admissions refusals answers loop)
    {handle : Nat} {connection later : Connection}
    (found : loop.connections.get? handle = some connection)
    (lines : List String)
    (session : later.session =
      (loop.shared.answerEach connection.session lines).session) :
    Balanced limit admissions refusals (answers + lines.length)
      { shared := (loop.shared.answerEach connection.session lines).shared
        connections := loop.connections.put handle later } := by
  have size := Numbered.size_put_of_present found later
  have shared := loop.shared.shared_answerEach connection.session lines
  constructor
  · dsimp only
    rw [size, shared]
    exact balanced.slots
  · dsimp only
    rw [size, shared]
    exact balanced.connected
  · dsimp only
    rw [shared]
    exact balanced.total
  · dsimp only
    rw [shared]
    exact balanced.refused
  · dsimp only
    rw [shared, UInt64.ofNat_add, ← balanced.commands]
  · dsimp only
    rw [shared]
    exact balanced.handles
  · dsimp only
    rw [size]
    exact balanced.live
  · apply Registry.HeldBy.perm _ (heldNames_put_perm loop _ _ _).symm
    rw [session]
    exact Shared.answerEach_heldBy
      (balanced.held.perm (heldNames_perm found)) lines

theorem take_free (balanced : Balanced limit admissions refusals answers loop)
    (below : loop.shared.lastSession.toNat + 1 < UInt64.size)
    {free : Nat} (room : loop.shared.freeSlots = free + 1)
    (absent : loop.connections.get?
      (loop.shared.lastSession + 1).toNat = none)
    (arrival : Arrival) :
    Balanced limit (admissions + 1) refusals answers
      (loop.take arrival).loop := by
  let slot : Slot :=
    { session := loop.shared.lastSession + 1, peer := arrival.peer }
  have entered (pending : Bytes) := balanced.enter below room absent
    (show Session.heldNames
      { Connection.opened slot loop.shared.config.maxLineLength with
        pending }.session = [] from rfl)
  obtain ⟨_verdicts, _incidents, failed | ⟨pending, kept⟩⟩ :=
    take_admits room arrival
  -- A connection whose greeting fails leaves as soon as it has entered.
  · have left := (entered []).leave (Numbered.get?_put_self _ _ _) slot
    dsimp only at left
    rw [Numbered.remove_put_self, Numbered.remove_of_get?_none absent] at left
    rw [failed]
    exact left
  · rw [kept]
    exact entered pending

theorem serve (balanced : Balanced limit admissions refusals answers loop)
    {handle : Nat} {connection : Connection}
    (found : loop.connections.get? handle = some connection)
    (drained : connection.Drained) (turn : SocketTurn) :
    Balanced limit admissions refusals
      (answers + (connection.serve loop.shared turn).exchanges.length)
      (loop.serve turn handle).loop := by
  let served := connection.serve loop.shared turn
  let lines := (connection.completedBy served.read).lines
  have answered := drained.serve_answers loop.shared turn
  have count : served.exchanges.length = lines.length := by
    rw [show served.exchanges = _ from answered.exchanges]
    exact Shared.length_exchanges_answerEach _ _ lines
  have kept := balanced.answer found lines answered.session
  rw [← answered.after, ← count] at kept
  cases isOpen : served.isOpen with
  | true =>
      rw [serve_of_open found isOpen]
      exact kept
  | false =>
      -- It leaves after its lines have been answered.
      have left := kept.leave (Numbered.get?_put_self _ _ _)
        served.connection.slot
      dsimp only at left
      rw [Numbered.remove_put_self] at left
      rw [serve_of_ended found isOpen]
      exact left

end Balanced

theorem tally_serve {loop : Loop} {handle : Nat} {connection : Connection}
    (found : loop.connections.get? handle = some connection)
    (drained : connection.Drained) (turn : SocketTurn) :
    let served := connection.serve loop.shared turn
    (loop.serve turn handle).exchanges.length = served.exchanges.length ∧
      (loop.serve turn handle).lines.length = served.exchanges.length := by
  intro served
  have exchanges : (loop.serve turn handle).exchanges = served.exchanges := by
    cases isOpen : served.isOpen with
    | true =>
        rw [serve_of_open found isOpen]
        exact filterMap_recorded handle _
    | false =>
        rw [serve_of_ended found isOpen, Part.exchanges,
          List.filterMap_append, filterMap_recorded]
        exact List.append_nil _
  have answered := (drained.serve_answers loop.shared turn).exchanges
  rw [Part.lines, exchanges]
  refine ⟨rfl, ?_⟩
  rw [show served.exchanges = _ from answered, Shared.inputs_answerEach,
    Shared.length_exchanges_answerEach]

/-! ## Histories -/

/-- A history is balanced for the arrivals that were admitted or refused in it
and the lines that were answered in it, and it records one exchange for each
admitted arrival and each answered line. -/
structure Tallied (limit : Nat) (history : Part) : Prop where
  balanced : Balanced limit (history.verdicts.count .admitted)
    (history.verdicts.count .refused) history.lines.length history.loop
  events : history.exchanges.length =
    history.verdicts.count .admitted + history.lines.length

namespace Tallied

theorem start {config : Config} {registry : Registry}
    (idle : ∀ account, account ∈ registry.accounts →
      account.inSession = false) :
    Tallied config.maxClients
      (.idle (Loop.start (Shared.start config registry))) := by
  constructor
  · exact Balanced.start idle
  · rfl

theorem followedBy {limit : Nat} {history part : Part}
    (tallied : Tallied limit history)
    (balanced : Balanced limit
      (history.verdicts.count .admitted + part.verdicts.count .admitted)
      (history.verdicts.count .refused + part.verdicts.count .refused)
      (history.lines.length + part.lines.length) part.loop)
    (events : part.exchanges.length =
      part.verdicts.count .admitted + part.lines.length) :
    Tallied limit (history.followedBy part) := by
  have before := tallied.events
  constructor
  · rw [Part.verdicts_followedBy, Part.lines_followedBy, List.count_append,
      List.count_append, List.length_append]
    exact balanced
  · rw [Part.exchanges_followedBy, Part.verdicts_followedBy,
      Part.lines_followedBy, List.count_append, List.length_append,
      List.length_append]
    omega

theorem take {limit : Nat} {history : Part}
    (tallied : Tallied limit history)
    (below : history.loop.shared.lastSession.toNat + 1 < UInt64.size)
    (absent : history.loop.connections.get?
      (history.loop.shared.lastSession + 1).toNat = none)
    (arrival : Arrival) :
    Tallied limit (history.followedBy (history.loop.take arrival)) := by
  cases room : history.loop.shared.freeSlots with
  | zero =>
      obtain ⟨verdicts, incidents, _⟩ := take_refuses room arrival
      apply tallied.followedBy
      · simp only [Part.lines, Part.exchanges, verdicts, incidents]
        exact tallied.balanced.take_full below room arrival
      · simp only [Part.lines, Part.exchanges, verdicts, incidents]
        rfl
  | succ free =>
      obtain ⟨verdicts, incidents, _⟩ := take_admits room arrival
      apply tallied.followedBy
      · simp only [Part.lines, Part.exchanges, verdicts, incidents]
        exact tallied.balanced.take_free below room absent arrival
      · simp only [Part.lines, Part.exchanges, verdicts, incidents]
        rfl

theorem miss {limit : Nat} {history : Part}
    (tallied : Tallied limit history) (fault : IoFault) :
    Tallied limit { history with
      notices := history.notices ++ [.polledAcceptFailed fault] } := by
  have verdicts : Part.verdicts { history with
      notices := history.notices ++ [.polledAcceptFailed fault] } =
        history.verdicts := by
    rw [Part.verdicts, List.filterMap_append]
    exact List.append_nil _
  constructor
  · rw [verdicts]
    exact tallied.balanced
  · rw [verdicts]
    exact tallied.events

theorem serve {limit : Nat} {history : Part}
    (tallied : Tallied limit history)
    (drained : ∀ (handle : Nat) (connection : Connection),
      history.loop.connections.get? handle = some connection →
        connection.Drained)
    (turn : SocketTurn) (handle : Nat) :
    Tallied limit
      (history.followedBy (history.loop.serve turn handle)) := by
  cases found : history.loop.connections.get? handle with
  | none =>
      rw [serve_of_absent found, Part.followedBy_idle]
      exact tallied
  | some connection =>
      have emptied := drained handle connection found
      have balanced := tallied.balanced.serve found emptied turn
      have verdicts := history.loop.verdicts_serve turn handle
      obtain ⟨exchanges, lines⟩ := tally_serve found emptied turn
      apply tallied.followedBy
      · rw [verdicts, lines]
        exact balanced
      · rw [verdicts, exchanges, lines]
        exact (Nat.zero_add _).symm

end Tallied

/-- Connections that all end at once give back their accounts and their
slots. -/
theorem dropEach_balanced {shared : Shared} {connections : List Connection}
    (held : shared.registry.HeldBy
      (connections.flatMap fun connection => connection.session.heldNames))
    (connected : shared.counters.connected =
      UInt64.ofNat connections.length) :
    let after := (dropEach shared connections).1
    after.registry.HeldBy [] ∧ after.counters.connected = 0 ∧
      after.freeSlots = connections.length + shared.freeSlots := by
  induction connections generalizing shared with
  | nil => exact ⟨held, connected, (Nat.zero_add _).symm⟩
  | cons connection rest induction =>
      let left := (shared.finish connection.session connection.slot).1
      have heldLater := (Session.release_heldBy held).1
      have counted : left.counters.connected = UInt64.ofNat rest.length := by
        have one : left.counters.connected =
            shared.counters.connected - 1 := rfl
        rw [one, connected, List.length_cons, ofNat_succ,
          UInt64.add_sub_cancel]
      obtain ⟨nobody, none, free⟩ := induction heldLater counted
      have freed : left.freeSlots = shared.freeSlots + 1 := rfl
      refine ⟨nobody, none, free.trans ?_⟩
      rw [List.length_cons]
      omega

theorem Balanced.stop {limit admissions refusals answers : Nat}
    {loop : Loop} (balanced : Balanced limit admissions refusals answers loop) :
    loop.stop.1.registry.activeCount = 0 ∧
      loop.stop.1.counters.connected = 0 ∧
      loop.stop.1.freeSlots = limit := by
  have connected := balanced.connected
  rw [Numbered.size_eq_length_values] at connected
  obtain ⟨nobody, none, free⟩ := dropEach_balanced balanced.held connected
  refine ⟨nobody.activeCount, none, free.trans ?_⟩
  rw [← Numbered.size_eq_length_values]
  exact balanced.slots

theorem passes_tallied {config : Config} {registry : Registry}
    {occasions : List Occasion}
    (idle : ∀ account, account ∈ registry.accounts →
      account.inSession = false)
    (room : arrivals occasions < UInt64.size) :
    Tallied config.maxClients
      ((start (Shared.start config registry)).passes occasions) := by
  -- What is tallied of a service depends on the lines that it completes, and
  -- what is tallied of an arrival on its handle being new.
  let Holds (history : Part) : Prop :=
    Accounted config.maxLineLength history ∧
      Tallied config.maxClients history
  have takes (history : Part) (arrival : Arrival) (holds : Holds history)
      (below : history.loop.shared.lastSession.toNat + 1 < UInt64.size) :
      Holds (history.followedBy (history.loop.take arrival)) := by
    have next := toNat_add_one_of_lt below
    have absent := (holds.1.fresh (history.loop.shared.lastSession + 1).toNat
      (by omega)).2
    exact ⟨holds.1.take below arrival, holds.2.take below absent arrival⟩
  have misses (history : Part) (fault : IoFault) (holds : Holds history) :
      Holds { history with
        notices := history.notices ++ [.polledAcceptFailed fault] } :=
    ⟨holds.1.told _, holds.2.miss fault⟩
  have serves (history : Part) (turn : SocketTurn) (handle : Nat)
      (holds : Holds history) :
      Holds (history.followedBy (history.loop.serve turn handle)) := by
    have drained (number : Nat) (connection : Connection)
        (found : history.loop.connections.get? number = some connection) :
        connection.Drained :=
      (holds.1.upToDate number).drained connection found
    exact ⟨holds.1.serve turn handle, holds.2.serve drained turn handle⟩
  have begun : Holds (.idle (start (Shared.start config registry))) :=
    ⟨Accounted.start (Shared.start config registry), Tallied.start idle⟩
  have few : (0 : UInt64).toNat + arrivals occasions < UInt64.size := by
    rwa [UInt64.toNat_zero, Nat.zero_add]
  exact (passes_induction takes misses serves occasions begun few).2

/-- The books of the polling loop are balanced after any run.  As many clients
count as connected as there are connections, and each of them has one of the
slots.  A new arrival is refused just if all slots are taken, and then nothing
but the counters changes.  Every arrival is either refused or admitted and has
used up one handle.  As many accounts are in session as connections are
authenticated.  One exchange is recorded for each admitted arrival and each
counted command, and one command is counted for each answered line.  After a
shutdown no client and no account is left, and all slots are free. -/
theorem passes_balanced {config : Config} {registry : Registry}
    {occasions : List Occasion}
    (idle : ∀ account, account ∈ registry.accounts →
      account.inSession = false)
    (fewArrivals : arrivals occasions < UInt64.size)
    (fewLines :
      ((start (Shared.start config registry)).passes occasions).lines.length <
        UInt64.size) :
    let run := (start (Shared.start config registry)).passes occasions
    let shared := run.loop.shared
    let counters := shared.counters
    let live := run.loop.connections.size
    let admitted := run.verdicts.count .admitted
    let stopped := run.loop.stop.1
    counters.connected.toNat = live ∧
      live + shared.freeSlots = config.maxClients ∧
      live ≤ config.maxClients ∧
      (∀ arrival,
        let taken := run.loop.take arrival
        (.refused ∈ taken.verdicts ↔ live = config.maxClients) ∧
          (.refused ∈ taken.verdicts →
            taken.loop.connections = run.loop.connections ∧
              taken.incidents = [] ∧ taken.sent = [] ∧
              taken.loop.shared.registry = shared.registry)) ∧
      counters.refused.toNat = run.verdicts.count .refused ∧
      counters.total.toNat = counters.refused.toNat + admitted ∧
      counters.total = shared.lastSession ∧
      shared.registry.activeCount = run.loop.authenticated.length ∧
      run.exchanges.length = admitted + counters.commands.toNat ∧
      counters.commands.toNat = run.lines.length ∧
      stopped.counters.connected = 0 ∧ stopped.registry.activeCount = 0 ∧
      stopped.freeSlots = config.maxClients := by
  intro run shared counters live admitted stopped
  have tallied : Tallied config.maxClients run := passes_tallied idle fewArrivals
  have balanced := tallied.balanced
  have slots : live + shared.freeSlots = config.maxClients := balanced.slots
  have handles : shared.lastSession.toNat =
      admitted + run.verdicts.count .refused := balanced.handles
  have below : shared.lastSession.toNat < UInt64.size :=
    shared.lastSession.toNat_lt_size
  have entered : live ≤ admitted := balanced.live
  have refused : counters.refused.toNat = run.verdicts.count .refused := by
    rw [show counters.refused = _ from balanced.refused]
    apply UInt64.toNat_ofNat_of_lt'
    omega
  have commands : counters.commands.toNat = run.lines.length := by
    rw [show counters.commands = _ from balanced.commands]
    exact UInt64.toNat_ofNat_of_lt' fewLines
  have connected : counters.connected.toNat = live := by
    rw [show counters.connected = _ from balanced.connected]
    apply UInt64.toNat_ofNat_of_lt'
    omega
  obtain ⟨nobody, none, free⟩ := balanced.stop
  refine ⟨connected, slots, ?_, ?_, refused, ?_, balanced.total, ?_, ?_,
    commands, none, nobody, free⟩
  · omega
  · intro arrival taken
    cases room : shared.freeSlots with
    | zero =>
        obtain ⟨verdicts, incidents, unsent, loop⟩ :=
          take_refuses room arrival
        have full : live = config.maxClients := by omega
        have certain : .refused ∈ taken.verdicts := by
          rw [verdicts]
          exact List.mem_singleton_self _
        refine ⟨iff_of_true certain full, fun _ => ?_⟩
        refine ⟨?_, incidents, unsent, ?_⟩
        · rw [show taken.loop = _ from loop]
        · rw [show taken.loop = _ from loop]
          rfl
    | succ free =>
        obtain ⟨verdicts, _⟩ := take_admits room arrival
        have never : .refused ∉ taken.verdicts := by
          rw [verdicts]
          decide
        have notFull : live ≠ config.maxClients := by omega
        exact ⟨iff_of_false never notFull, fun member => absurd member never⟩
  · rw [show counters.total.toNat = _ from
      congrArg UInt64.toNat balanced.total, refused, handles]
    exact Nat.add_comm _ _
  · rw [show shared.registry.activeCount = _ from balanced.held.activeCount]
    exact run.loop.length_heldNames
  · rw [commands]
    exact tallied.events

/-- The only slot is taken, and a second client is refused in the pass in which
the first logs in. -/
theorem passes_balanced_of_refused_client :
    let peer : Address := .v4 ⟨127, 0, 0, 1⟩ 40000
    let registry := (Registry.ofAccounts [Account.idle "alice" .active]).1
    let config := { Config.standard with maxClients := 1 }
    let arrival : Arrival := { peer, writes := [.accepted 64] }
    let line : Chunk :=
      ⟨Text.Utf8.encode "USER alice\r\n".toList, by decide, by decide⟩
    let asking : SocketTurn := { SocketTurn.quiet with read := .chunk line }
    let occasions : List Occasion :=
      [{ accepted := some (.ok arrival), turns := fun _ => .quiet },
        { accepted := some (.ok arrival), turns := fun _ => asking }]
    let run := (start (Shared.start config registry)).passes occasions
    (∀ account, account ∈ registry.accounts → account.inSession = false) ∧
      arrivals occasions < UInt64.size ∧ run.lines.length < UInt64.size ∧
      run.verdicts = [.admitted, .refused] ∧
      run.loop.shared.counters.connected.toNat = run.loop.connections.size ∧
      run.loop.shared.registry.activeCount = 1 ∧
      run.loop.stop.1.registry.activeCount = 0 := by
  intro peer registry config arrival line asking occasions
  have idle : ∀ account, account ∈ registry.accounts →
      account.inSession = false := by decide
  have fewArrivals : arrivals occasions < UInt64.size := by decide
  have fewLines :
      ((start (Shared.start config registry)).passes occasions).lines.length <
        UInt64.size := by decide +kernel
  obtain ⟨connected, _live, _limit, _refusal, _refused, _total, _handles,
    _active, _events, _commands, _none, nobody, _free⟩ :=
    @passes_balanced config registry occasions idle fewArrivals fewLines
  refine ⟨idle, fewArrivals, fewLines, ?_, connected, ?_, nobody⟩
  · decide +kernel
  · decide +kernel

end Loop
end Polling
end LoginServer
