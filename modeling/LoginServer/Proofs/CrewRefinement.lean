import Mathlib.Data.List.Nodup
import LoginServer.Proofs.CrewSafety
import LoginServer.Server.Working.Team

/-!
# Teams work as crews

The worker dispatcher deals with an arrival, and a worker with a line, in one
go.  A crew does the same in several steps, and never does anything else: where
the one has got, the other gets by steps of the acceptor and of that worker
(`Team.runs_as_crew`).
-/

namespace LoginServer.Working

/-- The stage of a running worker between two of its lines. -/
def WorkerStage.ofSession (session : Session) : WorkerStage :=
  match session.username? with
  | none => .free
  | some username => .holding username

def Connection.stage (connection : Connection) : WorkerStage :=
  if connection.phase = .ended then .gone else .ofSession connection.session

namespace Crew

/-- A crew whose acceptor waits shares what a team shares. -/
structure Agrees (crew : Crew) (shared : Shared) : Prop where
  registry : crew.registry = shared.registry
  total : crew.counters.total = shared.counters.total
  refused : crew.counters.refused = shared.counters.refused
  connected : crew.counters.connected = shared.counters.connected
  permits : crew.permits = shared.freeSlots
  acceptor : crew.acceptor = .idle

/-- By steps of one worker a crew gets where that worker is at the given stage
and the given things are shared. -/
def Brings (crew : Crew) (worker : Nat) (stage : WorkerStage)
    (shared : Shared) : Prop :=
  ∃ steps next, crew.after? steps = some next ∧
    next.workers = crew.workers.set worker stage ∧ next.Agrees shared

theorem after?_append (crew : Crew) (first later : List CrewStep) :
    crew.after? (first ++ later) =
      (crew.after? first).bind fun next => next.after? later := by
  simp [after?, List.foldlM_append]

variable {crew : Crew} {worker : Nat} {stage : WorkerStage} {shared : Shared}

theorem brings_self (found : crew.workers[worker]? = some stage)
    (agrees : crew.Agrees shared) : crew.Brings worker stage shared := by
  obtain ⟨inside, rfl⟩ := List.getElem?_eq_some_iff.mp found
  exact ⟨[], crew, rfl, (List.set_getElem_self inside).symm, agrees⟩

theorem Brings.trans {later : WorkerStage} {shared' : Shared}
    (found : worker < crew.workers.length)
    (brings : crew.Brings worker stage shared)
    (goesOn : ∀ next : Crew, next.workers[worker]? = some stage →
      next.Agrees shared → next.Brings worker later shared') :
    crew.Brings worker later shared' := by
  obtain ⟨first, middle, run, workers, agrees⟩ := brings
  have here : middle.workers[worker]? = some stage := by
    rw [workers]
    exact List.getElem?_set_self found
  obtain ⟨second, last, run', workers', agrees'⟩ :=
    goesOn middle here agrees
  refine ⟨first ++ second, last, ?_, ?_, agrees'⟩
  · rw [after?_append, run]
    exact run'
  · rw [workers', workers, List.set_set]

theorem step_of_turns {taken : CrewStep} {next : Crew} {later : WorkerStage}
    (found : crew.workers[worker]? = some stage)
    (turns : crew.Turns worker taken stage next later) :
    crew.step taken = some (next.move worker later) := by
  cases turns with
  | tryLogin success => simp only [step, found, tryLogin, success]
  | keepAccount | dropAccount | logout | leave | uncount | returnPermit =>
      simp only [step, found]

theorem brings_of_turns {taken : CrewStep} {next : Crew} {later : WorkerStage}
    (found : crew.workers[worker]? = some stage)
    (turns : crew.Turns worker taken stage next later)
    (agrees : next.Agrees shared) : crew.Brings worker later shared := by
  have keeps := turns.keeps
  refine ⟨[taken], next.move worker later, ?_, ?_, ?_⟩
  · simp [after?, step_of_turns found turns]
  · rw [move, keeps.workers]
  · exact { agrees with }

/-! ## One worker -/

theorem brings_login {username : String} {registry : Registry}
    {notices : List Notice} (found : crew.workers[worker]? = some .free)
    (agrees : crew.Agrees shared)
    (success : shared.registry.login username =
      (.success, registry, notices)) :
    crew.Brings worker (.holding username) { shared with registry } := by
  rw [← agrees.registry] at success
  have wins : crew.Brings worker (.winning username)
      { shared with registry } :=
    brings_of_turns found (.tryLogin success) { agrees with registry := rfl }
  apply wins.trans (List.getElem?_eq_some_iff.mp found).1
  intro next here agrees
  exact brings_of_turns here .keepAccount agrees

theorem brings_logout {username : String}
    (found : crew.workers[worker]? = some (.holding username))
    (agrees : crew.Agrees shared) (leaves : Bool) :
    crew.Brings worker (if leaves then .leaving else .free)
      { shared with registry := (shared.registry.logout username).1 } := by
  have drops : crew.Brings worker (.releasing username leaves) shared :=
    brings_of_turns found .dropAccount agrees
  apply drops.trans (List.getElem?_eq_some_iff.mp found).1
  intro next here agrees
  refine brings_of_turns here .logout { agrees with registry := ?_ }
  rw [agrees.registry]

theorem brings_leave (found : crew.workers[worker]? = some .leaving)
    (agrees : crew.Agrees shared) (slot : Slot) :
    crew.Brings worker .gone (shared.leave slot).1 := by
  have uncounts : crew.Brings worker .uncounted
      (shared.count Counters.disconnect) := by
    apply brings_of_turns found .uncount
    exact { agrees with connected := congrArg (· - 1) agrees.connected }
  apply uncounts.trans (List.getElem?_eq_some_iff.mp found).1
  intro next here agrees
  apply brings_of_turns here .returnPermit
  exact { agrees with permits := congrArg (· + 1) agrees.permits }

/-- An answered line is a login, a logout, or nothing. -/
theorem brings_answer {session : Session}
    (found : crew.workers[worker]? = some (.ofSession session))
    (agrees : crew.Agrees shared) (line : String) :
    let answered := shared.answer session line
    crew.Brings worker (.ofSession answered.session) answered.shared := by
  intro answered
  let turn := session.perform shared.registry (Command.parse line)
  -- A crew has no counter of commands.
  have counts {stage : WorkerStage} {between : Shared}
      (brings : crew.Brings worker stage between)
      (same : between = { shared with registry := turn.registry }) :
      crew.Brings worker stage answered.shared := by
    subst same
    obtain ⟨steps, next, run, workers, agrees⟩ := brings
    exact ⟨steps, next, run, workers, { agrees with }⟩
  have session' : answered.session = turn.session := rfl
  rw [session']
  rcases session.perform_cases shared.registry (Command.parse line) with
    ⟨stays, same⟩ | ⟨username, notices, state, _, success, becomes⟩ |
      ⟨username, state, _, released, becomes⟩
  · rw [show turn.session = session from stays]
    apply counts (brings_self found agrees)
    rw [show turn.registry = _ from same]
  · rw [WorkerStage.ofSession, Session.username?, state] at found
    rw [show turn.session = _ from becomes]
    exact counts (brings_login found agrees success) rfl
  · rw [WorkerStage.ofSession, Session.username?, state] at found
    rw [show turn.session = _ from becomes]
    apply counts (brings_logout found agrees false)
    rw [show turn.registry = _ from released]

theorem brings_finish {session : Session}
    (found : crew.workers[worker]? = some (.ofSession session))
    (agrees : crew.Agrees shared) (slot : Slot) :
    crew.Brings worker .gone (shared.finish session slot).1 := by
  have inside := (List.getElem?_eq_some_iff.mp found).1
  rcases session.release_cases shared.registry with
    ⟨state, unchanged⟩ | ⟨username, state, _session, released⟩
  · rw [WorkerStage.ofSession, Session.username?, state] at found
    have leaves : crew.Brings worker .leaving shared :=
      brings_of_turns found .leave agrees
    simp only [Shared.finish, unchanged]
    apply leaves.trans inside
    intro next here agrees
    exact brings_leave here agrees slot
  · rw [WorkerStage.ofSession, Session.username?, state] at found
    have leaves := brings_logout found agrees true
    rw [← released] at leaves
    apply leaves.trans inside
    intro next here agrees
    exact brings_leave here agrees slot

end Crew

namespace Connection

variable {crew : Crew} {worker : Nat} {shared : Shared}
  {connection : Connection}

theorem stage_of_running (running : connection.phase ≠ .ended) :
    connection.stage = .ofSession connection.session :=
  if_neg running

theorem stage_of_ended (ended : connection.phase = .ended) :
    connection.stage = .gone :=
  if_pos ended

/-- What a step of a worker can mean to the others: nothing, an answered line,
the end of the worker, or both. -/
inductive Outcome (connection : Connection) (shared : Shared)
    (worked : Worked) : Prop where
  | stays :
      worked.connection.session = connection.session →
      (worked.connection.phase = .ended ↔ connection.phase = .ended) →
      worked.shared = shared → Outcome connection shared worked
  | answers (line : String) :
      connection.phase ≠ .ended →
      worked.connection.session =
        (shared.answer connection.session line).session →
      worked.connection.phase ≠ .ended →
      worked.shared = (shared.answer connection.session line).shared →
      Outcome connection shared worked
  | ends :
      connection.phase ≠ .ended →
      worked.connection.phase = .ended →
      worked.shared = (shared.finish connection.session connection.slot).1 →
      Outcome connection shared worked
  | answersAndEnds (line : String) :
      connection.phase ≠ .ended →
      worked.connection.phase = .ended →
      worked.shared =
        ((shared.answer connection.session line).shared.finish
          (shared.answer connection.session line).session
          connection.slot).1 →
      Outcome connection shared worked

theorem Outcome.of_decoded {worked : Worked} {codec : Codec}
    {received : Bytes}
    (outcome : Outcome { connection with codec, received } shared worked) :
    Outcome connection shared worked := by
  cases outcome with
  | stays session phase same => exact .stays session phase same
  | answers line running session phase after =>
      exact .answers line running session phase after
  | ends running phase after => exact .ends running phase after
  | answersAndEnds line running phase after =>
      exact .answersAndEnds line running phase after

theorem outcome_answerLine (running : connection.phase ≠ .ended)
    (shared : Shared) (line : String) (before after : Option Break) :
    Outcome connection shared
      (connection.answerLine shared line before after) := by
  simp only [answerLine]
  cases (connection.gather
      (shared.answer connection.session line).replies before after).fault with
  | none =>
      dsimp only
      exact .answers line running rfl running rfl
  | some fault =>
      dsimp only [Worked.followedBy, finish]
      exact .answersAndEnds line running rfl rfl

theorem outcome_next (running : connection.phase ≠ .ended) (shared : Shared)
    (before after : Option Break) :
    Outcome connection shared (connection.next shared before after) := by
  rw [next]
  generalize (if connection.phase = .ending then
      connection.codec.decodeEnd connection.received
    else (connection.codec.decode connection.received, [])) = decoded
  obtain ⟨⟨result, codec, received⟩, notices⟩ := decoded
  rcases result with failure | line?
  · exact .ends running rfl rfl
  · cases line? with
    | some line =>
        have running' : Connection.phase
            { connection with codec, received } ≠ .ended := running
        exact (outcome_answerLine running' shared line before
          after).of_decoded
    | none =>
        dsimp only
        split
        · exact .ends running rfl rfl
        · refine .stays rfl ?_ rfl
          simp [running, worked]

/-- A worker that has ended does nothing any more, and a running one answers at
most one line in a step. -/
theorem outcome_step (connection : Connection) (shared : Shared)
    (stimulus : Stimulus) :
    Outcome connection shared (connection.step shared stimulus) := by
  have same : Outcome connection shared (connection.worked shared) :=
    .stays rfl Iff.rfl rfl
  cases phase : connection.phase with
  | ended =>
      have nothing : connection.step shared stimulus =
          connection.worked shared := by
        cases stimulus <;> simp only [step, phase]
      rw [nothing]
      exact same
  | waiting =>
      have running : connection.phase ≠ .ended := by simp [phase]
      cases stimulus with
      | next before after =>
          simp only [step, phase]
          exact same
      | arrival bytes | endOfStream =>
          simp only [step, phase]
          exact .stays rfl (iff_of_false nofun running) rfl
      | readFailed fault | shutdown =>
          simp only [step, phase]
          exact .ends running rfl rfl
  | decoding | ending =>
      have running : connection.phase ≠ .ended := by simp [phase]
      cases stimulus with
      | next before after =>
          simp only [step, phase]
          exact outcome_next running shared before after
      | arrival bytes | endOfStream | readFailed fault =>
          simp only [step, phase]
          exact same
      | shutdown =>
          simp only [step, phase]
          exact .ends running rfl rfl

theorem Outcome.brings {worked : Worked}
    (outcome : Outcome connection shared worked)
    (found : crew.workers[worker]? = some connection.stage)
    (agrees : crew.Agrees shared) :
    crew.Brings worker worked.connection.stage worked.shared := by
  cases outcome with
  | stays session phase after =>
      have same : worked.connection.stage = connection.stage := by
        simp only [stage, session, phase]
      rw [same, after]
      exact Crew.brings_self found agrees
  | answers line running session phase after =>
      rw [stage_of_running running] at found
      rw [stage_of_running phase, session, after]
      exact Crew.brings_answer found agrees line
  | ends running phase after =>
      rw [stage_of_running running] at found
      rw [stage_of_ended phase, after]
      exact Crew.brings_finish found agrees connection.slot
  | answersAndEnds line running phase after =>
      rw [stage_of_running running] at found
      rw [stage_of_ended phase, after]
      apply (Crew.brings_answer found agrees line).trans
        (List.getElem?_eq_some_iff.mp found).1
      intro next here agrees
      exact Crew.brings_finish here agrees connection.slot

theorem lastSession_finish (shared : Shared) (session : Session)
    (slot : Slot) :
    (shared.finish session slot).1.lastSession = shared.lastSession :=
  rfl

theorem Outcome.lastSession {worked : Worked}
    (outcome : Outcome connection shared worked) :
    worked.shared.lastSession = shared.lastSession := by
  cases outcome with
  | stays session phase after => rw [after]
  | answers line running session phase after =>
      rw [after]
      rfl
  | ends running phase after => rw [after, lastSession_finish]
  | answersAndEnds line running phase after =>
      rw [after, lastSession_finish]
      rfl

/-- What each step of a worker preserves holds when it waits again or has
ended. -/
theorem settle_induction {Holds : Connection → Shared → Prop}
    (preserved : ∀ connection shared worked,
      Outcome connection shared worked → Holds connection shared →
        Holds worked.connection worked.shared)
    (holds : Holds connection shared) (stimulus : Stimulus) :
    let settled := connection.settle shared stimulus
    Holds settled.connection settled.shared := by
  have works (looks : Nat) (connection : Connection) (shared : Shared)
      (holds : Holds connection shared) :
      Holds (connection.work shared looks).connection
        (connection.work shared looks).shared := by
    induction looks generalizing connection shared with
    | zero => exact holds
    | succ looks induction =>
        rw [work]
        split
        · apply induction
          exact preserved _ _ _
            (connection.outcome_step shared (.next none none)) holds
        · exact holds
  exact works _ _ _
    (preserved _ _ _ (connection.outcome_step shared stimulus) holds)

theorem lastSession_settle (connection : Connection) (shared : Shared)
    (stimulus : Stimulus) :
    (connection.settle shared stimulus).shared.lastSession =
      shared.lastSession := by
  let Holds (_ : Connection) (later : Shared) : Prop :=
    later.lastSession = shared.lastSession
  have preserved (connection : Connection) (before : Shared)
      (worked : Worked) (outcome : Outcome connection before worked)
      (holds : Holds connection before) :
      Holds worked.connection worked.shared :=
    outcome.lastSession.trans holds
  have begun : Holds connection shared := rfl
  exact settle_induction preserved begun stimulus

theorem settle_brings (found : crew.workers[worker]? = some connection.stage)
    (agrees : crew.Agrees shared) (stimulus : Stimulus) :
    let settled := connection.settle shared stimulus
    crew.Brings worker settled.connection.stage settled.shared := by
  let Holds (connection : Connection) (shared : Shared) : Prop :=
    crew.Brings worker connection.stage shared
  have inside := (List.getElem?_eq_some_iff.mp found).1
  have preserved (connection : Connection) (shared : Shared)
      (worked : Worked) (outcome : Outcome connection shared worked)
      (holds : Holds connection shared) :
      Holds worked.connection worked.shared := by
    apply holds.trans inside
    intro next here agrees
    exact outcome.brings here agrees
  have begun : Holds connection shared := Crew.brings_self found agrees
  exact settle_induction preserved begun stimulus

/-- A worker that cannot greet its client ends with nothing to release. -/
theorem greet_brings {slot : Slot} {limit : Nat}
    (found : crew.workers[worker]? = some .free)
    (agrees : crew.Agrees shared) (broken : Option Break) :
    let greeted := (opened slot limit).greet shared broken
    crew.Brings worker greeted.connection.stage greeted.shared := by
  have inside := (List.getElem?_eq_some_iff.mp found).1
  simp only [greet]
  cases (deliver (Frame.encode (opened slot limit).session.greet.1)
      broken).fault with
  | none => exact Crew.brings_self found agrees
  | some fault =>
      have leaves : crew.Brings worker .leaving shared :=
        Crew.brings_of_turns found .leave agrees
      apply leaves.trans inside
      intro next here agrees
      exact Crew.brings_leave here agrees slot

theorem lastSession_greet (connection : Connection) (shared : Shared)
    (broken : Option Break) :
    (connection.greet shared broken).shared.lastSession =
      shared.lastSession := by
  simp only [greet]
  cases (deliver (Frame.encode connection.session.greet.1) broken).fault <;>
    rfl

end Connection

/-! ## All workers -/

/-- The stage of the worker of a handle.  It has ended if the team does not know
its connection any more. -/
def Team.stageOf (team : Team) (handle : Nat) : WorkerStage :=
  match team.connections.get? handle with
  | none => .gone
  | some connection => connection.stage

/-- A crew whose workers are those of a team, in the order in which their
handles were given out. -/
structure Crew.Represents (crew : Crew) (team : Team) (handles : List Nat) :
    Prop where
  agrees : crew.Agrees team.shared
  workers : crew.workers = handles.map team.stageOf
  distinct : handles.Nodup
  known : ∀ handle, (team.connections.get? handle).isSome = true →
    handle ∈ handles
  given : ∀ handle, handle ∈ handles →
    handle ≤ team.shared.lastSession.toNat

namespace Team

/-- The shared state after an arrival has been counted and has got a handle. -/
def arrived (team : Team) : Shared :=
  (team.shared.count Counters.arrive).nextSession.2

/-- The shared state after an arrival has been admitted and leaves slots
free. -/
def admitted (team : Team) (free : Nat) : Shared :=
  { team.arrived.count Counters.connect with freeSlots := free }

theorem toNat_arrived {team : Team}
    (below : team.shared.lastSession.toNat + 1 < UInt64.size) :
    team.arrived.lastSession.toNat = team.shared.lastSession.toNat + 1 := by
  rw [show team.arrived.lastSession = team.shared.lastSession + 1 from rfl,
    UInt64.toNat_add]
  exact Nat.mod_eq_of_lt below

theorem take_of_full {team : Team} (full : team.shared.freeSlots = 0)
    (peer : Address) (broken : Option Break) :
    (team.take peer broken).team =
      { team with shared := team.arrived.count Counters.refuse } := by
  simp only [take, arrived, Shared.nextSession, Shared.enter, Shared.count,
    full]

theorem take_of_free {team : Team} {free : Nat}
    (room : team.shared.freeSlots = free + 1) (peer : Address)
    (broken : Option Break) :
    let slot : Slot := { session := team.arrived.lastSession, peer }
    let opened := Connection.opened slot team.shared.config.maxLineLength
    (team.take peer broken).team =
      (team.dispatched slot.session.toNat
        (opened.greet (team.admitted free) broken)).team := by
  simp only [take, arrived, admitted, Shared.nextSession, Shared.enter,
    Shared.count, room]

theorem get?_dispatched_self (team : Team) (handle : Nat) (worked : Worked) :
    (team.dispatched handle worked).team.connections.get? handle =
      if worked.connection.phase = .ended then none
      else some worked.connection := by
  simp only [dispatched]
  split
  · exact Numbered.get?_remove_self _ _
  · exact Numbered.get?_put_self _ _ _

theorem get?_dispatched_other (team : Team) {handle other : Nat}
    (different : other ≠ handle) (worked : Worked) :
    (team.dispatched handle worked).team.connections.get? other =
      team.connections.get? other := by
  simp only [dispatched]
  split
  · exact Numbered.get?_remove_other _ different
  · exact Numbered.get?_put_other _ _ different

theorem stageOf_dispatched (team : Team) (handle : Nat) (worked : Worked) :
    (team.dispatched handle worked).team.stageOf =
      Function.update team.stageOf handle worked.connection.stage := by
  funext other
  by_cases same : other = handle
  · subst same
    rw [stageOf, get?_dispatched_self, Function.update_self]
    by_cases ended : worked.connection.phase = .ended
    · rw [if_pos ended, Connection.stage_of_ended ended]
    · rw [if_neg ended]
  · rw [stageOf, get?_dispatched_other team same,
      Function.update_of_ne same]
    rfl

end Team

namespace Crew.Represents

variable {crew : Crew} {team : Team} {handles : List Nat}

theorem dispatched {handle : Nat} {worked : Worked}
    (represents : crew.Represents team handles) (member : handle ∈ handles)
    (brings : crew.Brings (handles.idxOf handle) worked.connection.stage
      worked.shared)
    (session : worked.shared.lastSession = team.shared.lastSession) :
    ∃ steps next, crew.after? steps = some next ∧
      next.Represents (team.dispatched handle worked).team handles := by
  obtain ⟨steps, next, run, workers, agrees⟩ := brings
  refine ⟨steps, next, run, agrees, ?_, represents.distinct, ?_, ?_⟩
  · rw [workers, represents.workers, Team.stageOf_dispatched,
      represents.distinct.map_update, if_pos member]
  · intro other live
    by_cases same : other = handle
    · exact same ▸ member
    · rw [Team.get?_dispatched_other team same] at live
      exact represents.known other live
  · intro other known
    rw [show (team.dispatched handle worked).team.shared.lastSession = _
      from session]
    exact represents.given other known

theorem found {handle : Nat} (represents : crew.Represents team handles)
    (member : handle ∈ handles) :
    crew.workers[handles.idxOf handle]? = some (team.stageOf handle) := by
  rw [represents.workers, List.getElem?_map, List.getElem?_idxOf member]
  rfl

theorem settle (represents : crew.Represents team handles) (handle : Nat)
    (stimulus : Stimulus) :
    ∃ steps next, crew.after? steps = some next ∧
      next.Represents (team.settle handle stimulus).team handles := by
  cases known : team.connections.get? handle with
  | none =>
      rw [Team.settle, known]
      exact ⟨[], crew, rfl, represents⟩
  | some connection =>
      have member := represents.known handle (by rw [known]; rfl)
      have here := represents.found member
      rw [Team.stageOf, known] at here
      rw [Team.settle, known]
      exact represents.dispatched member
        (Connection.settle_brings here represents.agrees stimulus)
        (Connection.lastSession_settle connection team.shared stimulus)

/-- Which connections a team knows is all that matters about them. -/
theorem congr {other : Team} (represents : crew.Represents team handles)
    (shared : other.shared = team.shared)
    (same : ∀ handle,
      other.connections.get? handle = team.connections.get? handle) :
    crew.Represents other handles := by
  have stages : other.stageOf = team.stageOf := by
    funext handle
    rw [Team.stageOf, same]
    rfl
  constructor
  · rw [shared]
    exact represents.agrees
  · rw [stages]
    exact represents.workers
  · exact represents.distinct
  · intro handle live
    rw [same] at live
    exact represents.known handle live
  · rw [shared]
    exact represents.given

/-- An arrival that finds no slot is counted twice by the acceptor. -/
theorem refuse (represents : crew.Represents team handles)
    (full : team.shared.freeSlots = 0)
    (below : team.shared.lastSession.toNat + 1 < UInt64.size)
    (peer : Address) (broken : Option Break) :
    ∃ steps next, crew.after? steps = some next ∧
      next.Represents (team.take peer broken).team handles := by
  have agrees := represents.agrees
  have none : crew.permits = 0 := agrees.permits.trans full
  let next : Crew :=
    { crew with counters := crew.counters.arrive.refuse, acceptor := .idle }
  have later := Team.toNat_arrived below
  rw [Team.take_of_full full]
  refine ⟨[.countArrival, .takePermit, .countRefusal], next, ?_, ?_⟩
  · simp [after?, step, agrees.acceptor, none, next]
  · constructor
    · constructor
      · exact agrees.registry
      · exact congrArg (· + 1) agrees.total
      · exact congrArg (· + 1) agrees.refused
      · exact agrees.connected
      · exact agrees.permits
      · rfl
    · exact represents.workers
    · exact represents.distinct
    · exact represents.known
    · intro handle known
      have before := represents.given handle known
      exact later ▸ Nat.le_succ_of_le before

/-- An admitted connection gets a worker behind the others. -/
theorem enter (represents : crew.Represents team handles) {free : Nat}
    (room : team.shared.freeSlots = free + 1)
    (below : team.shared.lastSession.toNat + 1 < UInt64.size)
    {connection : Connection} (stage : connection.stage = .free) :
    let handle := team.arrived.lastSession.toNat
    let after : Team :=
      { shared := team.admitted free
        connections := team.connections.put handle connection }
    ∃ steps next, crew.after? steps = some next ∧
      next.Represents after (handles ++ [handle]) := by
  intro handle after
  have agrees := represents.agrees
  have some : crew.permits = free + 1 := agrees.permits.trans room
  have later : handle = team.shared.lastSession.toNat + 1 :=
    Team.toNat_arrived below
  have fresh : handle ∉ handles := by
    intro known
    have before := represents.given handle known
    omega
  let next : Crew :=
    { crew with
      counters := crew.counters.arrive.connect
      permits := free
      acceptor := .idle
      workers := crew.workers ++ [.free] }
  refine ⟨[.countArrival, .takePermit, .countConnected], next, ?_, ?_⟩
  · simp [after?, step, agrees.acceptor, some, next]
  · constructor
    · constructor
      · exact agrees.registry
      · exact congrArg (· + 1) agrees.total
      · exact agrees.refused
      · exact congrArg (· + 1) agrees.connected
      · rfl
      · rfl
    · have newcomer : after.stageOf handle = .free := by
        rw [Team.stageOf, Numbered.get?_put_self]
        exact stage
      rw [List.map_append, List.map_singleton, newcomer]
      apply congrArg (· ++ [WorkerStage.free])
      rw [represents.workers]
      apply List.map_congr_left
      intro other known
      have different : other ≠ handle := fun same => fresh (same ▸ known)
      rw [Team.stageOf, Team.stageOf, Numbered.get?_put_other _ _ different]
    · rw [(List.perm_append_singleton handle handles).nodup_iff,
        List.nodup_cons]
      exact ⟨fresh, represents.distinct⟩
    · intro other live
      by_cases same : other = handle
      · exact same ▸ List.mem_append_right _ (List.mem_singleton_self _)
      · rw [Numbered.get?_put_other _ _ same] at live
        exact List.mem_append_left _ (represents.known other live)
    · intro other member
      have bound : other ≤ handle := by
        rcases List.mem_append.mp member with known | new
        · have before := represents.given other known
          omega
        · exact Nat.le_of_eq (List.mem_singleton.mp new)
      exact bound

theorem take (represents : crew.Represents team handles)
    (below : team.shared.lastSession.toNat + 1 < UInt64.size)
    (peer : Address) (broken : Option Break) :
    ∃ steps next handles', crew.after? steps = some next ∧
      next.Represents (team.take peer broken).team handles' := by
  cases room : team.shared.freeSlots with
  | zero =>
      obtain ⟨steps, next, run, after⟩ :=
        represents.refuse room below peer broken
      exact ⟨steps, next, handles, run, after⟩
  | succ free =>
      let handle := team.arrived.lastSession.toNat
      let slot : Slot := { session := team.arrived.lastSession, peer }
      let opened := Connection.opened slot team.shared.config.maxLineLength
      let worked := opened.greet (team.admitted free) broken
      obtain ⟨first, entered, enters, before⟩ :=
        represents.enter room below (show opened.stage = .free from rfl)
      let between : Team :=
        { shared := team.admitted free
          connections := team.connections.put handle opened }
      have member : handle ∈ handles ++ [handle] :=
        List.mem_append_right _ (List.mem_singleton_self _)
      have newcomer : between.stageOf handle = .free := by
        rw [Team.stageOf, Numbered.get?_put_self]
        rfl
      have here := before.found member
      rw [show Team.stageOf _ handle = .free from newcomer] at here
      obtain ⟨second, next, greets, after⟩ :=
        before.dispatched member
          (Connection.greet_brings here before.agrees broken)
          (Connection.lastSession_greet opened _ broken)
      refine ⟨first ++ second, next, handles ++ [handle], ?_, ?_⟩
      · rw [after?_append, enters]
        exact greets
      · rw [Team.take_of_free room]
        apply after.congr
        · rfl
        · intro other
          by_cases same : other = handle
          · subst same
            rw [Team.get?_dispatched_self, Team.get?_dispatched_self]
          · rw [Team.get?_dispatched_other _ same,
              Team.get?_dispatched_other _ same,
              Numbered.get?_put_other _ _ same]

end Crew.Represents

/-! ## Runs of a team -/

/-- What comes to a team from outside: an arrival, a failure to accept one, or
something that the worker of a handle waits for. -/
inductive Call where
  | take (peer : Address) (broken : Option Break)
  | miss (fault : IoFault)
  | settle (handle : Nat) (stimulus : Stimulus)

def Call.isArrival : Call → Bool
  | .take .. => true
  | .miss .. | .settle .. => false

namespace Team

def respond (team : Team) : Call → Team
  | .take peer broken => (team.take peer broken).team
  | .miss fault => (team.missArrival fault).team
  | .settle handle stimulus => (team.settle handle stimulus).team

/-- The team after it has dealt with calls one after the other. -/
def after (team : Team) (calls : List Call) : Team :=
  calls.foldl respond team

theorem lastSession_take (team : Team) (peer : Address)
    (broken : Option Break) :
    (team.take peer broken).team.shared.lastSession =
      team.shared.lastSession + 1 := by
  cases room : team.shared.freeSlots with
  | zero =>
      rw [take_of_full room]
      rfl
  | succ free =>
      rw [take_of_free room]
      exact Connection.lastSession_greet _ _ broken

theorem lastSession_settle (team : Team) (handle : Nat)
    (stimulus : Stimulus) :
    (team.settle handle stimulus).team.shared.lastSession =
      team.shared.lastSession := by
  rw [settle]
  cases team.connections.get? handle with
  | none => rfl
  | some connection =>
      exact Connection.lastSession_settle connection team.shared stimulus

theorem toNat_lastSession_respond {team : Team} {call : Call}
    (below : team.shared.lastSession.toNat + [call].countP Call.isArrival <
      UInt64.size) :
    (team.respond call).shared.lastSession.toNat =
      team.shared.lastSession.toNat + [call].countP Call.isArrival := by
  cases call with
  | take peer broken =>
      rw [respond, lastSession_take]
      exact toNat_arrived below
  | miss fault => rfl
  | settle handle stimulus =>
      rw [respond, lastSession_settle]
      rfl

end Team

variable {crew : Crew} {team : Team} {handles : List Nat}

theorem Crew.Represents.start (config : Config) (registry : Registry) :
    (Crew.start config.maxClients registry).Represents
      (Team.start (.start config registry)) [] := by
  constructor
  · exact ⟨rfl, rfl, rfl, rfl, rfl, rfl⟩
  · rfl
  · exact List.nodup_nil
  · nofun
  · nofun

theorem Crew.Represents.respond (represents : crew.Represents team handles)
    {call : Call}
    (below : team.shared.lastSession.toNat + [call].countP Call.isArrival <
      UInt64.size) :
    ∃ steps next handles', crew.after? steps = some next ∧
      next.Represents (team.respond call) handles' := by
  cases call with
  | take peer broken => exact represents.take below peer broken
  | miss fault => exact ⟨[], crew, handles, rfl, represents⟩
  | settle handle stimulus =>
      obtain ⟨steps, next, run, after⟩ := represents.settle handle stimulus
      exact ⟨steps, next, handles, run, after⟩

theorem Crew.Represents.after (represents : crew.Represents team handles)
    (calls : List Call)
    (few : team.shared.lastSession.toNat + calls.countP Call.isArrival <
      UInt64.size) :
    ∃ steps next handles', crew.after? steps = some next ∧
      next.Represents (team.after calls) handles' := by
  induction calls generalizing crew team handles with
  | nil => exact ⟨[], crew, handles, rfl, represents⟩
  | cons call calls induction =>
      rw [show call :: calls = [call] ++ calls from rfl, List.countP_append,
        ← Nat.add_assoc] at few
      have below : team.shared.lastSession.toNat +
          [call].countP Call.isArrival < UInt64.size := by
        omega
      obtain ⟨first, between, known, begins, responded⟩ :=
        represents.respond below
      rw [← Team.toNat_lastSession_respond below] at few
      obtain ⟨later, last, handles', ends, represents'⟩ :=
        induction responded few
      refine ⟨first ++ later, last, handles', ?_, represents'⟩
      rw [Crew.after?_append, begins]
      exact ends

namespace Team

/-- Whatever comes to a team, a crew gets where it is by steps of the acceptor
and of the workers. -/
theorem runs_as_crew (config : Config) (registry : Registry)
    {calls : List Call}
    (few : calls.countP Call.isArrival < UInt64.size) :
    ∃ crew handles,
      (Crew.start config.maxClients registry).Reachable crew ∧
        crew.Represents
          ((Team.start (.start config registry)).after calls) handles := by
  have begun := Crew.Represents.start config registry
  have fewer : (Team.start (.start config registry)).shared.lastSession.toNat +
      calls.countP Call.isArrival < UInt64.size := by
    rw [show (Team.start (.start config registry)).shared.lastSession.toNat = 0
      from rfl, Nat.zero_add]
    exact few
  obtain ⟨steps, crew, handles, run, represents⟩ := begun.after calls fewer
  exact ⟨crew, handles, Crew.reachable_iff.mpr ⟨steps, run⟩, represents⟩

/-- Only between two steps does a worker with a slot not count as
connected. -/
theorem isCounted_stageOf (team : Team) (handle : Nat) :
    (team.stageOf handle).isCounted = (team.stageOf handle).hasPermit := by
  rw [stageOf]
  cases team.connections.get? handle with
  | none => rfl
  | some connection =>
      simp only [Connection.stage]
      split
      · rfl
      · rw [WorkerStage.ofSession]
        cases connection.session.username? <;> rfl

/-- Between two calls every slot that is taken is that of a connected client,
and no more accounts are in session than clients are connected. -/
theorem connected_after {config : Config} {registry : Registry}
    {calls : List Call}
    (idle : ∀ account, account ∈ registry.accounts →
      account.inSession = false)
    (fits : config.maxClients < UInt64.size)
    (few : calls.countP Call.isArrival < UInt64.size) :
    let shared := ((Team.start (.start config registry)).after calls).shared
    shared.counters.connected.toNat + shared.freeSlots = config.maxClients ∧
      shared.registry.activeCount ≤ shared.counters.connected.toNat := by
  intro shared
  obtain ⟨crew, handles, reachable, represents⟩ :=
    runs_as_crew config registry few
  obtain ⟨steps, run⟩ := Crew.reachable_iff.mp reachable
  obtain ⟨agrees, workers, _distinct, _known, _given⟩ := represents
  obtain ⟨sound, _recorded⟩ := Crew.run_sound idle run
  obtain ⟨active, _taken, _whole⟩ := sound.chain
  have same : crew.workers.countP WorkerStage.isCounted =
      crew.workers.countP WorkerStage.hasPermit := by
    rw [workers, List.countP_map, List.countP_map]
    apply List.countP_congr
    intro handle _member
    simp only [Function.comp_apply, isCounted_stageOf]
  have permits := sound.permits
  rw [agrees.acceptor, ← same, agrees.permits] at permits
  have few : crew.workers.countP WorkerStage.isCounted < UInt64.size := by
    omega
  have connected : shared.counters.connected.toNat =
      crew.workers.countP WorkerStage.isCounted := by
    rw [← agrees.connected, sound.connected]
    exact UInt64.toNat_ofNat_of_lt' few
  rw [agrees.registry] at active
  rw [connected]
  refine ⟨?_, active⟩
  rw [← permits]
  exact Nat.add_comm _ _

end Team
end LoginServer.Working
