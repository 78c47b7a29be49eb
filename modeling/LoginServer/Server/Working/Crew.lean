import LoginServer.Account.Registry
import LoginServer.Server.Counters

/-!
# The crew of the worker dispatcher

The acceptor and the workers share the registry, the counters and the permits,
and each touches them by one atomic step at a time.  `Crew.step` is one such
step, and `Crew.Reachable` are the states that steps in any order lead to.
-/

namespace LoginServer.Working

/-- Where the acceptor is between two of its steps. -/
inductive AcceptorStage where
  /-- It waits for an arrival. -/
  | idle
  /-- It has counted an arrival. -/
  | counted
  /-- There was no permit, and the refusal is not counted yet. -/
  | refusing
  /-- It has a permit, and the connection is not counted yet. -/
  | permitted
  deriving DecidableEq, Repr

/-- The number of permits that the acceptor itself has. -/
def AcceptorStage.permits : AcceptorStage → Nat
  | .permitted => 1
  | .idle | .counted | .refusing => 0

/-- Where a worker is between two of its steps. -/
inductive WorkerStage where
  /-- In its loop, without an account. -/
  | free
  /-- The registry has marked the account, and the session does not know it
  yet. -/
  | winning (username : String)
  /-- In its loop, with an account. -/
  | holding (username : String)
  /-- The session has let go of the account, and the registry does not know it
  yet; then the worker leaves its loop or stays in it. -/
  | releasing (username : String) (leaves : Bool)
  /-- It has left its loop and given its account back. -/
  | leaving
  /-- It is no longer counted as connected and still has its permit. -/
  | uncounted
  /-- It has returned its permit. -/
  | gone
  deriving DecidableEq, Repr

namespace WorkerStage

/-- Whether a worker at this stage has a permit. -/
def hasPermit : WorkerStage → Bool
  | .gone => false
  | _ => true

/-- The account that the registry has marked for a worker at this stage. -/
def account? : WorkerStage → Option String
  | .winning username | .holding username | .releasing username _ =>
      some username
  | _ => none

end WorkerStage

/-- The acceptor, the workers in the order of their admission, and what they
share. -/
structure Crew where
  registry : Registry
  counters : Counters
  /-- The number of permits that nobody has. -/
  permits : Nat
  acceptor : AcceptorStage
  workers : List WorkerStage

/-- One atomic step of the acceptor or of a worker. -/
inductive CrewStep where
  | countArrival
  /-- The acceptor takes a permit, or finds that there is none. -/
  | takePermit
  | countRefusal
  /-- The acceptor counts the connection, which gets a worker. -/
  | countConnected
  /-- A worker asks the registry for an account. -/
  | tryLogin (worker : Nat) (username : String)
  /-- The session of a worker learns of its account. -/
  | keepAccount (worker : Nat)
  /-- The session of a worker lets go of its account. -/
  | dropAccount (worker : Nat) (leaves : Bool)
  /-- A worker gives its account back to the registry. -/
  | logout (worker : Nat)
  /-- A worker without an account leaves its loop. -/
  | leave (worker : Nat)
  | uncount (worker : Nat)
  | returnPermit (worker : Nat)
  deriving DecidableEq, Repr

namespace Crew

/-- Nobody has arrived yet, and all permits are free. -/
def start (limit : Nat) (registry : Registry) : Crew :=
  { registry
    counters := .zero
    permits := limit
    acceptor := .idle
    workers := [] }

/-- The number of permits that the acceptor and the workers have. -/
def permitsTaken (crew : Crew) : Nat :=
  crew.acceptor.permits + crew.workers.countP WorkerStage.hasPermit

/-- A worker moves to another stage. -/
def move (crew : Crew) (worker : Nat) (stage : WorkerStage) : Crew :=
  { crew with workers := crew.workers.set worker stage }

/-- A worker asks the registry for an account, and is told at once whether it
gets it. -/
def tryLogin (crew : Crew) (worker : Nat) (username : String) : Crew :=
  match crew.registry.login username with
  | (.success, registry, _) =>
      { crew with registry }.move worker (.winning username)
  | _ => crew

/-- One step, if the one who takes it is where it can be taken. -/
def step (crew : Crew) : CrewStep → Option Crew
  | .countArrival =>
      if crew.acceptor = .idle then
        some { crew with counters := crew.counters.arrive, acceptor := .counted }
      else none
  | .takePermit =>
      if crew.acceptor = .counted then
        match crew.permits with
        | 0 => some { crew with acceptor := .refusing }
        | permits + 1 => some { crew with permits, acceptor := .permitted }
      else none
  | .countRefusal =>
      if crew.acceptor = .refusing then
        some { crew with counters := crew.counters.refuse, acceptor := .idle }
      else none
  | .countConnected =>
      if crew.acceptor = .permitted then
        some { crew with
          counters := crew.counters.connect
          acceptor := .idle
          workers := crew.workers ++ [.free] }
      else none
  | .tryLogin worker username =>
      match crew.workers[worker]? with
      | some .free => some (crew.tryLogin worker username)
      | _ => none
  | .keepAccount worker =>
      match crew.workers[worker]? with
      | some (.winning username) => some (crew.move worker (.holding username))
      | _ => none
  | .dropAccount worker leaves =>
      match crew.workers[worker]? with
      | some (.holding username) =>
          some (crew.move worker (.releasing username leaves))
      | _ => none
  | .logout worker =>
      match crew.workers[worker]? with
      | some (.releasing username leaves) =>
          let registry := (crew.registry.logout username).1
          let stage := if leaves then .leaving else .free
          some ({ crew with registry }.move worker stage)
      | _ => none
  | .leave worker =>
      match crew.workers[worker]? with
      | some .free => some (crew.move worker .leaving)
      | _ => none
  | .uncount worker =>
      match crew.workers[worker]? with
      | some .leaving =>
          some ({ crew with counters := crew.counters.disconnect }.move worker
            .uncounted)
      | _ => none
  | .returnPermit worker =>
      match crew.workers[worker]? with
      | some .uncounted =>
          some ({ crew with permits := crew.permits + 1 }.move worker .gone)
      | _ => none

/-- The states that steps in any order lead to. -/
inductive Reachable (first : Crew) : Crew → Prop where
  | refl : Reachable first first
  | step {crew next : Crew} (taken : CrewStep) :
      Reachable first crew → crew.step taken = some next →
      Reachable first next

end Crew
end LoginServer.Working
