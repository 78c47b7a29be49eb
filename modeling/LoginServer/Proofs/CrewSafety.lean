import Mathlib.Data.List.Induction
import Mathlib.Data.List.Perm.Basic
import LoginServer.Proofs.AccountHolding
import LoginServer.Server.Working.Crew

/-!
# Slots and accounts of a crew

Whatever the order in which the acceptor and the workers take their steps, a
worker counts as connected only while it has a permit, and it is marked in the
registry only while it counts as connected (`Sound`).  So a worker that returns
its permit has logged out of whatever it has logged in, which is told from the
steps alone (`LoggedIn`).
-/

namespace LoginServer.Working

namespace WorkerStage

/-- Whether a worker at this stage counts as connected. -/
def isCounted : WorkerStage → Bool
  | .uncounted | .gone => false
  | _ => true

theorem isCounted_of_account? {stage : WorkerStage}
    (marked : stage.account?.isSome = true) : stage.isCounted = true := by
  cases stage <;> first | rfl | cases marked

theorem hasPermit_of_isCounted {stage : WorkerStage}
    (counted : stage.isCounted = true) : stage.hasPermit = true := by
  cases stage <;> first | rfl | cases counted

end WorkerStage

/-- The number of arrivals that the acceptor has counted and has not yet
refused or given a worker. -/
def AcceptorStage.pending : AcceptorStage → Nat
  | .idle => 0
  | .counted | .refusing | .permitted => 1

namespace Crew

/-- The crew after steps, if each of them can be taken where it stands. -/
def after? (crew : Crew) (steps : List CrewStep) : Option Crew :=
  steps.foldlM step crew

/-- The account that the registry has marked for a worker. -/
def accountOf? (crew : Crew) (worker : Nat) : Option String :=
  crew.workers[worker]?.bind WorkerStage.account?

/-- After the given steps a worker has logged in an account and has not logged
out since. -/
def LoggedIn (first : Crew) (steps : List CrewStep) (worker : Nat)
    (username : String) : Prop :=
  ∃ before later crew,
    steps = before ++ .tryLogin worker username :: later ∧
      first.after? before = some crew ∧
      (crew.registry.login username).1 = .success ∧
      .logout worker ∉ later

/-! ## What each step does -/

/-- What a step of a worker does to its stage and to what is shared. -/
inductive Turns (crew : Crew) (worker : Nat) :
    CrewStep → WorkerStage → Crew → WorkerStage → Prop where
  | tryLogin {username : String} {registry : Registry}
      {notices : List Notice} :
      crew.registry.login username = (.success, registry, notices) →
      Turns crew worker (.tryLogin worker username) .free
        { crew with registry } (.winning username)
  | keepAccount {username : String} :
      Turns crew worker (.keepAccount worker) (.winning username) crew
        (.holding username)
  | dropAccount {username : String} {leaves : Bool} :
      Turns crew worker (.dropAccount worker leaves) (.holding username) crew
        (.releasing username leaves)
  | logout {username : String} {leaves : Bool} :
      Turns crew worker (.logout worker) (.releasing username leaves)
        { crew with registry := (crew.registry.logout username).1 }
        (if leaves then .leaving else .free)
  | leave : Turns crew worker (.leave worker) .free crew .leaving
  | uncount :
      Turns crew worker (.uncount worker) .leaving
        { crew with counters := crew.counters.disconnect } .uncounted
  | returnPermit :
      Turns crew worker (.returnPermit worker) .uncounted
        { crew with permits := crew.permits + 1 } .gone

/-- What a step does where it can be taken. -/
inductive Takes (crew : Crew) : CrewStep → Crew → Prop where
  | countArrival :
      crew.acceptor = .idle →
      Takes crew .countArrival
        { crew with counters := crew.counters.arrive, acceptor := .counted }
  | findNone :
      crew.acceptor = .counted → crew.permits = 0 →
      Takes crew .takePermit { crew with acceptor := .refusing }
  | takePermit {permits : Nat} :
      crew.acceptor = .counted → crew.permits = permits + 1 →
      Takes crew .takePermit { crew with permits, acceptor := .permitted }
  | countRefusal :
      crew.acceptor = .refusing →
      Takes crew .countRefusal
        { crew with counters := crew.counters.refuse, acceptor := .idle }
  | countConnected :
      crew.acceptor = .permitted →
      Takes crew .countConnected
        { crew with
          counters := crew.counters.connect
          acceptor := .idle
          workers := crew.workers ++ [.free] }
  | failLogin {worker : Nat} {username : String} :
      crew.workers[worker]? = some .free →
      (crew.registry.login username).1 ≠ .success →
      Takes crew (.tryLogin worker username) crew
  | turn {taken : CrewStep} {worker : Nat} {stage next : WorkerStage}
      {shared : Crew} :
      crew.workers[worker]? = some stage →
      crew.Turns worker taken stage shared next →
      Takes crew taken (shared.move worker next)

theorem takes_of_step {crew next : Crew} {taken : CrewStep}
    (step : crew.step taken = some next) : crew.Takes taken next := by
  cases taken with
  | countArrival =>
      simp only [Crew.step] at step
      split at step
      · cases step
        exact .countArrival ‹_›
      · cases step
  | takePermit =>
      simp only [Crew.step] at step
      split at step
      · split at step
        · cases step
          exact .findNone ‹_› ‹_›
        · cases step
          exact .takePermit ‹_› ‹_›
      · cases step
  | countRefusal =>
      simp only [Crew.step] at step
      split at step
      · cases step
        exact .countRefusal ‹_›
      · cases step
  | countConnected =>
      simp only [Crew.step] at step
      split at step
      · cases step
        exact .countConnected ‹_›
      · cases step
  | tryLogin worker username =>
      simp only [Crew.step] at step
      split at step
      · rename_i free
        cases step
        rw [tryLogin]
        split
        · rename_i success
          exact .turn free (.tryLogin success)
        · rename_i failure
          apply Takes.failLogin free
          intro success
          exact failure _ _ (Prod.ext success rfl)
      · cases step
  | keepAccount worker =>
      simp only [Crew.step] at step
      split at step
      · cases step
        exact .turn ‹_› .keepAccount
      · cases step
  | dropAccount worker leaves =>
      simp only [Crew.step] at step
      split at step
      · cases step
        exact .turn ‹_› .dropAccount
      · cases step
  | logout worker =>
      simp only [Crew.step] at step
      split at step
      · cases step
        exact .turn ‹_› .logout
      · cases step
  | leave worker =>
      simp only [Crew.step] at step
      split at step
      · cases step
        exact .turn ‹_› .leave
      · cases step
  | uncount worker =>
      simp only [Crew.step] at step
      split at step
      · cases step
        exact .turn ‹_› .uncount
      · cases step
  | returnPermit worker =>
      simp only [Crew.step] at step
      split at step
      · cases step
        exact .turn ‹_› .returnPermit
      · cases step

theorem after?_concat {first next : Crew} {steps : List CrewStep}
    {taken : CrewStep} :
    first.after? (steps ++ [taken]) = some next ↔
      ∃ crew, first.after? steps = some crew ∧
        crew.step taken = some next := by
  simp [after?, List.foldlM_append, Option.bind_eq_some_iff]

theorem reachable_iff {first crew : Crew} :
    first.Reachable crew ↔ ∃ steps, first.after? steps = some crew := by
  constructor
  · intro reachable
    induction reachable with
    | refl => exact ⟨[], rfl⟩
    | step taken _ step induction =>
        obtain ⟨steps, run⟩ := induction
        exact ⟨steps ++ [taken], after?_concat.mpr ⟨_, run, step⟩⟩
  · rintro ⟨steps, run⟩
    induction steps using List.reverseRecOn generalizing crew with
    | nil =>
        cases run
        exact .refl
    | append_singleton steps taken induction =>
        obtain ⟨before, earlier, step⟩ := after?_concat.mp run
        exact .step taken (induction earlier) step

/-- What holds at first and is preserved by each step holds after every
run. -/
theorem run_induction {first crew : Crew} {steps : List CrewStep}
    {Holds : List CrewStep → Crew → Prop} (start : Holds [] first)
    (takes : ∀ steps crew taken next, first.after? steps = some crew →
      Holds steps crew → crew.Takes taken next →
        Holds (steps ++ [taken]) next)
    (run : first.after? steps = some crew) : Holds steps crew := by
  induction steps using List.reverseRecOn generalizing crew with
  | nil =>
      cases run
      exact start
  | append_singleton steps taken induction =>
      obtain ⟨before, earlier, step⟩ := after?_concat.mp run
      exact takes steps before taken crew earlier (induction earlier)
        (takes_of_step step)

/-- A step of a worker leaves alone what only the acceptor changes. -/
structure Turns.Keeps (crew : Crew) (taken : CrewStep) (shared : Crew) :
    Prop where
  notArrival : taken ≠ .countArrival
  notRefusal : taken ≠ .countRefusal
  total : shared.counters.total = crew.counters.total
  refused : shared.counters.refused = crew.counters.refused
  acceptor : shared.acceptor = crew.acceptor
  workers : shared.workers = crew.workers

theorem Turns.keeps {crew shared : Crew} {worker : Nat} {taken : CrewStep}
    {stage next : WorkerStage}
    (turns : crew.Turns worker taken stage shared next) :
    Keeps crew taken shared := by
  cases turns <;> constructor <;> first | rfl | nofun

/-! ## What workers hold -/

theorem accountOf?_move_self {crew : Crew} {worker : Nat}
    {stage : WorkerStage} (found : crew.workers[worker]? = some stage)
    (next : WorkerStage) :
    (crew.move worker next).accountOf? worker = next.account? := by
  have inside := (List.getElem?_eq_some_iff.mp found).1
  rw [accountOf?, move, List.getElem?_set_self inside]
  rfl

theorem accountOf?_move_other (crew : Crew) {worker other : Nat}
    (different : other ≠ worker) (next : WorkerStage) :
    (crew.move other next).accountOf? worker = crew.accountOf? worker := by
  rw [accountOf?, move, List.getElem?_set_ne different]
  rfl

theorem accountOf?_append_free (crew : Crew) (counters : Counters)
    (worker : Nat) :
    accountOf?
      { crew with
        counters
        acceptor := .idle
        workers := crew.workers ++ [.free] } worker =
      crew.accountOf? worker := by
  simp only [accountOf?]
  rcases Nat.lt_trichotomy worker crew.workers.length with
    inside | same | beyond
  · rw [List.getElem?_append_left inside]
  · subst same
    simp [WorkerStage.account?]
  · have outside :
        (crew.workers ++ [WorkerStage.free]).length ≤ worker := by
      rw [List.length_append]
      exact beyond
    rw [List.getElem?_eq_none outside,
      List.getElem?_eq_none (Nat.le_of_lt beyond)]

/-- What a step means for what a worker holds: it logs the worker in, or out, or
it is neither and changes nothing. -/
inductive Notes (crew : Crew) (worker : Nat) (taken : CrewStep)
    (next : Crew) : Prop where
  | login {username : String} :
      taken = .tryLogin worker username →
      (crew.registry.login username).1 = .success →
      crew.accountOf? worker = none →
      next.accountOf? worker = some username →
      Notes crew worker taken next
  | logout :
      taken = .logout worker → next.accountOf? worker = none →
      Notes crew worker taken next
  | neither :
      taken ≠ .logout worker →
      (∀ username, taken = .tryLogin worker username →
        (crew.registry.login username).1 ≠ .success) →
      next.accountOf? worker = crew.accountOf? worker →
      Notes crew worker taken next

theorem Turns.notes_self {crew shared : Crew} {worker : Nat}
    {taken : CrewStep} {stage next : WorkerStage}
    (found : crew.workers[worker]? = some stage)
    (turns : crew.Turns worker taken stage shared next) :
    crew.Notes worker taken (shared.move worker next) := by
  have before : crew.accountOf? worker = stage.account? := by
    rw [accountOf?, found]
    rfl
  have after : (shared.move worker next).accountOf? worker = next.account? :=
    accountOf?_move_self (turns.keeps.workers ▸ found) next
  cases turns with
  | tryLogin success =>
      exact .login rfl (congrArg Prod.fst success) before after
  | @logout username leaves =>
      refine .logout rfl (after.trans ?_)
      cases leaves <;> rfl
  | keepAccount | dropAccount | leave | uncount | returnPermit =>
      exact .neither nofun nofun (after.trans before.symm)

theorem Turns.notes_other {crew shared : Crew} {worker other : Nat}
    {taken : CrewStep} {stage next : WorkerStage} (different : other ≠ worker)
    (turns : crew.Turns other taken stage shared next) :
    crew.Notes worker taken (shared.move other next) := by
  apply Notes.neither
  · rintro rfl
    cases turns
    exact different rfl
  · rintro username rfl
    cases turns
    exact absurd rfl different
  · rw [accountOf?_move_other shared different, accountOf?,
      turns.keeps.workers]
    rfl

theorem Takes.notes {crew next : Crew} {taken : CrewStep}
    (takes : crew.Takes taken next) (worker : Nat) :
    crew.Notes worker taken next := by
  cases takes with
  | countArrival | findNone | takePermit | countRefusal =>
      exact .neither nofun nofun rfl
  | countConnected =>
      exact .neither nofun nofun (accountOf?_append_free crew _ worker)
  | failLogin free failure =>
      refine .neither nofun ?_ rfl
      rintro username ⟨⟩
      exact failure
  | @turn taken other stage later shared found turns =>
      by_cases same : other = worker
      · subst same
        exact turns.notes_self found
      · exact turns.notes_other same

theorem loggedIn_concat {first crew : Crew} {steps : List CrewStep}
    (run : first.after? steps = some crew) (taken : CrewStep) (worker : Nat)
    (username : String) :
    first.LoggedIn (steps ++ [taken]) worker username ↔
      (taken = .tryLogin worker username ∧
        (crew.registry.login username).1 = .success) ∨
      taken ≠ .logout worker ∧ first.LoggedIn steps worker username := by
  constructor
  · rintro ⟨before, later, earlier, parts, run', success, kept⟩
    rcases List.eq_nil_or_concat later with rfl | ⟨later, last, rfl⟩
    · obtain ⟨rfl, ends⟩ := List.append_inj' parts rfl
      cases ends
      cases run.symm.trans run'
      exact Or.inl ⟨rfl, success⟩
    · rw [List.concat_eq_append, ← List.cons_append,
        ← List.append_assoc] at parts
      obtain ⟨front, ends⟩ := List.append_inj' parts rfl
      cases ends
      rw [List.concat_eq_append, List.mem_append, not_or] at kept
      refine Or.inr ⟨?_, before, later, earlier, front, run', success,
        kept.1⟩
      rintro rfl
      exact kept.2 (List.mem_singleton_self _)
  · rintro (⟨rfl, success⟩ | ⟨different, before, later, earlier, rfl, rest⟩)
    · exact ⟨steps, [], crew, rfl, run, success, List.not_mem_nil⟩
    · obtain ⟨run', success, kept⟩ := rest
      refine ⟨before, later ++ [taken], earlier, ?_, run', success, ?_⟩
      · rw [List.append_assoc, List.cons_append]
      · rw [List.mem_append, List.mem_singleton, not_or]
        exact ⟨kept, fun same => different same.symm⟩

/-- The accounts that are marked for workers are those that the steps tell
of. -/
theorem accountOf?_eq_some_iff {first crew : Crew} {steps : List CrewStep}
    (fresh : first.workers = []) (run : first.after? steps = some crew)
    (worker : Nat) (username : String) :
    crew.accountOf? worker = some username ↔
      first.LoggedIn steps worker username := by
  let Holds (steps : List CrewStep) (crew : Crew) : Prop :=
    crew.accountOf? worker = some username ↔
      first.LoggedIn steps worker username
  have start : Holds [] first := by
    constructor
    · intro marked
      rw [accountOf?, fresh] at marked
      cases marked
    · rintro ⟨before, later, crew, parts, _⟩
      exact absurd parts (by simp)
  have takes (steps : List CrewStep) (crew : Crew) (taken : CrewStep)
      (next : Crew) (run : first.after? steps = some crew)
      (holds : Holds steps crew) (takes : crew.Takes taken next) :
      Holds (steps ++ [taken]) next := by
    refine Iff.trans ?_ (loggedIn_concat run taken worker username).symm
    cases takes.notes worker with
    | @login other same success before after =>
        have notYet : ¬ first.LoggedIn steps worker username := by
          intro already
          cases before.symm.trans (holds.mpr already)
        rw [after, same, Option.some.injEq]
        constructor
        · rintro rfl
          exact Or.inl ⟨rfl, success⟩
        · rintro (⟨⟨⟩, _⟩ | ⟨_, already⟩)
          · rfl
          · exact absurd already notYet
    | logout same after =>
        rw [after, same]
        constructor
        · nofun
        · rintro (⟨impossible, _⟩ | ⟨different, _⟩)
          · cases impossible
          · exact absurd rfl different
    | neither notLogout failure after =>
        rw [after]
        constructor
        · intro marked
          exact Or.inr ⟨notLogout, holds.mp marked⟩
        · rintro (⟨same, success⟩ | ⟨_, already⟩)
          · exact absurd success (failure username same)
          · exact holds.mpr already
  exact run_induction start takes run

/-! ## Permits and counters -/

/-- What is shared fits workers at the given stages: every permit is free or
with one of them or with the acceptor, those that count as connected are
counted, and the accounts in session are marked for them. -/
structure Fits (limit : Nat) (crew : Crew) (stages : List WorkerStage) :
    Prop where
  permits : crew.permits + stages.countP WorkerStage.hasPermit +
    crew.acceptor.permits = limit
  connected : crew.counters.connected =
    UInt64.ofNat (stages.countP WorkerStage.isCounted)
  held : crew.registry.HeldBy (stages.filterMap WorkerStage.account?)

namespace Fits

variable {limit : Nat} {crew : Crew}

theorem perm {stages others : List WorkerStage}
    (fits : crew.Fits limit stages) (permutation : stages.Perm others) :
    crew.Fits limit others := by
  constructor
  · rw [← permutation.countP_eq]
    exact fits.permits
  · rw [← permutation.countP_eq]
    exact fits.connected
  · exact fits.held.perm (permutation.filterMap _)

theorem start {registry : Registry}
    (idle : ∀ account, account ∈ registry.accounts →
      account.inSession = false) :
    (Crew.start limit registry).Fits limit [] := by
  constructor
  · rfl
  · rfl
  · exact Registry.heldBy_nil idle

theorem turn {worker : Nat} {taken : CrewStep} {stage next : WorkerStage}
    {shared : Crew} {others : List WorkerStage}
    (fits : crew.Fits limit (stage :: others))
    (turns : crew.Turns worker taken stage shared next) :
    shared.Fits limit (next :: others) := by
  obtain ⟨permits, connected, held⟩ := fits
  cases turns with
  | tryLogin success => exact ⟨permits, connected, held.login success⟩
  | keepAccount | dropAccount | leave => exact ⟨permits, connected, held⟩
  | @logout username leaves =>
      cases leaves <;> exact ⟨permits, connected, held.logout⟩
  | uncount =>
      refine ⟨permits, ?_, held⟩
      change crew.counters.connected - 1 = _
      rw [connected, List.countP_cons_of_pos rfl,
        List.countP_cons_of_neg (by decide), UInt64.ofNat_add]
      exact UInt64.add_sub_cancel _ _
  | returnPermit =>
      refine ⟨?_, connected, held⟩
      rw [List.countP_cons_of_pos rfl] at permits
      rw [List.countP_cons_of_neg (by decide), ← permits]
      dsimp only
      omega

theorem takes {taken : CrewStep} {next : Crew}
    (fits : crew.Fits limit crew.workers) (takes : crew.Takes taken next) :
    next.Fits limit next.workers := by
  obtain ⟨permits, connected, held⟩ := id fits
  cases takes with
  | countArrival idle =>
      rw [idle] at permits
      exact ⟨permits, connected, held⟩
  | findNone counted none =>
      rw [counted] at permits
      exact ⟨permits, connected, held⟩
  | @takePermit rest counted some =>
      refine ⟨?_, connected, held⟩
      rw [counted, some] at permits
      rw [← permits]
      simp only [AcceptorStage.permits]
      omega
  | countRefusal refusing =>
      rw [refusing] at permits
      exact ⟨permits, connected, held⟩
  | countConnected permitted =>
      rw [permitted] at permits
      refine ⟨?_, ?_, ?_⟩
      · rw [List.countP_append, ← permits]
        exact Nat.add_right_comm _ _ _
      · rw [List.countP_append, UInt64.ofNat_add, ← connected]
        rfl
      · have nothing : [WorkerStage.free].filterMap WorkerStage.account? = [] :=
          rfl
        rw [List.filterMap_append, nothing, List.append_nil]
        exact held
  | failLogin => exact fits
  | @turn taken worker stage later shared found turns =>
      obtain ⟨inside, here⟩ := List.getElem?_eq_some_iff.mp found
      have before : crew.workers.Perm
          (stage :: crew.workers.eraseIdx worker) := by
        rw [← here]
        exact (List.getElem_cons_eraseIdx_perm inside).symm
      have after : (crew.workers.set worker later).Perm
          (later :: crew.workers.eraseIdx worker) :=
        List.set_perm_cons_eraseIdx inside later
      have moved := ((fits.perm before).turn turns).perm after.symm
      rw [← turns.keeps.workers] at moved
      exact ⟨moved.permits, moved.connected, moved.held⟩

end Fits

/-- The counters and the acceptor tell how many arrivals and refusals are among
the steps. -/
structure Recorded (steps : List CrewStep) (crew : Crew) : Prop where
  total : crew.counters.total = UInt64.ofNat (steps.count .countArrival)
  refused : crew.counters.refused =
    UInt64.ofNat (steps.count .countRefusal)
  arrivals : steps.count .countArrival =
    steps.count .countRefusal + crew.workers.length + crew.acceptor.pending

namespace Recorded

variable {steps : List CrewStep} {crew next : Crew} {taken : CrewStep}

theorem concat_of_ne (recorded : Recorded steps crew)
    (notArrival : taken ≠ .countArrival) (notRefusal : taken ≠ .countRefusal)
    (total : next.counters.total = crew.counters.total)
    (refused : next.counters.refused = crew.counters.refused)
    (arrivals : next.workers.length + next.acceptor.pending =
      crew.workers.length + crew.acceptor.pending) :
    Recorded (steps ++ [taken]) next := by
  have sameArrivals : (steps ++ [taken]).count .countArrival =
      steps.count .countArrival := by
    simp [notArrival]
  have sameRefusals : (steps ++ [taken]).count .countRefusal =
      steps.count .countRefusal := by
    simp [notRefusal]
  constructor
  · rw [sameArrivals, total]
    exact recorded.total
  · rw [sameRefusals, refused]
    exact recorded.refused
  · rw [sameArrivals, sameRefusals, Nat.add_assoc, arrivals,
      ← Nat.add_assoc]
    exact recorded.arrivals

theorem takes (recorded : Recorded steps crew)
    (takes : crew.Takes taken next) :
    Recorded (steps ++ [taken]) next := by
  cases takes with
  | countArrival idle =>
      obtain ⟨total, refused, arrivals⟩ := recorded
      rw [idle] at arrivals
      constructor
      · rw [List.count_append, UInt64.ofNat_add, ← total]
        rfl
      · rw [List.count_append]
        exact refused
      · rw [List.count_append, List.count_append, arrivals]
        rfl
  | countRefusal refusing =>
      obtain ⟨total, refused, arrivals⟩ := recorded
      rw [refusing] at arrivals
      constructor
      · rw [List.count_append]
        exact total
      · rw [List.count_append, UInt64.ofNat_add, ← refused]
        rfl
      · rw [List.count_append, List.count_append]
        exact arrivals.trans (Nat.add_right_comm _ _ _)
  | findNone counted | takePermit counted =>
      refine recorded.concat_of_ne nofun nofun rfl rfl ?_
      rw [counted]
      rfl
  | countConnected permitted =>
      refine recorded.concat_of_ne nofun nofun rfl rfl ?_
      rw [permitted, List.length_append]
      rfl
  | failLogin => exact recorded.concat_of_ne nofun nofun rfl rfl rfl
  | @turn taken worker stage later shared found turns =>
      have keeps := turns.keeps
      refine recorded.concat_of_ne keeps.notArrival keeps.notRefusal
        keeps.total keeps.refused ?_
      simp only [move, List.length_set, keeps.workers, keeps.acceptor]

end Recorded

/-! ## Runs -/

theorem run_sound {limit : Nat} {registry : Registry}
    {steps : List CrewStep} {crew : Crew}
    (idle : ∀ account, account ∈ registry.accounts →
      account.inSession = false)
    (run : (start limit registry).after? steps = some crew) :
    crew.Fits limit crew.workers ∧ Recorded steps crew := by
  let Holds (steps : List CrewStep) (crew : Crew) : Prop :=
    crew.Fits limit crew.workers ∧ Recorded steps crew
  have begun : Holds [] (start limit registry) :=
    ⟨Fits.start idle, rfl, rfl, rfl⟩
  have takes (steps : List CrewStep) (crew : Crew) (taken : CrewStep)
      (next : Crew) (_run : (start limit registry).after? steps = some crew)
      (holds : Holds steps crew) (takes : crew.Takes taken next) :
      Holds (steps ++ [taken]) next :=
    ⟨holds.1.takes takes, holds.2.takes takes⟩
  exact run_induction begun takes run

theorem Fits.chain {limit : Nat} {crew : Crew}
    (fits : crew.Fits limit crew.workers) :
    crew.registry.activeCount ≤
        crew.workers.countP WorkerStage.isCounted ∧
      crew.workers.countP WorkerStage.isCounted ≤ crew.permitsTaken ∧
      crew.permits + crew.permitsTaken = limit := by
  have permits := fits.permits
  have marked : crew.registry.activeCount =
      crew.workers.countP fun stage => stage.account?.isSome := by
    rw [fits.held.activeCount, List.length_filterMap_eq_countP]
  have counted : crew.workers.countP (fun stage => stage.account?.isSome) ≤
      crew.workers.countP WorkerStage.isCounted :=
    List.countP_mono_left fun _ _ => WorkerStage.isCounted_of_account?
  have permitted : crew.workers.countP WorkerStage.isCounted ≤
      crew.workers.countP WorkerStage.hasPermit :=
    List.countP_mono_left fun _ _ => WorkerStage.hasPermit_of_isCounted
  rw [marked, permitsTaken]
  omega

theorem step_returnPermit_of_accountOf? {crew : Crew} {worker : Nat}
    {username : String} (marked : crew.accountOf? worker = some username) :
    crew.step (.returnPermit worker) = none := by
  obtain ⟨stage, found, account⟩ := Option.bind_eq_some_iff.mp marked
  cases stage with
  | free | leaving | uncounted | gone => cases account
  | winning | holding | releasing => simp only [step, found]

/-- A worker that has returned its permit is gone for good. -/
theorem gone_of_returnPermit {first crew : Crew} {steps : List CrewStep}
    {worker : Nat} (run : first.after? steps = some crew)
    (returned : .returnPermit worker ∈ steps) :
    crew.workers[worker]? = some .gone := by
  let Holds (steps : List CrewStep) (crew : Crew) : Prop :=
    .returnPermit worker ∈ steps → crew.workers[worker]? = some .gone
  have takes (steps : List CrewStep) (crew : Crew) (taken : CrewStep)
      (next : Crew) (_run : first.after? steps = some crew)
      (holds : Holds steps crew) (takes : crew.Takes taken next) :
      Holds (steps ++ [taken]) next := by
    intro member
    cases takes with
    | countArrival | findNone | takePermit | countRefusal | failLogin =>
        exact holds (by simpa using member)
    | countConnected =>
        have before := holds (by simpa using member)
        have inside := (List.getElem?_eq_some_iff.mp before).1
        exact (List.getElem?_append_left inside).trans before
    | @turn taken other stage later shared found turns =>
        simp only [move, turns.keeps.workers]
        rcases List.mem_append.mp member with early | now
        · have before := holds early
          have different : other ≠ worker := by
            rintro rfl
            cases found.symm.trans before
            cases turns
          exact (List.getElem?_set_ne different).trans before
        · cases List.mem_singleton.mp now
          cases turns
          exact List.getElem?_set_self (List.getElem?_eq_some_iff.mp found).1
  have begun : Holds [] first := nofun
  exact run_induction begun takes run returned

/-- Whatever the order of their steps, the acceptor and the workers keep what
they share in order.  No more accounts are in session than workers are counted
as connected, no more of those than the acceptor and the workers have permits,
and no more permits than there are: each is free or with one of them.  Refused
and connected clients are among those that arrived.  A worker that has logged in
an account and has not logged out has its permit still and cannot return it; so
an account that is refused as in session already is held by another worker,
which has not given its slot to anybody. -/
theorem run_safe {limit : Nat} {registry : Registry}
    {steps : List CrewStep} {crew : Crew} (fits : limit < UInt64.size)
    (idle : ∀ account, account ∈ registry.accounts →
      account.inSession = false)
    (run : (start limit registry).after? steps = some crew) :
    let arrivals := steps.count .countArrival
    let refusals := steps.count .countRefusal
    let connected := crew.counters.connected.toNat
    let loggedIn := (start limit registry).LoggedIn steps
    crew.registry.activeCount ≤ connected ∧
      connected ≤ crew.permitsTaken ∧ crew.permitsTaken ≤ limit ∧
      crew.permits + crew.permitsTaken = limit ∧
      refusals + connected ≤ arrivals ∧
      crew.counters.refused = UInt64.ofNat refusals ∧
      crew.counters.total = UInt64.ofNat arrivals ∧
      (arrivals < UInt64.size →
        crew.counters.refused.toNat + connected ≤
          crew.counters.total.toNat) ∧
      (∀ worker username, loggedIn worker username →
        crew.registry.inSession? username = some true ∧
          .returnPermit worker ∉ steps ∧
          crew.step (.returnPermit worker) = none) ∧
      ∀ worker username, crew.workers[worker]? = some .free →
        (crew.registry.login username).1 = .alreadyActive →
        ∃ other, other ≠ worker ∧ loggedIn other username ∧
          .returnPermit other ∉ steps := by
  intro arrivals refusals connected loggedIn
  obtain ⟨sound, recorded⟩ := run_sound idle run
  obtain ⟨active, taken, whole⟩ := sound.chain
  have owns (worker : Nat) (username : String) :
      crew.accountOf? worker = some username ↔ loggedIn worker username :=
    accountOf?_eq_some_iff rfl run worker username
  have counted : connected =
      crew.workers.countP WorkerStage.isCounted := by
    rw [show connected = _ from congrArg UInt64.toNat sound.connected]
    apply UInt64.toNat_ofNat_of_lt'
    omega
  have few : crew.workers.countP WorkerStage.isCounted ≤
      crew.workers.length := List.countP_le_length
  have among : refusals + connected ≤ arrivals := by
    have all : arrivals = refusals + crew.workers.length +
        crew.acceptor.pending := recorded.arrivals
    omega
  have keeps (worker : Nat) (username : String)
      (held : loggedIn worker username) :
      crew.registry.inSession? username = some true ∧
        .returnPermit worker ∉ steps ∧
        crew.step (.returnPermit worker) = none := by
    have marked := (owns worker username).mpr held
    have step := step_returnPermit_of_accountOf? marked
    obtain ⟨stage, found, account⟩ := Option.bind_eq_some_iff.mp marked
    refine ⟨?_, ?_, step⟩
    · rw [sound.held.inSession?_iff]
      exact List.mem_filterMap.mpr
        ⟨stage, List.mem_of_getElem? found, account⟩
    · intro returned
      cases found.symm.trans (gone_of_returnPermit run returned)
      cases account
  refine ⟨counted ▸ active, counted ▸ taken, by omega, whole, among,
    recorded.refused, recorded.total, ?_, keeps, ?_⟩
  · intro fewArrivals
    rw [recorded.refused, recorded.total,
      UInt64.toNat_ofNat_of_lt' fewArrivals, UInt64.toNat_ofNat_of_lt']
    · exact among
    · omega
  · intro worker username free busy
    rw [Registry.login_alreadyActive_iff, sound.held.inSession?_iff] at busy
    obtain ⟨stage, member, account⟩ := List.mem_filterMap.mp busy
    obtain ⟨other, found⟩ := List.mem_iff_getElem?.mp member
    have held : loggedIn other username := by
      rw [← owns, accountOf?, found]
      exact account
    refine ⟨other, ?_, held, (keeps other username held).2.1⟩
    rintro rfl
    cases found.symm.trans free
    cases account

/-- A worker is about to log out when another one asks for its account, and a
third client finds no permit. -/
theorem run_safe_while_releasing :
    let registry := (Registry.ofAccounts [Account.idle "alice" .active]).1
    let steps : List CrewStep :=
      [.countArrival, .takePermit, .countConnected, .tryLogin 0 "alice",
        .countArrival, .keepAccount 0, .takePermit, .dropAccount 0 true,
        .countConnected, .countArrival, .takePermit, .countRefusal,
        .tryLogin 1 "alice"]
    (2 < UInt64.size ∧
      ∀ account, account ∈ registry.accounts → account.inSession = false) ∧
      ∃ crew, (start 2 registry).after? steps = some crew ∧
        crew.permitsTaken = 2 ∧ crew.counters.connected = 2 ∧
        crew.registry.activeCount ≤ crew.counters.connected.toNat ∧
        ∃ other, other ≠ 1 ∧
          (start 2 registry).LoggedIn steps other "alice" := by
  intro registry steps
  have fits : 2 < UInt64.size := by decide
  have idle : ∀ account, account ∈ registry.accounts →
      account.inSession = false := by decide
  have ends : ((start 2 registry).after? steps).isSome = true := by
    decide +kernel
  obtain ⟨crew, run⟩ := Option.isSome_iff_exists.mp ends
  obtain ⟨active, _taken, _limit, _whole, _among, _refused, _total, _numbers,
    _keeps, held⟩ := run_safe fits idle run
  have shown : ((start 2 registry).after? steps).map (fun crew =>
      (crew.permitsTaken, crew.counters.connected, crew.workers[1]?,
        (crew.registry.login "alice").1)) =
        some (2, 2, some .free, .alreadyActive) := by decide +kernel
  rw [run, Option.map_some, Option.some.injEq] at shown
  simp only [Prod.mk.injEq] at shown
  obtain ⟨permits, connected, free, busy⟩ := shown
  obtain ⟨other, different, loggedIn, _⟩ := held 1 "alice" free busy
  exact ⟨⟨fits, idle⟩, crew, run, permits, connected, active, other,
    different, loggedIn⟩

end Crew
end LoginServer.Working
