import LoginServer.Proofs.AccountHolding
import LoginServer.Proofs.NumberedItems
import LoginServer.Sessions

/-!
# Every account has one owner

The registry's flags and the states of the sessions tell the same thing twice.
Whatever the sessions do in whatever order, the names in session are exactly
the names that live sessions hold, each once (`performAll_heldBy`).
-/

namespace LoginServer.Sessions

/-- The names that live sessions hold, in the order of the places. -/
def heldNames (sessions : Sessions) : List String :=
  sessions.live.values.flatMap Session.heldNames

/-- The places of the live sessions that are authenticated as a name. -/
def holders (sessions : Sessions) (username : String) : List Nat :=
  (sessions.live.entries.filter fun entry =>
    entry.2.state = .authenticated username).map Prod.fst

/-- The live sessions that are authenticated. -/
def authenticated (sessions : Sessions) : List Session :=
  sessions.live.values.filter fun session => session.username?.isSome

/-- The names that are held at all places but one. -/
def heldElsewhere (sessions : Sessions) (place : Nat) : List String :=
  (sessions.live.remove place).values.flatMap Session.heldNames

/-! ## One step -/

theorem heldNames_perm {sessions : Sessions} {place : Nat}
    {session : Session} (found : sessions.live.get? place = some session) :
    sessions.heldNames.Perm
      (session.heldNames ++ sessions.heldElsewhere place) :=
  (Numbered.values_perm_of_get? found).flatMap_right Session.heldNames

theorem heldNames_put_perm (sessions : Sessions) (registry : Registry)
    (place : Nat) (session : Session) :
    heldNames { registry, live := sessions.live.put place session } |>.Perm
      (session.heldNames ++ sessions.heldElsewhere place) :=
  (Numbered.values_put_perm sessions.live place session).flatMap_right
    Session.heldNames

/-- The registry is in step with the sessions. -/
def InStep (sessions : Sessions) : Prop :=
  sessions.registry.HeldBy sessions.heldNames

theorem InStep.atPlace {sessions : Sessions} {place : Nat}
    {session : Session} (inStep : sessions.InStep)
    (found : sessions.live.get? place = some session) :
    sessions.registry.HeldBy
      (session.heldNames ++ sessions.heldElsewhere place) :=
  inStep.perm (heldNames_perm found)

theorem inStep_put {sessions : Sessions} {registry : Registry}
    {place : Nat} {session : Session}
    (held : registry.HeldBy
      (session.heldNames ++ sessions.heldElsewhere place)) :
    InStep { registry, live := sessions.live.put place session } :=
  held.perm (heldNames_put_perm sessions registry place session).symm

theorem InStep.close {sessions : Sessions} (inStep : sessions.InStep)
    (place : Nat) : (sessions.close place).1.InStep := by
  rw [Sessions.close]
  cases found : sessions.live.get? place with
  | none => exact inStep
  | some session => exact (Session.release_heldBy (inStep.atPlace found)).1

theorem get?_close_self (sessions : Sessions) (place : Nat) :
    (sessions.close place).1.live.get? place = none := by
  rw [close]
  cases found : sessions.live.get? place with
  | none => exact found
  | some session => exact sessions.live.get?_remove_self place

theorem get?_close_other (sessions : Sessions) {place other : Nat}
    (different : other ≠ place) :
    (sessions.close place).1.live.get? other = sessions.live.get? other := by
  rw [close]
  cases found : sessions.live.get? place with
  | none => rfl
  | some session => exact sessions.live.get?_remove_other different

theorem InStep.perform {sessions : Sessions} (inStep : sessions.InStep)
    (step : Step) : (sessions.perform step).sessions.InStep := by
  cases step with
  | opening place id peer =>
      have closed := inStep.close place
      have held : (sessions.close place).1.registry.HeldBy
          ((Session.opened id peer).heldNames ++
            (sessions.close place).1.heldElsewhere place) := by
        rw [heldElsewhere,
          Numbered.remove_of_get?_none (sessions.get?_close_self place)]
        exact closed
      exact inStep_put held
  | greeting place =>
      simp only [Sessions.perform]
      split <;> exact inStep
  | line place text =>
      simp only [Sessions.perform]
      split
      · exact inStep
      · next session found =>
          exact inStep_put (Session.answer_heldBy (inStep.atPlace found) text)
  | command place command =>
      simp only [Sessions.perform]
      split
      · exact inStep
      · next session found =>
          exact inStep_put
            (Session.perform_heldBy (inStep.atPlace found) command)
  | release place =>
      simp only [Sessions.perform]
      split
      · exact inStep
      · next session found =>
          obtain ⟨held, nothing⟩ :=
            Session.release_heldBy (inStep.atPlace found)
          apply inStep_put
          rw [nothing]
          exact held
  | closing place => exact inStep.close place

/-! ## Whole runs -/

theorem inStep_start {records : List Account}
    (idle : ∀ record, record ∈ records → record.inSession = false) :
    (start (Registry.ofAccounts records).1).InStep :=
  Registry.heldBy_ofAccounts idle

theorem InStep.performAll {sessions : Sessions} (inStep : sessions.InStep)
    (steps : List Step) : (sessions.performAll steps).InStep := by
  induction steps generalizing sessions with
  | nil => exact inStep
  | cons step steps induction => exact induction (inStep.perform step)

theorem InStep.closeEach {sessions : Sessions} (inStep : sessions.InStep)
    (places : List Nat) : (sessions.closeEach places).1.InStep := by
  induction places generalizing sessions with
  | nil => exact inStep
  | cons place places induction => exact induction (inStep.close place)

theorem get?_closeEach (sessions : Sessions) (places : List Nat)
    (place : Nat) :
    (sessions.closeEach places).1.live.get? place =
      if place ∈ places then none else sessions.live.get? place := by
  induction places generalizing sessions with
  | nil => rfl
  | cons first places induction =>
      have later := induction (sessions.close first).1
      rw [closeEach]
      dsimp only
      rw [later]
      by_cases same : place = first
      · subst same
        simp [get?_close_self]
      · simp [same, get?_close_other sessions same]

theorem values_closeAll (sessions : Sessions) :
    sessions.closeAll.1.live.values = [] := by
  apply List.eq_nil_iff_forall_not_mem.mpr
  intro session member
  obtain ⟨place, found⟩ := Numbered.mem_values_iff.mp member
  rw [closeAll, get?_closeEach] at found
  split at found
  · cases found
  · next absent =>
      exact absent (Numbered.mem_numbers_iff.mpr ⟨session, found⟩)

/-! ## Counting owners -/

theorem length_holders (sessions : Sessions) (username : String) :
    (sessions.holders username).length =
      sessions.heldNames.count username := by
  simp only [holders, heldNames, Numbered.values, List.length_map]
  induction sessions.live.entries with
  | nil => rfl
  | cons entry entries induction =>
      rw [List.filter_cons, List.map_cons, List.flatMap_cons,
        List.count_append]
      cases state : entry.2.state with
      | unauthenticated =>
          simp [Session.heldNames_of_unauthenticated state, induction]
      | authenticated holder =>
          by_cases same : holder = username <;>
            simp [Session.heldNames_of_authenticated state, same, induction,
              Nat.add_comm]

theorem length_authenticated (sessions : Sessions) :
    sessions.authenticated.length = sessions.heldNames.length :=
  (Session.length_flatMap_heldNames sessions.live.values).symm

theorem mem_heldNames_of_state {sessions : Sessions} {place : Nat}
    {session : Session} {username : String}
    (found : sessions.live.get? place = some session)
    (state : session.state = .authenticated username) :
    username ∈ sessions.heldNames := by
  apply List.mem_flatMap.mpr
  refine ⟨session, Numbered.mem_values_iff.mpr ⟨place, found⟩, ?_⟩
  rw [Session.heldNames_of_authenticated state]
  exact List.mem_cons_self

/-- An account never has two owners.  Whatever sessions do that share a
registry in which nobody was in session: a name is in session just if one live
session is authenticated as it, no name has two such sessions, only accounts
that are not banned have one, and as many accounts are in session as live
sessions are authenticated; none is when all sessions have ended. -/
theorem performAll_single_owner {records : List Account}
    (idle : ∀ record, record ∈ records → record.inSession = false)
    (steps : List Step) :
    let sessions :=
      (start (Registry.ofAccounts records).1).performAll steps
    (∀ username, (sessions.holders username).length ≤ 1) ∧
      (∀ username, sessions.registry.inSession? username = some true ↔
        (sessions.holders username).length = 1) ∧
      (∀ place session username,
        sessions.live.get? place = some session →
        session.state = .authenticated username →
        ∃ account, sessions.registry.find? username = some account ∧
          account.status = .active) ∧
      sessions.registry.activeCount = sessions.authenticated.length ∧
      (sessions.live.values = [] → sessions.registry.activeCount = 0) ∧
      sessions.closeAll.1.live.values = [] ∧
      sessions.closeAll.1.registry.activeCount = 0 := by
  intro sessions
  have inStep : sessions.InStep := (inStep_start idle).performAll steps
  have closed : sessions.closeAll.1.InStep := inStep.closeEach _
  have nobody (others : Sessions) (kept : others.InStep)
      (empty : others.live.values = []) :
      others.registry.activeCount = 0 := by
    rw [kept.activeCount, heldNames, empty]
    rfl
  have atMostOne : ∀ username, (sessions.holders username).length ≤ 1 := by
    intro username
    rw [length_holders]
    exact List.nodup_iff_count_le_one.mp inStep.nodup username
  refine ⟨atMostOne, ?_, ?_, ?_, nobody sessions inStep,
    sessions.values_closeAll, nobody _ closed sessions.values_closeAll⟩
  · intro username
    rw [inStep.inSession?_iff, ← List.count_pos_iff, ← length_holders]
    have bound := atMostOne username
    omega
  · intro place session username found state
    exact inStep.exists_account (mem_heldNames_of_state found state)
  · rw [inStep.activeCount, length_authenticated]

/-- One session logs in, another one tries to, and succeeds once the first has
let go; a second release of the first session does not disturb it. -/
theorem single_owner_of_takeover :
    let peer : Address := .v4 ⟨127, 0, 0, 1⟩ 40000
    let records := [Account.idle "alice" .active, Account.idle "bob" .banned]
    let steps : List Step :=
      [.opening 0 1 peer, .opening 1 2 peer, .line 0 "USER alice",
        .command 1 (.user "alice"), .release 0, .command 1 (.user "alice"),
        .release 0]
    let sessions :=
      (start (Registry.ofAccounts records).1).performAll steps
    (∀ record, record ∈ records → record.inSession = false) ∧
      sessions.holders "alice" = [1] ∧
      (sessions.registry.inSession? "alice" = some true ↔
        (sessions.holders "alice").length = 1) ∧
      sessions.registry.activeCount = sessions.authenticated.length := by
  intro peer records steps sessions
  have idle : ∀ record, record ∈ records → record.inSession = false := by
    decide
  have owner := performAll_single_owner idle steps
  exact ⟨idle, by decide, owner.2.1 "alice", owner.2.2.2.1⟩

end LoginServer.Sessions
