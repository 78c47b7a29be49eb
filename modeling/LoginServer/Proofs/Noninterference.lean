import LoginServer.Proofs.RegistryLocality
import LoginServer.Proofs.SingleOwnership

/-!
# Sessions on different accounts do not interfere

Sessions share nothing but the registry, and each of them is about the names in
its own commands only.  Sessions at some of the places, whose names the others
do not use, can therefore not tell whether the others are there: `Alike`
relates the run of all sessions to the run of theirs alone, and every step
preserves it (`Alike.perform_inside`, `Alike.perform_outside`).
-/

namespace LoginServer.Sessions

def Step.place : Step → Nat
  | .opening place _ _ | .greeting place | .line place _ | .command place _
  | .release place | .closing place => place

/-- The names that a step would log in. -/
def Step.names : Step → List String
  | .line _ text => (Command.parse text).names
  | .command _ request => request.names
  | _ => []

/-- What a step brings about for the session at its place. -/
structure View where
  reply : Option Reply
  session : Option Session
  exchanges : List Exchange
  notices : List Notice
  deriving DecidableEq, Repr

def Effect.viewAt (effect : Effect) (place : Nat) : View :=
  { reply := effect.reply
    session := effect.sessions.live.get? place
    exchanges := effect.exchanges
    notices := effect.notices }

/-- What can be seen of the steps at the given places, in order. -/
def viewsAt (sessions : Sessions) (inside : Nat → Bool) :
    List Step → List View
  | [] => []
  | step :: steps =>
      let effect := sessions.perform step
      let later := effect.sessions.viewsAt inside steps
      if inside step.place then effect.viewAt step.place :: later else later

/-! ## Two runs -/

/-- The sessions at the given places are the same in both runs, they hold names
of a kind that no other session holds, and the registries agree on those
names. -/
structure Alike (inside : Nat → Bool) (kind : String → Prop)
    (joint alone : Sessions) : Prop where
  registry : joint.registry.AgreeOn kind alone.registry
  live : ∀ place, inside place = true →
    joint.live.get? place = alone.live.get? place
  held : ∀ place session, joint.live.get? place = some session →
    ∀ name ∈ session.heldNames, inside place = true ↔ kind name

namespace Alike

variable {inside : Nat → Bool} {kind : String → Prop}
  {joint alone : Sessions} {left right : Registry} {place : Nat}

theorem start (inside : Nat → Bool) (kind : String → Prop)
    (registry : Registry) :
    Alike inside kind (start registry) (start registry) := by
  constructor
  · exact fun _ _ => rfl
  · exact fun _ _ => rfl
  · intro place session found
    cases found

theorem held_put (alike : Alike inside kind joint alone) {session : Session}
    (held : ∀ name ∈ session.heldNames, inside place = true ↔ kind name)
    (other : Nat) (kept : Session)
    (found : (joint.live.put place session).get? other = some kept) :
    ∀ name ∈ kept.heldNames, inside other = true ↔ kind name := by
  by_cases here : other = place
  · subst here
    rw [Numbered.get?_put_self] at found
    cases found
    exact held
  · rw [Numbered.get?_put_other _ _ here] at found
    exact alike.held other kept found

theorem put_inside (alike : Alike inside kind joint alone)
    (agree : left.AgreeOn kind right) (isInside : inside place = true)
    (session : Session) (held : ∀ name ∈ session.heldNames, kind name) :
    Alike inside kind
      { registry := left, live := joint.live.put place session }
      { registry := right, live := alone.live.put place session } := by
  refine ⟨agree, ?_, alike.held_put ?_⟩
  · intro other otherInside
    by_cases here : other = place
    · subst here
      rw [Numbered.get?_put_self, Numbered.get?_put_self]
    · rw [Numbered.get?_put_other _ _ here, Numbered.get?_put_other _ _ here]
      exact alike.live other otherInside
  · intro name holds
    exact iff_of_true isInside (held name holds)

theorem put_outside (alike : Alike inside kind joint alone)
    (agree : left.AgreeOn kind alone.registry)
    (isOutside : ¬inside place = true) (session : Session)
    (held : ∀ name ∈ session.heldNames, ¬kind name) :
    Alike inside kind
      { registry := left, live := joint.live.put place session } alone := by
  refine ⟨agree, ?_, alike.held_put ?_⟩
  · intro other otherInside
    have different : other ≠ place := by
      rintro rfl
      exact isOutside otherInside
    rw [Numbered.get?_put_other _ _ different]
    exact alike.live other otherInside
  · intro name holds
    exact iff_of_false isOutside (held name holds)

theorem held_inside (alike : Alike inside kind joint alone)
    (isInside : inside place = true) {session : Session}
    (found : joint.live.get? place = some session) :
    ∀ name ∈ session.heldNames, kind name :=
  fun name holds => (alike.held place session found name holds).mp isInside

theorem held_outside (alike : Alike inside kind joint alone)
    (isOutside : ¬inside place = true) {session : Session}
    (found : joint.live.get? place = some session) :
    ∀ name ∈ session.heldNames, ¬kind name :=
  fun name holds ofKind =>
    isOutside ((alike.held place session found name holds).mpr ofKind)

theorem held_close (alike : Alike inside kind joint alone)
    (place other : Nat) (session : Session)
    (found : (joint.close place).1.live.get? other = some session) :
    ∀ name ∈ session.heldNames, inside other = true ↔ kind name := by
  by_cases here : other = place
  · subst here
    rw [get?_close_self] at found
    cases found
  · rw [get?_close_other _ here] at found
    exact alike.held other session found

theorem close_inside (alike : Alike inside kind joint alone)
    (isInside : inside place = true) :
    Alike inside kind (joint.close place).1 (alone.close place).1 ∧
      (joint.close place).2 = (alone.close place).2 := by
  have same := alike.live place isInside
  have live : ∀ other, inside other = true →
      (joint.close place).1.live.get? other =
        (alone.close place).1.live.get? other := by
    intro other otherInside
    by_cases here : other = place
    · subst here
      rw [get?_close_self, get?_close_self]
    · rw [get?_close_other _ here, get?_close_other _ here]
      exact alike.live other otherInside
  cases found : joint.live.get? place with
  | none =>
      rw [found] at same
      refine ⟨⟨?_, live, alike.held_close place⟩, ?_⟩
      · simp only [close, found, ← same]
        exact alike.registry
      · simp only [close, found, ← same]
  | some session =>
      rw [found] at same
      obtain ⟨_session, agree, notices⟩ := Session.release_agrees
        alike.registry (alike.held_inside isInside found)
      refine ⟨⟨?_, live, alike.held_close place⟩, ?_⟩
      · simp only [close, found, ← same]
        exact agree
      · simp only [close, found, ← same]
        exact notices

theorem close_outside (alike : Alike inside kind joint alone)
    (isOutside : ¬inside place = true) :
    Alike inside kind (joint.close place).1 alone := by
  refine ⟨?_, ?_, alike.held_close place⟩
  · rw [close]
    cases found : joint.live.get? place with
    | none => exact alike.registry
    | some session =>
        exact Session.release_apart alike.registry
          (alike.held_outside isOutside found)
  · intro other otherInside
    have different : other ≠ place := by
      rintro rfl
      exact isOutside otherInside
    rw [get?_close_other _ different]
    exact alike.live other otherInside

/-! ## One step -/

theorem viewAt_eq {first second : Effect}
    (alike : Alike inside kind first.sessions second.sessions)
    (isInside : inside place = true) (reply : first.reply = second.reply)
    (exchanges : first.exchanges = second.exchanges)
    (notices : first.notices = second.notices) :
    first.viewAt place = second.viewAt place := by
  have session := alike.live place isInside
  simp only [Effect.viewAt, reply, session, exchanges, notices]

theorem command_inside (alike : Alike inside kind joint alone)
    (isInside : inside place = true) {session : Session}
    (found : joint.live.get? place = some session) {command : Command}
    (named : ∀ name ∈ command.names, kind name) :
    let first := session.perform joint.registry command
    let second := session.perform alone.registry command
    first.Agree kind second ∧
      Alike inside kind
        { registry := first.registry
          live := joint.live.put place first.session }
        { registry := second.registry
          live := alone.live.put place second.session } := by
  intro first second
  have holds := alike.held_inside isInside found
  have agree : first.Agree kind second :=
    Session.perform_agrees alike.registry holds named
  refine ⟨agree, ?_⟩
  rw [← agree.session]
  apply alike.put_inside agree.registry isInside
  exact Session.forall_heldNames_perform holds named joint.registry

theorem command_outside (alike : Alike inside kind joint alone)
    (isOutside : ¬inside place = true) {session : Session}
    (found : joint.live.get? place = some session) {command : Command}
    (named : ∀ name ∈ command.names, ¬kind name) :
    let turn := session.perform joint.registry command
    Alike inside kind
      { registry := turn.registry, live := joint.live.put place turn.session }
      alone := by
  have holds := alike.held_outside isOutside found
  have agree := Session.perform_apart alike.registry holds named
  apply alike.put_outside agree isOutside
  exact Session.forall_heldNames_perform holds named joint.registry

theorem perform_inside (alike : Alike inside kind joint alone) (step : Step)
    (isInside : inside step.place = true)
    (named : ∀ name ∈ step.names, kind name) :
    (joint.perform step).viewAt step.place =
        (alone.perform step).viewAt step.place ∧
      Alike inside kind (joint.perform step).sessions
        (alone.perform step).sessions := by
  have same := alike.live step.place isInside
  cases step with
  | opening place id peer =>
      obtain ⟨closed, notices⟩ := alike.close_inside isInside
      have after := closed.put_inside closed.registry isInside
        (.opened id peer) (Session.forall_heldNames_opened id peer)
      exact ⟨viewAt_eq after isInside rfl rfl notices, after⟩
  | greeting place =>
      change joint.live.get? place = alone.live.get? place at same
      rw [Sessions.perform, Sessions.perform, ← same]
      cases joint.live.get? place with
      | none => exact ⟨viewAt_eq alike isInside rfl rfl rfl, alike⟩
      | some session => exact ⟨viewAt_eq alike isInside rfl rfl rfl, alike⟩
  | line place text =>
      change joint.live.get? place = alone.live.get? place at same
      rw [Sessions.perform, Sessions.perform, ← same]
      cases found : joint.live.get? place with
      | none => exact ⟨viewAt_eq alike isInside rfl rfl rfl, alike⟩
      | some session =>
          obtain ⟨agree, after⟩ := alike.command_inside isInside found named
          have exchanges : [(session.answer joint.registry text).2] =
              [(session.answer alone.registry text).2] := by
            simp only [Session.answer, agree.reply]
          have notices := congrArg
            (Notice.commandReceived session.id (Command.parse text).keyword
              session.peer :: ·) agree.notices
          exact ⟨viewAt_eq after isInside (congrArg some agree.reply) exchanges
            notices, after⟩
  | command place request =>
      change joint.live.get? place = alone.live.get? place at same
      rw [Sessions.perform, Sessions.perform, ← same]
      cases found : joint.live.get? place with
      | none => exact ⟨viewAt_eq alike isInside rfl rfl rfl, alike⟩
      | some session =>
          obtain ⟨agree, after⟩ := alike.command_inside isInside found named
          exact ⟨viewAt_eq after isInside (congrArg some agree.reply) rfl
            agree.notices, after⟩
  | release place =>
      change joint.live.get? place = alone.live.get? place at same
      rw [Sessions.perform, Sessions.perform, ← same]
      cases found : joint.live.get? place with
      | none => exact ⟨viewAt_eq alike isInside rfl rfl rfl, alike⟩
      | some session =>
          obtain ⟨session', agree, notices⟩ := Session.release_agrees
            alike.registry (alike.held_inside isInside found)
          have after := alike.put_inside agree isInside _
            (session.forall_heldNames_release joint.registry)
          dsimp only
          rw [← session']
          exact ⟨viewAt_eq after isInside rfl rfl notices, after⟩
  | closing place =>
      obtain ⟨closed, notices⟩ := alike.close_inside isInside
      exact ⟨viewAt_eq closed isInside rfl rfl notices, closed⟩

theorem perform_outside (alike : Alike inside kind joint alone) (step : Step)
    (isOutside : ¬inside step.place = true)
    (named : ∀ name ∈ step.names, ¬kind name) :
    Alike inside kind (joint.perform step).sessions alone := by
  cases step with
  | opening place id peer =>
      have closed := alike.close_outside isOutside
      exact closed.put_outside closed.registry isOutside
        (.opened id peer) (Session.forall_heldNames_opened id peer)
  | greeting place =>
      rw [Sessions.perform]
      split <;> exact alike
  | line place text =>
      rw [Sessions.perform]
      split
      · exact alike
      · next session found =>
          exact alike.command_outside isOutside found named
  | command place request =>
      rw [Sessions.perform]
      split
      · exact alike
      · next session found =>
          exact alike.command_outside isOutside found named
  | release place =>
      rw [Sessions.perform]
      split
      · exact alike
      · next session found =>
          have agree := Session.release_apart alike.registry
            (alike.held_outside isOutside found)
          exact alike.put_outside agree isOutside _
            (session.forall_heldNames_release joint.registry)
  | closing place => exact alike.close_outside isOutside

/-! ## Whole runs -/

theorem run (alike : Alike inside kind joint alone) {steps : List Step}
    (named : ∀ step ∈ steps, ∀ name ∈ step.names,
      inside step.place = true ↔ kind name) :
    let own := steps.filter fun step => inside step.place
    joint.viewsAt inside steps = alone.viewsAt inside own ∧
      Alike inside kind (joint.performAll steps) (alone.performAll own) := by
  -- Both runs go on together at a step inside; at a step outside only the
  -- joint one does, so the registries need not be the same.
  induction steps generalizing joint alone with
  | nil => exact ⟨rfl, alike⟩
  | cons step steps induction =>
      have namedHere := named step List.mem_cons_self
      have namedLater : ∀ later ∈ steps, ∀ name ∈ later.names,
          inside later.place = true ↔ kind name :=
        fun later member => named later (List.mem_cons_of_mem _ member)
      by_cases isInside : inside step.place = true
      · obtain ⟨view, after⟩ := alike.perform_inside step isInside
          fun name names => (namedHere name names).mp isInside
        obtain ⟨views, final⟩ := induction after namedLater
        simp only [List.filter_cons, isInside, if_true, viewsAt]
        exact ⟨congrArg₂ List.cons view views, final⟩
      · have after := alike.perform_outside step isInside
          fun name names ofKind => isInside ((namedHere name names).mpr ofKind)
        obtain ⟨views, final⟩ := induction after namedLater
        simp only [List.filter_cons, isInside, viewsAt]
        exact ⟨views, final⟩

end Alike

/-- What sessions inside see, and what the registry knows in the end of names
that nobody outside logs in, does not depend on the sessions outside. -/
theorem alike_performAll (registry : Registry) {inside : Nat → Bool}
    {steps : List Step}
    (apart : ∀ own ∈ steps, inside own.place = true →
      ∀ other ∈ steps, ¬inside other.place = true →
        ∀ name ∈ own.names, name ∉ other.names) :
    let own := steps.filter fun step => inside step.place
    let kind (name : String) : Prop :=
      ∀ other ∈ steps, ¬inside other.place = true → name ∉ other.names
    (start registry).viewsAt inside steps =
        (start registry).viewsAt inside own ∧
      Alike inside kind ((start registry).performAll steps)
        ((start registry).performAll own) := by
  intro own kind
  apply (Alike.start inside kind registry).run
  intro step member name names
  by_cases isInside : inside step.place = true
  · refine iff_of_true isInside ?_
    intro other otherMember isOutside
    exact apart step member isInside other otherMember isOutside name names
  · refine iff_of_false isInside ?_
    intro ofKind
    exact ofKind step member isInside names

/-- Sessions do not interfere unless they log in the same names.  Whatever the
sessions at other places do in between, the session at a place is answered,
goes on and is recorded as if its steps were carried out alone; and an account
that it never names is in the end in session just if it would be without
it. -/
theorem performAll_noninterfering (registry : Registry) {place : Nat}
    {steps : List Step}
    (apart : ∀ own ∈ steps, own.place = place →
      ∀ other ∈ steps, other.place ≠ place →
        ∀ name ∈ own.names, name ∉ other.names) :
    let isOwn (other : Nat) : Bool := other = place
    let own := steps.filter fun step => step.place = place
    let others := steps.filter fun step => step.place ≠ place
    let joint := (start registry).performAll steps
    (start registry).viewsAt isOwn steps =
        (start registry).viewsAt isOwn own ∧
      joint.live.get? place =
        ((start registry).performAll own).live.get? place ∧
      ∀ name, (∀ step ∈ own, name ∉ step.names) →
        joint.registry.inSession? name =
          ((start registry).performAll others).registry.inSession? name := by
  intro isOwn own others joint
  let isOther (other : Nat) : Bool := other ≠ place
  have apartOwn : ∀ own ∈ steps, isOwn own.place = true →
      ∀ other ∈ steps, ¬isOwn other.place = true →
        ∀ name ∈ own.names, name ∉ other.names := by
    intro own member here other otherMember notHere
    exact apart own member (of_decide_eq_true here) other otherMember
      fun same => notHere (decide_eq_true same)
  have apartOther : ∀ other ∈ steps, isOther other.place = true →
      ∀ own ∈ steps, ¬isOther own.place = true →
        ∀ name ∈ other.names, name ∉ own.names := by
    intro other member elsewhere own ownMember notElsewhere name names ownNames
    have here : own.place = place := by simpa [isOther] using notElsewhere
    exact apart own ownMember here other member (of_decide_eq_true elsewhere)
      name ownNames names
  obtain ⟨views, alikeOwn⟩ := alike_performAll registry apartOwn
  obtain ⟨_views, alikeOthers⟩ := alike_performAll registry apartOther
  refine ⟨views, alikeOwn.live place (decide_eq_true rfl), ?_⟩
  intro name unnamed
  have known : joint.registry.find? name =
      ((start registry).performAll others).registry.find? name := by
    apply alikeOthers.registry
    intro step member notElsewhere
    apply unnamed
    exact List.mem_filter.mpr ⟨member, by simpa [isOther] using notElsewhere⟩
  exact congrArg (Option.map Account.inSession) known

/-- While one session logs in, out and in again, another one takes an account,
loses it by a release and takes it again, and ends; a third one asks for the
same account in vain. -/
theorem noninterfering_of_three_sessions :
    let peer : Address := .v4 ⟨127, 0, 0, 1⟩ 40000
    let records := [Account.idle "alice" .active, Account.idle "bob" .active]
    let registry := (Registry.ofAccounts records).1
    let steps : List Step :=
      [.opening 0 1 peer, .opening 1 2 peer, .opening 2 3 peer,
        .line 0 "USER alice", .line 1 "USER bob", .line 2 "USER bob",
        .release 1, .line 0 "BYE", .line 1 "USER bob", .line 0 "USER alice",
        .closing 1, .line 0 "POST text"]
    let isOwn (other : Nat) : Bool := other = 0
    let own := steps.filter fun step => step.place = 0
    let others := steps.filter fun step => step.place ≠ 0
    let joint := (start registry).performAll steps
    (start registry).viewsAt isOwn steps =
        (start registry).viewsAt isOwn own ∧
      ((start registry).viewsAt isOwn own).filterMap View.reply =
        [.loginSuccess, .logoutSuccess, .loginSuccess, .postAccepted] ∧
      joint.registry.inSession? "alice" = some true ∧
      joint.registry.inSession? "bob" =
        ((start registry).performAll others).registry.inSession? "bob" := by
  intro peer records registry steps isOwn own others joint
  have apart : ∀ own ∈ steps, own.place = 0 →
      ∀ other ∈ steps, other.place ≠ 0 →
        ∀ name ∈ own.names, name ∉ other.names := by
    decide +kernel
  have unnamed : ∀ step ∈ own, "bob" ∉ step.names := by decide +kernel
  obtain ⟨views, _live, flags⟩ := performAll_noninterfering registry apart
  exact ⟨views, by decide +kernel, by decide +kernel, flags "bob" unnamed⟩

end LoginServer.Sessions
