import LoginServer.Proofs.DirectoryRecords

/-!
# What a registry knows of a name

Logging in and out reads and changes what a registry knows of one name.
Registries that agree on that name therefore answer alike and go on agreeing,
and what they know of any other name stays as it is.  A session is about the
name that it holds and the name in its command (`Session.perform_agrees`,
`Session.perform_apart`).
-/

namespace LoginServer

/-- The name that a command would log in. -/
def Command.names : Command → List String
  | .user name => [name]
  | _ => []

namespace Registry

/-- Two registries know the same of all names of a kind. -/
def AgreeOn (kind : String → Prop) (left right : Registry) : Prop :=
  ∀ name, kind name → left.find? name = right.find? name

/-! ## One name -/

section Marking

variable {registry : Registry} {username : String} {account : Account}

theorem find?_mark (found : registry.find? username = some account)
    (inSession : Bool) (other : String) :
    (registry.mark account inSession).find? other =
      if username = other then some { account with inSession }
      else registry.find? other := by
  obtain ⟨member, rfl⟩ := find?_eq_some_iff.mp found
  let marked : Account := { account with inSession }
  have taken : marked.username ∈ registry.accounts.map Account.username :=
    List.mem_map.mpr ⟨account, member, rfl⟩
  exact find?_replaceIn taken other

theorem find?_mark_self (found : registry.find? username = some account)
    (inSession : Bool) :
    (registry.mark account inSession).find? username =
      some { account with inSession } :=
  (find?_mark found inSession username).trans (if_pos rfl)

theorem find?_mark_other (found : registry.find? username = some account)
    (inSession : Bool) {other : String} (different : other ≠ username) :
    (registry.mark account inSession).find? other = registry.find? other :=
  (find?_mark found inSession other).trans (if_neg different.symm)

end Marking

theorem find?_login_other (registry : Registry) {username other : String}
    (different : other ≠ username) :
    (registry.login username).2.1.find? other = registry.find? other := by
  rcases attempt : registry.login username with ⟨result, next, notices⟩
  by_cases success : result = .success
  · subst success
    obtain ⟨account, found, _free, _active, rfl⟩ := login_success attempt
    exact find?_mark_other found true different
  · have kept : (registry.login username).2.1 = registry := by
      apply login_failure
      rwa [attempt]
    rw [attempt] at kept
    exact congrArg (find? · other) kept

theorem find?_logout_other (registry : Registry) {username other : String}
    (different : other ≠ username) :
    (registry.logout username).1.find? other = registry.find? other := by
  rw [logout]
  cases found : registry.find? username with
  | none => rfl
  | some account =>
      dsimp only
      split
      · exact find?_mark_other found false different
      · rfl

theorem login_congr {left right : Registry} {username : String}
    (same : left.find? username = right.find? username) :
    let first := left.login username
    let second := right.login username
    first.1 = second.1 ∧ first.2.2 = second.2.2 ∧
      first.2.1.find? username = second.2.1.find? username := by
  simp only [login]
  cases found : right.find? username with
  | none =>
      rw [found] at same
      rw [same]
      exact ⟨rfl, rfl, same.trans found.symm⟩
  | some account =>
      rw [found] at same
      rw [same]
      dsimp only
      split
      · exact ⟨rfl, rfl, same.trans found.symm⟩
      · split
        · exact ⟨rfl, rfl, same.trans found.symm⟩
        · exact ⟨rfl, rfl,
            (find?_mark_self same true).trans
              (find?_mark_self found true).symm⟩

theorem logout_congr {left right : Registry} {username : String}
    (same : left.find? username = right.find? username) :
    let first := left.logout username
    let second := right.logout username
    first.2 = second.2 ∧
      first.1.find? username = second.1.find? username := by
  simp only [logout]
  cases found : right.find? username with
  | none =>
      rw [found] at same
      rw [same]
      exact ⟨rfl, same.trans found.symm⟩
  | some account =>
      rw [found] at same
      rw [same]
      dsimp only
      split
      · exact ⟨rfl,
          (find?_mark_self same false).trans
            (find?_mark_self found false).symm⟩
      · exact ⟨rfl, same.trans found.symm⟩

/-! ## Names of a kind -/

namespace AgreeOn

variable {kind : String → Prop} {left right : Registry} {username : String}

theorem login (agree : AgreeOn kind left right) (isOne : kind username) :
    AgreeOn kind (left.login username).2.1 (right.login username).2.1 := by
  intro name ofKind
  by_cases same : name = username
  · subst same
    exact (login_congr (agree name isOne)).2.2
  · rw [find?_login_other left same, find?_login_other right same]
    exact agree name ofKind

theorem login_apart (agree : AgreeOn kind left right)
    (isNone : ¬kind username) :
    AgreeOn kind (left.login username).2.1 right := by
  intro name ofKind
  have different : name ≠ username := by
    rintro rfl
    exact isNone ofKind
  exact (find?_login_other left different).trans (agree name ofKind)

theorem logout (agree : AgreeOn kind left right) (isOne : kind username) :
    AgreeOn kind (left.logout username).1 (right.logout username).1 := by
  intro name ofKind
  by_cases same : name = username
  · subst same
    exact (logout_congr (agree name isOne)).2
  · rw [find?_logout_other left same, find?_logout_other right same]
    exact agree name ofKind

theorem logout_apart (agree : AgreeOn kind left right)
    (isNone : ¬kind username) :
    AgreeOn kind (left.logout username).1 right := by
  intro name ofKind
  have different : name ≠ username := by
    rintro rfl
    exact isNone ofKind
  exact (find?_logout_other left different).trans (agree name ofKind)

end AgreeOn
end Registry

/-- Two turns come to the same, as far as names of a kind are concerned. -/
structure Turn.Agree (kind : String → Prop) (left right : Turn) : Prop where
  reply : left.reply = right.reply
  session : left.session = right.session
  notices : left.notices = right.notices
  registry : left.registry.AgreeOn kind right.registry

namespace Session

open Registry

variable {kind : String → Prop} {left right : Registry} {session : Session}

/-! ## Sessions -/

theorem heldNames_perform (session : Session) (registry : Registry)
    (command : Command) :
    (session.perform registry command).session.heldNames ⊆
      session.heldNames ++ command.names := by
  rcases session.perform_cases registry command with
    ⟨session', _registry⟩ |
      ⟨username, notices, _state, rfl, _success, session'⟩ |
      ⟨username, _state, rfl, _registry, session'⟩
  · rw [session']
    exact List.subset_append_left _ _
  · rw [session']
    exact List.subset_append_right _ _
  · rw [session']
    exact List.nil_subset _

theorem forall_heldNames_perform {command : Command} {kind : String → Prop}
    (held : ∀ name ∈ session.heldNames, kind name)
    (named : ∀ name ∈ command.names, kind name) (registry : Registry) :
    ∀ name ∈ (session.perform registry command).session.heldNames,
      kind name := by
  intro name holds
  have source := session.heldNames_perform registry command holds
  rcases List.mem_append.mp source with before | given
  · exact held name before
  · exact named name given

theorem forall_heldNames_opened {kind : String → Prop} (id : UInt64)
    (peer : Address) : ∀ name ∈ (opened id peer).heldNames, kind name := by
  intro name holds
  cases holds

theorem forall_heldNames_release {kind : String → Prop} (session : Session)
    (registry : Registry) :
    ∀ name ∈ (session.release registry).session.heldNames, kind name := by
  have nothing : (session.release registry).session.heldNames = [] := by
    rcases session.release_cases registry with
      ⟨state, unchanged⟩ | ⟨username, _state, session', _registry⟩
    · rw [unchanged]
      exact heldNames_of_unauthenticated state
    · rw [session']
      rfl
  intro name holds
  rw [nothing] at holds
  cases holds

theorem release_agrees (agree : AgreeOn kind left right)
    (held : ∀ name ∈ session.heldNames, kind name) :
    (session.release left).session = (session.release right).session ∧
      AgreeOn kind (session.release left).registry
        (session.release right).registry ∧
      (session.release left).notices = (session.release right).notices := by
  cases state : session.state with
  | unauthenticated =>
      simp only [release, state]
      exact ⟨trivial, agree, trivial⟩
  | authenticated username =>
      have isOne : kind username := by
        apply held
        rw [heldNames_of_authenticated state]
        exact List.mem_singleton_self username
      have notices := (logout_congr (agree username isOne)).1
      simp only [release, state]
      exact ⟨trivial, agree.logout isOne, congrArg (· ++ _) notices⟩

theorem release_apart (agree : AgreeOn kind left right)
    (held : ∀ name ∈ session.heldNames, ¬kind name) :
    AgreeOn kind (session.release left).registry right := by
  rcases session.release_cases left with
    ⟨_state, unchanged⟩ | ⟨username, state, _session, registry'⟩
  · rw [unchanged]
    exact agree
  · rw [registry']
    apply agree.logout_apart
    apply held
    rw [heldNames_of_authenticated state]
    exact List.mem_singleton_self username

theorem logIn_agrees (agree : AgreeOn kind left right) {username : String}
    (isOne : kind username) :
    (session.logIn left username).Agree kind
      (session.logIn right username) := by
  have after := agree.login isOne
  obtain ⟨result, notices, _known⟩ := login_congr (agree username isOne)
  rw [logIn, logIn]
  generalize left.login username = first at result notices after ⊢
  generalize right.login username = second at result notices after ⊢
  obtain ⟨outcome, next, told⟩ := first
  obtain ⟨_outcome, other, _told⟩ := second
  subst result notices
  cases outcome <;> exact ⟨rfl, rfl, rfl, after⟩

theorem perform_agrees (agree : AgreeOn kind left right) {command : Command}
    (held : ∀ name ∈ session.heldNames, kind name)
    (named : ∀ name ∈ command.names, kind name) :
    (session.perform left command).Agree kind
      (session.perform right command) := by
  cases command with
  | user username =>
      cases state : session.state with
      | authenticated holder =>
          simp only [perform, state]
          exact ⟨rfl, rfl, rfl, agree⟩
      | unauthenticated =>
          simp only [perform, state]
          exact logIn_agrees agree (named username List.mem_cons_self)
  | bye =>
      cases state : session.state with
      | unauthenticated =>
          simp only [perform, state]
          exact ⟨rfl, rfl, rfl, agree⟩
      | authenticated holder =>
          obtain ⟨session', registry', notices⟩ :=
            release_agrees agree held
          simp only [perform, state]
          exact ⟨rfl, session', notices, registry'⟩
  | post text =>
      cases state : session.state <;>
        simp only [perform, state] <;> exact ⟨rfl, rfl, rfl, agree⟩
  | unknown line => exact ⟨rfl, rfl, rfl, agree⟩

theorem perform_apart (agree : AgreeOn kind left right) {command : Command}
    (held : ∀ name ∈ session.heldNames, ¬kind name)
    (named : ∀ name ∈ command.names, ¬kind name) :
    AgreeOn kind (session.perform left command).registry right := by
  rcases session.perform_cases left command with
    ⟨_session, registry'⟩ |
      ⟨username, notices, _state, rfl, success, _session⟩ |
      ⟨username, state, rfl, registry', _session⟩
  · rw [registry']
    exact agree
  · have after := agree.login_apart (named username List.mem_cons_self)
    rwa [success] at after
  · rw [registry']
    apply agree.logout_apart
    apply held
    rw [heldNames_of_authenticated state]
    exact List.mem_singleton_self username

end Session
end LoginServer
