import Mathlib.Data.List.Nodup
import LoginServer.Session

/-!
# Which names hold their accounts

`Registry.HeldBy` lists the names whose accounts are in session, each once.  A
login that succeeds adds a name to the list and a logout takes one away;
nothing else changes it.  A session adds and removes only the name that it
holds, whatever other sessions hold (`Session.perform_heldBy`).
-/

namespace LoginServer

namespace Registry

/-- The names of the accounts in session, in order. -/
def activeNames (registry : Registry) : List String :=
  registry.active.map Account.username

/-- The accounts in session are those of the given names, each once, and none of
them is banned. -/
structure HeldBy (registry : Registry) (names : List String) : Prop where
  names : registry.activeNames.Perm names
  allowed : ∀ account, account ∈ registry.accounts →
    account.inSession = true → account.status = .active

/-! ## Looking accounts up -/

theorem find?_eq_some_iff {registry : Registry} {username : String}
    {account : Account} :
    registry.find? username = some account ↔
      account ∈ registry.accounts ∧ account.username = username := by
  constructor
  · intro found
    have named := List.find?_some found
    exact ⟨List.mem_of_find?_eq_some found, by simpa using named⟩
  · rintro ⟨member, rfl⟩
    cases result : registry.find? account.username with
    | none =>
        have absent := List.find?_eq_none.mp result account member
        simp at absent
    | some other =>
        have otherMember := List.mem_of_find?_eq_some result
        have named := List.find?_some result
        have same : other = account :=
          List.inj_on_of_nodup_map registry.distinct otherMember member
            (by simpa using named)
        rw [same]

theorem mem_activeNames_iff {registry : Registry} {username : String} :
    username ∈ registry.activeNames ↔
      registry.inSession? username = some true := by
  rw [activeNames, inSession?]
  constructor
  · intro member
    obtain ⟨account, isActive, named⟩ := List.mem_map.mp member
    obtain ⟨known, inSession⟩ := List.mem_filter.mp isActive
    rw [find?_eq_some_iff.mpr ⟨known, named⟩, Option.map_some, inSession]
  · intro inSession
    obtain ⟨account, found, flag⟩ := Option.map_eq_some_iff.mp inSession
    obtain ⟨known, named⟩ := find?_eq_some_iff.mp found
    exact List.mem_map.mpr ⟨account, List.mem_filter.mpr ⟨known, flag⟩, named⟩

theorem nodup_activeNames (registry : Registry) :
    registry.activeNames.Nodup :=
  registry.distinct.sublist (List.filter_sublist.map Account.username)

/-! ## Marking accounts -/

private theorem replaceIn_of_absent {replacement : Account}
    {accounts : List Account}
    (absent : replacement.username ∉ accounts.map Account.username) :
    replaceIn replacement accounts = accounts := by
  have unchanged : ∀ account, account ∈ accounts →
      (if account.username = replacement.username then replacement
        else account) = account := by
    intro account member
    have different : account.username ≠ replacement.username := by
      intro same
      exact absent (same ▸ List.mem_map_of_mem member)
    rw [if_neg different]
  rw [replaceIn, List.map_congr_left unchanged, List.map_id']

/-- Marking an account changes its flag where it stands and nothing else. -/
theorem exists_accounts_mark {registry : Registry} {username : String}
    {account : Account} (found : registry.find? username = some account) :
    ∃ front back, registry.accounts = front ++ account :: back ∧
      ∀ inSession, (registry.mark account inSession).accounts =
        front ++ { account with inSession } :: back := by
  obtain ⟨member, _named⟩ := find?_eq_some_iff.mp found
  obtain ⟨front, back, parts⟩ := List.append_of_mem member
  have distinct := registry.distinct
  rw [parts, List.map_append, List.map_cons] at distinct
  obtain ⟨_front, behind, apart⟩ := List.nodup_append.mp distinct
  have notInFront : account.username ∉ front.map Account.username := by
    intro early
    exact apart _ early _ List.mem_cons_self rfl
  have notInBack : account.username ∉ back.map Account.username :=
    (List.nodup_cons.mp behind).1
  refine ⟨front, back, parts, ?_⟩
  intro inSession
  let marked : Account := { account with inSession }
  have frontKept : replaceIn marked front = front :=
    replaceIn_of_absent notInFront
  have backKept : replaceIn marked back = back :=
    replaceIn_of_absent notInBack
  change replaceIn marked registry.accounts = _
  rw [parts]
  calc
    replaceIn marked (front ++ account :: back) =
        replaceIn marked front ++ marked :: replaceIn marked back := by
      simp [replaceIn, marked]
    _ = front ++ marked :: back := by rw [frontKept, backKept]

/-- The names in session, apart from that of an account, do not depend on the
account's flag. -/
theorem activeNames_mark {registry : Registry} {username : String}
    {account : Account} (found : registry.find? username = some account) :
    ∃ others : List String,
      registry.activeNames.Perm
        ((if account.inSession then [username] else []) ++ others) ∧
      ∀ inSession, (registry.mark account inSession).activeNames.Perm
        ((if inSession then [username] else []) ++ others) := by
  obtain ⟨_member, rfl⟩ := find?_eq_some_iff.mp found
  obtain ⟨front, back, parts, marked⟩ := exists_accounts_mark found
  refine ⟨((front ++ back).filter Account.inSession).map Account.username,
    ?_, ?_⟩
  · rw [activeNames, active, parts]
    cases flag : account.inSession <;> simp [flag, List.perm_middle]
  · intro inSession
    rw [activeNames, active, marked]
    cases inSession <;> simp [List.perm_middle]

/-! ## Logging in and out -/

theorem login_success {registry next : Registry} {username : String}
    {notices : List Notice}
    (success : registry.login username = (.success, next, notices)) :
    ∃ account, registry.find? username = some account ∧
      account.inSession = false ∧ account.status = .active ∧
      next = registry.mark account true := by
  rw [login] at success
  cases found : registry.find? username with
  | none => simp [found] at success
  | some account =>
      cases busy : account.inSession with
      | true => simp [found, busy] at success
      | false =>
          cases status : account.status with
          | banned => simp [found, busy, status] at success
          | active =>
              simp [found, busy, status] at success
              exact ⟨account, rfl, busy, status, success.1.symm⟩

theorem login_alreadyActive_iff {registry : Registry} {username : String} :
    (registry.login username).1 = .alreadyActive ↔
      registry.inSession? username = some true := by
  rw [login, inSession?]
  cases registry.find? username with
  | none => simp
  | some account =>
      cases busy : account.inSession <;> cases status : account.status <;>
        simp [busy, status]

/-- A login that does not succeed changes nothing. -/
theorem login_failure {registry : Registry} {username : String}
    (failure : (registry.login username).1 ≠ .success) :
    (registry.login username).2.1 = registry := by
  rw [login] at failure ⊢
  cases found : registry.find? username with
  | none => rfl
  | some account =>
      cases busy : account.inSession with
      | true => simp [busy]
      | false =>
          cases status : account.status with
          | banned => simp [busy, status]
          | active => simp [found, busy, status] at failure

theorem logout_of_inSession {registry : Registry} {username : String}
    {account : Account} (found : registry.find? username = some account)
    (inSession : account.inSession = true) :
    (registry.logout username).1 = registry.mark account false := by
  rw [logout, found]
  simp [inSession]

namespace HeldBy

variable {registry : Registry} {names : List String}

theorem nodup (held : registry.HeldBy names) : names.Nodup :=
  held.names.nodup_iff.mp registry.nodup_activeNames

theorem inSession?_iff (held : registry.HeldBy names) (username : String) :
    registry.inSession? username = some true ↔ username ∈ names := by
  rw [← mem_activeNames_iff]
  exact held.names.mem_iff

theorem activeCount (held : registry.HeldBy names) :
    registry.activeCount = names.length := by
  rw [← held.names.length_eq, Registry.activeCount, activeNames,
    List.length_map]

/-- The account of a name that is held is in the directory and not banned. -/
theorem exists_account (held : registry.HeldBy names) {username : String}
    (member : username ∈ names) :
    ∃ account, registry.find? username = some account ∧
      account.status = .active := by
  have inSession := (held.inSession?_iff username).mpr member
  obtain ⟨account, found, flag⟩ := Option.map_eq_some_iff.mp inSession
  obtain ⟨known, _named⟩ := find?_eq_some_iff.mp found
  exact ⟨account, found, held.allowed account known flag⟩

theorem perm (held : registry.HeldBy names) {others : List String}
    (permutation : names.Perm others) : registry.HeldBy others :=
  { names := held.names.trans permutation
    allowed := held.allowed }

private theorem mark_allowed {account : Account} {username : String}
    (held : registry.HeldBy names)
    (found : registry.find? username = some account) (inSession : Bool)
    (allowed : inSession = true → account.status = .active) :
    ∀ other, other ∈ (registry.mark account inSession).accounts →
      other.inSession = true → other.status = .active := by
  obtain ⟨front, back, parts, marked⟩ := exists_accounts_mark found
  intro other member flag
  rw [marked] at member
  have before := held.allowed other
  rw [parts] at before
  rcases List.mem_append.mp member with early | late
  · exact before (List.mem_append_left _ early) flag
  · rcases List.mem_cons.mp late with rfl | later
    · exact allowed flag
    · exact before
        (List.mem_append_right _ (List.mem_cons_of_mem _ later)) flag

/-- A login that succeeds adds its name to those that are held. -/
theorem login {next : Registry} {username : String} {notices : List Notice}
    (held : registry.HeldBy names)
    (success : registry.login username = (.success, next, notices)) :
    next.HeldBy (username :: names) := by
  obtain ⟨account, found, idle, active, rfl⟩ := login_success success
  obtain ⟨others, before, after⟩ := activeNames_mark found
  rw [idle] at before
  have same : names.Perm others := held.names.symm.trans before
  exact
    { names := (after true).trans (same.symm.cons username)
      allowed := held.mark_allowed found true fun _ => active }

/-- A logout takes its name from those that are held. -/
theorem logout {username : String}
    (held : registry.HeldBy (username :: names)) :
    (registry.logout username).1.HeldBy names := by
  have inSession := (held.inSession?_iff username).mpr List.mem_cons_self
  obtain ⟨account, found, flag⟩ := Option.map_eq_some_iff.mp inSession
  obtain ⟨others, before, after⟩ := activeNames_mark found
  rw [flag] at before
  have same : (username :: names).Perm (username :: others) :=
    held.names.symm.trans before
  rw [logout_of_inSession found flag]
  exact
    { names := (after false).trans same.cons_inv.symm
      allowed := held.mark_allowed found false fun impossible => by
        cases impossible }

end HeldBy

/-! ## Building a registry -/

private theorem mem_insertAll {registry : Registry} {records : List Account}
    {account : Account}
    (member : account ∈ (registry.insertAll records).1.accounts) :
    account ∈ registry.accounts ∨ account ∈ records := by
  induction records generalizing registry with
  | nil => exact Or.inl member
  | cons record records induction =>
      rcases induction member with early | late
      · rw [insert] at early
        split at early
        · obtain ⟨earlier, known, same⟩ := List.mem_map.mp early
          split at same
          · exact Or.inr (same ▸ List.mem_cons_self)
          · exact Or.inl (same ▸ known)
        · rcases List.mem_append.mp early with known | new
          · exact Or.inl known
          · exact Or.inr
              (List.mem_cons.mpr (Or.inl (List.mem_singleton.mp new)))
      · exact Or.inr (List.mem_cons_of_mem _ late)

/-- Nobody holds an account of a registry in which no account is in session. -/
theorem heldBy_nil {registry : Registry}
    (idle : ∀ account, account ∈ registry.accounts →
      account.inSession = false) : registry.HeldBy [] := by
  have none : registry.active = [] := by
    rw [active, List.filter_eq_nil_iff]
    intro account member
    simp [idle account member]
  constructor
  · rw [activeNames, none]
    exact List.Perm.nil
  · intro account member flag
    rw [idle account member] at flag
    cases flag

/-- Nobody is in session in a registry that has just been built. -/
theorem idle_ofAccounts {records : List Account}
    (idle : ∀ record, record ∈ records → record.inSession = false) :
    ∀ account, account ∈ (ofAccounts records).1.accounts →
      account.inSession = false := by
  intro account member
  rcases mem_insertAll member with impossible | record
  · cases impossible
  · exact idle account record

theorem heldBy_ofAccounts {records : List Account}
    (idle : ∀ record, record ∈ records → record.inSession = false) :
    (ofAccounts records).1.HeldBy [] :=
  heldBy_nil (idle_ofAccounts idle)

end Registry

/-- The reply to an attempt to log in. -/
def LoginResult.reply : LoginResult → Reply
  | .success => .loginSuccess
  | .notFound => .accountUnknown
  | .banned => .accountBanned
  | .alreadyActive => .loggedInElsewhere

namespace Session

/-- The name that a session holds, if it holds one. -/
def heldNames (session : Session) : List String :=
  session.username?.toList

/-- A login answers by the result of the one attempt it makes, and the session
holds the account just if that is a success. -/
theorem logIn_spec (session : Session) (registry : Registry)
    (username : String) :
    let attempt := registry.login username
    let turn := session.logIn registry username
    turn.reply = attempt.1.reply ∧
      turn.session =
        (if attempt.1 = .success then
          { session with state := .authenticated username }
        else session) ∧
      turn.registry = attempt.2.1 ∧ turn.calls = [.login username] := by
  rcases attempt : registry.login username with ⟨result, next, notices⟩
  cases result <;> simp [logIn, attempt, LoginResult.reply]

/-- What a command can do to a session and to the registry: nothing, or a login
of a session that holds no account, or a logout of one that does. -/
theorem perform_cases (session : Session) (registry : Registry)
    (command : Command) :
    let turn := session.perform registry command
    (turn.session = session ∧ turn.registry = registry) ∨
      (∃ username notices, session.state = .unauthenticated ∧
        command = .user username ∧
        registry.login username = (.success, turn.registry, notices) ∧
        turn.session = { session with state := .authenticated username }) ∨
      ∃ username, session.state = .authenticated username ∧
        command = .bye ∧
        turn.registry = (registry.logout username).1 ∧
        turn.session = { session with state := .unauthenticated } := by
  intro turn
  cases command with
  | user username =>
      cases state : session.state with
      | authenticated holder =>
          left
          simp [turn, perform, state, stay]
      | unauthenticated =>
          have logsIn : turn = session.logIn registry username := by
            simp only [turn, perform, state]
          rcases attempt : registry.login username with
            ⟨result, next, notices⟩
          have unchanged : result ≠ .success → next = registry := by
            intro failure
            have kept : (registry.login username).2.1 = registry :=
              Registry.login_failure (by rwa [attempt])
            rwa [attempt] at kept
          cases result with
          | success =>
              right
              left
              exact ⟨username, notices, rfl, rfl, by
                simp [logsIn, logIn, attempt]⟩
          | notFound | banned | alreadyActive =>
              left
              simp [logsIn, logIn, attempt, unchanged]
  | post text =>
      left
      cases state : session.state <;> simp [turn, perform, state, stay]
  | bye =>
      cases state : session.state with
      | unauthenticated =>
          left
          simp [turn, perform, state, stay]
      | authenticated holder =>
          right
          right
          refine ⟨holder, rfl, rfl, ?_⟩
          simp [turn, perform, state, release]
  | unknown line =>
      left
      simp [turn, perform, stay]

/-- What a release does: nothing, or a logout of the name that is held. -/
theorem release_cases (session : Session) (registry : Registry) :
    (session.state = .unauthenticated ∧
      session.release registry =
        { session, registry, calls := [], notices := [] }) ∨
      ∃ username, session.state = .authenticated username ∧
        (session.release registry).session =
          { session with state := .unauthenticated } ∧
        (session.release registry).registry =
          (registry.logout username).1 := by
  cases state : session.state with
  | unauthenticated =>
      left
      simp [release, state]
  | authenticated username =>
      right
      exact ⟨username, rfl, by simp [release, state]⟩

theorem heldNames_of_unauthenticated {session : Session}
    (state : session.state = .unauthenticated) : session.heldNames = [] := by
  simp [heldNames, username?, state]

theorem heldNames_of_authenticated {session : Session} {username : String}
    (state : session.state = .authenticated username) :
    session.heldNames = [username] := by
  simp [heldNames, username?, state]

/-- Sessions hold as many names as there are authenticated ones among them. -/
theorem length_flatMap_heldNames (sessions : List Session) :
    (sessions.flatMap heldNames).length =
      (sessions.filter fun session => session.username?.isSome).length := by
  induction sessions with
  | nil => rfl
  | cons session rest induction =>
      rw [List.filter_cons, List.flatMap_cons, List.length_append]
      cases held : session.username? with
      | none => simp [heldNames, held, induction]
      | some username => simp [heldNames, held, induction, Nat.add_comm]

/-- A released session holds nothing, and what others hold stays. -/
theorem release_heldBy {session : Session} {registry : Registry}
    {others : List String}
    (held : registry.HeldBy (session.heldNames ++ others)) :
    (session.release registry).registry.HeldBy others ∧
      (session.release registry).session.heldNames = [] := by
  rcases session.release_cases registry with
    ⟨state, unchanged⟩ | ⟨username, state, session', registry'⟩
  · rw [heldNames_of_unauthenticated state] at held
    rw [unchanged]
    exact ⟨held, heldNames_of_unauthenticated state⟩
  · rw [heldNames_of_authenticated state] at held
    rw [session', registry']
    exact ⟨held.logout, rfl⟩

/-- A command keeps the registry in step with the session, whatever other
sessions hold. -/
theorem perform_heldBy {session : Session} {registry : Registry}
    {others : List String}
    (held : registry.HeldBy (session.heldNames ++ others))
    (command : Command) :
    (session.perform registry command).registry.HeldBy
      ((session.perform registry command).session.heldNames ++ others) := by
  rcases session.perform_cases registry command with
    ⟨session', registry'⟩ |
      ⟨username, notices, state, _command, success, session'⟩ |
      ⟨username, state, _command, registry', session'⟩
  · rw [session', registry']
    exact held
  · rw [heldNames_of_unauthenticated state] at held
    rw [session']
    exact held.login success
  · rw [heldNames_of_authenticated state] at held
    rw [session', registry']
    exact held.logout

theorem answer_heldBy {session : Session} {registry : Registry}
    {others : List String}
    (held : registry.HeldBy (session.heldNames ++ others)) (line : String) :
    (session.answer registry line).1.registry.HeldBy
      ((session.answer registry line).1.session.heldNames ++ others) :=
  session.perform_heldBy held (Command.parse line)

end Session

end LoginServer
