import LoginServer.Account.Calls
import LoginServer.Proofs.DuplicateRecords
import LoginServer.Proofs.RegistryLocality

/-!
# What became of each login

A call does to the accounts what its answer tells (`accounts_carryOut`), so the
calls so far and their answers tell the flag of every account
(`accounts_after`).  With the flag, the result of a login is known
(`history_determines_logins`).
-/

namespace LoginServer

/-! ## The flag of a name -/

theorem flagAfter_cons (made : MadeCall) (history : List MadeCall)
    (username : String) (before : Bool) :
    flagAfter (made :: history) username before =
      flagAfter history username ((made.flag? username).getD before) := by
  rw [flagAfter, flagAfter, List.filterMap_cons]
  cases made.flag? username with
  | none => rfl
  | some flag =>
      rw [List.getLast?_cons]
      rfl

theorem flagAfter_append (front back : List MadeCall) (username : String)
    (before : Bool) :
    flagAfter (front ++ back) username before =
      flagAfter back username (flagAfter front username before) := by
  induction front generalizing before with
  | nil => rfl
  | cons made rest induction =>
      rw [List.cons_append, flagAfter_cons, induction, flagAfter_cons]

/-- The flag of a name changes only by a login of it that succeeds and by a
logout. -/
theorem MadeCall.flag?_eq_some_iff {made : MadeCall} {username : String}
    {flag : Bool} :
    made.flag? username = some flag ↔
      if flag then
        made.call = .login username ∧ made.answer = some .success
      else made.call = .logout username := by
  obtain ⟨call, answer⟩ := made
  cases call with
  | logout name => cases flag <;> simp [flag?]
  | login name =>
      cases answer with
      | none => cases flag <;> simp [flag?]
      | some result => cases flag <;> cases result <;> simp [flag?]

/-- A flag that is set stays so until a logout. -/
theorem flagAfter_of_no_logout {history : List MadeCall} {username : String}
    (kept : ∀ made, made ∈ history → made.call ≠ .logout username) :
    flagAfter history username true = true := by
  induction history with
  | nil => rfl
  | cons made rest induction =>
      have first := kept made List.mem_cons_self
      have later := induction fun other member =>
        kept other (List.mem_cons_of_mem made member)
      rw [flagAfter_cons]
      cases touched : made.flag? username with
      | none => exact later
      | some flag =>
          cases flag with
          | true => exact later
          | false => exact absurd (MadeCall.flag?_eq_some_iff.mp touched) first

/-- An account as a call leaves it. -/
def MadeCall.applied (made : MadeCall) (account : Account) : Account :=
  { account with
    inSession := (made.flag? account.username).getD account.inSession }

/-- An account as calls leave it. -/
def Account.afterCalls (account : Account) (history : List MadeCall) :
    Account :=
  { account with
    inSession := flagAfter history account.username account.inSession }

namespace Registry

variable {registry : Registry} {username : String} {account : Account}

/-! ## One call -/

/-- Marking an account is giving its flag to the accounts of its name. -/
theorem accounts_mark (found : registry.find? username = some account)
    (inSession : Bool) :
    (registry.mark account inSession).accounts =
      registry.accounts.map fun other =>
        if username = other.username then { other with inSession }
        else other := by
  obtain ⟨_member, rfl⟩ := find?_eq_some_iff.mp found
  apply List.map_congr_left
  intro other member
  by_cases same : other.username = account.username
  · have unique : other = account := by
      have known := find?_of_mem member
      rw [same, found] at known
      exact (Option.some.inj known).symm
    subst unique
    simp
  · simp [same, Ne.symm same]

/-- A call that gives no account another flag leaves the accounts as they
are. -/
theorem map_applied_of_kept {made : MadeCall}
    (kept : ∀ account, account ∈ registry.accounts →
      (made.flag? account.username).getD account.inSession =
        account.inSession) :
    registry.accounts.map made.applied = registry.accounts := by
  have same : ∀ account, account ∈ registry.accounts →
      made.applied account = account := by
    intro account member
    rw [MadeCall.applied, kept account member]
  rw [List.map_congr_left same, List.map_id']

theorem accounts_login (registry : Registry) (username : String) :
    let attempt := registry.login username
    let made : MadeCall := { call := .login username, answer := attempt.1 }
    attempt.2.1.accounts = registry.accounts.map made.applied := by
  intro attempt made
  rcases result : registry.login username with ⟨answer, next, notices⟩
  by_cases success : answer = .success
  · subst success
    obtain ⟨account, found, _free, _active, rfl⟩ := login_success result
    simp only [attempt, made, result]
    rw [accounts_mark found true]
    apply List.map_congr_left
    intro other _member
    simp only [MadeCall.applied, MadeCall.flag?]
    split <;> rfl
  · have failure : (registry.login username).1 ≠ .success := by
      rwa [result]
    have unchanged : next = registry := by
      have kept := login_failure failure
      rwa [result] at kept
    simp only [attempt, made, result, unchanged]
    symm
    apply map_applied_of_kept
    intro account _member
    cases answer <;> first | exact absurd rfl success | rfl

theorem accounts_logout (registry : Registry) (username : String) :
    let made : MadeCall := { call := .logout username, answer := none }
    (registry.logout username).1.accounts =
      registry.accounts.map made.applied := by
  intro made
  -- Where nothing is marked no account of the name is in session.
  have unchanged (idle : ∀ account, account ∈ registry.accounts →
      account.username = username → account.inSession = false) :
      registry.accounts = registry.accounts.map made.applied := by
    symm
    apply map_applied_of_kept
    intro account member
    by_cases same : username = account.username
    · simp [made, MadeCall.flag?, same, idle account member same.symm]
    · simp [made, MadeCall.flag?, same]
  rw [logout]
  cases found : registry.find? username with
  | none =>
      apply unchanged
      intro account member same
      rw [← same, find?_of_mem member] at found
      cases found
  | some account =>
      dsimp only
      split
      · rw [accounts_mark found false]
        apply List.map_congr_left
        intro other _member
        simp only [made, MadeCall.applied, MadeCall.flag?]
        split <;> rfl
      · next free =>
          apply unchanged
          intro other member same
          rw [← same, find?_of_mem member] at found
          cases found
          simpa using free

/-- A call does to the accounts what its answer tells. -/
theorem accounts_carryOut (registry : Registry) (call : RegistryCall) :
    let done := registry.carryOut (some call)
    let made : MadeCall := { call, answer := done.1 }
    done.2.accounts = registry.accounts.map made.applied := by
  cases call with
  | login username => exact registry.accounts_login username
  | logout username => exact registry.accounts_logout username

/-! ## Many calls -/

theorem accounts_after (registry : Registry) (calls : List RegistryCall) :
    (registry.after calls).accounts =
      registry.accounts.map fun account =>
        account.afterCalls (registry.history calls) := by
  induction calls generalizing registry with
  | nil => exact (List.map_id' _).symm
  | cons call rest induction =>
      rw [after, induction, accounts_carryOut, List.map_map]
      apply List.map_congr_left
      intro account _member
      simp only [history, Function.comp_apply, Account.afterCalls,
        MadeCall.applied, flagAfter_cons]

theorem find?_after (registry : Registry) (calls : List RegistryCall)
    (username : String) :
    (registry.after calls).find? username =
      (registry.find? username).map fun account =>
        account.afterCalls (registry.history calls) := by
  rw [find?, find?, accounts_after, List.find?_map]
  rfl

theorem history_append (registry : Registry)
    (front back : List RegistryCall) :
    registry.history (front ++ back) =
      registry.history front ++ (registry.after front).history back := by
  induction front generalizing registry with
  | nil => rfl
  | cons call rest induction =>
      simp only [List.cons_append, history, after, induction]

theorem length_history (registry : Registry) (calls : List RegistryCall) :
    (registry.history calls).length = calls.length := by
  induction calls generalizing registry with
  | nil => rfl
  | cons call rest induction =>
      simp only [history, List.length_cons, induction]

/-- A part of a history is the history of a part of the calls. -/
theorem history_eq_append {calls : List RegistryCall}
    {front back : List MadeCall}
    (parts : registry.history calls = front ++ back) :
    ∃ early late, calls = early ++ late ∧ registry.history early = front ∧
      (registry.after early).history late = back := by
  let early := calls.take front.length
  let late := calls.drop front.length
  have whole : calls = early ++ late := (List.take_append_drop _ _).symm
  have lengths : calls.length = front.length + back.length := by
    rw [← length_history registry calls, parts, List.length_append]
  rw [whole, history_append] at parts
  have sameLength : (registry.history early).length = front.length := by
    rw [length_history, List.length_take]
    omega
  obtain ⟨same, same'⟩ := List.append_inj parts sameLength
  exact ⟨early, late, whole, same, same'⟩

/-! ## Results -/

/-- The result of a login by the account and its flag. -/
theorem login_result (registry : Registry) (username : String) :
    (registry.login username).1 =
      match registry.find? username with
      | none => .notFound
      | some account =>
          if account.inSession then .alreadyActive
          else if account.status = .banned then .banned
          else .success := by
  rw [login]
  cases registry.find? username with
  | none => rfl
  | some account =>
      dsimp only
      split
      · rfl
      · split <;> rfl

theorem find?_carryOut (registry : Registry) (call : RegistryCall)
    (username : String) :
    let done := registry.carryOut (some call)
    let made : MadeCall := { call, answer := done.1 }
    done.2.find? username = (registry.find? username).map made.applied := by
  intro done made
  rw [find?, find?, registry.accounts_carryOut call, List.find?_map]
  rfl

section Winner

variable {call : RegistryCall} {calls : List RegistryCall}

/-- Whoever is in session stays so until a logout. -/
theorem busy_carryOut (found : registry.find? username = some account)
    (busy : account.inSession = true) (kept : call ≠ .logout username) :
    ∃ later, (registry.carryOut (some call)).2.find? username = some later ∧
      later.inSession = true := by
  obtain ⟨_member, rfl⟩ := find?_eq_some_iff.mp found
  rw [find?_carryOut, found]
  refine ⟨_, rfl, ?_⟩
  rw [MadeCall.applied, busy]
  generalize touched : MadeCall.flag? _ account.username = flag?
  cases flag? with
  | none => rfl
  | some flag =>
      cases flag with
      | true => rfl
      | false => exact absurd (MadeCall.flag?_eq_some_iff.mp touched) kept

/-- Whoever is not in session stays so until a login. -/
theorem free_carryOut (found : registry.find? username = some account)
    (free : account.inSession = false) (idle : call ≠ .login username) :
    (registry.carryOut (some call)).2.find? username = some account := by
  obtain ⟨_member, rfl⟩ := find?_eq_some_iff.mp found
  rw [find?_carryOut, found, Option.map_some, MadeCall.applied]
  generalize touched : MadeCall.flag? _ account.username = flag?
  cases flag? with
  | none => rfl
  | some flag =>
      cases flag with
      | false =>
          rw [Option.getD_some, ← free]
      | true => exact absurd (MadeCall.flag?_eq_some_iff.mp touched).1 idle

theorem loginResults_login (registry : Registry) (username : String)
    (calls : List RegistryCall) :
    loginResults (registry.history (.login username :: calls)) username =
      (registry.login username).1 ::
        loginResults
          ((registry.carryOut (some (.login username))).2.history calls)
          username := by
  simp only [loginResults, history, carryOut, List.filterMap_cons, if_true]

theorem loginResults_of_ne (registry : Registry)
    (other : call ≠ .login username) (calls : List RegistryCall) :
    loginResults (registry.history (call :: calls)) username =
      loginResults ((registry.carryOut (some call)).2.history calls)
        username := by
  simp only [loginResults, history, List.filterMap_cons, if_neg other]

theorem loginResults_of_busy (found : registry.find? username = some account)
    (busy : account.inSession = true) (kept : .logout username ∉ calls) :
    loginResults (registry.history calls) username =
      List.replicate (calls.count (.login username)) .alreadyActive := by
  induction calls generalizing registry account with
  | nil => rfl
  | cons call rest induction =>
      have others := List.not_mem_of_not_mem_cons kept
      obtain ⟨later, found', busy'⟩ :=
        busy_carryOut found busy (List.ne_of_not_mem_cons kept).symm
      have results := induction found' busy' others
      by_cases isLogin : call = .login username
      · subst isLogin
        have refused : (registry.login username).1 = .alreadyActive := by
          rw [login_result, found]
          exact if_pos busy
        rw [loginResults_login, refused, results, List.count_cons_self,
          List.replicate_succ]
      · rw [loginResults_of_ne registry isLogin, results,
          List.count_cons_of_ne isLogin]

/-- Of the logins under a free name, the first one succeeds and the others
find it in session, whatever else is called. -/
theorem loginResults_of_free (found : registry.find? username = some account)
    (free : account.inSession = false) (active : account.status = .active)
    (kept : .logout username ∉ calls) :
    loginResults (registry.history calls) username =
      match calls.count (.login username) with
      | 0 => []
      | others + 1 =>
          .success :: List.replicate others .alreadyActive := by
  induction calls generalizing registry with
  | nil => rfl
  | cons call rest induction =>
      have others := List.not_mem_of_not_mem_cons kept
      by_cases isLogin : call = .login username
      · subst isLogin
        have wins : (registry.login username).1 = .success := by
          rw [login_result, found]
          simp [free, active]
        have isSet :
            (registry.carryOut (some (.login username))).2.find? username =
              some { account with inSession := true } := by
          rcases attempt : registry.login username with ⟨result, next, told⟩
          rw [attempt] at wins
          subst wins
          obtain ⟨other, known, _free, _active, rfl⟩ := login_success attempt
          cases found.symm.trans known
          rw [carryOut, attempt]
          exact find?_mark_self found true
        rw [loginResults_login, wins, loginResults_of_busy isSet rfl others,
          List.count_cons_self]
      · rw [loginResults_of_ne registry isLogin,
          induction (free_carryOut found free isLogin) others,
          List.count_cons_of_ne isLogin]

end Winner

/-! ## Frames -/

/-- A call changes nothing but the flag of its account. -/
theorem carryOut_changes (registry : Registry) (call : RegistryCall) :
    List.Forall₂ (fun before after : Account =>
        after.username = before.username ∧ after.status = before.status ∧
          (before.username ≠ call.username → after = before))
      registry.accounts (registry.carryOut (some call)).2.accounts := by
  rw [accounts_carryOut, List.forall₂_map_right_iff]
  apply List.forall₂_same.mpr
  intro account _member
  refine ⟨rfl, rfl, fun different => ?_⟩
  rw [MadeCall.applied]
  generalize touched : MadeCall.flag? _ account.username = flag?
  cases flag? with
  | none => rfl
  | some flag =>
      have named := MadeCall.flag?_eq_some_iff.mp touched
      cases flag with
      | true =>
          have same : call = .login account.username := named.1
          subst same
          exact absurd rfl different
      | false =>
          have same : call = .logout account.username := named
          subst same
          exact absurd rfl different

/-- Between two logins under a name that succeed there is a logout of it. -/
theorem exists_logout_between {registry : Registry}
    {calls : List RegistryCall} {front middle back : List MadeCall}
    {username : String}
    (parts : registry.history calls =
      front ++ ⟨.login username, some .success⟩ :: middle ++
        ⟨.login username, some .success⟩ :: back) :
    ∃ made, made ∈ middle ∧ made.call = .logout username := by
  by_contra absent
  obtain ⟨early, late, _calls, past, rest⟩ := registry.history_eq_append parts
  -- The flag is set from the first login on, so the second one is refused.
  cases late with
  | nil => cases rest
  | cons call calls =>
      rw [history] at rest
      obtain ⟨first, _later⟩ := List.cons.inj rest
      obtain ⟨isLogin, answer⟩ := MadeCall.mk.inj first
      subst isLogin
      have success : ((registry.after early).login username).1 = .success :=
        Option.some.inj answer
      rw [login_result, find?_after, past] at success
      cases known : registry.find? username with
      | none =>
          rw [known] at success
          cases success
      | some account =>
          obtain ⟨_member, rfl⟩ := find?_eq_some_iff.mp known
          have isSet : flagAfter
              (front ++ ⟨.login account.username, some .success⟩ :: middle)
              account.username account.inSession = true := by
            rw [flagAfter_append, flagAfter_cons]
            simp only [MadeCall.flag?, if_true, Option.getD_some]
            apply flagAfter_of_no_logout
            intro made member isLogout
            exact absent ⟨made, member, isLogout⟩
          rw [known] at success
          simp only [Option.map_some, Account.afterCalls, isSet, if_true]
            at success
          cases success

/-! ## Histories -/

/-- The calls so far tell what a login results in: an unknown name is not found,
one whose flag is set is in session already, and of the others the banned ones
are refused.  The flag is that of the last successful login or logout, and the
recorded one before any.  So a name is won once between two logouts, and only by
the first who asks.  A call changes no more than the flag of its name. -/
theorem history_determines_logins (records : List Account)
    (calls : List RegistryCall) :
    let loaded := (ofAccounts records).1
    let registry := loaded.after calls
    let history := loaded.history calls
    (∀ username,
      let result := (registry.login username).1
      let flag (account : Account) :=
        flagAfter history username account.inSession
      (result = .notFound ↔ username ∉ records.map Account.username) ∧
        (result = .alreadyActive ↔ ∃ account,
          loaded.find? username = some account ∧ flag account = true) ∧
        (result = .banned ↔ ∃ account,
          loaded.find? username = some account ∧ flag account = false ∧
            account.status = .banned) ∧
        (result = .success ↔ ∃ account,
          loaded.find? username = some account ∧ flag account = false ∧
            account.status = .active) ∧
        registry.inSession? username = (loaded.find? username).map flag) ∧
      (∀ front middle back username,
        history = front ++ ⟨.login username, some .success⟩ :: middle ++
          ⟨.login username, some .success⟩ :: back →
        ∃ made, made ∈ middle ∧ made.call = .logout username) ∧
      (∀ username account more,
        registry.find? username = some account →
        account.inSession = false → account.status = .active →
        .logout username ∉ more →
        loginResults (registry.history more) username =
          match more.count (.login username) with
          | 0 => []
          | others + 1 =>
              .success :: List.replicate others .alreadyActive) ∧
      registry.accounts.map Account.username =
        loaded.accounts.map Account.username ∧
      registry.accounts.map Account.status =
        loaded.accounts.map Account.status ∧
      registry.size = loaded.size ∧
      (∀ call, List.Forall₂ (fun before after : Account =>
          after.username = before.username ∧ after.status = before.status ∧
            (before.username ≠ call.username → after = before))
        registry.accounts (registry.carryOut (some call)).2.accounts) ∧
      registry.activeCount =
        (loaded.accounts.filter fun account =>
          flagAfter history account.username account.inSession).length := by
  intro loaded registry history
  refine ⟨?_, fun _ _ _ _ parts => exists_logout_between parts,
    fun _ _ _ found free active kept =>
      loginResults_of_free found free active kept,
    ?_, ?_, ?_, carryOut_changes registry, ?_⟩
  · intro username result flag
    have known := loaded.find?_after calls username
    have decided := registry.login_result username
    have absent : loaded.find? username = none ↔
        username ∉ records.map Account.username :=
      find?_ofAccounts_eq_none_iff
    have session : registry.inSession? username =
        (loaded.find? username).map flag := by
      rw [inSession?, known, Option.map_map]
      apply Option.map_congr
      intro account found
      obtain ⟨_member, rfl⟩ := find?_eq_some_iff.mp found
      rfl
    rw [known] at decided
    rw [← absent]
    cases found : loaded.find? username with
    | none =>
        have unknown : result = .notFound := by
          rw [found] at decided
          exact decided
        rw [found] at session
        simp [unknown, session]
    | some account =>
        obtain ⟨_member, rfl⟩ := find?_eq_some_iff.mp found
        have outcome : result =
            if flag account then .alreadyActive
            else if account.status = .banned then .banned
            else .success := by
          rw [found] at decided
          exact decided
        rw [found] at session
        rw [outcome, session]
        cases isSet : flag account <;> cases status : account.status <;>
          simp [isSet, status]
  · rw [accounts_after, List.map_map]
    rfl
  · rw [accounts_after, List.map_map]
    rfl
  · rw [size, accounts_after, List.length_map]
    rfl
  · rw [activeCount, active, accounts_after, List.filter_map, List.length_map]
    rfl

/-- A name that is released and won again, among others that are not free. -/
theorem history_determines_logins_of_second_winner :
    let records : List Account :=
      [.idle "eve" .banned, .idle "bob" .banned, .idle "eve" .active]
    let calls : List RegistryCall :=
      [.login "eve", .login "bob", .logout "eve", .logout "mia"]
    let more : List RegistryCall :=
      [.login "bob", .login "eve", .logout "bob", .login "eve", .login "eve"]
    let registry := (ofAccounts records).1.after calls
    (registry.find? "eve" = some (.idle "eve" .active) ∧
      .logout "eve" ∉ more) ∧
      loginResults (registry.history more) "eve" =
        [.success, .alreadyActive, .alreadyActive] ∧
      (registry.login "bob").1 = .banned ∧
      (registry.login "mia").1 = .notFound := by
  intro records calls more registry
  have found : registry.find? "eve" = some (.idle "eve" .active) := by
    decide
  have kept : .logout "eve" ∉ more := by decide
  obtain ⟨results, _between, winner, _frame⟩ :=
    history_determines_logins records calls
  obtain ⟨_notFound, _busy, banned, _success, _flag⟩ := results "bob"
  obtain ⟨notFound, _results⟩ := results "mia"
  refine ⟨⟨found, kept⟩, winner "eve" _ more found rfl rfl kept, ?_, ?_⟩
  · exact banned.mpr ⟨.idle "bob" .banned, by decide, by decide, rfl⟩
  · exact notFound.mpr (by decide)

end Registry
end LoginServer
