import Mathlib.Data.List.Induction
import LoginServer.Proofs.AccountHolding
import LoginServer.Session.History

/-!
# What the history of a session tells

A deed keeps the account of a session, takes one or returns it (`Deed.kind`),
and its reply tells which.  So the replies determine what a session holds, and
each account that it takes is returned before it takes the next one
(`history_determines_state`), whatever registries the deeds find.
-/

namespace LoginServer

namespace Session

variable {session : Session}

/-- What a session makes of the answer to its call: its reply and its state
afterwards. -/
def conclude (session : Session) (act : Act) (answer : Option LoginResult) :
    Option Reply × SessionState :=
  match act.command?, session.state with
  | none, _ => (none, .unauthenticated)
  | some (.user username), .unauthenticated =>
      (answer.map LoginResult.reply,
        if answer = some .success then .authenticated username
        else .unauthenticated)
  | some (.user _), .authenticated holder =>
      (some .alreadyLoggedIn, .authenticated holder)
  | some (.post _), .authenticated holder =>
      (some .postAccepted, .authenticated holder)
  | some .bye, .authenticated _ => (some .logoutSuccess, .unauthenticated)
  | some (.post _), .unauthenticated | some .bye, .unauthenticated =>
      (some .notLoggedIn, .unauthenticated)
  | some (.unknown _), state => (some .unknownRequest, state)

/-- A command is one call to the registry at most and a conclusion from its
answer. -/
theorem perform_spec (session : Session) (registry : Registry)
    (command : Command) :
    let call := session.call? (.command command)
    let answer := registry.carryOut call
    let turn := session.perform registry command
    let conclusion := session.conclude (.command command) answer.1
    some turn.reply = conclusion.1 ∧
      turn.session = { session with state := conclusion.2 } ∧
      turn.registry = answer.2 ∧ turn.calls = call.toList := by
  obtain ⟨id, peer, state⟩ := session
  cases state with
  | authenticated holder =>
      cases command <;>
        simp [perform, call?, conclude, Act.command?, Registry.carryOut, stay,
          release]
  | unauthenticated =>
      cases command with
      | post text | bye | unknown line =>
          simp [perform, call?, conclude, Act.command?, Registry.carryOut,
            stay]
      | user username =>
          obtain ⟨reply, after, left, calls⟩ :=
            logIn_spec ⟨id, peer, .unauthenticated⟩ registry username
          simp only [perform, call?, conclude, Act.command?,
            Registry.carryOut, reply, after, left, calls]
          split <;> simp_all

theorem release_spec (session : Session) (registry : Registry) :
    let call := session.call? .release
    let answer := registry.carryOut call
    let released := session.release registry
    let conclusion := session.conclude .release answer.1
    released.session = { session with state := conclusion.2 } ∧
      released.registry = answer.2 ∧ released.calls = call.toList := by
  obtain ⟨id, peer, state⟩ := session
  cases state <;>
    simp [release, call?, conclude, Act.command?, Registry.carryOut]

/-- Without a call the state stays, and the reply is none of a login or a
logout. -/
theorem conclude_of_no_call {act : Act} (silent : session.call? act = none)
    (answer : Option LoginResult) :
    let conclusion := session.conclude act answer
    conclusion.2 = session.state ∧
      conclusion.1 ≠ some .loginSuccess ∧
      conclusion.1 ≠ some .logoutSuccess ∧
      (act = .release → session.state = .unauthenticated) := by
  intro conclusion
  cases state : session.state with
  | unauthenticated =>
      cases carries : act.command? with
      | none => simp [conclusion, conclude, carries]
      | some command =>
          cases command <;>
            simp_all [conclusion, conclude, call?]
  | authenticated holder =>
      cases carries : act.command? with
      | none => simp [call?, carries, state] at silent
      | some command =>
          have unreleased : act ≠ .release := by
            rintro rfl
            cases carries
          cases command <;>
            simp_all [conclusion, conclude, call?]

theorem of_call_login {act : Act} {username : String}
    (call : session.call? act = some (.login username)) :
    session.state = .unauthenticated ∧
      act.command? = some (.user username) := by
  rw [call?] at call
  split at call
  · next name carries state =>
      cases call
      exact ⟨state, carries⟩
  all_goals cases call

theorem of_call_logout {act : Act} {username : String}
    (call : session.call? act = some (.logout username)) :
    session.state = .authenticated username ∧
      (act.command? = some .bye ∨ act = .release) := by
  rw [call?] at call
  split at call
  · cases call
  · next carries state =>
      cases call
      exact ⟨state, .inl carries⟩
  · next silent state =>
      cases call
      refine ⟨state, .inr ?_⟩
      cases act with
      | release => rfl
      | line text | command request => cases silent
  · cases call

end Session

namespace Deed

/-- A deed is one call to the registry at most and a conclusion from its
answer. -/
theorem done_spec (deed : Deed) :
    let answer := deed.registry.carryOut deed.call?
    let conclusion := deed.session.conclude deed.act answer.1
    deed.done.reply = conclusion.1 ∧
      deed.done.session = { deed.session with state := conclusion.2 } ∧
      deed.done.registry = answer.2 ∧
      deed.done.calls = deed.call?.toList := by
  obtain ⟨session, registry, act⟩ := deed
  cases act with
  | release =>
      obtain ⟨after, left, calls⟩ := session.release_spec registry
      exact ⟨rfl, after, left, calls⟩
  | line text =>
      obtain ⟨reply, after, left, calls⟩ :=
        session.perform_spec registry (Command.parse text)
      exact ⟨reply, after, left, calls⟩
  | command request =>
      obtain ⟨reply, after, left, calls⟩ :=
        session.perform_spec registry request
      exact ⟨reply, after, left, calls⟩

/-! ## One deed -/

variable {deed : Deed}

/-- A deed has the registry log out a name just by its one call. -/
theorem returned_eq (deed : Deed) :
    deed.returned = (deed.call?.bind RegistryCall.returned?).toList := by
  rw [returned, deed.done_spec.2.2.2]
  cases deed.call? with
  | none => rfl
  | some call => cases call <;> rfl

/-- A deed records a line with the reply to it, and nothing else. -/
theorem exchanges_done (deed : Deed) :
    deed.done.exchanges =
      (deed.act.line?.bind fun text => deed.done.reply.map fun reply =>
        { peer := deed.session.peer, input := some text, reply }).toList := by
  obtain ⟨session, registry, act⟩ := deed
  cases act <;> rfl

theorem isOneCall (deed : Deed) : deed.IsOneCall := by
  obtain ⟨reply, session, registry, calls⟩ := deed.done_spec
  refine ⟨calls, registry, fun other sameAnswer => ?_⟩
  -- The session is the same elsewhere, so it makes the same call there.
  let elsewhere : Deed := { deed with registry := other }
  obtain ⟨reply', session', _registry, _calls⟩ := elsewhere.done_spec
  have sameReply : elsewhere.done.reply = deed.done.reply := by
    rw [reply, reply']
    exact congrArg (fun answer => (deed.session.conclude deed.act answer).1)
      sameAnswer
  refine ⟨sameReply, ?_, ?_⟩
  · refine session'.trans (Eq.trans ?_ session.symm)
    exact congrArg (fun answer : Option LoginResult =>
      ({ deed.session with
        state := (deed.session.conclude deed.act answer).2 } : Session))
      sameAnswer
  · refine elsewhere.exchanges_done.trans ?_
    rw [deed.exchanges_done, sameReply]

/-- What a deed means for the account of its session. -/
inductive Kind (deed : Deed) : Prop where
  | keeps
      (same : deed.done.session = deed.session)
      (returns : deed.returned = [])
      (noLogin : deed.done.reply ≠ some .loginSuccess)
      (noLogout : deed.done.reply ≠ some .logoutSuccess)
      (released : deed.act = .release → deed.session.state = .unauthenticated)
  | takes (username : String)
      (before : deed.session.state = .unauthenticated)
      (takes : deed.takes? = some username)
      (returns : deed.returned = [])
      (login : deed.done.reply = some .loginSuccess)
      (after : deed.done.session =
        { deed.session with state := .authenticated username })
  | returns (username : String)
      (before : deed.session.state = .authenticated username)
      (returns : deed.returned = [username])
      (noLogin : deed.done.reply ≠ some .loginSuccess)
      (ends : deed.done.reply = some .logoutSuccess ∨ deed.act = .release)
      (after : deed.done.session =
        { deed.session with state := .unauthenticated })

theorem takes?_of_no_login (noLogin : deed.done.reply ≠ some .loginSuccess) :
    deed.takes? = none := by
  rw [takes?]
  split
  · next login => exact absurd login noLogin
  · rfl

theorem kind_of_login {username : String}
    (call : deed.call? = some (.login username)) : deed.Kind := by
  obtain ⟨state, carries⟩ := Session.of_call_login call
  obtain ⟨reply, session, _registry, _calls⟩ := deed.done_spec
  have returns : deed.returned = [] := by
    rw [returned_eq, call]
    rfl
  simp only [Session.conclude, carries, state, call, Registry.carryOut,
    Option.map_some, Option.some.injEq] at reply session
  cases result : (deed.registry.login username).1 with
  | success =>
      simp only [result, LoginResult.reply, if_true] at reply session
      refine .takes username state ?_ returns reply session
      simp [takes?, carries, reply]
  | notFound | banned | alreadyActive =>
      simp only [result, LoginResult.reply, reduceCtorEq, if_false]
        at reply session
      refine .keeps ?_ returns ?_ ?_ fun _ => state
      · rw [session, ← state]
      · simp [reply]
      · simp [reply]

theorem kind_of_logout {username : String}
    (call : deed.call? = some (.logout username)) : deed.Kind := by
  obtain ⟨state, carries⟩ := Session.of_call_logout call
  obtain ⟨reply, session, _registry, _calls⟩ := deed.done_spec
  have returns : deed.returned = [username] := by
    rw [returned_eq, call]
    rfl
  rcases carries with bye | release
  · simp only [Session.conclude, bye, state] at reply session
    exact .returns username state returns (by simp [reply]) (.inl reply)
      session
  · simp only [Session.conclude, release, Act.command?] at reply session
    exact .returns username state returns (by simp [reply]) (.inr release)
      session

/-- A deed keeps the account of its session, takes one, or returns it. -/
theorem kind (deed : Deed) : deed.Kind := by
  cases call : deed.call? with
  | none =>
      obtain ⟨reply, session, _registry, _calls⟩ := deed.done_spec
      have returns : deed.returned = [] := by
        rw [returned_eq, call]
        rfl
      obtain ⟨same, noLogin, noLogout, released⟩ :=
        Session.conclude_of_no_call call
          (deed.registry.carryOut deed.call?).1
      rw [← reply] at noLogin noLogout
      refine .keeps ?_ returns noLogin noLogout released
      rw [session, same]
  | some asked =>
      cases asked with
      | login username => exact kind_of_login call
      | logout username => exact kind_of_logout call

theorem reply_of_unauthenticated
    (state : deed.session.state = .unauthenticated) :
    deed.done.reply ∈
      [none, some .loginSuccess, some .accountBanned, some .accountUnknown,
        some .loggedInElsewhere, some .notLoggedIn, some .unknownRequest] := by
  rw [deed.done_spec.1]
  generalize (deed.registry.carryOut deed.call?).1 = answer
  cases carries : deed.act.command? with
  | none => simp [Session.conclude, carries]
  | some command =>
      cases command with
      | post text | bye | unknown line =>
          simp [Session.conclude, carries, state]
      | user username =>
          cases answer with
          | none => simp [Session.conclude, carries, state]
          | some result =>
              cases result <;>
                simp [Session.conclude, carries, state, LoginResult.reply]

theorem reply_of_authenticated {holder : String}
    (state : deed.session.state = .authenticated holder) :
    deed.done.reply ∈
      [none, some .postAccepted, some .logoutSuccess, some .alreadyLoggedIn,
        some .unknownRequest] := by
  rw [deed.done_spec.1]
  cases carries : deed.act.command? with
  | none => simp [Session.conclude, carries]
  | some command =>
      cases command <;> simp [Session.conclude, carries, state]

/-- What each deed of a session keeps to.  Some replies tell that the session
was authenticated before, others that it was not; the account changes with a
login, a logout or a release only; a successful login is that of a `USER`
command; at most one call is made to the registry; and a line is recorded with
its reply, and nothing else is. -/
structure Lawful (peer : Address) (deed : Deed) : Prop where
  loggedIn : ∀ reply ∈ [Reply.postAccepted, .logoutSuccess, .alreadyLoggedIn],
    deed.done.reply = some reply → deed.session.state ≠ .unauthenticated
  loggedOut : ∀ reply ∈ [Reply.loginSuccess, .accountBanned, .accountUnknown,
      .loggedInElsewhere, .notLoggedIn],
    deed.done.reply = some reply → deed.session.state = .unauthenticated
  changes : deed.done.session.state ≠ deed.session.state →
    deed.done.reply = some .loginSuccess ∨
      deed.done.reply = some .logoutSuccess ∨ deed.act = .release
  login : deed.done.reply = some .loginSuccess →
    ∃ username, deed.act.command? = some (.user username)
  oneCall : deed.IsOneCall
  line : ∀ text, deed.act = .line text → ∃ reply,
    deed.done.reply = some reply ∧
      deed.done.exchanges = [{ peer, input := some text, reply }]
  noLine : deed.act.line? = none → deed.done.exchanges = []

theorem lawful {peer : Address} (own : deed.session.peer = peer) :
    deed.Lawful peer where
  loggedIn := by
    intro reply listed answered state
    have possible := reply_of_unauthenticated state
    rw [answered] at possible
    simp only [List.mem_cons, List.not_mem_nil, or_false] at listed
    rcases listed with rfl | rfl | rfl <;> simp at possible
  loggedOut := by
    intro reply listed answered
    cases state : deed.session.state with
    | unauthenticated => rfl
    | authenticated holder =>
        have possible := reply_of_authenticated state
        rw [answered] at possible
        simp only [List.mem_cons, List.not_mem_nil, or_false] at listed
        rcases listed with rfl | rfl | rfl | rfl | rfl <;> simp at possible
  changes := by
    intro changed
    cases deed.kind with
    | keeps same => rw [same] at changed; exact absurd rfl changed
    | takes _ _ _ _ login => exact .inl login
    | returns _ _ _ _ ends => exact .inr ends
  login := by
    intro answered
    cases deed.kind with
    | keeps _ _ noLogin => exact absurd answered noLogin
    | returns _ _ _ noLogin => exact absurd answered noLogin
    | takes username _ takes =>
        simp only [takes?] at takes
        split at takes
        · next carries _ => exact ⟨_, carries⟩
        · cases takes
  oneCall := deed.isOneCall
  line := by
    rintro text answers
    obtain ⟨session, registry, act⟩ := deed
    cases answers
    cases own
    exact ⟨_, rfl, rfl⟩
  noLine := by
    intro silent
    rw [deed.exchanges_done, silent]
    rfl

/-- The last login of a history was under the given name, and neither a logout
nor a release has come since. -/
def LastLogin (history : List Deed) (username : String) : Prop :=
  ∃ earlier login later, history = earlier ++ login :: later ∧
    login.takes? = some username ∧
    ∀ deed ∈ later, deed.done.reply ≠ some .loginSuccess ∧
      deed.done.reply ≠ some .logoutSuccess ∧ deed.act ≠ .release

theorem lastLogin_concat_iff {history : List Deed} {username : String} :
    LastLogin (history ++ [deed]) username ↔
      deed.takes? = some username ∨
        LastLogin history username ∧
          deed.done.reply ≠ some .loginSuccess ∧
          deed.done.reply ≠ some .logoutSuccess ∧ deed.act ≠ .release := by
  constructor
  · rintro ⟨earlier, login, later, whole, takes, since⟩
    -- The last login is the last deed, or it lies before that deed.
    rcases List.eq_nil_or_concat later with rfl | ⟨before, last, rfl⟩
    · obtain ⟨_same, last⟩ := List.append_inj' whole rfl
      cases last
      exact .inl takes
    · rw [List.concat_eq_append, ← List.cons_append, ← List.append_assoc]
        at whole
      obtain ⟨rfl, last⟩ := List.append_inj' whole rfl
      cases last
      have quiet (other : Deed) (member : other ∈ before) :=
        since other (by simp [member])
      exact .inr ⟨⟨earlier, login, before, rfl, takes, quiet⟩,
        since deed (by simp)⟩
  · rintro (takes | ⟨⟨earlier, login, later, rfl, takes, since⟩, quiet⟩)
    · exact ⟨history, deed, [], rfl, takes, by simp⟩
    · refine ⟨earlier, login, later ++ [deed], by simp, takes, ?_⟩
      intro other member
      rcases List.mem_append.mp member with before | last
      · exact since other before
      · rw [List.mem_singleton.mp last]
        exact quiet

end Deed

/-! ## Whole histories -/

namespace Session

theorem after_concat (session : Session) (acts : List (Registry × Act))
    (registry : Registry) (act : Act) :
    session.after (acts ++ [(registry, act)]) =
      ((session.after acts).obey registry act).session := by
  induction acts generalizing session with
  | nil => rfl
  | cons first acts induction => exact induction _

theorem history_concat (session : Session) (acts : List (Registry × Act))
    (registry : Registry) (act : Act) :
    session.history (acts ++ [(registry, act)]) =
      session.history acts ++
        [{ session := session.after acts, registry, act }] := by
  induction acts generalizing session with
  | nil => rfl
  | cons first acts induction => exact congrArg _ (induction _)

theorem peer_of_mem_history {session : Session}
    {acts : List (Registry × Act)} {deed : Deed}
    (member : deed ∈ session.history acts) :
    deed.session.peer = session.peer := by
  induction acts generalizing session with
  | nil => cases member
  | cons first acts induction =>
      rcases List.mem_cons.mp member with rfl | later
      · rfl
      · have next := (Deed.done_spec ⟨session, first.1, first.2⟩).2.1
        have kept := congrArg Session.peer next
        exact (induction later).trans kept

/-- The lines of a history are recorded, each once and in order. -/
theorem inputs_history (session : Session) (acts : List (Registry × Act)) :
    ((session.history acts).flatMap fun deed => deed.done.exchanges).map
        Exchange.input =
      (acts.filterMap fun found => found.2.line?).map some := by
  induction acts generalizing session with
  | nil => rfl
  | cons first acts induction =>
      obtain ⟨registry, act⟩ := first
      have later := induction (session.obey registry act).session
      rw [history, List.flatMap_cons, List.map_append, later]
      cases act <;> rfl

variable (id : UInt64) (peer : Address)

/-- A session holds the account of its last login, unless that has ended. -/
theorem state_after_iff (acts : List (Registry × Act)) (username : String) :
    ((opened id peer).after acts).state = .authenticated username ↔
      Deed.LastLogin ((opened id peer).history acts) username := by
  induction acts using List.reverseRecOn with
  | nil =>
      constructor
      · intro impossible
        cases impossible
      · rintro ⟨earlier, login, later, whole, _⟩
        simp [history] at whole
  | append_singleton acts found induction =>
      obtain ⟨registry, act⟩ := found
      rw [history_concat, Deed.lastLogin_concat_iff, after_concat, ← induction]
      -- Before the last deed both sides agree, so the kind of that decides.
      let deed : Deed :=
        { session := (opened id peer).after acts, registry, act }
      change deed.done.session.state = _ ↔ _
      cases deed.kind with
      | keeps same _ noLogin noLogout released =>
          rw [same, Deed.takes?_of_no_login noLogin]
          constructor
          · intro holds
            refine .inr ⟨holds, noLogin, noLogout, fun release => ?_⟩
            rw [released release] at holds
            cases holds
          · rintro (impossible | ⟨holds, _⟩)
            · cases impossible
            · exact holds
      | takes name before takes _ login after =>
          rw [after, takes]
          simp [login, deed]
      | returns name before _ noLogin ends after =>
          rw [after, Deed.takes?_of_no_login noLogin]
          rcases ends with logout | release
          · simp [logout, deed]
          · have released : act = .release := release
            simp [released]

/-- Accounts pass to a session and back in turn, and the one it holds has not
yet been returned. -/
theorem passings_history (acts : List (Registry × Act)) :
    ∃ usernames : List String,
      ((opened id peer).history acts).flatMap Deed.passings =
        (usernames.flatMap fun username =>
          [.taken username, .returned username]) ++
        ((opened id peer).after acts).heldNames.map .taken := by
  induction acts using List.reverseRecOn with
  | nil => exact ⟨[], rfl⟩
  | append_singleton acts found induction =>
      obtain ⟨registry, act⟩ := found
      obtain ⟨usernames, passed⟩ := induction
      let deed : Deed :=
        { session := (opened id peer).after acts, registry, act }
      rw [history_concat, List.flatMap_append, passed, after_concat]
      change ∃ names : List String,
        _ ++ [deed].flatMap Deed.passings =
          _ ++ deed.done.session.heldNames.map Passing.taken
      cases deed.kind with
      | keeps same returns noLogin =>
          have takes := Deed.takes?_of_no_login noLogin
          refine ⟨usernames, ?_⟩
          rw [same]
          simp [Deed.passings, takes, returns, deed]
      | takes name before takes returns _ after =>
          refine ⟨usernames, ?_⟩
          rw [heldNames_of_unauthenticated before, after,
            heldNames_of_authenticated rfl]
          simp [Deed.passings, takes, returns]
      | returns name before returns noLogin _ after =>
          have takes := Deed.takes?_of_no_login noLogin
          refine ⟨usernames ++ [name], ?_⟩
          rw [heldNames_of_authenticated before, after,
            heldNames_of_unauthenticated rfl]
          simp [Deed.passings, takes, returns]

/-- A session returns exactly what it takes, and its replies tell what it holds.
Whatever lines, commands and releases a session is told, and whatever others
have done to the registry before each of them, it is authenticated just as the
name of its last successful login, if no logout and no release has come since.
In the life of the session, which a last release ends, logins and the calls that
it makes to log out come in pairs, one pair after the other, each of one name.
The lines are recorded in order, and each deed is lawful. -/
theorem history_determines_state (id : UInt64) (peer : Address)
    (acts : List (Registry × Act)) (last : Registry) :
    let session := opened id peer
    let life := session.history (acts ++ [(last, .release)])
    (∀ username,
        (session.after acts).state = .authenticated username ↔
          Deed.LastLogin (session.history acts) username) ∧
      (∃ usernames : List String,
        life.flatMap Deed.passings =
          usernames.flatMap fun username =>
            [.taken username, .returned username]) ∧
      (life.flatMap fun deed => deed.done.exchanges).map Exchange.input =
        (acts.filterMap fun found => found.2.line?).map some ∧
      ∀ deed ∈ life, deed.Lawful peer := by
  intro session life
  have released : (session.after (acts ++ [(last, .release)])).state =
      .unauthenticated := by
    rw [after_concat]
    exact congrArg Session.state
      ((session.after acts).release_spec last).1
  refine ⟨state_after_iff id peer acts, ?_, ?_, ?_⟩
  · obtain ⟨usernames, passed⟩ :=
      passings_history id peer (acts ++ [(last, .release)])
    rw [heldNames_of_unauthenticated released, List.map_nil,
      List.append_nil] at passed
    exact ⟨usernames, passed⟩
  · have recorded := session.inputs_history (acts ++ [(last, .release)])
    rwa [List.filterMap_append, List.filterMap_cons_none rfl,
      List.filterMap_nil, List.append_nil] at recorded
  · intro deed member
    exact Deed.lawful (peer_of_mem_history member)

end Session
end LoginServer
