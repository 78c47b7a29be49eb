import LoginServer.Proofs.DirectoryRecords
import LoginServer.Proofs.StreamConservation

/-!
# Logging in over the wire

A `USER` line reaches the session as the name that was sent, whichever
characters it has and however its bytes are cut into chunks, and the session
answers by the last record of that name in the directory
(`Session.login_over_wire`).
-/

namespace LoginServer

/-! ## The request -/

namespace Text

theorem firstRun_of_solid {text : List Char}
    (solid : ∀ character, character ∈ text → isBlank character = false) :
    firstRun text = text := by
  rw [firstRun, List.takeWhile_eq_self_iff]
  intro character member
  rw [solid character member]
  rfl

theorem trimStart_of_solid {text : List Char}
    (solid : ∀ character, character ∈ text → isBlank character = false) :
    trimStart text = text := by
  cases text with
  | nil => rfl
  | cons first rest =>
      rw [trimStart, List.dropWhile_cons, solid first List.mem_cons_self]
      rfl

theorem firstWord?_of_solid {text : List Char} (nonempty : text ≠ [])
    (solid : ∀ character, character ∈ text → isBlank character = false) :
    firstWord? (' ' :: text) = some text := by
  have trimmed : trimStart (' ' :: text) = text := trimStart_of_solid solid
  rw [firstWord?, trimmed]
  cases text with
  | nil => exact absurd rfl nonempty
  | cons first rest => exact congrArg some (firstRun_of_solid solid)

end Text

theorem Command.parse_user {name : String} (nonempty : name ≠ "")
    (solid : ∀ character, character ∈ name.toList →
      Text.isBlank character = false) :
    Command.parse ("USER " ++ name) = .user name := by
  have characters : ("USER " ++ name).toList =
      'U' :: 'S' :: 'E' :: 'R' :: ' ' :: name.toList := by
    rw [String.toList_append]
    rfl
  have word : Text.firstWord? (' ' :: name.toList) = some name.toList :=
    Text.firstWord?_of_solid (mt String.toList_eq_nil_iff.mp nonempty) solid
  let line := 'U' :: 'S' :: 'E' :: 'R' :: ' ' :: name.toList
  have trimmed : Text.trimStart line = line := rfl
  have keyword : String.ofList (Text.firstRun line) = "USER" := rfl
  have rest : Text.afterFirstRun line = ' ' :: name.toList := rfl
  rw [Command.parse, characters, trimmed]
  simp only [keyword, rest, word, String.ofList_toList]

/-! ## The line -/

/-- The bytes of a login request. -/
def loginRequest (name : String) : Bytes :=
  Text.Utf8.encode ("USER " ++ name ++ "\r\n").toList

/-- A login request within the limit is one line, which reads as it was
written. -/
theorem Codec.stream_loginRequest {name : String} {limit : Nat}
    {chunks : List Bytes}
    (solid : ∀ character, character ∈ name.toList →
      Text.isBlank character = false)
    (room : 5 + Text.Utf8.byteCount name ≤ limit)
    (sent : chunks.flatten = loginRequest name) :
    let streamed := (fresh limit).stream [] chunks
    streamed.lines = ["USER " ++ name] ∧ streamed.failure = none ∧
      streamed.buffer = [] := by
  let line := Text.Utf8.encode ("USER " ++ name).toList
  have parts : loginRequest name = Frame.joined [line] := by
    rw [loginRequest, String.toList_append, Text.Utf8.encode,
      List.flatMap_append, Frame.joined_cons, Frame.joined_nil,
      List.append_nil]
    rfl
  have plain : 13 ∉ line := by
    intro member
    have inLine := Text.Utf8.mem_of_mem_encode (by decide) member
    rw [String.toList_append, List.mem_append] at inLine
    rcases inLine with inKeyword | inName
    · revert inKeyword
      decide
    · cases solid _ inName
  have short : line.length ≤ limit := by
    rw [Text.Utf8.length_encode, Text.Utf8.byteCount,
      String.utf8ByteSize_append]
    exact room
  have isLine : ∀ other, other ∈ [line] → Frame.IsLine limit other := by
    intro other member
    cases List.mem_singleton.mp member
    exact ⟨fun inside => plain (inside.subset List.mem_cons_self), short⟩
  intro streamed
  obtain ⟨lines, failure, left⟩ := stream_joined isLine (sent.trans parts)
  rw [List.map_singleton, Frame.lineText_encode] at lines
  exact ⟨lines, failure, left⟩

/-! ## The answer -/

/-- An attempt to log in where nobody is in session is decided by the status of
the account. -/
theorem Registry.login_of_idle {registry : Registry}
    (idle : ∀ account, account ∈ registry.accounts →
      account.inSession = false) (username : String) :
    (registry.login username).1 =
      match (registry.find? username).map Account.status with
      | none => .notFound
      | some .banned => .banned
      | some .active => .success := by
  rw [login]
  cases found : registry.find? username with
  | none => rfl
  | some account =>
      have free := idle account (find?_eq_some_iff.mp found).1
      cases status : account.status <;> simp [free, status]

namespace Session

/-- A session that is not logged in answers a login request by the result of the
attempt, and holds the account just if it succeeds. -/
theorem perform_user (session : Session) (registry : Registry)
    (username : String) (state : session.state = .unauthenticated) :
    let turn := session.perform registry (.user username)
    turn.reply = (registry.login username).1.reply ∧
      turn.session.state =
        if (registry.login username).1 = .success then
          .authenticated username
        else .unauthenticated := by
  intro turn
  have logsIn : turn = session.logIn registry username := by
    simp only [turn, perform, state]
  obtain ⟨reply, after, _registry⟩ := session.logIn_spec registry username
  rw [logsIn]
  refine ⟨reply, ?_⟩
  rw [after]
  split
  · rfl
  · exact state

/-- A login request is one line, and it is answered by the last record of its
name: with `110` if the status is `1`, with `211` if it is `0`, and with `212`
just if there is no record.  The session is authenticated just if the answer is
`110`. -/
theorem login_over_wire {source name : String} {loaded : List Account}
    {limit : Nat} {chunks : List Bytes} (id : UInt64) (peer : Address)
    (ok : Directory.load source = .ok loaded) (nonempty : name ≠ "")
    (solid : ∀ character, character ∈ name.toList →
      Text.isBlank character = false)
    (room : 5 + Text.Utf8.byteCount name ≤ limit)
    (sent : chunks.flatten = loginRequest name) :
    let streamed := (Codec.fresh limit).stream [] chunks
    let registry := (Registry.ofAccounts loaded).1
    let status? := Directory.lastStatus? source name
    ∃ line, streamed.lines = [line] ∧ streamed.failure = none ∧
      let turn := ((opened id peer).answer registry line).1
      (turn.reply.code = "110" ↔ status? = some "1") ∧
        (turn.reply.code = "211" ↔ status? = some "0") ∧
        (turn.reply.code = "212" ↔ status? = none) ∧
        (turn.session.state = .authenticated name ↔
          turn.reply.code = "110") := by
  intro streamed registry status?
  obtain ⟨lines, failure, _left⟩ := Codec.stream_loginRequest solid room sent
  refine ⟨"USER " ++ name, lines, failure, ?_⟩
  have idle := Registry.idle_ofAccounts (Directory.records_of_load ok).2
  have status : status? = (registry.find? name).map fun account =>
      account.status.code := Directory.lastStatus?_of_load ok name
  have result := Registry.login_of_idle idle name
  obtain ⟨reply, state⟩ := (opened id peer).perform_user registry name rfl
  simp only [answer, Command.parse_user nonempty solid, reply, state, status]
  rw [result]
  -- The registry knows no such name, or an account that is banned or not.
  cases registry.find? name with
  | none => simp [LoginResult.reply, Reply.code]
  | some account =>
      cases known : account.status <;>
        simp [known, LoginResult.reply, Reply.code, Status.code]

/-- A name of several records and of characters outside ASCII, at the limit and
cut within a character. -/
theorem login_over_wire_at_limit :
    let source := "žofie 0 bob 1\nžofie 1\n"
    let loaded : List Account :=
      [.idle "žofie" .banned, .idle "bob" .active, .idle "žofie" .active]
    let registry := (Registry.ofAccounts loaded).1
    let peer : Address := .v4 ⟨127, 0, 0, 1⟩ 40000
    let chunks :=
      [(loginRequest "žofie").take 6, (loginRequest "žofie").drop 6]
    (Directory.load source = .ok loaded ∧ "žofie" ≠ "" ∧
      (∀ character, character ∈ "žofie".toList →
        Text.isBlank character = false) ∧
      5 + Text.Utf8.byteCount "žofie" ≤ 11 ∧
      chunks.flatten = loginRequest "žofie") ∧
      ∃ line, ((Codec.fresh 11).stream [] chunks).lines = [line] ∧
        let turn := ((opened 1 peer).answer registry line).1
        turn.reply.code = "110" ∧
          turn.session.state = .authenticated "žofie" := by
  intro source loaded registry peer chunks
  have ok : Directory.load source = .ok loaded := by decide +kernel
  have nonempty : "žofie" ≠ "" := by decide
  have noBlank : ("žofie".toList.all fun character =>
      !Text.isBlank character) = true := by decide +kernel
  have solid : ∀ character, character ∈ "žofie".toList →
      Text.isBlank character = false := by
    simpa using noBlank
  have room : 5 + Text.Utf8.byteCount "žofie" ≤ 11 := by decide
  have sent : chunks.flatten = loginRequest "žofie" := by decide +kernel
  obtain ⟨line, lines, _failure, welcome, _banned, _unknown, holds⟩ :=
    login_over_wire 1 peer ok nonempty solid room sent
  have status : Directory.lastStatus? source "žofie" = some "1" := by
    decide +kernel
  have reply := welcome.mpr status
  exact ⟨⟨ok, nonempty, solid, room, sent⟩, line, lines, reply,
    holds.mpr reply⟩

end Session

end LoginServer
