import LoginServer.Proofs.LoginForms
import LoginServer.Proofs.Utf8Inversion
import LoginServer.Proofs.WireLogin

/-!
# The bytes that log a session in

Lenient reading maps many lines to one text.  Still, no faulty bytes read as a
name without `U+FFFD`, nor as a blank or the keyword: a line logs a session in
under a name just if that name stands in it as it is encoded, behind the keyword
and encoded blanks (`Session.authenticated_iff_requests`).
-/

namespace LoginServer

/-! ## From text to bytes -/

namespace Text.Utf8

theorem encode_append (front back : List Char) :
    encode (front ++ back) = encode front ++ encode back :=
  List.flatMap_append

@[simp] theorem decodeLossy_nil : decodeLossy [] = [] := by
  rw [decodeLossy, pieces_nil]
  rfl

theorem eq_nil_of_decodeLossy {bytes : Bytes}
    (empty : decodeLossy bytes = []) : bytes = [] := by
  cases bytes with
  | nil => rfl
  | cons lead rest =>
      rw [decodeLossy_cons] at empty
      cases empty

/-- What may follow a name: nothing, or bytes that begin with an encoded
blank. -/
def EndsName (bytes : Bytes) : Prop :=
  bytes = [] ∨ ∃ blank rest, isBlank blank = true ∧
    bytes = encode [blank] ++ rest

theorem endsName_iff {bytes : Bytes} :
    EndsName bytes ↔ EndsWord (decodeLossy bytes) := by
  constructor
  · rintro (rfl | ⟨blank, rest, isBlank, rfl⟩)
    · exact Or.inl decodeLossy_nil
    · exact Or.inr
        ⟨blank, _, isBlank, decodeLossy_encode_append [blank] rest⟩
  · rintro (empty | ⟨blank, later, isBlank, same⟩)
    · exact Or.inl (eq_nil_of_decodeLossy empty)
    · have whole : '\uFFFD' ∉ [blank] := by
        intro member
        rw [← List.mem_singleton.mp member] at isBlank
        revert isBlank
        decide
      obtain ⟨rest, parts, _later⟩ :=
        exists_append_of_decodeLossy same whole
      exact Or.inr ⟨blank, rest, isBlank, parts⟩

end Text.Utf8

open Text.Utf8 (encode)

/-- The bytes ask to log in under a name: encoded blanks, the keyword, at least
one encoded blank, the encoded name, and whatever begins with an encoded blank,
if anything follows. -/
def Requests (name : String) (bytes : Bytes) : Prop :=
  ∃ (before between : List Char) (after : Bytes),
    Text.isAllBlank before = true ∧ Text.isAllBlank between = true ∧
      between ≠ [] ∧ Text.Utf8.EndsName after ∧
      bytes = encode before ++ encode "USER".toList ++ encode between ++
        encode name.toList ++ after

theorem replacement_not_mem_of_allBlank {blanks : List Char}
    (allBlank : Text.isAllBlank blanks = true) : '\uFFFD' ∉ blanks := by
  intro member
  have blank := List.all_eq_true.mp allBlank _ member
  revert blank
  decide

/-- A line reads as a request for a name without `U+FFFD` just if its bytes are
one. -/
theorem parse_lineText_eq_user_iff {name : String} {bytes : Bytes}
    (isWord : Text.IsWord name.toList) (intact : '\uFFFD' ∉ name.toList) :
    Command.parse (Frame.lineText bytes) = .user name ↔
      Requests name bytes := by
  rw [Command.parse_eq_user_iff, Frame.lineText, String.toList_ofList]
  constructor
  · rintro ⟨before, between, after, allBlank, blanks, apart, _isWord, ends,
      decoded⟩
    -- Up to the end of the name nothing is shown as `U+FFFD`.
    let front := before ++ Command.userKeyword ++ between ++ name.toList
    have whole : '\uFFFD' ∉ front := by
      simp only [front, List.mem_append, not_or]
      exact ⟨⟨⟨replacement_not_mem_of_allBlank allBlank, by decide⟩,
        replacement_not_mem_of_allBlank blanks⟩, intact⟩
    obtain ⟨rest, parts, later⟩ :=
      Text.Utf8.exists_append_of_decodeLossy decoded whole
    refine ⟨before, between, rest, allBlank, blanks, apart, ?_, ?_⟩
    · rw [Text.Utf8.endsName_iff, later]
      exact ends
    · rw [parts]
      simp only [Text.Utf8.encode_append]
      rfl
  · rintro ⟨before, between, after, allBlank, blanks, apart, ends, rfl⟩
    refine ⟨before, between, Text.Utf8.decodeLossy after, allBlank, blanks,
      apart, isWord, Text.Utf8.endsName_iff.mp ends, ?_⟩
    simp only [← Text.Utf8.encode_append,
      Text.Utf8.decodeLossy_encode_append]
    rfl

/-! ## Names of a loaded directory -/

namespace Text

theorem isWord_of_mem_words {text word : List Char}
    (member : word ∈ words text) : IsWord word := by
  have single {front : List Char}
      (solid : ∀ character, character ∈ front → isBlank character = false)
      (inFront : word ∈ words front) : IsWord word := by
    rw [words_of_solid solid] at inFront
    split at inFront
    · cases inFront
    · next notEmpty =>
        cases List.mem_singleton.mp inFront
        exact ⟨fun empty => notEmpty (by rw [empty]; rfl), solid⟩
  have parts := firstRun_append_afterFirstRun text
  have solid (character : Char) (inRun : character ∈ firstRun text) :
      isBlank character = false := not_isBlank_of_mem_firstRun inRun
  rcases endsWord_afterFirstRun text with empty | ⟨blank, rest, isBlank, same⟩
  · rw [empty, List.append_nil] at parts
    rw [parts] at solid
    exact single solid member
  · rw [same] at parts
    have shorter : rest.length < text.length := by
      rw [← parts, List.length_append, List.length_cons]
      omega
    rw [← parts, words_append_blank isBlank] at member
    rcases List.mem_append.mp member with front | back
    · exact single solid front
    · exact isWord_of_mem_words back
termination_by text.length

end Text

theorem Directory.mem_of_mem_pairs {words : List String}
    {record : String × String} (member : record ∈ pairs words) :
    record.1 ∈ words := by
  fun_induction pairs words with
  | case1 first second rest induction =>
      rcases List.mem_cons.mp member with rfl | later
      · exact List.mem_cons_self
      · exact List.mem_cons_of_mem _
          (List.mem_cons_of_mem _ (induction later))
  | case2 => cases member

theorem Directory.isWord_of_load {source : String} {loaded : List Account}
    (ok : load source = .ok loaded) {account : Account}
    (known : account ∈ (Registry.ofAccounts loaded).1.accounts) :
    Text.IsWord account.username.toList := by
  have found := Registry.find?_eq_some_iff.mpr ⟨known, rfl⟩
  rw [Registry.find?_ofAccounts, List.findRev?_eq_find?_reverse] at found
  have entered := List.mem_reverse.mp (List.mem_of_find?_eq_some found)
  have recorded : (account.username, account.status.code) ∈
      records source := by
    rw [(records_of_load ok).1]
    exact List.mem_map_of_mem entered
  obtain ⟨word, isOne, same⟩ := List.mem_map.mp (mem_of_mem_pairs recorded)
  have named : String.ofList word = account.username := same
  rw [← named, String.toList_ofList]
  exact Text.isWord_of_mem_words isOne

/-! ## Sessions -/

theorem Registry.login_success_iff {registry : Registry} {username : String} :
    (registry.login username).1 = .success ↔
      ∃ account, registry.find? username = some account ∧
        account.inSession = false ∧ account.status = .active := by
  rw [login]
  cases registry.find? username with
  | none => simp
  | some account =>
      cases busy : account.inSession <;> cases status : account.status <;>
        simp [busy, status]

namespace Session

/-- A session that holds no account is authenticated by a line just if the line
is a request for the name and the login succeeds. -/
theorem authenticated_iff_success {session : Session}
    (state : session.state = .unauthenticated) (registry : Registry)
    (line username : String) :
    (session.answer registry line).1.session.state =
        .authenticated username ↔
      Command.parse line = .user username ∧
        (registry.login username).1 = .success := by
  change (session.perform registry (Command.parse line)).session.state = _ ↔ _
  constructor
  · intro holds
    rcases session.perform_cases registry (Command.parse line) with
      ⟨same, _registry⟩ |
        ⟨name, notices, _state, command, success, same⟩ |
        ⟨name, held, _command, _registry, _session⟩
    · rw [same, state] at holds
      cases holds
    · rw [same] at holds
      cases holds
      exact ⟨command, congrArg Prod.fst success⟩
    · rw [state] at held
      cases held
  · rintro ⟨command, success⟩
    rw [command]
    have after := (session.perform_user registry username state).2
    rwa [if_pos success] at after

/-- Faulty bytes never stand for an account.  In a registry whose usernames are
words without `U+FFFD`, as every directory that loads yields words, a line
within the limit reaches a session that holds no account as one text, however
its bytes are cut into chunks; and it logs the session in under a name just if
the name is that of a free account that is not banned and the bytes have the
form of a request for it, whatever bytes follow the name. -/
theorem authenticated_iff_requests :
    (∀ (source : String) (loaded : List Account),
      Directory.load source = .ok loaded →
      ∀ account ∈ (Registry.ofAccounts loaded).1.accounts,
        Text.IsWord account.username.toList) ∧
      ∀ (registry : Registry) (session : Session) (limit : Nat)
        (bytes : Bytes) (chunks : List Bytes),
        (∀ account ∈ registry.accounts,
          Text.IsWord account.username.toList ∧
            '\uFFFD' ∉ account.username.toList) →
        session.state = .unauthenticated →
        Frame.IsLine limit bytes →
        chunks.flatten = bytes ++ Frame.terminator →
        let streamed := (Codec.fresh limit).stream [] chunks
        ∃ line, streamed.lines = [line] ∧ streamed.failure = none ∧
          streamed.buffer = [] ∧
          ∀ username,
            (session.answer registry line).1.session.state =
                .authenticated username ↔
              (∃ account, registry.find? username = some account ∧
                account.inSession = false ∧ account.status = .active) ∧
              Requests username bytes := by
  constructor
  · intro source loaded ok account known
    exact Directory.isWord_of_load ok known
  · intro registry session limit bytes chunks plain state isLine sent streamed
    have parts : chunks.flatten = Frame.joined [bytes] := by
      rw [sent, Frame.joined_cons, Frame.joined_nil, List.append_nil]
    have each : ∀ other, other ∈ [bytes] → Frame.IsLine limit other := by
      intro other member
      rwa [List.mem_singleton.mp member]
    obtain ⟨lines, failure, left⟩ :=
      Codec.stream_eq_extractAll (Codec.atRest_fresh limit) chunks
    rw [List.nil_append, parts] at lines failure left
    rw [show (Codec.fresh limit).limit = limit from rfl,
      Frame.extractAll_joined each] at lines failure left
    refine ⟨Frame.lineText bytes, lines, failure, left rfl, ?_⟩
    intro username
    rw [authenticated_iff_success state, Registry.login_success_iff, and_comm]
    apply and_congr_right
    rintro ⟨account, found, _free, _active⟩
    obtain ⟨known, rfl⟩ := Registry.find?_eq_some_iff.mp found
    obtain ⟨isWord, intact⟩ := plain account known
    exact parse_lineText_eq_user_iff isWord intact

/-- A name with a character outside ASCII, a blank outside ASCII before it and
faulty bytes behind it, cut within a character. -/
theorem authenticated_iff_requests_of_faulty_bytes :
    let source := "žofie 1\n"
    let loaded := [Account.idle "žofie" .active]
    let registry := (Registry.ofAccounts loaded).1
    let session := opened 1 (.v4 ⟨127, 0, 0, 1⟩ 40000)
    let bytes := encode "USER\u3000žofie ".toList ++ [0xFF, 0xC5]
    let sent := bytes ++ Frame.terminator
    let chunks := [sent.take 9, sent.drop 9]
    Directory.load source = .ok loaded ∧
      (∀ account ∈ registry.accounts,
        Text.IsWord account.username.toList ∧
          '\uFFFD' ∉ account.username.toList) ∧
      Frame.IsLine 20 bytes ∧ chunks.flatten = bytes ++ Frame.terminator ∧
      Requests "žofie" bytes ∧
      ∃ line, ((Codec.fresh 20).stream [] chunks).lines = [line] ∧
        (session.answer registry line).1.session.state =
          .authenticated "žofie" := by
  intro source loaded registry session bytes sent chunks
  have ok : Directory.load source = .ok loaded := by decide +kernel
  have isLine : Frame.IsLine 20 bytes :=
    ⟨Frame.findTerminator?_eq_none_iff.mp (by decide +kernel),
      by decide +kernel⟩
  have whole : chunks.flatten = bytes ++ Frame.terminator := by
    decide +kernel
  have requests : Requests "žofie" bytes :=
    ⟨[], ['\u3000'], encode [' '] ++ [0xFF, 0xC5], rfl, rfl,
      List.cons_ne_nil _ _, Or.inr ⟨' ', [0xFF, 0xC5], rfl, rfl⟩,
      by decide +kernel⟩
  obtain ⟨words, sessions⟩ := authenticated_iff_requests
  have plain : ∀ account ∈ registry.accounts,
      Text.IsWord account.username.toList ∧
        '\uFFFD' ∉ account.username.toList := by
    intro account known
    have same : account = .idle "žofie" .active := List.mem_singleton.mp known
    refine ⟨words source loaded ok account known, ?_⟩
    rw [same]
    decide +kernel
  obtain ⟨line, lines, _failure, _buffer, holds⟩ :=
    sessions registry session 20 bytes chunks plain rfl isLine whole
  refine ⟨ok, plain, isLine, whole, requests, line, lines, ?_⟩
  exact (holds "žofie").mpr
    ⟨⟨.idle "žofie" .active, by decide +kernel, rfl, rfl⟩, requests⟩

-- An account whose name is `U+FFFD` is reached by bytes that do not encode it.
example :
    let registry :=
      (Registry.ofAccounts [Account.idle "\uFFFD" .active]).1
    let session := opened 1 (.v4 ⟨127, 0, 0, 1⟩ 40000)
    let line := Frame.lineText (encode "USER ".toList ++ [0xFF])
    (session.answer registry line).1.session.state =
      .authenticated "\uFFFD" := by
  decide +kernel

end Session
end LoginServer
