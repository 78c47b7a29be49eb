import LoginServer.Account.Directory
import LoginServer.Proofs.AccountHolding

/-!
# The records of a directory

A directory that loads is a sequence of words, a name and a status digit in
turn (`Directory.records_of_load`).  The registry that is built from it knows a
name by its last record (`Registry.find?_ofAccounts`).
-/

namespace LoginServer

namespace Text

/-- The words of a text: its longest stretches without blanks, in order. -/
def words (text : List Char) : List (List Char) :=
  (text.splitOnP isBlank).filter fun word => !word.isEmpty

theorem words_append_blank {blank : Char} (isBlank : isBlank blank = true)
    (front back : List Char) :
    words (front ++ blank :: back) = words front ++ words back := by
  rw [words, List.splitOnP_append_cons front back isBlank, List.filter_append]
  rfl

/-- A text without blanks is one word, if it is anything. -/
theorem words_of_solid {text : List Char}
    (solid : ∀ character, character ∈ text → isBlank character = false) :
    words text = if text.isEmpty then [] else [text] := by
  rw [words, List.splitOnP_eq_singleton solid]
  cases text <;> rfl

end Text

theorem Status.eq_code_of_ofCode? {code : String} {status : Status}
    (known : Status.ofCode? code = some status) : code = status.code := by
  rw [Status.ofCode?] at known
  split at known
  · next same =>
      cases known
      exact same
  · split at known
    · next same =>
        cases known
        exact same
    · cases known

namespace Directory

/-- Words in pairs; one that is left over is dropped. -/
def pairs : List String → List (String × String)
  | first :: second :: rest => (first, second) :: pairs rest
  | _ => []

/-- The names of a directory with the words that follow them, in order. -/
def records (source : String) : List (String × String) :=
  pairs ((Text.words source.toList).map String.ofList)

/-- The word that follows a name in its last record. -/
def lastStatus? (source username : String) : Option String :=
  ((records source).findRev? fun record => record.1 = username).map Prod.snd

theorem text_tokensFrom {line : Nat} {word : List Char}
    (solid : ∀ character, character ∈ word →
      Text.isBlank character = false) (text : List Char) :
    (tokensFrom line word text).map Token.text =
      Text.words (word.reverse ++ text) := by
  have solidReverse (character : Char) (member : character ∈ word.reverse) :
      Text.isBlank character = false :=
    solid character (List.mem_reverse.mp member)
  have solidNil (character : Char) (member : character ∈ []) :
      Text.isBlank character = false :=
    absurd member List.not_mem_nil
  induction text generalizing line word with
  | nil =>
      rw [List.append_nil, Text.words_of_solid solidReverse, tokensFrom,
        List.isEmpty_reverse]
      split <;> rfl
  | cons character rest induction =>
      rw [tokensFrom]
      cases blank : Text.isBlank character with
      | true =>
          have begun (next : Nat) : (tokensFrom next [] rest).map Token.text =
              Text.words rest := induction solidNil solidNil
          rw [Text.words_append_blank blank, Text.words_of_solid solidReverse,
            List.isEmpty_reverse, if_pos rfl]
          dsimp only
          split
          · exact begun _
          · rw [List.map_cons, begun]
            rfl
      | false =>
          have longer (other : Char) (member : other ∈ character :: word) :
              Text.isBlank other = false := by
            rcases List.mem_cons.mp member with rfl | earlier
            · exact blank
            · exact solid other earlier
          have longerReverse (other : Char)
              (member : other ∈ (character :: word).reverse) :
              Text.isBlank other = false :=
            longer other (List.mem_reverse.mp member)
          rw [if_neg Bool.false_ne_true, induction longer longerReverse,
            List.reverse_cons, List.append_assoc]
          rfl

theorem text_tokens (text : List Char) :
    (tokens text).map Token.text = Text.words text :=
  text_tokensFrom (fun _ member => absurd member List.not_mem_nil) text

/-- What words spell, apart from their lines. -/
def spelled (words : List Token) : List String :=
  words.map fun word => String.ofList word.text

/-- An account as a directory spells it. -/
def spelling (account : Account) : List String :=
  [account.username, account.status.code]

section Pair

variable {name word : Token} {rest : List Token}

theorem accounts_of_status {status : Status}
    (known : Status.ofCode? (String.ofList word.text) = some status) :
    accounts (name :: word :: rest) =
      (accounts rest).map fun later =>
        .idle (String.ofList name.text) status :: later := by
  simp only [accounts, known]

theorem accounts_of_invalid
    (invalid : Status.ofCode? (String.ofList word.text) = none) :
    accounts (name :: word :: rest) =
      .error (.invalidStatus (String.ofList word.text)
        (String.ofList name.text) word.line) := by
  simp only [accounts, invalid]

end Pair

theorem spelled_of_accounts {words : List Token} {loaded : List Account}
    (ok : accounts words = .ok loaded) :
    spelled words = loaded.flatMap spelling ∧
      ∀ account, account ∈ loaded → account.inSession = false := by
  match words with
  | [] =>
      cases ok
      exact ⟨rfl, nofun⟩
  | [name] => cases ok
  | name :: word :: rest =>
      cases known : Status.ofCode? (String.ofList word.text) with
      | none =>
          rw [accounts_of_invalid known] at ok
          cases ok
      | some status =>
          rw [accounts_of_status known] at ok
          cases result : accounts rest with
          | error fault =>
              rw [result] at ok
              cases ok
          | ok later =>
              rw [result] at ok
              cases ok
              obtain ⟨same, idle⟩ := spelled_of_accounts result
              have digit := Status.eq_code_of_ofCode? known
              constructor
              · simp only [spelled, List.map_cons, List.flatMap_cons,
                  spelling, digit]
                exact congrArg (_ :: _ :: ·) same
              · intro account member
                rcases List.mem_cons.mp member with rfl | earlier
                · rfl
                · exact idle account earlier

theorem pairs_spelling (accounts : List Account) :
    pairs (accounts.flatMap spelling) =
      accounts.map fun account => (account.username, account.status.code) := by
  induction accounts with
  | nil => rfl
  | cons account accounts induction =>
      exact congrArg (_ :: ·) induction

/-- Words that spell accounts are their names and their status digits in
turn. -/
theorem pairs_of_accounts {words : List Token} {loaded : List Account}
    (ok : accounts words = .ok loaded) :
    pairs (words.map fun word => String.ofList word.text) =
        loaded.map (fun account => (account.username, account.status.code)) ∧
      ∀ account, account ∈ loaded → account.inSession = false := by
  obtain ⟨same, idle⟩ := spelled_of_accounts ok
  refine ⟨?_, idle⟩
  rw [← pairs_spelling, ← same]
  rfl

theorem records_of_load {source : String} {loaded : List Account}
    (ok : load source = .ok loaded) :
    records source =
        loaded.map (fun account => (account.username, account.status.code)) ∧
      ∀ account, account ∈ loaded → account.inSession = false := by
  rw [records, ← text_tokens, List.map_map]
  exact pairs_of_accounts ok

end Directory

namespace Registry

/-! ## Looking up inserted accounts -/

theorem find?_replaceIn {account : Account} {accounts : List Account}
    (taken : account.username ∈ accounts.map Account.username)
    (username : String) :
    (replaceIn account accounts).find?
        (fun other => other.username = username) =
      if account.username = username then some account
      else accounts.find? fun other => other.username = username := by
  let replaced (other : Account) : Account :=
    if other.username = account.username then account else other
  -- The replacement has the name of what it replaces.
  have sameName (other : Account) :
      (replaced other).username = other.username := by
    simp only [replaced]
    split
    · next same => exact same.symm
    · rfl
  have mapped : (replaceIn account accounts).find?
      (fun other => other.username = username) =
        (accounts.find? fun other => other.username = username).map
          replaced := by
    rw [replaceIn, List.find?_map]
    apply congrArg (Option.map replaced)
    congr 1
    funext other
    exact congrArg (fun name => decide (name = username)) (sameName other)
  rw [mapped]
  cases found : accounts.find? fun other => other.username = username with
  | none =>
      have different : account.username ≠ username := by
        obtain ⟨other, member, same⟩ := List.mem_map.mp taken
        have named := List.find?_eq_none.mp found other member
        simpa [same] using named
      rw [if_neg different, Option.map_none]
  | some other =>
      have named : other.username = username := by
        simpa using List.find?_some found
      simp only [Option.map_some, replaced, named, eq_comm]
      split <;> rfl

theorem find?_insert (registry : Registry) (account : Account)
    (username : String) :
    (registry.insert account).find? username =
      if account.username = username then some account
      else registry.find? username := by
  rw [insert]
  split
  · next taken => exact find?_replaceIn taken username
  · next absent =>
      simp only [find?, List.find?_append, List.find?_singleton]
      by_cases same : account.username = username
      · have none : registry.accounts.find?
            (fun other => other.username = username) = none := by
          rw [List.find?_eq_none]
          intro other member named
          apply absent
          rw [same, ← of_decide_eq_true named]
          exact List.mem_map_of_mem member
        simp [same, none]
      · simp [same]

/-- After records have been entered a name belongs to its last record, or to the
account that it had before. -/
theorem find?_insertAll (registry : Registry) (entered : List Account)
    (username : String) :
    (registry.insertAll entered).1.find? username =
      (entered.findRev? fun account => account.username = username).or
        (registry.find? username) := by
  induction entered generalizing registry with
  | nil => rfl
  | cons account rest induction =>
      change ((registry.insert account).insertAll rest).1.find? username = _
      rw [induction, find?_insert, List.findRev?_eq_find?_reverse,
        List.findRev?_eq_find?_reverse, List.reverse_cons, List.find?_append,
        List.find?_singleton, Option.or_assoc]
      by_cases same : account.username = username <;> simp [same]

theorem find?_ofAccounts (entered : List Account) (username : String) :
    (ofAccounts entered).1.find? username =
      entered.findRev? fun account => account.username = username := by
  rw [ofAccounts, find?_insertAll]
  exact Option.or_none

end Registry

/-- The last record of a name is what the registry knows of it. -/
theorem Directory.lastStatus?_of_load {source : String}
    {loaded : List Account} (ok : load source = .ok loaded)
    (username : String) :
    lastStatus? source username =
      ((Registry.ofAccounts loaded).1.find? username).map fun account =>
        account.status.code := by
  rw [lastStatus?, (records_of_load ok).1, Registry.find?_ofAccounts,
    List.findRev?_eq_find?_reverse, List.findRev?_eq_find?_reverse,
    ← List.map_reverse, List.find?_map, Option.map_map]
  rfl

end LoginServer
