import Mathlib.Data.List.Induction
import LoginServer.Proofs.DirectoryRecords

/-!
# Records of the same name

Entering one more record appends its name or leaves the names as they are
(`usernames_insert`), and tells of it just if the name was there.  So a registry
lists each name where its first record stands, with what its last record says
(`ofAccounts_merges_records`).
-/

namespace LoginServer

/-- The names of the records whose name an earlier record has, in order. -/
def repeatedNames (records : List Account) : List String :=
  records.zipIdx.filterMap fun (record, place) =>
    if record.username ∈ (records.take place).map Account.username then
      some record.username
    else none

theorem repeatedNames_concat (records : List Account) (record : Account) :
    repeatedNames (records ++ [record]) =
      repeatedNames records ++
        if record.username ∈ records.map Account.username then
          [record.username]
        else [] := by
  rw [repeatedNames, List.zipIdx_append, List.filterMap_append]
  congr 1
  · apply List.filterMap_congr
    rintro ⟨other, place⟩ member
    have inside : place ≤ records.length := by
      have bound := List.snd_lt_of_mem_zipIdx member
      omega
    simp only [List.take_append_of_le_length inside]
  · rw [List.zipIdx_singleton, Nat.zero_add, List.filterMap_cons,
      List.filterMap_nil]
    dsimp only
    rw [List.take_left' rfl]
    by_cases taken : record.username ∈ records.map Account.username
    · rw [if_pos taken, if_pos taken]
    · rw [if_neg taken, if_neg taken]

namespace Registry

theorem eq_of_accounts {left right : Registry}
    (same : left.accounts = right.accounts) : left = right := by
  cases left
  cases right
  cases same
  rfl

theorem find?_of_mem {registry : Registry} {account : Account}
    (member : account ∈ registry.accounts) :
    registry.find? account.username = some account :=
  find?_eq_some_iff.mpr ⟨member, rfl⟩

/-! ## One record more -/

theorem usernames_insert (registry : Registry) (account : Account) :
    (registry.insert account).accounts.map Account.username =
      registry.accounts.map Account.username ++
        if account.username ∈ registry.accounts.map Account.username then []
        else [account.username] := by
  rw [insert]
  split
  · rw [List.append_nil]
    exact usernames_replaceIn account registry.accounts
  · rw [List.map_append, List.map_singleton]

theorem insertAll_append (registry : Registry) (front back : List Account) :
    registry.insertAll (front ++ back) =
      let first := registry.insertAll front
      let second := first.1.insertAll back
      (second.1, first.2 ++ second.2) := by
  induction front generalizing registry with
  | nil => rfl
  | cons account rest induction =>
      simp only [List.cons_append, insertAll, induction, List.append_assoc]

theorem ofAccounts_concat (records : List Account) (record : Account) :
    let built := ofAccounts records
    ofAccounts (records ++ [record]) =
      (built.1.insert record, built.2 ++ built.1.insertNotices record) := by
  intro built
  rw [ofAccounts, insertAll_append]
  simp only [insertAll, List.append_nil]
  rfl

theorem find?_ofAccounts_eq_none_iff {records : List Account}
    {username : String} :
    (ofAccounts records).1.find? username = none ↔
      username ∉ records.map Account.username := by
  rw [find?_ofAccounts, List.findRev?_eq_find?_reverse, List.find?_eq_none]
  simp

theorem mem_usernames_iff {registry : Registry} {username : String} :
    username ∈ registry.accounts.map Account.username ↔
      registry.find? username ≠ none := by
  rw [Option.ne_none_iff_exists', List.mem_map]
  exact exists_congr fun account => find?_eq_some_iff.symm

theorem mem_usernames_ofAccounts_iff {records : List Account}
    {username : String} :
    username ∈ (ofAccounts records).1.accounts.map Account.username ↔
      username ∈ records.map Account.username := by
  rw [mem_usernames_iff, ne_eq, find?_ofAccounts_eq_none_iff, not_not]

theorem insertNotices_ofAccounts (records : List Account) (record : Account) :
    (ofAccounts records).1.insertNotices record =
      if record.username ∈ records.map Account.username then
        [.duplicateAccount record.username]
      else [] := by
  rw [insertNotices]
  exact if_congr mem_usernames_ofAccounts_iff rfl rfl

theorem usernames_ofAccounts_concat (records : List Account)
    (record : Account) :
    (ofAccounts (records ++ [record])).1.accounts.map Account.username =
      (ofAccounts records).1.accounts.map Account.username ++
        if record.username ∈ records.map Account.username then []
        else [record.username] := by
  rw [ofAccounts_concat, usernames_insert]
  exact congrArg _ (if_congr mem_usernames_ofAccounts_iff rfl rfl)

/-! ## All records -/

theorem usernames_ofAccounts_ordered (records : List Account) :
    ((ofAccounts records).1.accounts.map Account.username).Pairwise
      fun first second =>
        (records.map Account.username).idxOf first <
          (records.map Account.username).idxOf second := by
  induction records using List.reverseRecOn with
  | nil => exact List.Pairwise.nil
  | append_singleton records record induction =>
      let names := records.map Account.username
      -- Names that are there keep their places when one is added.
      have kept {name : String}
          (member : name ∈
            (ofAccounts records).1.accounts.map Account.username) :
          (names ++ [record.username]).idxOf name = names.idxOf name :=
        List.idxOf_append_of_mem (mem_usernames_ofAccounts_iff.mp member)
      rw [usernames_ofAccounts_concat, List.map_append, List.map_singleton]
      have before :
          ((ofAccounts records).1.accounts.map Account.username).Pairwise
            fun first second =>
              (names ++ [record.username]).idxOf first <
                (names ++ [record.username]).idxOf second := by
        apply induction.imp_of_mem
        intro first second isFirst isSecond less
        rwa [kept isFirst, kept isSecond]
      split
      · rwa [List.append_nil]
      · next absent =>
          apply List.pairwise_append.mpr
          refine ⟨before, List.pairwise_singleton _ _, ?_⟩
          intro name member other isNew
          cases List.mem_singleton.mp isNew
          rw [kept member, List.idxOf_append_of_notMem absent]
          have inside := List.idxOf_lt_length_of_mem
            (mem_usernames_ofAccounts_iff.mp member)
          exact Nat.lt_add_right _ inside

theorem notices_ofAccounts (records : List Account) :
    (ofAccounts records).2 =
      (repeatedNames records).map .duplicateAccount := by
  induction records using List.reverseRecOn with
  | nil => rfl
  | append_singleton records record induction =>
      rw [ofAccounts_concat, repeatedNames_concat, List.map_append,
        ← induction, insertNotices_ofAccounts]
      split <;> rfl

theorem size_add_notices (records : List Account) :
    (ofAccounts records).1.size + (ofAccounts records).2.length =
      records.length := by
  have size (registry : Registry) : registry.size =
      (registry.accounts.map Account.username).length :=
    (List.length_map Account.username).symm
  rw [size]
  induction records using List.reverseRecOn with
  | nil => rfl
  | append_singleton records record induction =>
      rw [usernames_ofAccounts_concat, ofAccounts_concat,
        insertNotices_ofAccounts, List.length_append, List.length_append,
        List.length_append, ← induction]
      split <;> simp <;> omega

/-- Records of distinct names are entered as they are. -/
theorem ofAccounts_of_distinct {records : List Account}
    (distinct : (records.map Account.username).Nodup) :
    (ofAccounts records).1.accounts = records ∧ (ofAccounts records).2 = [] := by
  induction records using List.reverseRecOn with
  | nil => exact ⟨rfl, rfl⟩
  | append_singleton records record induction =>
      rw [List.map_append, List.map_singleton] at distinct
      obtain ⟨before, _single, apart⟩ := List.nodup_append.mp distinct
      have absent : record.username ∉ records.map Account.username := by
        intro member
        exact apart _ member _ (List.mem_singleton_self _) rfl
      obtain ⟨accounts, notices⟩ := induction before
      rw [ofAccounts_concat, insertNotices_ofAccounts, if_neg absent, notices]
      refine ⟨?_, rfl⟩
      rw [insert, dif_neg (mt mem_usernames_ofAccounts_iff.mp absent)]
      exact congrArg (· ++ [record]) accounts

theorem ofAccounts_accounts (registry : Registry) :
    ofAccounts registry.accounts = (registry, []) := by
  obtain ⟨accounts, notices⟩ := ofAccounts_of_distinct registry.distinct
  exact Prod.ext (eq_of_accounts accounts) notices

theorem usernames_prefix_insertAll (registry : Registry)
    (records : List Account) :
    registry.accounts.map Account.username <+:
      (registry.insertAll records).1.accounts.map Account.username := by
  induction records generalizing registry with
  | nil => exact List.prefix_rfl
  | cons record rest induction =>
      apply List.IsPrefix.trans _ (induction (registry.insert record))
      rw [usernames_insert]
      exact List.prefix_append _ _

/-- What a registry knows of a name is its last record. -/
theorem exists_last_record {records : List Account} {account : Account}
    (member : account ∈ (ofAccounts records).1.accounts) :
    ∃ front back, records = front ++ account :: back ∧
      ∀ later, later ∈ back → later.username ≠ account.username := by
  have found := find?_of_mem member
  rw [find?_ofAccounts, List.findRev?_eq_find?_reverse,
    List.find?_eq_some_iff_append] at found
  obtain ⟨_named, later, earlier, parts, others⟩ := found
  refine ⟨earlier.reverse, later.reverse, ?_, ?_⟩
  · rw [← List.reverse_reverse records, parts]
    simp
  · intro other inLater
    simpa using others other (List.mem_reverse.mp inLater)

/-- A registry has each name once, in the order of the first records, and its
last record.  Each further record of a name is told, so that accounts and
notices together are as many as the records.  What has been built is built again
from its own accounts, and further records go behind it. -/
theorem ofAccounts_merges_records (records : List Account) :
    let names := records.map Account.username
    let built := ofAccounts records
    let snapshot := built.1.accounts
    (∀ name, (snapshot.map Account.username).count name =
        if name ∈ names then 1 else 0) ∧
      (snapshot.map Account.username).Pairwise
        (fun first second => names.idxOf first < names.idxOf second) ∧
      (∀ account, account ∈ snapshot →
        ∃ front back, records = front ++ account :: back ∧
          ∀ later, later ∈ back → later.username ≠ account.username) ∧
      built.2 = (repeatedNames records).map .duplicateAccount ∧
      (built.2.map fun notice => (notice.level, notice.message)) =
        ((repeatedNames records).map fun name =>
          (.warn, "Duplicate account '" ++ name
            ++ "' in directory; the later record wins.")) ∧
      built.1.size + built.2.length = records.length ∧
      ofAccounts snapshot = (built.1, []) ∧
      ∀ more, snapshot.map Account.username <+:
        (ofAccounts (records ++ more)).1.accounts.map Account.username := by
  intro names built snapshot
  refine ⟨?_, usernames_ofAccounts_ordered records,
    fun _ member => exists_last_record member, notices_ofAccounts records, ?_,
    size_add_notices records, ofAccounts_accounts built.1, ?_⟩
  · intro name
    rw [← if_congr mem_usernames_ofAccounts_iff rfl rfl]
    split
    · next member => exact List.count_eq_one_of_mem built.1.distinct member
    · next absent => exact List.count_eq_zero_of_not_mem absent
  · rw [notices_ofAccounts, List.map_map]
    rfl
  · intro more
    rw [ofAccounts, insertAll_append]
    exact usernames_prefix_insertAll built.1 more

example :
    let built := ofAccounts
      [.idle "eve" .active, .idle "bob" .active, .idle "eve" .banned]
    built.1.accounts = [.idle "eve" .banned, .idle "bob" .active] ∧
      built.2 = [.duplicateAccount "eve"] := by decide

end Registry
end LoginServer
