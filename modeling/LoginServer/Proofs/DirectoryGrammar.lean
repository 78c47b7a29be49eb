import LoginServer.Proofs.DirectoryLines
import LoginServer.Proofs.WordLayout

/-!
# The grammar of a directory

A directory is read by the words of its layout, each on the line where the
layout has it (`Directory.tokens_layout`).  It loads just if the words are names
and status digits in turn, and otherwise the first word at fault is told with
its line (`Directory.load_reads_pairs`).
-/

namespace LoginServer

namespace Text

/-! ## Blanks between words -/

/-- A separator of words. -/
structure IsGap (text : List Char) : Prop where
  blank : isAllBlank text = true
  nonempty : text ≠ []

/-- Words in a row, each behind the separator of its place, and one more
separator at the end. -/
def spaced (separator : Nat → List Char) (place : Nat) :
    List (List Char) → List Char
  | [] => separator place
  | word :: words =>
      separator place ++ word ++ spaced separator (place + 1) words

theorem isAllBlank_cons_iff {first : Char} {rest : List Char} :
    isAllBlank (first :: rest) = true ↔
      isBlank first = true ∧ isAllBlank rest = true := by
  rw [isAllBlank, List.all_cons, Bool.and_eq_true]
  rfl

theorem words_blank_append {blanks : List Char}
    (allBlank : isAllBlank blanks = true) (text : List Char) :
    words (blanks ++ text) = words text := by
  induction blanks with
  | nil => rfl
  | cons blank blanks induction =>
      obtain ⟨first, later⟩ := isAllBlank_cons_iff.mp allBlank
      calc
        words (blank :: (blanks ++ text)) =
            words [] ++ words (blanks ++ text) :=
          words_append_blank first [] (blanks ++ text)
        _ = words text := induction later

theorem words_append_gap {gap : List Char} (isGap : IsGap gap)
    (front back : List Char) :
    words (front ++ gap ++ back) = words front ++ words back := by
  obtain ⟨allBlank, nonempty⟩ := isGap
  cases gap with
  | nil => exact absurd rfl nonempty
  | cons blank blanks =>
      obtain ⟨first, later⟩ := isAllBlank_cons_iff.mp allBlank
      rw [List.append_assoc, List.cons_append, words_append_blank first,
        words_blank_append later]

theorem words_of_isWord {word : List Char} (isWord : IsWord word) :
    words word = [word] := by
  rw [words_of_solid isWord.solid]
  cases word with
  | nil => exact absurd rfl isWord.nonempty
  | cons first rest => rfl

theorem words_word_append {word rest : List Char} (isWord : IsWord word)
    (ends : EndsWord rest) : words (word ++ rest) = word :: words rest := by
  rcases ends with rfl | ⟨blank, later, isBlank, rfl⟩
  · rw [List.append_nil, words_of_isWord isWord]
    rfl
  · have alone : words (blank :: later) = words [] ++ words later :=
      words_append_blank isBlank [] later
    rw [words_append_blank isBlank, words_of_isWord isWord, alone]
    rfl

theorem words_spaced {separator : Nat → List Char} {place : Nat}
    {row : List (List Char)} (isWord : ∀ word, word ∈ row → IsWord word)
    (blank : ∀ place, isAllBlank (separator place) = true)
    (apart : ∀ other, place < other → other < place + row.length →
      separator other ≠ []) :
    words (spaced separator place row) = row := by
  induction row generalizing place with
  | nil =>
      have nothing := words_blank_append (blank place) []
      rwa [List.append_nil] at nothing
  | cons word rest induction =>
      have ends : EndsWord (spaced separator (place + 1) rest) := by
        cases rest with
        | nil => exact endsWord_of_isAllBlank (blank (place + 1))
        | cons next rest =>
            rw [spaced, List.append_assoc]
            apply endsWord_append (blank (place + 1))
            apply apart (place + 1)
            · omega
            · simp
      have later : words (spaced separator (place + 1) rest) = rest := by
        apply induction
        · intro other member
          exact isWord other (List.mem_cons_of_mem word member)
        · intro other above below
          apply apart other
          · omega
          · rw [List.length_cons]
            omega
      rw [spaced, List.append_assoc, words_blank_append (blank place),
        words_word_append (isWord word List.mem_cons_self) ends, later]

end Text

namespace Directory

/-! ## Words on their lines -/

theorem not_lineFeed_mem_of_isWord {word : List Char}
    (isWord : Text.IsWord word) : '\n' ∉ word := by
  intro member
  have dark := isWord.solid _ member
  cases dark

theorem tokensFrom_blank_append {blanks : List Char}
    (allBlank : Text.isAllBlank blanks = true) (line : Nat)
    (text : List Char) :
    tokensFrom line [] (blanks ++ text) =
      tokensFrom (line + blanks.count '\n') [] text := by
  induction blanks generalizing line with
  | nil => rfl
  | cons blank blanks induction =>
      obtain ⟨first, later⟩ := Text.isAllBlank_cons_iff.mp allBlank
      rw [List.cons_append, tokensFrom, if_pos first]
      dsimp only [List.isEmpty_nil]
      rw [if_pos rfl, induction later, List.count_cons]
      by_cases ended : blank = '\n'
      · simp only [ended, if_true, beq_self_eq_true]
        congr 1
        omega
      · simp [ended]

/-- The words of places, if the first gap begins on the given line. -/
def tokensOfPlaces (line : Nat) : List Text.Place → List Token
  | [] => []
  | place :: places =>
      let here := line + place.gap.count '\n'
      ⟨place.word, here⟩ :: tokensOfPlaces here places

theorem tokensFrom_layout (line : Nat) (layout : Text.Layout) :
    tokensFrom line [] layout.text = tokensOfPlaces line layout.places := by
  obtain ⟨places, last, blank, apart⟩ := layout
  induction places generalizing line with
  | nil =>
      have nothing := tokensFrom_blank_append blank line []
      rwa [List.append_nil] at nothing
  | cons place places induction =>
      let layout : Text.Layout := ⟨place :: places, last, blank, apart⟩
      have parts : layout.text =
          place.gap ++ (place.word ++ layout.tail.text) := by
        rw [← List.append_assoc]
        exact (layout.opening rfl).parts
      have ends : Text.EndsWord layout.tail.text :=
        Text.Layout.endsWord_text apart
      rw [parts, tokensFrom_blank_append place.blank,
        tokensFrom_append Text.solid_nil
          (not_lineFeed_mem_of_isWord place.isWord) ends]
      have word : Text.words ([].reverse ++ place.word) = [place.word] :=
        Text.words_of_isWord place.isWord
      rw [word, tokensOfPlaces]
      exact congrArg _ (induction _ layout.tail.apart)

theorem getElem?_tokensOfPlaces (line : Nat) (places : List Text.Place)
    (index : Nat) :
    (tokensOfPlaces line places)[index]? =
      places[index]?.map fun place =>
        ⟨place.word,
          line + (Text.Place.spread (places.take index) ++ place.gap).count
            '\n'⟩ := by
  induction places generalizing line index with
  | nil => rfl
  | cons place places induction =>
      cases index with
      | zero => rfl
      | succ index =>
          have unbroken : place.word.count '\n' = 0 :=
            List.count_eq_zero_of_not_mem
              (not_lineFeed_mem_of_isWord place.isWord)
          rw [tokensOfPlaces, List.getElem?_cons_succ, induction,
            List.getElem?_cons_succ]
          apply Option.map_congr
          intro other _found
          simp only [List.take_succ_cons, Text.Place.spread,
            List.flatMap_cons, List.count_append, unbroken]
          congr 1
          omega

/-- Each word of a layout is read on the line where it stands. -/
theorem tokens_layout (layout : Text.Layout) (index : Nat) :
    (tokens layout.text)[index]? =
      layout.places[index]?.map fun place =>
        ⟨place.word, layout.line index⟩ := by
  rw [tokens, tokensFrom_layout, getElem?_tokensOfPlaces]
  apply Option.map_congr
  intro place found
  rw [Text.Layout.line, Text.Layout.before, found]
  rfl

theorem spelled_tokens_layout (layout : Text.Layout) :
    spelled (tokens layout.text) = layout.words := by
  apply List.ext_getElem?
  intro index
  rw [spelled, List.getElem?_map, tokens_layout, Text.Layout.words,
    List.getElem?_map, Option.map_map]
  rfl

/-! ## Names and status digits -/

/-- A word that is a status. -/
def IsStatus (word : String) : Prop :=
  word = "0" ∨ word = "1"

instance (word : String) : Decidable (IsStatus word) :=
  inferInstanceAs (Decidable (word = "0" ∨ word = "1"))

theorem ofCode?_eq_none_iff {word : String} :
    Status.ofCode? word = none ↔ ¬IsStatus word := by
  rw [Status.ofCode?, IsStatus]
  split
  · next same => simp [same]
  · next notOne =>
      split
      · next same => simp [same]
      · next notZero => simp [notOne, notZero]

theorem accounts_of_spelled {words : List Token} {loaded : List Account}
    (same : spelled words = loaded.flatMap spelling)
    (idle : ∀ account, account ∈ loaded → account.inSession = false) :
    accounts words = .ok loaded := by
  induction loaded generalizing words with
  | nil =>
      cases List.map_eq_nil_iff.mp same
      rfl
  | cons account loaded induction =>
      obtain ⟨username, status, inSession⟩ := account
      match words with
      | [] | [_] => cases same
      | name :: word :: rest =>
          have named : String.ofList name.text = username :=
            (List.cons.inj same).1
          have digit : String.ofList word.text = status.code :=
            (List.cons.inj (List.cons.inj same).2).1
          have later : spelled rest = loaded.flatMap spelling :=
            (List.cons.inj (List.cons.inj same).2).2
          have known : Status.ofCode? (String.ofList word.text) =
              some status := by
            rw [digit]
            exact Status.ofCode?_code status
          have free : inSession = false := idle _ List.mem_cons_self
          rw [accounts_of_status known, induction later fun other member =>
            idle other (List.mem_cons_of_mem _ member), named, free]
          rfl

/-- Pairs whose words in second place are statuses spell accounts, and the words
behind them are read as if they stood alone. -/
theorem accounts_drop {words : List Token} (count : Nat)
    (room : 2 * count ≤ words.length)
    (valid : ∀ index code, index < count →
      (spelled words)[2 * index + 1]? = some code → IsStatus code) :
    ∃ earlier, accounts words =
      (accounts (words.drop (2 * count))).map (earlier ++ ·) := by
  induction count generalizing words with
  | zero =>
      refine ⟨[], ?_⟩
      cases result : accounts words <;> simp [result, Except.map]
  | succ count induction =>
      match words with
      | [] | [_] =>
          simp only [List.length_cons, List.length_nil] at room
          omega
      | name :: word :: rest =>
          have isStatus := valid 0 (String.ofList word.text) (by omega) rfl
          cases known : Status.ofCode? (String.ofList word.text) with
          | none => exact absurd isStatus (ofCode?_eq_none_iff.mp known)
          | some status =>
              have room' : 2 * count ≤ rest.length := by
                simp only [List.length_cons] at room
                omega
              obtain ⟨earlier, result⟩ := induction room'
                fun index code below found =>
                  valid (index + 1) code (by omega) found
              refine ⟨.idle (String.ofList name.text) status :: earlier, ?_⟩
              have behind : (name :: word :: rest).drop (2 * (count + 1)) =
                  rest.drop (2 * count) := rfl
              rw [accounts_of_status known, result, behind]
              cases accounts (rest.drop (2 * count)) <;> rfl

section Faults

variable {words : List Token} {name word : Token} {index : Nat}

/-- The first word in the place of a status that is none is the fault. -/
theorem accounts_of_first_invalid (isName : words[2 * index]? = some name)
    (isSecond : words[2 * index + 1]? = some word)
    (invalid : ¬IsStatus (String.ofList word.text))
    (valid : ∀ earlier code, earlier < index →
      (spelled words)[2 * earlier + 1]? = some code → IsStatus code) :
    accounts words =
      .error (.invalidStatus (String.ofList word.text)
        (String.ofList name.text) word.line) := by
  obtain ⟨inside, isSecond'⟩ := List.getElem?_eq_some_iff.mp isSecond
  obtain ⟨_inside, isName'⟩ := List.getElem?_eq_some_iff.mp isName
  obtain ⟨earlier, result⟩ := accounts_drop index (by omega) valid
  have behind : words.drop (2 * index) =
      name :: word :: words.drop (2 * index + 2) := by
    rw [List.drop_eq_getElem_cons (by omega), isName',
      List.drop_eq_getElem_cons inside, isSecond']
  rw [result, behind, accounts_of_invalid (ofCode?_eq_none_iff.mpr invalid)]
  rfl

/-- A name behind the last pair is the fault if there is no other. -/
theorem accounts_of_odd (length : words.length = 2 * index + 1)
    (isLast : words[2 * index]? = some name)
    (valid : ∀ index code, (spelled words)[2 * index + 1]? = some code →
      IsStatus code) :
    accounts words =
      .error (.missingStatus (String.ofList name.text) name.line) := by
  obtain ⟨inside, isLast'⟩ := List.getElem?_eq_some_iff.mp isLast
  obtain ⟨earlier, result⟩ := accounts_drop index (by omega)
    fun place code _below found => valid place code found
  have behind : words.drop (2 * index) = [name] := by
    rw [List.drop_eq_getElem_cons inside, isLast',
      List.drop_eq_nil_of_le (by omega)]
  rw [result, behind]
  rfl

end Faults

/-- Words load just if there is an even number of them and every second one is a
status. -/
theorem exists_accounts_iff {words : List Token} :
    (∃ loaded, accounts words = .ok loaded) ↔
      (spelled words).length % 2 = 0 ∧
        ∀ index code, (spelled words)[2 * index + 1]? = some code →
          IsStatus code := by
  have length : (spelled words).length = words.length := List.length_map _
  rw [length]
  constructor
  · rintro ⟨loaded, ok⟩
    -- Either fault would have been told.
    have valid (index : Nat) : ∀ code,
        (spelled words)[2 * index + 1]? = some code → IsStatus code := by
      induction index using Nat.strongRecOn with
      | ind index induction =>
          intro code found
          rw [spelled, List.getElem?_map] at found
          obtain ⟨word, isSecond, rfl⟩ := Option.map_eq_some_iff.mp found
          by_contra invalid
          obtain ⟨inside, _same⟩ := List.getElem?_eq_some_iff.mp isSecond
          have isName : words[2 * index]? = some words[2 * index] :=
            List.getElem?_eq_getElem (by omega)
          have fault := accounts_of_first_invalid isName isSecond invalid
            fun earlier other before => induction earlier before other
          cases ok.symm.trans fault
    refine ⟨?_, valid⟩
    by_contra odd
    have whole : words.length = 2 * (words.length / 2) + 1 := by omega
    have isLast : words[2 * (words.length / 2)]? =
        some words[2 * (words.length / 2)] :=
      List.getElem?_eq_getElem (by omega)
    cases ok.symm.trans (accounts_of_odd whole isLast valid)
  · rintro ⟨even, valid⟩
    obtain ⟨earlier, result⟩ := accounts_drop (words.length / 2) (by omega)
      fun index code _below found => valid index code found
    have behind : words.drop (2 * (words.length / 2)) = [] :=
      List.drop_eq_nil_of_le (by omega)
    rw [behind] at result
    exact ⟨_, result⟩

/-! ## Directories -/

theorem spelled_tokens (text : List Char) :
    spelled (tokens text) = (Text.words text).map String.ofList := by
  rw [← text_tokens, List.map_map]
  rfl

/-- Only the words of a directory that loads matter. -/
theorem load_of_words {text : List Char} {loaded : List Account}
    (same : (Text.words text).map String.ofList = loaded.flatMap spelling)
    (idle : ∀ account, account ∈ loaded → account.inSession = false) :
    load (String.ofList text) = .ok loaded := by
  rw [load, String.toList_ofList]
  exact accounts_of_spelled ((spelled_tokens text).trans same) idle

theorem isWord_of_spelling {accounts : List Account}
    (named : ∀ account, account ∈ accounts →
      Text.IsWord account.username.toList) :
    ∀ word, word ∈ (accounts.flatMap spelling).map String.toList →
      Text.IsWord word := by
  intro word member
  obtain ⟨text, inSpelling, rfl⟩ := List.mem_map.mp member
  obtain ⟨account, isOne, ofAccount⟩ := List.mem_flatMap.mp inSpelling
  rcases List.mem_cons.mp ofAccount with rfl | isCode
  · exact named account isOne
  · rw [List.mem_singleton.mp isCode]
    cases account.status <;> decide

theorem load_spaced {accounts : List Account} {separator : Nat → List Char}
    (named : ∀ account, account ∈ accounts →
      Text.IsWord account.username.toList)
    (blank : ∀ place, Text.isAllBlank (separator place) = true)
    (apart : ∀ place, 0 < place → place < 2 * accounts.length →
      separator place ≠ []) :
    load (String.ofList
      (Text.spaced separator 0
        ((accounts.flatMap spelling).map String.toList))) =
      .ok (accounts.map fun account => { account with inSession := false }) := by
  have length : ((accounts.flatMap spelling).map String.toList).length =
      2 * accounts.length := by
    rw [List.length_map, List.length_flatMap]
    simp [spelling, Nat.mul_comm]
  apply load_of_words
  · rw [Text.words_spaced (isWord_of_spelling named) blank, List.map_map,
      List.flatMap_map]
    · simp only [Function.comp_def, String.ofList_toList, List.map_id']
      rfl
    · intro other above below
      apply apart other above
      omega
  · intro account member
    obtain ⟨_written, _isOne, rfl⟩ := List.mem_map.mp member
    rfl

/-- A text has one layout.  It loads just if its words are pairs of a name and a
status, as the accounts they spell, and then whatever blanks stand between them.
Otherwise the first word that should be a status and is none is at fault, or
else the name that is left over, each on its line.  Accounts that are written
with any blanks between their words are read back. -/
theorem load_reads_pairs (source : String) :
    ∃ layout : Text.Layout, layout.text = source.toList ∧
      (∀ other : Text.Layout, other.text = source.toList → other = layout) ∧
      let words := layout.words
      let outcome := (load source).mapError Fault.toFailure
      ((∃ loaded, outcome = .ok loaded) ↔
        words.length % 2 = 0 ∧
          ∀ index word, words[2 * index + 1]? = some word → IsStatus word) ∧
      (∀ loaded, outcome = .ok loaded →
        words = loaded.flatMap spelling ∧
          (∀ account, account ∈ loaded → account.inSession = false) ∧
          ∀ front gap other back, Text.IsGap gap → Text.IsGap other →
            source.toList = front ++ gap ++ back →
            load (String.ofList (front ++ other ++ back)) = .ok loaded) ∧
      (∀ index username word, words[2 * index]? = some username →
        words[2 * index + 1]? = some word → ¬IsStatus word →
        (∀ earlier other, earlier < index →
          words[2 * earlier + 1]? = some other → IsStatus other) →
        outcome = .error (.accountLoad (layout.line (2 * index + 1))
          ("invalid status '" ++ word ++ "' for account '" ++ username
            ++ "' (expected 0 or 1)"))) ∧
      (∀ count username, words.length = 2 * count + 1 →
        words[2 * count]? = some username →
        (∀ index word, words[2 * index + 1]? = some word → IsStatus word) →
        outcome = .error (.accountLoad (layout.line (2 * count))
          ("account '" ++ username ++ "' has no status"))) ∧
      readLines source = load source ∧
      ∀ (accounts : List Account) (separator : Nat → List Char),
        (∀ account, account ∈ accounts →
          Text.IsWord account.username.toList) →
        (∀ place, Text.isAllBlank (separator place) = true) →
        (∀ place, 0 < place → place < 2 * accounts.length →
          separator place ≠ []) →
        load (String.ofList
          (Text.spaced separator 0
            ((accounts.flatMap spelling).map String.toList))) =
          .ok (accounts.map fun account =>
            { account with inSession := false }) := by
  obtain ⟨layout, same, unique⟩ := Text.existsUnique_layout source.toList
  refine ⟨layout, same, unique, ?_⟩
  intro words outcome
  have spells : spelled (tokens source.toList) = words := by
    rw [← same]
    exact spelled_tokens_layout layout
  -- A word of the layout is a token on its line.
  have placed {index : Nat} {word : String} (found : words[index]? = some word) :
      (tokens source.toList)[index]? =
        some ⟨word.toList, layout.line index⟩ := by
    simp only [words, Text.Layout.words, List.getElem?_map] at found
    obtain ⟨place, isPlace, rfl⟩ := Option.map_eq_some_iff.mp found
    rw [← same, tokens_layout, isPlace, String.toList_ofList]
    rfl
  have ok_iff (loaded : List Account) :
      outcome = .ok loaded ↔ accounts (tokens source.toList) = .ok loaded := by
    simp only [outcome, load]
    cases accounts (tokens source.toList) <;> simp [Except.mapError]
  refine ⟨?_, ?_, ?_, ?_, readLines_eq_load source,
    fun _ _ named blank apart => load_spaced named blank apart⟩
  · rw [← spells, ← exists_accounts_iff]
    exact exists_congr ok_iff
  · intro loaded ok
    obtain ⟨spelling, idle⟩ := spelled_of_accounts ((ok_iff loaded).mp ok)
    rw [spells] at spelling
    refine ⟨spelling, idle, ?_⟩
    intro front gap other back isGap isGap' parts
    apply load_of_words _ idle
    rw [← spelling, ← spells, spelled_tokens, parts,
      Text.words_append_gap isGap, Text.words_append_gap isGap']
  · intro index username word isName isSecond invalid valid
    have fault := accounts_of_first_invalid (placed isName) (placed isSecond)
      (by rwa [String.ofList_toList]) (by rwa [spells])
    simp only [outcome, load, fault, String.ofList_toList]
    rfl
  · intro count username length isLast valid
    have size : (tokens source.toList).length = 2 * count + 1 := by
      rw [← length, ← spells, spelled, List.length_map]
    have fault := accounts_of_odd size (placed isLast) (by rwa [spells])
    simp only [outcome, load, fault, String.ofList_toList]
    rfl

/-- A word at fault on a later line than its name, before a name that is left
over, and accounts in words on lines of their own. -/
theorem load_reads_pairs_of_two_faults :
    let source := "alice\t1 bob\r\n\r\u2028\n yes carol"
    let words := ["alice", "1", "bob", "yes", "carol"]
    (words[2]? = some "bob" ∧ words[3]? = some "yes" ∧ ¬IsStatus "yes" ∧
      IsStatus "1") ∧
      (load source).mapError Fault.toFailure = .error (.accountLoad 3
        "invalid status 'yes' for account 'bob' (expected 0 or 1)") ∧
      load "\r\nbob\r\n1\r\neve\r\n0\r\n" =
        .ok [.idle "bob" .active, .idle "eve" .banned] := by
  intro source words
  let layout : Text.Layout :=
    { places :=
        [⟨"".toList, "alice".toList, by decide +kernel, by decide +kernel⟩,
          ⟨"\t".toList, "1".toList, by decide +kernel, by decide +kernel⟩,
          ⟨" ".toList, "bob".toList, by decide +kernel, by decide +kernel⟩,
          ⟨"\r\n\r\u2028\n ".toList, "yes".toList, by decide +kernel,
            by decide +kernel⟩,
          ⟨" ".toList, "carol".toList, by decide +kernel, by decide +kernel⟩]
      last := []
      blank := rfl
      apart := by decide +kernel }
  obtain ⟨_layout, _text, unique, _loads, _loaded, invalid, _odd, _lines,
    written⟩ := load_reads_pairs source
  have same := unique layout (by decide +kernel)
  subst same
  have spelled : layout.words = words := by decide +kernel
  have line : layout.line (2 * 1 + 1) = 3 := by decide +kernel
  rw [spelled] at invalid
  have isName : words[2 * 1]? = some "bob" := rfl
  have isSecond : words[2 * 1 + 1]? = some "yes" := rfl
  have noStatus : ¬IsStatus "yes" := by decide
  have isStatus : IsStatus "1" := by decide
  have fault := invalid 1 "bob" "yes" isName isSecond noStatus
    fun earlier other before found => by
      obtain rfl : earlier = 0 := by omega
      exact Option.some.inj found ▸ isStatus
  rw [line] at fault
  let accounts : List Account := [.idle "bob" .active, .idle "eve" .banned]
  let separator (_place : Nat) : List Char := ['\r', '\n']
  have named : ∀ account, account ∈ accounts →
      Text.IsWord account.username.toList := by
    decide +kernel
  have read := written accounts separator named (fun _place => rfl)
    fun _place _above _below => List.cons_ne_nil _ _
  have source' : String.ofList (Text.spaced separator 0
      ((accounts.flatMap spelling).map String.toList)) =
        "\r\nbob\r\n1\r\neve\r\n0\r\n" := by
    decide +kernel
  rw [source'] at read
  exact ⟨⟨isName, isSecond, noStatus, isStatus⟩, fault, read⟩

end Directory
end LoginServer
