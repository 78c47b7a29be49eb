import LoginServer.Protocol.Command

/-!
# The forms of a login request

A text has a first word just if it is made up of blanks, that word, and
something that ends it (`Text.firstWord?_eq_some_iff`).  So a line asks to log
in under a name just if the keyword and the name are its first two words
(`Command.parse_eq_user_iff`).
-/

namespace LoginServer

namespace Text

/-! ## Words in a text -/

/-- A text without blanks that is not empty. -/
structure IsWord (text : List Char) : Prop where
  nonempty : text ≠ []
  solid : ∀ character, character ∈ text → isBlank character = false

/-- What may follow a word: nothing, or a text that begins with a blank. -/
def EndsWord (text : List Char) : Prop :=
  text = [] ∨ ∃ blank rest, isBlank blank = true ∧ text = blank :: rest

theorem endsWord_afterFirstRun (text : List Char) :
    EndsWord (afterFirstRun text) := by
  induction text with
  | nil => exact Or.inl rfl
  | cons first rest induction =>
      rw [afterFirstRun, List.dropWhile_cons]
      cases blank : isBlank first with
      | true => exact Or.inr ⟨first, rest, blank, rfl⟩
      | false => exact induction

theorem not_isBlank_of_trimStart {text rest : List Char} {first : Char}
    (trimmed : trimStart text = first :: rest) : isBlank first = false := by
  induction text with
  | nil => cases trimmed
  | cons head tail induction =>
      rw [trimStart, List.dropWhile_cons] at trimmed
      cases blank : isBlank head with
      | true =>
          rw [blank] at trimmed
          exact induction trimmed
      | false =>
          rw [blank] at trimmed
          cases trimmed
          exact blank

theorem trimStart_append {blanks : List Char}
    (allBlank : isAllBlank blanks = true) (text : List Char) :
    trimStart (blanks ++ text) = trimStart text :=
  List.dropWhile_append_of_pos (List.all_eq_true.mp allBlank)

theorem exists_blanks_append_trimStart (text : List Char) :
    ∃ blanks, isAllBlank blanks = true ∧ text = blanks ++ trimStart text :=
  ⟨text.takeWhile isBlank, List.all_takeWhile,
    List.takeWhile_append_dropWhile.symm⟩

section Words

variable {word after : List Char}

theorem IsWord.trimStart_append (isWord : IsWord word) (after : List Char) :
    trimStart (word ++ after) = word ++ after := by
  cases word with
  | nil => exact absurd rfl isWord.nonempty
  | cons first rest =>
      rw [List.cons_append, trimStart, List.dropWhile_cons,
        isWord.solid first List.mem_cons_self]
      rfl

theorem EndsWord.runs (ends : EndsWord after)
    (solid : ∀ character, character ∈ word → isBlank character = false) :
    firstRun (word ++ after) = word ∧
      afterFirstRun (word ++ after) = after := by
  have dark : ∀ character, character ∈ word →
      (!isBlank character) = true := by
    intro character member
    rw [solid character member]
    rfl
  rw [firstRun, afterFirstRun, List.takeWhile_append_of_pos dark,
    List.dropWhile_append_of_pos dark]
  rcases ends with rfl | ⟨blank, rest, isBlank, rfl⟩
  · exact ⟨List.append_nil _, rfl⟩
  · rw [List.takeWhile_cons, List.dropWhile_cons, isBlank]
    exact ⟨List.append_nil _, rfl⟩

theorem IsWord.not_endsWord_append (isWord : IsWord word)
    (after : List Char) : ¬EndsWord (word ++ after) := by
  cases word with
  | nil => exact absurd rfl isWord.nonempty
  | cons first rest =>
      rintro (empty | ⟨blank, later, isBlank, same⟩)
      · cases empty
      · cases same
        rw [isWord.solid first List.mem_cons_self] at isBlank
        cases isBlank

theorem endsWord_append {blanks : List Char}
    (allBlank : isAllBlank blanks = true) (nonempty : blanks ≠ [])
    (after : List Char) : EndsWord (blanks ++ after) := by
  cases blanks with
  | nil => exact absurd rfl nonempty
  | cons blank rest =>
      have first := List.all_eq_true.mp allBlank blank List.mem_cons_self
      exact Or.inr ⟨blank, rest ++ after, first, rfl⟩

end Words

theorem isWord_firstRun {text : List Char}
    (trimmed : trimStart text ≠ []) : IsWord (firstRun (trimStart text)) := by
  constructor
  · cases found : trimStart text with
    | nil => exact absurd found trimmed
    | cons first rest =>
        rw [firstRun, List.takeWhile_cons, not_isBlank_of_trimStart found]
        exact List.cons_ne_nil _ _
  · intro character member
    exact not_isBlank_of_mem_firstRun member

/-- A text has a first word just if it is made up of blanks, that word, and
something that ends it. -/
theorem firstWord?_eq_some_iff {text word : List Char} :
    firstWord? text = some word ↔
      ∃ blanks after, isAllBlank blanks = true ∧ IsWord word ∧
        EndsWord after ∧ text = blanks ++ word ++ after := by
  constructor
  · intro found
    rw [firstWord?] at found
    split at found
    · cases found
    · next rest notEmpty =>
        cases found
        have trimmed : trimStart text ≠ [] := fun empty => notEmpty empty
        obtain ⟨blanks, allBlank, parts⟩ :=
          exists_blanks_append_trimStart text
        refine ⟨blanks, afterFirstRun (trimStart text), allBlank,
          isWord_firstRun trimmed, endsWord_afterFirstRun _, ?_⟩
        rw [List.append_assoc, firstRun_append_afterFirstRun]
        exact parts
  · rintro ⟨blanks, after, allBlank, isWord, ends, rfl⟩
    have trimmed : trimStart (blanks ++ word ++ after) = word ++ after := by
      rw [List.append_assoc, Text.trimStart_append allBlank,
        isWord.trimStart_append]
    have first := (ends.runs isWord.solid).1
    rw [firstWord?, trimmed]
    split
    · next empty =>
        exact absurd (List.append_eq_nil_iff.mp empty).1 isWord.nonempty
    · rw [first]

end Text

def Command.userKeyword : List Char :=
  ['U', 'S', 'E', 'R']

theorem Command.isWord_userKeyword : Text.IsWord userKeyword := by
  constructor
  · exact List.cons_ne_nil _ _
  · intro character member
    have dark : (userKeyword.all fun character =>
        !Text.isBlank character) = true := rfl
    simpa using List.all_eq_true.mp dark character member

/-- A line is a login request just if, blanks aside, it begins with the keyword
and a name; what follows the name does not matter. -/
theorem Command.parse_eq_user_iff {line name : String} :
    parse line = .user name ↔
      ∃ before between after, Text.isAllBlank before = true ∧
        Text.isAllBlank between = true ∧ between ≠ [] ∧
        Text.IsWord name.toList ∧ Text.EndsWord after ∧
        line.toList =
          before ++ userKeyword ++ between ++ name.toList ++ after := by
  constructor
  · intro parsed
    obtain ⟨before, allBlank, parts⟩ :=
      Text.exists_blanks_append_trimStart line.toList
    rw [parse] at parsed
    generalize Text.trimStart line.toList = text at parsed parts
    have runs := Text.firstRun_append_afterFirstRun text
    have ends := Text.endsWord_afterFirstRun text
    split at parsed
    · next keyword =>
        have keyword' : Text.firstRun text = userKeyword := by
          have same := congrArg String.toList keyword
          rwa [String.toList_ofList] at same
        split at parsed
        · next word found =>
            cases parsed
            obtain ⟨between, after, blanks, isWord, endsName, rest⟩ :=
              Text.firstWord?_eq_some_iff.mp found
            rw [keyword', rest] at runs
            rw [rest] at ends
            refine ⟨before, between, after, allBlank, blanks, ?_, ?_,
              endsName, ?_⟩
            · rintro rfl
              exact isWord.not_endsWord_append after ends
            · rwa [String.toList_ofList]
            · rw [String.toList_ofList, parts, ← runs]
              simp only [List.append_assoc]
        · cases parsed
    · cases parsed
    · cases parsed
    · cases parsed
  · rintro ⟨before, between, after, allBlank, blanks, apart, isWord, ends,
      parts⟩
    let rest := between ++ name.toList ++ after
    have endsKeyword : Text.EndsWord rest := by
      simp only [rest, List.append_assoc]
      exact Text.endsWord_append blanks apart _
    have trimmed : Text.trimStart line.toList = userKeyword ++ rest := by
      rw [parts]
      simp only [List.append_assoc]
      rw [Text.trimStart_append allBlank, isWord_userKeyword.trimStart_append]
      simp only [rest, List.append_assoc]
    obtain ⟨first, left⟩ := endsKeyword.runs isWord_userKeyword.solid
    have keyword : String.ofList userKeyword = "USER" := rfl
    have word : Text.firstWord? rest = some name.toList :=
      Text.firstWord?_eq_some_iff.mpr
        ⟨between, after, blanks, isWord, ends, rfl⟩
    rw [parse, trimmed]
    simp only [first, left, keyword, word, String.ofList_toList]

end LoginServer
