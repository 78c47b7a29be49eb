import LoginServer.Proofs.WireLogin
import LoginServer.Proofs.WordLayout

/-!
# The grammar of a command line

The first word of a line is its keyword.  Behind `USER` the next word is the
name, and behind `POST` the text is what is left without its leading blanks.  A
line reads as one of the three commands just if it has that form, and is unknown
otherwise (`Command.parse_by_keyword`).
-/

namespace LoginServer.Command

/-! ## What a line begins with -/

section Reading

variable {line : String} (opening : Text.Opening line.toList)
  (next : Text.Opening opening.rest)

/-- How a line can read, by its keyword and what stands behind it. -/
theorem parse_cases :
    (String.ofList opening.word = "USER" ∧ next.word = [] ∧
        parse line = .unknown line) ∨
      (String.ofList opening.word = "USER" ∧ next.word ≠ [] ∧
        parse line = .user (String.ofList next.word)) ∨
      (String.ofList opening.word = "POST" ∧
        parse line = .post (String.ofList (next.word ++ next.rest))) ∨
      (String.ofList opening.word = "BYE" ∧ parse line = .bye) ∨
      (String.ofList opening.word ≠ "USER" ∧
        String.ofList opening.word ≠ "POST" ∧
        String.ofList opening.word ≠ "BYE" ∧ parse line = .unknown line) := by
  rw [parse, opening.firstRun_eq, opening.afterFirstRun_eq,
    next.trimStart_eq, next.firstWord?_eq]
  split
  · next isUser =>
      by_cases empty : next.word = []
      · rw [if_pos empty]
        exact Or.inl ⟨isUser, empty, rfl⟩
      · rw [if_neg empty]
        exact Or.inr (Or.inl ⟨isUser, empty, rfl⟩)
  · next isPost => exact Or.inr (Or.inr (Or.inl ⟨isPost, rfl⟩))
  · next isBye => exact Or.inr (Or.inr (Or.inr (Or.inl ⟨isBye, rfl⟩)))
  · next notUser notPost notBye =>
      exact Or.inr (Or.inr (Or.inr (Or.inr
        ⟨notUser, notPost, notBye, rfl⟩)))

theorem parse_eq_user_iff_keyword (name : String) :
    parse line = .user name ↔
      String.ofList opening.word = "USER" ∧ next.word ≠ [] ∧
        String.ofList next.word = name := by
  rcases parse_cases opening next with
    ⟨user, empty, read⟩ | ⟨user, word, read⟩ | ⟨post, read⟩ | ⟨bye, read⟩ |
      ⟨notUser, _notPost, _notBye, read⟩
  · simp [read, empty]
  · simp [read, user, word]
  · simp [read, post]
  · simp [read, bye]
  · simp [read, notUser]

theorem parse_eq_post_iff_keyword (text : String) :
    parse line = .post text ↔
      String.ofList opening.word = "POST" ∧
        String.ofList (next.word ++ next.rest) = text := by
  rcases parse_cases opening next with
    ⟨user, _empty, read⟩ | ⟨user, _word, read⟩ | ⟨post, read⟩ | ⟨bye, read⟩ |
      ⟨_notUser, notPost, _notBye, read⟩
  · simp [read, user]
  · simp [read, user]
  · simp [read, post]
  · simp [read, bye]
  · simp [read, notPost]

theorem parse_eq_bye_iff_keyword :
    parse line = .bye ↔ String.ofList opening.word = "BYE" := by
  rcases parse_cases opening (Text.opening opening.rest) with
    ⟨user, _empty, read⟩ | ⟨user, _word, read⟩ | ⟨post, read⟩ | ⟨bye, read⟩ |
      ⟨_notUser, _notPost, notBye, read⟩
  · simp [read, user]
  · simp [read, user]
  · simp [read, post]
  · simp [read, bye]
  · simp [read, notBye]

/-- What is neither of the three commands is unknown. -/
theorem parse_eq_unknown_iff_keyword (text : String) :
    parse line = .unknown text ↔
      line = text ∧ String.ofList opening.word ≠ "POST" ∧
        String.ofList opening.word ≠ "BYE" ∧
        (String.ofList opening.word = "USER" → next.word = []) := by
  rcases parse_cases opening next with
    ⟨user, empty, read⟩ | ⟨user, word, read⟩ | ⟨post, read⟩ | ⟨bye, read⟩ |
      ⟨notUser, notPost, notBye, read⟩
  · simp [read, user, empty]
  · simp [read, user, word]
  · simp [read, post]
  · simp [read, bye]
  · simp [read, notUser, notPost, notBye]

end Reading

/-- A text behind its keyword and one blank is kept as it is. -/
theorem parse_post {text : String}
    (begins : Text.trimStart text.toList = text.toList) :
    parse ("POST " ++ text) = .post text := by
  have characters : ("POST " ++ text).toList =
      'P' :: 'O' :: 'S' :: 'T' :: ' ' :: text.toList := by
    rw [String.toList_append]
    rfl
  let line := 'P' :: 'O' :: 'S' :: 'T' :: ' ' :: text.toList
  have trimmed : Text.trimStart line = line := rfl
  have keyword : String.ofList (Text.firstRun line) = "POST" := rfl
  have rest : Text.trimStart (Text.afterFirstRun line) = text.toList := begins
  rw [parse, characters, trimmed]
  simp only [keyword, rest, String.ofList_toList]

/-! ## The grammar -/

/-- A line has one keyword, its first word, and reads by it.  A name is one word,
a text is the end of the line, and each of them can be sent. -/
theorem parse_by_keyword (line : String) :
    let opening := Text.opening line.toList
    let next := Text.opening opening.rest
    let keyword := String.ofList opening.word
    (∀ other : Text.Opening line.toList, other = opening) ∧
      (∀ other : Text.Opening opening.rest, other = next) ∧
      (∀ name, parse line = .user name ↔
        keyword = "USER" ∧ Text.isAllBlank opening.rest = false ∧
          String.ofList next.word = name) ∧
      (∀ text, parse line = .post text ↔
        keyword = "POST" ∧ String.ofList (next.word ++ next.rest) = text) ∧
      (parse line = .bye ↔ keyword = "BYE") ∧
      (∀ text, parse line = .unknown text ↔
        line = text ∧ keyword ≠ "POST" ∧ keyword ≠ "BYE" ∧
          (keyword = "USER" → Text.isAllBlank opening.rest = true)) ∧
      (∀ name, parse line = .user name → Text.IsWord name.toList) ∧
      (∀ text, parse line = .post text → text.toList <:+ line.toList) ∧
      (∀ name : String, Text.IsWord name.toList →
        parse ("USER " ++ name) = .user name) ∧
      (∀ text : String, (∀ first, first ∈ text.toList.head? →
          Text.isBlank first = false) →
        parse ("POST " ++ text) = .post text) := by
  intro opening next keyword
  have blank := next.word_eq_nil_iff
  have isUser := parse_eq_user_iff_keyword opening next
  have isPost := parse_eq_post_iff_keyword opening next
  refine ⟨fun other => other.unique opening, fun other => other.unique next,
    ?_, isPost, parse_eq_bye_iff_keyword opening, ?_, ?_, ?_, ?_, ?_⟩
  · intro name
    rw [← Bool.not_eq_true, ← blank]
    exact isUser name
  · intro text
    rw [← blank]
    exact parse_eq_unknown_iff_keyword opening next text
  · intro name read
    obtain ⟨_keyword, nonempty, rfl⟩ := (isUser name).mp read
    rw [String.toList_ofList]
    exact next.isWord nonempty
  · intro text read
    obtain ⟨_keyword, rfl⟩ := (isPost text).mp read
    rw [String.toList_ofList]
    refine ⟨opening.blanks ++ opening.word ++ next.blanks, ?_⟩
    calc
      opening.blanks ++ opening.word ++ next.blanks ++
          (next.word ++ next.rest) =
        opening.blanks ++ opening.word ++
          (next.blanks ++ next.word ++ next.rest) := by
            simp only [List.append_assoc]
      _ = opening.blanks ++ opening.word ++ opening.rest := by
            rw [← next.parts]
      _ = line.toList := opening.parts.symm
  · intro name isWord
    exact parse_user (fun empty => isWord.nonempty (by rw [empty]; rfl))
      isWord.solid
  · intro text begins
    apply parse_post
    cases characters : text.toList with
    | nil => rfl
    | cons first rest =>
        rw [characters] at begins
        rw [Text.trimStart, List.dropWhile_cons, begins first rfl]
        rfl

/-- Blanks outside ASCII around the keyword and the name. -/
theorem parse_by_keyword_of_wide_blanks :
    let line := "\u2003USER\u0085\u00a0žofie\u3000110"
    let opening := Text.opening line.toList
    (String.ofList opening.word = "USER" ∧
      Text.isAllBlank opening.rest = false) ∧
      parse line = .user "žofie" ∧
      parse "USER žofie" = .user "žofie" ∧
      parse "POST \u200b  hi\u2003" = .post "\u200b  hi\u2003" := by
  intro line opening
  have keyword : String.ofList opening.word = "USER" := by decide +kernel
  have named : Text.isAllBlank opening.rest = false := by decide +kernel
  have word : String.ofList (Text.opening opening.rest).word = "žofie" := by
    decide +kernel
  have isWord : Text.IsWord "žofie".toList := by decide +kernel
  obtain ⟨_unique, _unique', isUser, _isPost, _isBye, _isUnknown, _isWord,
    _suffix, sendsUser, sendsPost⟩ := parse_by_keyword line
  refine ⟨⟨keyword, named⟩, (isUser "žofie").mpr ⟨keyword, named, word⟩,
    sendsUser "žofie" isWord, sendsPost "\u200b  hi\u2003" ?_⟩
  have begins : "\u200b  hi\u2003".toList.head? = some '\u200b' := by
    decide +kernel
  intro first isFirst
  cases begins.symm.trans isFirst
  decide +kernel

end LoginServer.Command
