import Mathlib.Logic.ExistsUnique
import LoginServer.Proofs.LoginForms

/-!
# Words and the blanks between them

A text begins in one way only: with its blanks, its first word, and the rest
(`Text.Opening`).  Taking one beginning after the other, it has exactly one
layout into words with blanks between them (`Text.existsUnique_layout`).
-/

namespace LoginServer.Text

/-! ## The first word -/

theorem isWord_iff_all {text : List Char} :
    IsWord text ↔ (!text.isEmpty && text.all (!isBlank ·)) = true := by
  simp only [Bool.and_eq_true, Bool.not_eq_true', List.isEmpty_eq_false_iff,
    List.all_eq_true]
  exact ⟨fun isWord => ⟨isWord.nonempty, isWord.solid⟩,
    fun ⟨nonempty, solid⟩ => ⟨nonempty, solid⟩⟩

instance (text : List Char) : Decidable (IsWord text) :=
  decidable_of_iff _ isWord_iff_all.symm

/-- The blanks at the front of a text, as many as there are, the first word
behind them, which is empty if there is none, and what follows. -/
structure Opening (text : List Char) where
  blanks : List Char
  word : List Char
  rest : List Char
  parts : text = blanks ++ word ++ rest
  allBlank : isAllBlank blanks = true
  begins : ∀ first later, word ++ rest = first :: later →
    isBlank first = false
  solid : ∀ character, character ∈ word → isBlank character = false
  ends : EndsWord rest

/-- The beginning of a text. -/
def opening (text : List Char) : Opening text where
  blanks := text.takeWhile isBlank
  word := firstRun (trimStart text)
  rest := afterFirstRun (trimStart text)
  parts := by
    rw [List.append_assoc, firstRun_append_afterFirstRun]
    exact List.takeWhile_append_dropWhile.symm
  allBlank := List.all_takeWhile
  begins := by
    intro first later
    rw [firstRun_append_afterFirstRun]
    exact not_isBlank_of_trimStart
  solid _ := not_isBlank_of_mem_firstRun
  ends := endsWord_afterFirstRun _

namespace Opening

variable {text : List Char}

theorem trimStart_eq (opening : Opening text) :
    trimStart text = opening.word ++ opening.rest := by
  have skipped : trimStart text = trimStart (opening.word ++ opening.rest) := by
    have parts := congrArg trimStart opening.parts
    rwa [List.append_assoc, trimStart_append opening.allBlank] at parts
  rw [skipped]
  cases parts : opening.word ++ opening.rest with
  | nil => rfl
  | cons first later =>
      rw [trimStart, List.dropWhile_cons, opening.begins first later parts]
      rfl

theorem firstRun_eq (opening : Opening text) :
    firstRun (trimStart text) = opening.word := by
  rw [opening.trimStart_eq]
  exact (opening.ends.runs opening.solid).1

theorem afterFirstRun_eq (opening : Opening text) :
    afterFirstRun (trimStart text) = opening.rest := by
  rw [opening.trimStart_eq]
  exact (opening.ends.runs opening.solid).2

/-- A text has one beginning. -/
theorem unique (left right : Opening text) : left = right := by
  have word : left.word = right.word :=
    left.firstRun_eq.symm.trans right.firstRun_eq
  have rest : left.rest = right.rest :=
    left.afterFirstRun_eq.symm.trans right.afterFirstRun_eq
  have blanks : left.blanks = right.blanks := by
    have parts := left.parts.symm.trans right.parts
    rw [word, rest] at parts
    exact List.append_cancel_right (List.append_cancel_right parts)
  cases left
  cases right
  cases blanks
  cases word
  cases rest
  rfl

theorem fields_eq {other : List Char} (left : Opening text)
    (right : Opening other) (same : text = other) :
    left.blanks = right.blanks ∧ left.word = right.word ∧
      left.rest = right.rest := by
  subst same
  rw [left.unique right]
  exact ⟨rfl, rfl, rfl⟩

/-- Where there is no word nothing follows. -/
theorem rest_of_word_nil (opening : Opening text)
    (empty : opening.word = []) : opening.rest = [] := by
  rcases opening.ends with none | ⟨blank, later, isBlank, rest⟩
  · exact none
  · have dark := opening.begins blank later (by rw [empty, rest]; rfl)
    rw [dark] at isBlank
    cases isBlank

theorem isWord (opening : Opening text) (nonempty : opening.word ≠ []) :
    IsWord opening.word :=
  ⟨nonempty, opening.solid⟩

/-- A text has a word unless all of it is blank. -/
theorem word_eq_nil_iff (opening : Opening text) :
    opening.word = [] ↔ isAllBlank text = true := by
  constructor
  · intro empty
    rw [opening.parts, empty, opening.rest_of_word_nil empty,
      List.append_nil, List.append_nil]
    exact opening.allBlank
  · intro allBlank
    have nothing : trimStart text = [] := by
      simpa [trimStart] using trimStart_append allBlank []
    rw [← opening.firstRun_eq, nothing]
    rfl

theorem firstWord?_eq (opening : Opening text) :
    firstWord? text =
      if opening.word = [] then none else some opening.word := by
  have trimmed := opening.trimStart_eq
  have first := opening.firstRun_eq
  rw [firstWord?]
  split
  · next nothing =>
      have empty : opening.word = [] :=
        (List.append_eq_nil_iff.mp (trimmed.symm.trans nothing)).1
      rw [if_pos empty]
  · next something =>
      have nonempty : opening.word ≠ [] := by
        intro empty
        apply something
        rw [trimmed, empty, opening.rest_of_word_nil empty]
        rfl
      rw [if_neg nonempty, first]

end Opening

/-! ## All words -/

/-- A word and the blanks before it. -/
@[ext]
structure Place where
  gap : List Char
  word : List Char
  blank : isAllBlank gap = true
  isWord : IsWord word

/-- The text of places in a row. -/
def Place.spread (places : List Place) : List Char :=
  places.flatMap fun place => place.gap ++ place.word

/-- Words with blanks between them: none or some before the first word and
behind the last one, and at least one between two words. -/
@[ext]
structure Layout where
  places : List Place
  last : List Char
  blank : isAllBlank last = true
  apart : ∀ place, place ∈ places.tail → place.gap ≠ []

namespace Layout

/-- The text that has a layout. -/
def text (layout : Layout) : List Char :=
  Place.spread layout.places ++ layout.last

/-- The words of a layout, in order. -/
def words (layout : Layout) : List String :=
  layout.places.map fun place => String.ofList place.word

/-- What stands before the word at an index. -/
def before (layout : Layout) (index : Nat) : List Char :=
  Place.spread (layout.places.take index) ++
    (layout.places[index]?.elim [] Place.gap)

/-- The line of the word at an index, counted from 1. -/
def line (layout : Layout) (index : Nat) : Nat :=
  1 + (layout.before index).count '\n'

/-- A layout without its first place. -/
def tail (layout : Layout) : Layout where
  places := layout.places.tail
  last := layout.last
  blank := layout.blank
  apart place member := layout.apart place (List.mem_of_mem_tail member)

end Layout

theorem endsWord_of_isAllBlank {text : List Char}
    (allBlank : isAllBlank text = true) : EndsWord text := by
  cases text with
  | nil => exact Or.inl rfl
  | cons first rest =>
      have append := endsWord_append allBlank (List.cons_ne_nil _ _) []
      rwa [List.append_nil] at append

/-- What stands behind a place ends its word. -/
theorem Layout.endsWord_text {layout : Layout}
    (apart : ∀ place, place ∈ layout.places → place.gap ≠ []) :
    EndsWord layout.text := by
  obtain ⟨places, last, blank, _apart⟩ := layout
  cases places with
  | nil => exact endsWord_of_isAllBlank blank
  | cons place places =>
      have nonempty := apart place List.mem_cons_self
      have ends := endsWord_append place.blank nonempty
        (place.word ++ Place.spread places ++ last)
      simpa [text, Place.spread] using ends

/-- The first place of a layout is how its text begins. -/
def Layout.opening (layout : Layout) {place : Place} {places : List Place}
    (first : layout.places = place :: places) : Opening layout.text where
  blanks := place.gap
  word := place.word
  rest := layout.tail.text
  parts := by simp [text, tail, first, Place.spread]
  allBlank := place.blank
  begins := by
    intro character later parts
    cases word : place.word with
    | nil => exact absurd word place.isWord.nonempty
    | cons head rest =>
        rw [word] at parts
        cases parts
        apply place.isWord.solid
        rw [word]
        exact List.mem_cons_self
  solid := place.isWord.solid
  ends := Layout.endsWord_text layout.apart

/-- A layout without places is how a blank text begins. -/
def Layout.blankOpening (layout : Layout) (none : layout.places = []) :
    Opening layout.text where
  blanks := layout.last
  word := []
  rest := []
  parts := by simp [text, none, Place.spread]
  allBlank := layout.blank
  begins := by
    intro first later impossible
    cases impossible
  solid := by
    intro character member
    cases member
  ends := Or.inl rfl

/-- A text has no more than one layout. -/
theorem Layout.unique {left right : Layout} (same : left.text = right.text) :
    left = right := by
  obtain ⟨places, last, blank, apart⟩ := left
  induction places generalizing right with
  | nil =>
      let left : Layout := ⟨[], last, blank, apart⟩
      cases first : right.places with
      | nil =>
          obtain ⟨lasts, _word, _rest⟩ :=
            (left.blankOpening rfl).fields_eq (right.blankOpening first) same
          exact Layout.ext first.symm lasts
      | cons place places =>
          obtain ⟨_gap, word, _rest⟩ :=
            (left.blankOpening rfl).fields_eq (right.opening first) same
          exact absurd word.symm place.isWord.nonempty
  | cons place places induction =>
      let left : Layout := ⟨place :: places, last, blank, apart⟩
      cases first : right.places with
      | nil =>
          obtain ⟨_gap, word, _rest⟩ :=
            (left.opening rfl).fields_eq (right.blankOpening first) same
          exact absurd word place.isWord.nonempty
      | cons other others =>
          obtain ⟨gap, word, rest⟩ :=
            (left.opening rfl).fields_eq (right.opening first) same
          have tails : left.tail = right.tail :=
            induction left.tail.apart rest
          have same : place = other := Place.ext gap word
          have others' : places = right.places.tail :=
            congrArg Layout.places tails
          have last' : last = right.last := congrArg Layout.last tails
          have row : place :: places = right.places := by
            rw [same, others', first]
            rfl
          exact Layout.ext row last'

/-- A layout with one more place in front. -/
theorem exists_layout_cons (place : Place) {layout : Layout}
    (ends : EndsWord layout.text) :
    ∃ longer : Layout,
      longer.text = place.gap ++ place.word ++ layout.text := by
  have apart : ∀ other, other ∈ layout.places → other.gap ≠ [] := by
    intro other member empty
    cases first : layout.places with
    | nil =>
        rw [first] at member
        cases member
    | cons head rest =>
        rw [first] at member
        rcases List.mem_cons.mp member with rfl | later
        · -- The word would begin where a blank has to.
          apply other.isWord.not_endsWord_append layout.tail.text
          have parts := (layout.opening first).parts
          rw [parts] at ends
          simpa [Layout.opening, empty] using ends
        · apply layout.apart other _ empty
          rwa [first]
  refine ⟨⟨place :: layout.places, layout.last, layout.blank, apart⟩, ?_⟩
  simp [Layout.text, Place.spread]

theorem exists_layout (text : List Char) :
    ∃ layout : Layout, layout.text = text := by
  induction size : text.length using Nat.strongRecOn generalizing text with
  | ind bound induction =>
      have opening := opening text
      by_cases empty : opening.word = []
      · have allBlank := opening.word_eq_nil_iff.mp empty
        exact ⟨⟨[], text, allBlank, nofun⟩, rfl⟩
      · have isWord := opening.isWord empty
        have shorter : opening.rest.length < bound := by
          have lengths := congrArg List.length opening.parts
          have positive := List.length_pos_iff.mpr empty
          rw [List.length_append, List.length_append] at lengths
          omega
        obtain ⟨layout, rest⟩ := induction _ shorter opening.rest rfl
        obtain ⟨longer, parts⟩ := exists_layout_cons
          ⟨opening.blanks, opening.word, opening.allBlank, isWord⟩
          (rest ▸ opening.ends)
        refine ⟨longer, ?_⟩
        rw [parts, rest]
        exact opening.parts.symm

theorem existsUnique_layout (text : List Char) :
    ∃! layout : Layout, layout.text = text := by
  obtain ⟨layout, same⟩ := exists_layout text
  exact ⟨layout, same, fun other also =>
    Layout.unique (also.trans same.symm)⟩

end LoginServer.Text
