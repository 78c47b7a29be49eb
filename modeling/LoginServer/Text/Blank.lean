/-!
# Blank characters

A blank is a character with the Unicode property `White_Space`.  The functions
below cut a text at its blanks; `firstRun` and `afterFirstRun` put the text
together again, and the run holds no blank.
-/

namespace LoginServer.Text

/-- The characters with the Unicode property `White_Space`. -/
def isBlank (character : Char) : Bool :=
  let code := character.toNat
  (9 ≤ code && code ≤ 13) || code == 0x20 || code == 0x85 || code == 0xA0
    || code == 0x1680 || (0x2000 ≤ code && code ≤ 0x200A) || code == 0x2028
    || code == 0x2029 || code == 0x202F || code == 0x205F || code == 0x3000

/-- A text without the blanks at its front. -/
def trimStart (text : List Char) : List Char :=
  text.dropWhile isBlank

/-- A text without the blanks around it. -/
def trim (text : List Char) : List Char :=
  (trimStart (trimStart text).reverse).reverse

/-- The longest stretch without blanks at the front of a text. -/
def firstRun (text : List Char) : List Char :=
  text.takeWhile fun character => !isBlank character

/-- What follows the longest stretch without blanks at the front of a text. -/
def afterFirstRun (text : List Char) : List Char :=
  text.dropWhile fun character => !isBlank character

/-- The first word of a text: its first maximal stretch without blanks. -/
def firstWord? (text : List Char) : Option (List Char) :=
  match trimStart text with
  | [] => none
  | rest => some (firstRun rest)

/-- No character of the text is anything but a blank. -/
def isAllBlank (text : List Char) : Bool :=
  text.all isBlank

theorem firstRun_append_afterFirstRun (text : List Char) :
    firstRun text ++ afterFirstRun text = text :=
  List.takeWhile_append_dropWhile

theorem not_isBlank_of_mem_firstRun {text : List Char} {character : Char}
    (member : character ∈ firstRun text) : isBlank character = false := by
  induction text with
  | nil => simp [firstRun] at member
  | cons head tail induction =>
      cases blank : isBlank head with
      | true => simp [firstRun, blank] at member
      | false =>
          simp only [firstRun, List.takeWhile_cons, blank, Bool.not_false,
            if_true, List.mem_cons] at member
          cases member with
          | inl same => exact same ▸ blank
          | inr later => exact induction later

/-- Every white-space character of the core library is a blank. -/
theorem isBlank_of_isWhitespace {character : Char}
    (white : character.isWhitespace = true) : isBlank character = true := by
  simp only [Char.isWhitespace, Bool.or_eq_true, decide_eq_true_eq] at white
  rcases white with ((same | same) | same) | same <;> subst same <;> rfl

end LoginServer.Text
