import LoginServer.LogFilter.Pattern.Mode
import LoginServer.Text.Numeral

/-!
# Escapes in patterns

What a backslash and the characters behind it stand for.
-/

namespace LoginServer.Pattern

/-- The meaning of an escape. -/
inductive Escape where
  /-- A character, perhaps as a byte. -/
  | character (code : Nat) (isByte : Bool)
  /-- A kind of characters, or all others. -/
  | kind (negated : Bool)
  /-- A place between characters; the end of a word or another. -/
  | place (ofWord : Bool)
  deriving DecidableEq, Repr

namespace Escape

/-- Letters that stand for controls, with their codes. -/
def controlLetters : List (Char × Nat) :=
  [('a', 7), ('f', 12), ('t', 9), ('n', 10), ('r', 13), ('v', 11)]

/-- Letters that ask for hexadecimal digits, with their number. -/
def hexadecimalLetters : List (Char × Nat) :=
  [('x', 2), ('u', 4), ('U', 8)]

/-- The given number of characters in front of a text, and what follows. -/
def readCharacters (mode : Mode) :
    Nat → List Char → Option (List Char × List Char)
  | 0, text => some ([], text)
  | count + 1, text =>
      match mode.skip text with
      | [] => none
      | first :: rest => do
          let (others, rest) ← readCharacters mode count rest
          return (first :: others, rest)

/-- A character by its hexadecimal digits.  Two digits give a byte. -/
def readHexadecimal (mode : Mode) (count : Nat) (text : List Char) :
    Option (Escape × List Char) := do
  let (digits, rest) ← readCharacters mode count text
  let code ← Text.ofDigits? 16 digits
  if code.isValidChar then some (.character code (count = 2), rest) else none

/-- Reads what stands behind a backslash. -/
def read (mode : Mode) : List Char → Option (Escape × List Char)
  | [] => none
  | letter :: rest =>
      if let some code := controlLetters.lookup letter then
        some (.character code false, rest)
      else if let some count := hexadecimalLetters.lookup letter then
        readHexadecimal mode count rest
      else if ['d', 's', 'w'].contains letter then some (.kind false, rest)
      else if ['D', 'S', 'W'].contains letter then some (.kind true, rest)
      else if ['b', 'B', '<', '>'].contains letter then
        some (.place true, rest)
      else if letter = 'A' ∨ letter = 'z' then some (.place false, rest)
      else if letter.toNat < 0x80 ∧ !letter.isAlphanum then
        some (.character letter.toNat false, rest)
      else none

end Escape
end LoginServer.Pattern
