import LoginServer.Text.Blank

/-!
# Modes of patterns

Flags in a pattern change how it is read behind them.  A mode holds those flags
on which it depends whether a pattern can be used.

There are no tables of the characters of all scripts.  So where characters are of
any script, a pattern cannot ask for both cases of a character or for a kind of
characters, such as digits.  Elsewhere characters are bytes, and a pattern cannot
ask for a byte that is only a part of a character.
-/

namespace LoginServer.Pattern

/-- How a part of a pattern is read. -/
structure Mode where
  /-- Characters are of any script, and not only bytes. -/
  anyScript : Bool
  /-- A letter stands for both its cases. -/
  ignoreCase : Bool
  /-- Blanks and comments stand for nothing. -/
  verbose : Bool
  deriving DecidableEq, Repr

/-- What follows blanks and comments.  A comment reaches from a number sign to
the end of its line; the text may begin within one. -/
def afterBlanks (inComment : Bool) : List Char → List Char
  | [] => []
  | character :: rest =>
      if inComment then afterBlanks (character ≠ '\n') rest
      else if Text.isBlank character then afterBlanks false rest
      else if character = '#' then afterBlanks true rest
      else character :: rest

namespace Mode

/-- The mode in which a pattern begins. -/
def initial : Mode :=
  { anyScript := true, ignoreCase := false, verbose := false }

/-- A mode with a flag switched on or off.  Four flags are about lines and about
which of several matches is meant, and change no mode. -/
def switch? (mode : Mode) (on : Bool) (flag : Char) : Option Mode :=
  match flag with
  | 'u' => some { mode with anyScript := on }
  | 'i' => some { mode with ignoreCase := on }
  | 'x' => some { mode with verbose := on }
  | 'm' | 's' | 'U' | 'R' => some mode
  | _ => none

/-- What is read next. -/
def skip (mode : Mode) (text : List Char) : List Char :=
  if mode.verbose then afterBlanks false text else text

/-- The character by which a hyphen in front of it is understood.  Of a comment
only its sign is passed over, and without any other character a blank counts. -/
def peek? (mode : Mode) (text : List Char) : Option Char :=
  if mode.verbose then
    let rest :=
      match Text.trimStart text with
      | '#' :: comment => Text.trimStart comment
      | rest => rest
    rest.head? <|> text.head?
  else text.head?

/-! ## What can be asked for -/

/-- A single character, which may be meant as a byte. -/
def allowsCharacter (mode : Mode) (code : Nat) (isByte : Bool) : Bool :=
  if mode.anyScript then !mode.ignoreCase else code < 0x80 || !isByte

/-- A member of a set in brackets, where characters are bytes unless they are of
any script. -/
def allowsMember (mode : Mode) (code : Nat) : Bool :=
  mode.allowsCharacter code true

/-- A kind of characters, or all others. -/
def allowsKind (mode : Mode) (negated : Bool) : Bool :=
  !mode.anyScript && !negated

/-- A named set of ASCII characters, or all others. -/
def allowsAscii (mode : Mode) (negated : Bool) : Bool :=
  if mode.anyScript then !mode.ignoreCase else !negated

/-- All characters, or those outside a set. -/
def allowsOthers (mode : Mode) : Bool :=
  mode.anyScript

end Mode
end LoginServer.Pattern
