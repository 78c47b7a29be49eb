import LoginServer.LogFilter.Pattern.Bracket
import LoginServer.LogFilter.Pattern.Group

/-!
# Reading patterns

A pattern is read from front to back, and only what the rest depends on is kept:
the groups that are open, with the levels of what they hold, and the names of
groups.  `Reading.all` reads a whole pattern.
-/

namespace LoginServer.Pattern

/-- A piece of a pattern. -/
structure Piece where
  levels : Nat
  /-- It is no group of flags, and so it can be repeated. -/
  isRepeatable : Bool
  deriving DecidableEq, Repr

/-- What has been read of a group, or outside all groups. -/
structure Level where
  /-- How the rest is read. -/
  mode : Mode
  /-- The levels of each alternative in front of the last bar. -/
  alternatives : List Nat
  /-- The pieces behind it, the last one first. -/
  pieces : List Piece
  deriving DecidableEq, Repr

namespace Level

/-- Nothing has been read. -/
def start (mode : Mode) : Level :=
  { mode, alternatives := [], pieces := [] }

/-- The levels of what stands behind the last bar. -/
def sequenceLevels (level : Level) : Nat :=
  nesting (level.pieces.map Piece.levels)

/-- The levels of all that has been read. -/
def levels (level : Level) : Nat :=
  nesting (level.sequenceLevels :: level.alternatives)

/-- Adds a piece of the given levels. -/
def add (level : Level) (levels : Nat) : Level :=
  { level with
    pieces := { levels, isRepeatable := true } :: level.pieces }

/-- Adds flags, with which the rest is read. -/
def addFlags (level : Level) (mode : Mode) : Level :=
  { level with
    mode, pieces := { levels := 0, isRepeatable := false } :: level.pieces }

/-- Adds a bar. -/
def addBar (level : Level) : Level :=
  { level with
    alternatives := level.sequenceLevels :: level.alternatives, pieces := [] }

/-- Repeats the last piece. -/
def repeatLast? (level : Level) : Option Level :=
  match level.pieces with
  | [] => none
  | last :: pieces =>
      if last.isRepeatable then some ({ level with pieces }.add (last.levels + 1))
      else none

end Level

/-- What has been read of a pattern. -/
structure Reading where
  /-- What stands in front of each open group, the innermost first. -/
  outer : List Level
  /-- What has been read of the innermost one. -/
  level : Level
  /-- The names of groups. -/
  names : List (List Char)
  /-- The end of a word of any script has been asked for. -/
  wordBoundary : Bool
  deriving DecidableEq, Repr

namespace Reading

/-- Nothing has been read. -/
def start : Reading :=
  { outer := [], level := .start .initial, names := [], wordBoundary := false }

/-- Adds a piece of the given levels. -/
def add (reading : Reading) (levels : Nat) : Reading :=
  { reading with level := reading.level.add levels }

/-- Enters a group, or goes on with other flags. -/
def enter? (reading : Reading) : Opening → Option Reading
  | .flags mode => some { reading with level := reading.level.addFlags mode }
  | .group mode name =>
      let names := name.toList ++ reading.names
      if name.any reading.names.contains then none
      else
        some { reading with
          outer := reading.level :: reading.outer, level := .start mode, names }

/-- Leaves a group. -/
def leave? (reading : Reading) : Option Reading :=
  match reading.outer with
  | [] => none
  | level :: outer =>
      some { reading with
        outer, level := level.add (reading.level.levels + 1) }

/-- Adds what an escape stands for. -/
def addEscape? (reading : Reading) (escape : Escape) : Option Reading :=
  let mode := reading.level.mode
  let when := fun (allowed : Bool) =>
    if allowed then some (reading.add 0) else none
  match escape with
  | .character code isByte => when (mode.allowsCharacter code isByte)
  | .kind negated => when (mode.allowsKind negated)
  | .place ofWord =>
      let asks := ofWord && mode.anyScript
      some { reading.add 0 with wordBoundary := reading.wordBoundary || asks }

/-- Adds what a character stands for. -/
def addCharacter? (reading : Reading) (character : Char) : Option Reading :=
  let mode := reading.level.mode
  let allowed :=
    if character = '.' then mode.allowsOthers
    else if character = '^' ∨ character = '$' then true
    else mode.allowsCharacter character.toNat false
  if allowed then some (reading.add 0) else none

/-- Reads what stands at the front of a pattern of at most the given size. -/
def next (size : Nat) (reading : Reading) :
    List Char → Option (Reading × List Char)
  | [] => none
  | '\x7b' :: _ => none
  | '(' :: rest => do
      let (opening, rest) ← Opening.read reading.level.mode rest
      return (← reading.enter? opening, rest)
  | ')' :: rest => do
      return (← reading.leave?, rest)
  | '|' :: rest =>
      some ({ reading with level := reading.level.addBar }, rest)
  | '[' :: rest => do
      let mode := reading.level.mode
      let rest ← afterOpening? mode rest
      let (levels, rest) ← readSet mode size [] .start rest
      return (reading.add levels, rest)
  | '\\' :: rest => do
      let (escape, rest) ← Escape.read reading.level.mode rest
      return (← reading.addEscape? escape, rest)
  | sign :: rest =>
      if ['?', '*', '+'].contains sign then do
        let level ← reading.level.repeatLast?
        let rest := if rest.head? = some '?' then rest.tail else rest
        return ({ reading with level }, rest)
      else do
        return (← reading.addCharacter? sign, rest)

/-- Reads at most the given number of pieces and signs, up to the end of a pattern
of at most the given size. -/
def run (size : Nat) : Nat → Reading → List Char → Option Reading
  | most, reading, text =>
      match reading.level.mode.skip text, most with
      | [], _ => if reading.outer.isEmpty then some reading else none
      | _, 0 => none
      | text, most + 1 => do
          let (reading, text) ← next size reading text
          run size most reading text

/-- Reads a whole pattern. -/
def all (text : List Char) : Option Reading := do
  let reading ← run text.length text.length start text
  if reading.level.levels ≤ nestingBound then some reading else none

end Reading
end LoginServer.Pattern
