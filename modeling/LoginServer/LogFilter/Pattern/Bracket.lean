import LoginServer.LogFilter.Pattern.Escape
import LoginServer.LogFilter.Pattern.Nesting

/-!
# Sets in square brackets

A set has characters, ranges of them and kinds of them as its members, and further
sets: named ones of ASCII characters, and those in brackets of their own.  Two
ampersands, hyphens or tildes join what stands in front of them with what stands
behind them.

`readSet` reads a set and all the sets in it in one pass, and tells how many
levels it has.
-/

namespace LoginServer.Pattern

/-- A set whose closing bracket has not been read. -/
structure OpenSet where
  /-- The levels of what stands in front of the last operator. -/
  operand : Option Nat
  /-- The levels of each part behind it. -/
  parts : List Nat
  /-- There are no parts but hyphens, and no operator. -/
  atFront : Bool
  deriving DecidableEq, Repr

namespace OpenSet

/-- Nothing but an opening bracket. -/
def start : OpenSet :=
  { operand := none, parts := [], atFront := true }

/-- A set with a hyphen at its front. -/
def addHyphen (set : OpenSet) : OpenSet :=
  { set with parts := 0 :: set.parts }

/-- A set with a part of the given levels behind its front. -/
def add (set : OpenSet) (levels : Nat) : OpenSet :=
  { set with parts := levels :: set.parts, atFront := false }

/-- The levels of what stands between the brackets. -/
def levels (set : OpenSet) : Nat :=
  match set.operand with
  | none => nesting set.parts
  | some operand => max operand (nesting set.parts) + 1

/-- A set with an operator behind what has been read. -/
def join (set : OpenSet) : OpenSet :=
  { operand := some set.levels, parts := [], atFront := false }

/-- Whether a closing bracket would be a member. -/
def isEmpty (set : OpenSet) : Bool :=
  set.atFront && set.parts.isEmpty

end OpenSet

/-! ## Parts of a set -/

/-- The names of sets of ASCII characters. -/
def asciiSets : List String :=
  [ "alnum", "alpha", "ascii", "blank", "cntrl", "digit", "graph", "lower",
    "print", "punct", "space", "upper", "word", "xdigit" ]

/-- Behind an opening bracket, the name of a set of ASCII characters between
colons: whether all other characters are meant, and what follows. -/
def readAscii : List Char → Option (Bool × List Char)
  | ':' :: text =>
      let (negated, name) :=
        match text with
        | '^' :: name => (true, name)
        | name => (false, name)
      match name.dropWhile (· ≠ ':') with
      | ':' :: ']' :: rest =>
          if asciiSets.contains (String.ofList (name.takeWhile (· ≠ ':'))) then
            some (negated, rest)
          else none
      | _ => none
  | _ => none

/-- A member of a set: the code of a character, or none for a kind of
characters. -/
def readMember (mode : Mode) : List Char → Option (Option Nat × List Char)
  | [] => none
  | '\\' :: rest =>
      match Escape.read mode rest with
      | some (.character code _, rest) =>
          if mode.allowsMember code then some (some code, rest) else none
      | some (.kind negated, rest) =>
          if mode.allowsKind negated then some (none, rest) else none
      | _ => none
  | character :: rest =>
      let code := character.toNat
      if mode.allowsMember code then some (some code, rest) else none

/-- What follows a member of a set or a range between two characters. -/
def afterPart? (mode : Mode) (text : List Char) : Option (List Char) := do
  let (first?, rest) ← readMember mode text
  match mode.skip rest with
  | '-' :: behind =>
      let next? := mode.peek? behind
      if next? = some ']' ∨ next? = some '-' then some ('-' :: behind)
      else
        let (last?, rest) ← readMember mode (mode.skip behind)
        if (← first?) ≤ (← last?) then some rest else none
  | rest => some rest

/-! ## Whole sets -/

/-- What follows an opening bracket and the sign for all characters outside the
set. -/
def afterOpening? (mode : Mode) (text : List Char) : Option (List Char) :=
  match mode.skip text with
  | '^' :: rest => if mode.allowsOthers then some rest else none
  | rest => some rest

/-- Reads on in a set within others, of which at most the given number of parts
and signs is left: the levels of the outermost set, and what follows it. -/
def readSet (mode : Mode) : (most : Nat) → (outer : List OpenSet) → OpenSet →
    List Char → Option (Nat × List Char)
  | 0, _, _, _ => none
  | most + 1, outer, set, text =>
      match mode.skip text with
      | '[' :: rest =>
          match readAscii rest with
          | some (negated, rest) =>
              if mode.allowsAscii negated then
                readSet mode most outer (set.add 0) rest
              else none
          | none =>
              match afterOpening? mode rest with
              | some rest => readSet mode most (set :: outer) .start rest
              | none => none
      | ']' :: rest =>
          if set.isEmpty then
            if mode.allowsMember ']'.toNat then
              readSet mode most outer (set.add 0) rest
            else none
          else
            match outer with
            | [] => some (set.levels + 1, rest)
            | around :: outer =>
                readSet mode most outer (around.add (set.levels + 1)) rest
      | first :: rest =>
          if first = '-' ∧ set.atFront then
            if mode.allowsMember '-'.toNat then
              readSet mode most outer set.addHyphen rest
            else none
          else if ['&', '-', '~'].contains first ∧ rest.head? = some first then
            readSet mode most outer set.join rest.tail
          else
            match afterPart? mode (first :: rest) with
            | some rest => readSet mode most outer (set.add 0) rest
            | none => none
      | [] => none

end LoginServer.Pattern
