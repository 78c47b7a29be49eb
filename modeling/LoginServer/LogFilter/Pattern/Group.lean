import LoginServer.LogFilter.Pattern.Mode
import LoginServer.Text.Alphanumeric

/-!
# Groups of patterns

What can stand behind an opening parenthesis: a name, flags for the group, or
flags that are for what follows them and open no group.
-/

namespace LoginServer.Pattern

/-- What an opening parenthesis begins. -/
inductive Opening where
  | group (mode : Mode) (name : Option (List Char))
  /-- Flags for what follows. -/
  | flags (mode : Mode)
  deriving DecidableEq, Repr

namespace Opening

/-- Whether a text can name a group. -/
def isName : List Char → Bool
  | [] => false
  | first :: rest =>
      (first = '_' || Text.isAlphabetic first)
        && rest.all fun character =>
          Text.isAlphanumeric character
            || ['_', '.', '[', ']'].contains character

/-- Reads a name up to the sign behind it. -/
def readName (mode : Mode) (text : List Char) :
    Option (Opening × List Char) :=
  let name := text.takeWhile (· ≠ '>')
  match text.dropWhile (· ≠ '>') with
  | _ :: rest => if isName name then some (.group mode name, rest) else none
  | [] => none

/-- Reads flags, of which some have been seen already. -/
def readFlags (mode : Mode) (seen : List Char) :
    List Char → Option (Opening × List Char)
  | [] => none
  | sign :: rest =>
      if seen.contains sign then none
      else if sign = '-' then readFlags mode (sign :: seen) rest
      else if sign = ':' ∨ sign = ')' then
        if seen.head? = some '-' then none
        else if sign = ':' then some (.group mode none, rest)
        else if seen.isEmpty then none
        else some (.flags mode, rest)
      else
        match mode.switch? (!seen.contains '-') sign with
        | some mode => readFlags mode (sign :: seen) rest
        | none => none

/-- Reads what stands behind an opening parenthesis. -/
def read (mode : Mode) (text : List Char) : Option (Opening × List Char) :=
  match mode.skip text with
  | '?' :: 'P' :: '<' :: rest | '?' :: '<' :: rest => readName mode rest
  | '?' :: rest => readFlags mode [] rest
  | rest => some (.group mode none, rest)

end Opening
end LoginServer.Pattern
