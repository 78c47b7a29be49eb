import LoginServer.Account.Basic
import LoginServer.Failure
import LoginServer.Text.Blank

/-!
# The account directory

A directory is a text of words with blanks between them: names and status
digits in turn.  Line breaks are blanks like any other and count only for the
line number of a fault.
-/

namespace LoginServer.Directory

/-- A word and the line it stands on, counted from 1. -/
structure Token where
  text : List Char
  line : Nat
  deriving DecidableEq, Repr

/-- The words of a text that begins on the given line.  The word read last is
held back, in reverse, until a blank or the end completes it. -/
def tokensFrom (line : Nat) (word : List Char) : List Char → List Token
  | [] => if word.isEmpty then [] else [⟨word.reverse, line⟩]
  | character :: rest =>
      if Text.isBlank character then
        let next := if character = '\n' then line + 1 else line
        if word.isEmpty then tokensFrom next [] rest
        else ⟨word.reverse, line⟩ :: tokensFrom next [] rest
      else tokensFrom line (character :: word) rest

/-- The words of a text with their lines. -/
def tokens (text : List Char) : List Token :=
  tokensFrom 1 [] text

/-- The first fault of a directory. -/
inductive Fault where
  /-- A word in the place of a status is not one. -/
  | invalidStatus (word username : String) (line : Nat)
  /-- The directory ends after a name. -/
  | missingStatus (username : String) (line : Nat)
  deriving DecidableEq, Repr

namespace Fault

/-- The line of the word at fault. -/
def line : Fault → Nat
  | .invalidStatus _ _ line => line
  | .missingStatus _ line => line

/-- The wording of a fault. -/
def reason : Fault → String
  | .invalidStatus word username _ =>
      "invalid status '" ++ word ++ "' for account '" ++ username
        ++ "' (expected 0 or 1)"
  | .missingStatus username _ =>
      "account '" ++ username ++ "' has no status"

/-- The failure that a fault amounts to. -/
def toFailure (fault : Fault) : Failure :=
  .accountLoad fault.line fault.reason

end Fault

/-- The accounts that words spell in pairs. -/
def accounts : List Token → Except Fault (List Account)
  | [] => .ok []
  | [name] => .error (.missingStatus (String.ofList name.text) name.line)
  | name :: status :: rest =>
      let username := String.ofList name.text
      let code := String.ofList status.text
      match Status.ofCode? code with
      | none => .error (.invalidStatus code username status.line)
      | some status =>
          (accounts rest).map fun later => .idle username status :: later

/-- Reads a directory: every record in order, repeated names included. -/
def load (source : String) : Except Fault (List Account) :=
  accounts (tokens source.toList)

end LoginServer.Directory
