import LoginServer.Notice
import LoginServer.Text.Numeral

/-!
# Thresholds

A threshold says which notices are shown by their levels.  It is written as a
word or as a number.
-/

namespace LoginServer

/-- The least level of notices that are shown, if any are.  Every notice has a
greater rank than the level below `debug`. -/
inductive Threshold where
  | off
  | from (level : Level)
  | everything
  deriving DecidableEq, Repr

namespace Threshold

/-- Whether a notice of a level is shown. -/
def shows : Threshold → Level → Bool
  | .off, _ => false
  | .from least, level => least.rank ≤ level.rank
  | .everything, _ => true

/-- Thresholds by their numbers. -/
def byNumber : List Threshold :=
  [.off, .from .error, .from .warn, .from .info, .from .debug, .everything]

/-- Thresholds by their words. -/
def byWord : List (String × Threshold) :=
  [ ("off", .off), ("error", .from .error), ("warn", .from .warn),
    ("info", .from .info), ("debug", .from .debug), ("trace", .everything) ]

/-- The threshold that a number or a word stands for, in capitals or not. -/
def ofWord? (word : List Char) : Option Threshold :=
  let digits :=
    match word with
    | '+' :: digits => digits
    | digits => digits
  let number? := Text.ofDigitsUpTo? 10 byNumber.length digits
  match number?.bind fun number => byNumber[number]? with
  | some threshold => some threshold
  | none => byWord.lookup (String.ofList (word.map Char.toLower))

end Threshold
end LoginServer
