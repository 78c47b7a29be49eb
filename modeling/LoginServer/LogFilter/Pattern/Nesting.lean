/-!
# Nesting of patterns

How many levels a pattern has.  Each group, repetition, set in brackets, sequence,
choice and operation on sets is a level around its parts, except that a part alone
is no sequence and no choice.
-/

namespace LoginServer.Pattern

/-- The most levels that a pattern can have. -/
def nestingBound : Nat := 250

/-- The levels of several parts side by side, by the levels of each. -/
def nesting : List Nat → Nat
  | [] => 0
  | [part] => part
  | parts => parts.foldl max 0 + 1

end LoginServer.Pattern
