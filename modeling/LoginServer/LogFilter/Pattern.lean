import LoginServer.LogFilter.Pattern.Reading

/-!
# Patterns of field values

A directive can ask that a field has a value that matches a pattern.  The server
has no field for which that can be so, and all that is wanted of a pattern is
whether it can be used: `Pattern.check` decides that.
-/

namespace LoginServer.Pattern

/-- Why a pattern cannot be used. -/
inductive Fault where
  | malformed
  /-- It asks where words of any script end. -/
  | wordBoundary
  deriving DecidableEq, Repr

/-- The wording of a fault. -/
def Fault.message : Fault → String
  | .malformed => "error building NFA"
  | .wordBoundary =>
      "unsupported regex feature for DFAs: cannot build DFAs for regexes with "
        ++ "Unicode word boundaries; switch to ASCII word boundaries, or "
        ++ "heuristically enable Unicode word boundaries or use a different "
        ++ "regex engine"

/-- Whether a text is a number behind a plus sign, such as `+1`, `+.5e3` or
`+inf`.  Every other number is a pattern as well. -/
def isPositive : List Char → Bool
  | '+' :: text =>
      let isDigits := fun (text : List Char) =>
        !text.isEmpty && text.all Char.isDigit
      let lower := text.map Char.toLower
      let whole := lower.takeWhile Char.isDigit
      let (places, rest) := match lower.dropWhile Char.isDigit with
        | '.' :: rest =>
            (rest.takeWhile Char.isDigit, rest.dropWhile Char.isDigit)
        | rest => ([], rest)
      let exponent := match rest with
        | [] => true
        | 'e' :: '+' :: digits | 'e' :: '-' :: digits | 'e' :: digits =>
            isDigits digits
        | _ => false
      ["inf", "infinity", "nan"].contains (String.ofList lower)
        || (isDigits (whole ++ places) && exponent)
  | _ => false

/-- Whether a text can be used as a pattern or a number. -/
def check (text : List Char) : Except Fault Unit :=
  if isPositive text then .ok ()
  else
    match Reading.all text with
    | none => .error .malformed
    | some reading =>
        if reading.wordBoundary then .error .wordBoundary else .ok ()

end LoginServer.Pattern
