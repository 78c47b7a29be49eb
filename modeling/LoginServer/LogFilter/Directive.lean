import LoginServer.LogFilter.Pattern
import LoginServer.LogFilter.Threshold
import LoginServer.Text.Blank
import LoginServer.Text.Utf8

/-!
# Directives of log filters

A directive is a threshold, perhaps only for some notices: `source=info` is for
those whose source begins with a text, `source[span]=info` for those that arise
within a named stretch of work, and `source[{field}]=info` or
`[{field=pattern}]=info` for those with a field.

It is read character by character.  Its marks are looked for in the text without
the blanks around it, and their places are counted there; the parts between them
are cut out of the whole text at these places.  So blanks in front of a directive
shift its parts.
-/

namespace LoginServer

/-- What a directive asks of a field. -/
structure FieldCondition where
  name : List Char
  /-- A value is asked for, and not only the field. -/
  hasValue : Bool
  deriving DecidableEq, Repr

/-- One directive of a filter. -/
structure Directive where
  /-- What the name of the source has to begin with. -/
  source : List Char
  /-- The stretch of work. -/
  span : Option (List Char)
  field : Option FieldCondition
  threshold : Threshold
  deriving DecidableEq, Repr

namespace Directive

/-- The directive for all notices. -/
def general (threshold : Threshold) : Directive :=
  { source := [], span := none, field := none, threshold }

/-- Why a directive is ignored. -/
inductive Fault where
  | malformed
  | unknownLevel
  | pattern (fault : Pattern.Fault)
  deriving DecidableEq, Repr

/-- The wording of a fault. -/
def Fault.message : Fault → String
  | .malformed => "invalid filter directive"
  | .unknownLevel =>
      "error parsing level filter: expected one of \"off\", \"error\", "
        ++ "\"warn\", \"info\", \"debug\", \"trace\", or a number 0-5"
  | .pattern fault => "invalid field filter: " ++ fault.message

/-! ## Reading -/

/-- The part of a directive that a character belongs to, and where that part
begins. -/
inductive Stage where
  | front
  /-- A source, or a threshold that stands alone. -/
  | source (start : Nat)
  | span (start : Nat)
  | field (start : Nat)
  | behindField
  | behindBrackets
  | level (start : Nat)

/-- A character that a directive can begin with, apart from a bracket. -/
def canBegin (character : Char) : Bool :=
  Text.isAlphanumeric character
    || character = '-' || character = ':' || character = '_'

/-- The part of a text between two places. -/
def part (text : List Char) (start stop : Nat) : Except Fault (List Char) :=
  let part? : Option (List Char) := do
    let (_, rest) ← Text.Utf8.splitAt? start text
    let (part, _) ← Text.Utf8.splitAt? (stop - start) rest
    return part
  part?.elim (.error .malformed) .ok

/-- The threshold that stands behind an equals sign; nothing there asks for
every notice. -/
def threshold? (word : List Char) : Except Fault Threshold :=
  if word.isEmpty then .ok .everything
  else (Threshold.ofWord? word).elim (.error .unknownLevel) .ok

/-- What a directive asks of a field: a name, and a pattern up to the next equals
sign. -/
def condition? (text : List Char) : Except Fault FieldCondition := do
  let isName := fun (character : Char) => character ≠ '='
  let name := text.takeWhile isName
  if text.isEmpty then .error .malformed
  else
    match text.dropWhile isName with
    | [] => .ok { name, hasValue := false }
    | _ :: behind =>
        (Pattern.check (behind.takeWhile isName)).mapError .pattern
        return { name, hasValue := true }

/-- Reads one character of a directive that stands at the given place. -/
def advance (text : List Char) (read : Directive) (place : Nat)
    (character : Char) : Stage → Except Fault (Directive × Stage)
  | .front =>
      if character = '[' then .ok (read, .span (place + 1))
      else if canBegin character then .ok (read, .source place)
      else .error .malformed
  | .source start =>
      if character = '=' ∨ character = '[' then do
        let source ← part text start place
        let next := if character = '=' then Stage.level else .span
        return ({ read with source }, next (place + 1))
      else .ok (read, .source start)
  | .span start =>
      if character = ']' then do
        return ({ read with span := ← part text start place }, .behindBrackets)
      else if character = '\x7b' then do
        let span ← part text start place
        let span := if span.isEmpty then none else some span
        return ({ read with span }, .field (place + 1))
      else .ok (read, .span start)
  | .field start =>
      if character = '\x7d' then do
        let field ← condition? (← part text start place)
        return ({ read with field }, .behindField)
      else .ok (read, .field start)
  | .behindField =>
      if character = ']' then .ok (read, .behindBrackets)
      else .error .malformed
  | .behindBrackets =>
      if character = '=' then .ok (read, .level (place + 1))
      else .error .malformed
  | .level start => .ok (read, .level start)

/-- Reads characters from the given place on. -/
def readFrom (text : List Char) (read : Directive) (stage : Stage)
    (place : Nat) : List Char → Except Fault (Directive × Stage)
  | [] => .ok (read, stage)
  | character :: rest => do
      let (read, stage) ← advance text read place character stage
      readFrom text read stage (place + character.utf8Size) rest

/-- The directive whose last part is the rest of a text.  A source without a
threshold asks for every notice. -/
def complete (text : List Char) (read : Directive) :
    Stage → Except Fault Directive
  | .source start => do
      let word ← part text start (Text.Utf8.byteCount (String.ofList text))
      match Threshold.ofWord? word with
      | some threshold => return { read with threshold }
      | none => return { read with source := word }
  | .level start => do
      let word ← part text start (Text.Utf8.byteCount (String.ofList text))
      return { read with threshold := ← threshold? word }
  | .behindBrackets => .ok read
  | _ => .error .malformed

/-- Reads a directive. -/
def parse (text : List Char) : Except Fault Directive := do
  let (read, stage) ←
    readFrom text (general .everything) .front 0 (Text.trim text)
  complete text read stage

/-! ## Meaning -/

/-- Whether a directive is about notices, and not about stretches of work or the
values of their fields.  The server names no stretches of work. -/
def isAboutNotices (directive : Directive) : Bool :=
  directive.span.isNone && !directive.field.any FieldCondition.hasValue

/-- The only field of a notice, which holds its wording. -/
def noticeField : List Char :=
  "message".toList

/-- Whether a directive is about notices from a source. -/
def covers (directive : Directive) (source : String) : Bool :=
  directive.isAboutNotices
    && directive.source.isPrefixOf source.toList
    && directive.field.all fun field => field.name = noticeField

/-- Whether a directive decides before another one does, if it is not the later
one: the longer source is before the shorter, and then the field before none. -/
def precedes (directive other : Directive) : Bool :=
  other.source.length < directive.source.length
    || (directive.source.length = other.source.length
      && directive.field.isSome && other.field.isNone)

end Directive
end LoginServer
