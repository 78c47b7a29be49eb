import LoginServer.Failure
import LoginServer.Protocol.Reply
import LoginServer.Text.Utf8

/-!
# Framing

A stream of bytes is cut into lines, each ended by a carriage return and a line
feed.  Bytes gather in a receive buffer; `split` takes the first complete line
off its front, or tells that no terminator that can still arrive would end a
line within the limit.  A `Codec` remembers how much of the buffer it has
already searched.
-/

namespace LoginServer.Frame

/-- The two bytes that end a line. -/
def terminator : Bytes := [13, 10]

/-- The greatest line length when nothing else is configured. -/
def defaultLimit : Nat := 4096

/-- The position of the first terminator, if the first byte has the given
position. -/
def findFrom? (position : Nat) : Bytes → Option Nat
  | [] => none
  | first :: rest =>
      if first = 13 ∧ rest.head? = some 10 then some position
      else findFrom? (position + 1) rest

/-- The position of the first terminator. -/
def findTerminator? (bytes : Bytes) : Option Nat :=
  findFrom? 0 bytes

/-- Whether a buffer holds a complete line. -/
def hasLine (buffer : Bytes) : Bool :=
  (findTerminator? buffer).isSome

/-- Takes the first line off a buffer, searching for its terminator from a
position on.  The result is the line and what follows its terminator, nothing
if no terminator has arrived, or a failure if the line is too long; a buffer
without a terminator is too long once it holds two bytes more than the limit. -/
def split (limit start : Nat) (buffer : Bytes) :
    Except Failure (Option (Bytes × Bytes)) :=
  match findTerminator? (buffer.drop start) with
  | some offset =>
      let position := start + offset
      if limit < position then .error (.lineTooLong limit)
      else .ok (some (buffer.take position, buffer.drop (position + 2)))
  | none =>
      if limit + 2 ≤ buffer.length then .error (.lineTooLong limit)
      else .ok none

/-- The text of a line. -/
def lineText (line : Bytes) : String :=
  String.ofList (Text.Utf8.decodeLossy line)

/-- Takes the first line off a buffer and reads it as text. -/
def extract (limit : Nat) (buffer : Bytes) :
    Except Failure (Option String) × Bytes :=
  match split limit 0 buffer with
  | .ok (some (line, rest)) => (.ok (some (lineText line)), rest)
  | .ok none => (.ok none, buffer)
  | .error failure => (.error failure, buffer)

/-- A reply as it is sent. -/
def encode (reply : Reply) : Bytes :=
  Text.Utf8.encode reply.code.toList ++ terminator

theorem findFrom?_add (start position : Nat) (bytes : Bytes) :
    findFrom? (start + position) bytes =
      (findFrom? start bytes).map (· + position) := by
  induction bytes generalizing start with
  | nil => rfl
  | cons first rest induction =>
      rw [findFrom?, findFrom?]
      split
      · rfl
      · rw [Nat.add_right_comm, induction]

/-- The first terminator begins at once or is that of the bytes after the
first. -/
theorem findTerminator?_cons (first : UInt8) (rest : Bytes) :
    findTerminator? (first :: rest) =
      if first = 13 ∧ rest.head? = some 10 then some 0
      else (findTerminator? rest).map (· + 1) := by
  rw [findTerminator?, findFrom?, findFrom?_add]
  rfl

theorem length_of_findTerminator? {bytes : Bytes} {position : Nat}
    (found : findTerminator? bytes = some position) :
    position + 2 ≤ bytes.length := by
  induction bytes generalizing position with
  | nil => simp [findTerminator?, findFrom?] at found
  | cons first rest induction =>
      rw [findTerminator?_cons] at found
      split at found
      · next here =>
          cases rest with
          | nil => simp at here
          | cons second rest =>
              simp only [Option.some.injEq] at found
              simp only [List.length_cons]
              omega
      · cases later : findTerminator? rest with
        | none => simp [later] at found
        | some offset =>
            have bound := induction later
            simp only [later, Option.map_some, Option.some.injEq] at found
            simp only [List.length_cons]
            omega

/-- A buffer shrinks when a line is taken off it. -/
theorem length_rest_lt_of_split {limit start : Nat} {buffer line rest : Bytes}
    (taken : split limit start buffer = .ok (some (line, rest))) :
    rest.length < buffer.length := by
  rw [split] at taken
  split at taken
  · next offset found =>
      have bound := length_of_findTerminator? found
      rw [List.length_drop] at bound
      dsimp only at taken
      split at taken
      · contradiction
      · simp only [Except.ok.injEq, Option.some.injEq, Prod.mk.injEq] at taken
        rw [← taken.2, List.length_drop]
        omega
  · split at taken <;> simp at taken

end LoginServer.Frame
