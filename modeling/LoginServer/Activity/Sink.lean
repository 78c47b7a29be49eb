import LoginServer.Failure.Io
import LoginServer.Text.Utf8

/-!
# Buffered appending to a file

Bytes gather in a buffer and are handed to the file in larger portions.  A
portion is accepted before it is stored, so a failure to store it shows only at
the next operation on the file.
-/

namespace LoginServer

/-- What a file does with the bytes it is given. -/
inductive Medium where
  /-- An ordinary file, which keeps them. -/
  | keeping
  /-- A device that drops them. -/
  | discarding
  /-- A device without space, which fails. -/
  | full
  deriving DecidableEq, Repr

/-- A file opened for appending behind a buffer. -/
structure Sink where
  medium : Medium
  /-- The portions that make up the file, the last one first. -/
  stored : List Bytes
  /-- Bytes that the file has not been given yet. -/
  buffer : Bytes
  /-- The fault of the last portion, while no operation has reported it. -/
  pending : Option IoFault
  deriving DecidableEq, Repr

namespace Sink

/-- The number of bytes that the buffer takes. -/
def capacity : Nat := 8192

/-- The most bytes that the file takes at once. -/
def largestPortion : Nat := 2 * 1024 * 1024

/-- A file with the given content and nothing in the buffer. -/
def opened (medium : Medium) (content : Bytes) : Sink :=
  { medium, stored := [content], buffer := [], pending := none }

/-- The content of the file. -/
def content (sink : Sink) : Bytes :=
  sink.stored.reverse.flatten

/-- The file takes a portion, or reports the fault of the one before. -/
def hand (sink : Sink) (portion : Bytes) : Except IoFault Unit × Sink :=
  match sink.pending with
  | some fault => (.error fault, { sink with pending := none })
  | none =>
      match sink.medium with
      | .keeping => (.ok (), { sink with stored := portion :: sink.stored })
      | .discarding => (.ok (), sink)
      | .full =>
          (.ok (), { sink with pending := some (.system Errno.noSpace) })

/-- Hands the buffer to the file.  The buffer is kept if that fails. -/
def empty (sink : Sink) : Except IoFault Unit × Sink :=
  if sink.buffer.isEmpty then (.ok (), sink)
  else
    match sink.hand sink.buffer with
    | (.ok (), sink) => (.ok (), { sink with buffer := [] })
    | (.error fault, sink) => (.error fault, sink)

/-- Appends bytes.  The buffer is emptied first if they do not fit behind what
it holds; bytes that would fill it alone go straight to the file, one portion
after the other. -/
def append (sink : Sink) (bytes : Bytes) : Except IoFault Unit × Sink :=
  let (made, sink) :=
    if capacity < sink.buffer.length + bytes.length then sink.empty
    else (.ok (), sink)
  match made with
  | .error fault => (.error fault, sink)
  | .ok () =>
      if bytes.length < capacity then
        (.ok (), { sink with buffer := sink.buffer ++ bytes })
      else
        match sink.hand (bytes.take largestPortion) with
        | (.error fault, sink) => (.error fault, sink)
        | (.ok (), sink) =>
            if bytes.length ≤ largestPortion then (.ok (), sink)
            else sink.append (bytes.drop largestPortion)
termination_by bytes.length
decreasing_by simp only [List.length_drop, largestPortion] at *; omega

/-- Hands the buffer to the file and waits until it is stored. -/
def flush (sink : Sink) : Except IoFault Unit × Sink :=
  match sink.empty with
  | (.error fault, sink) => (.error fault, sink)
  | (.ok (), sink) =>
      match sink.pending with
      | some fault => (.error fault, { sink with pending := none })
      | none => (.ok (), sink)

end Sink
end LoginServer
