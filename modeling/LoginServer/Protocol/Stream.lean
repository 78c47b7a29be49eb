import LoginServer.Protocol.Codec

/-!
# Streams in chunks

A stream arrives in chunks of any size.  Each chunk is appended to the receive
buffer, from which the decoder then takes all complete lines.
-/

namespace LoginServer

/-- What became of one chunk: whether the buffer held a complete line after it,
and the lines that were taken. -/
structure Delivery where
  hasLine : Bool
  lines : List String
  deriving DecidableEq, Repr

/-- What became of a stream.  After a failure no further chunk is taken. -/
structure Streamed where
  deliveries : List Delivery
  failure : Option Failure
  /-- The chunks that were not taken. -/
  refused : List Bytes
  codec : Codec
  buffer : Bytes

/-- The lines of all deliveries, in order. -/
def Streamed.lines (streamed : Streamed) : List String :=
  streamed.deliveries.flatMap Delivery.lines

namespace Codec

/-- Feeds chunks one by one behind a buffer, and decodes after each of them. -/
def stream (codec : Codec) (buffer : Bytes) : List Bytes → Streamed
  | [] => { deliveries := [], failure := none, refused := [], codec, buffer }
  | chunk :: chunks =>
      let filled := buffer ++ chunk
      let drained := codec.drain filled
      let delivery := ⟨Frame.hasLine filled, drained.lines⟩
      match drained.failure with
      | some failure =>
          { deliveries := [delivery]
            failure := some failure
            refused := chunks
            codec := drained.codec
            buffer := drained.buffer }
      | none =>
          let later := stream drained.codec drained.buffer chunks
          { later with deliveries := delivery :: later.deliveries }

end Codec

/-- All the lines of a buffer that holds a whole stream: the lines in order, the
failure that ended them if there was one, and what is left. -/
structure Extracted where
  lines : List String
  failure : Option Failure
  buffer : Bytes

/-- Takes line after line off a buffer, searching it from its front each
time. -/
def Frame.extractAll (limit : Nat) (buffer : Bytes) : Extracted :=
  match _taken : Frame.split limit 0 buffer with
  | .ok (some (line, rest)) =>
      let later := extractAll limit rest
      { later with lines := Frame.lineText line :: later.lines }
  | .ok none => { lines := [], failure := none, buffer }
  | .error failure => { lines := [], failure := some failure, buffer }
termination_by buffer.length
decreasing_by exact Frame.length_rest_lt_of_split _taken

end LoginServer
