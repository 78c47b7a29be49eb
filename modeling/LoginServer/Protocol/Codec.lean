import LoginServer.Notice
import LoginServer.Protocol.Frame

/-!
# The line decoder

A decoder searches each byte of its buffer for a terminator only once.  It
steps back one byte before the new ones, because a carriage return at the end
of one search may be completed by the first byte of the next.
-/

namespace LoginServer

/-- A decoder's line limit and the number of bytes at the front of its buffer
that it has searched without finding a terminator. -/
structure Codec where
  limit : Nat
  searched : Nat
  deriving DecidableEq, Repr

/-- One attempt to decode a line: what came of it, and the decoder and the
buffer afterwards. -/
structure Reading where
  outcome : Except Failure (Option String)
  codec : Codec
  buffer : Bytes

/-- All the lines that a buffer yields: the lines in order, the failure that
ended them if there was one, and the decoder and the buffer afterwards. -/
structure Drained where
  lines : List String
  failure : Option Failure
  codec : Codec
  buffer : Bytes

namespace Codec

/-- A decoder that has searched nothing. -/
def fresh (limit : Nat) : Codec :=
  { limit, searched := 0 }

/-- Where the next search starts: one byte before those that have not been
searched.  Behind the end of a buffer that was emptied meanwhile, nothing is
found. -/
def searchStart (codec : Codec) : Nat :=
  codec.searched - 1

/-- Decodes the first line of a buffer. -/
def decode (codec : Codec) (buffer : Bytes) : Reading :=
  match Frame.split codec.limit codec.searchStart buffer with
  | .ok (some (line, rest)) =>
      { outcome := .ok (some (Frame.lineText line))
        codec := fresh codec.limit
        buffer := rest }
  | .ok none =>
      { outcome := .ok none
        codec := { codec with searched := buffer.length }
        buffer }
  | .error failure =>
      { outcome := .error failure
        codec := fresh codec.limit
        buffer }

/-- Decodes at the end of a stream: bytes that no terminator follows are not a
line and are discarded. -/
def decodeEnd (codec : Codec) (buffer : Bytes) : Reading × List Notice :=
  let reading := codec.decode buffer
  match reading.outcome with
  | .ok none =>
      if reading.buffer.isEmpty then (reading, [])
      else
        ({ reading with codec := fresh codec.limit, buffer := [] },
          [.tailDiscarded reading.buffer.length])
  | _ => (reading, [])

theorem length_buffer_lt_of_decode {codec : Codec} {buffer : Bytes}
    {line : String}
    (decoded : (codec.decode buffer).outcome = .ok (some line)) :
    (codec.decode buffer).buffer.length < buffer.length := by
  unfold decode at decoded ⊢
  split
  · next taken => exact Frame.length_rest_lt_of_split taken
  · next empty => simp [empty] at decoded
  · next failed => simp [failed] at decoded

/-- Decodes until a buffer yields no further line. -/
def drain (codec : Codec) (buffer : Bytes) : Drained :=
  let reading := codec.decode buffer
  match _decoded : reading.outcome with
  | .ok (some line) =>
      let later := drain reading.codec reading.buffer
      { later with lines := line :: later.lines }
  | .ok none =>
      { lines := [], failure := none
        codec := reading.codec, buffer := reading.buffer }
  | .error failure =>
      { lines := [], failure := some failure
        codec := reading.codec, buffer := reading.buffer }
termination_by buffer.length
decreasing_by exact length_buffer_lt_of_decode _decoded

/-- Encodes a reply behind what an output buffer holds.  What a codec remembers
of its receive buffer plays no part, and does not change. -/
def encode (codec : Codec) (output : Bytes) (reply : Reply) : Codec × Bytes :=
  (codec, output ++ Frame.encode reply)

/-- Encodes replies one after the other behind what an output buffer holds. -/
def encodeAll (codec : Codec) (output : Bytes) (replies : List Reply) :
    Codec × Bytes :=
  replies.foldl
    (fun (codec, output) reply => codec.encode output reply) (codec, output)

end Codec
end LoginServer
