import LoginServer.Protocol.Codec

/-!
# Receivers

A receiver is a buffer and the decoder that takes lines off its front.  It is
fed bytes and asked for lines in any order, also after it has refused a line
and after the end of a stream.
-/

namespace LoginServer

/-- A receive buffer and its decoder. -/
structure Receiver where
  codec : Codec
  buffer : Bytes

namespace Receiver

/-- A way to ask for the first line of the buffer. -/
inductive Attempt where
  | decode
  /-- The stream has ended. -/
  | decodeEnd
  /-- The buffer is searched from its front, and the decoder is not told. -/
  | extract
  deriving DecidableEq, Repr

/-- One use of a receiver. -/
inductive Step where
  | feed (bytes : Bytes)
  | attempt (attempt : Attempt)
  deriving DecidableEq, Repr

/-- A receiver that has not been fed anything. -/
def opened (limit : Nat) : Receiver :=
  { codec := .fresh limit, buffer := [] }

/-- Feeds bytes behind those in the buffer. -/
def feed (receiver : Receiver) (bytes : Bytes) : Receiver :=
  { receiver with buffer := receiver.buffer ++ bytes }

/-- Asks for the first line: what comes of it, and the receiver afterwards. -/
def ask (receiver : Receiver) :
    Attempt → Except Failure (Option String) × Receiver
  | .decode =>
      let reading := receiver.codec.decode receiver.buffer
      (reading.outcome, { codec := reading.codec, buffer := reading.buffer })
  | .decodeEnd =>
      let (reading, _) := receiver.codec.decodeEnd receiver.buffer
      (reading.outcome, { codec := reading.codec, buffer := reading.buffer })
  | .extract =>
      let (outcome, buffer) :=
        Frame.extract receiver.codec.limit receiver.buffer
      (outcome, { receiver with buffer })

/-- A receiver after one use. -/
def step (receiver : Receiver) : Step → Receiver
  | .feed bytes => receiver.feed bytes
  | .attempt attempt => (receiver.ask attempt).2

/-- A receiver after one use after the other. -/
def run (receiver : Receiver) (steps : List Step) : Receiver :=
  steps.foldl step receiver

/-- The bytes that a step feeds. -/
def Step.fed : Step → Bytes
  | .feed bytes => bytes
  | .attempt _ => []

end Receiver
end LoginServer
