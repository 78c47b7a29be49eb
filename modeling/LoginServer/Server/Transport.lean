import LoginServer.Failure
import LoginServer.Text.Utf8

/-!
# Sockets that do not wait

What an attempt to read from a socket or to write to it can come to when it must
not wait.
-/

namespace LoginServer

/-- The most bytes that one attempt reads. -/
def readSize : Nat := 4096

/-- Bytes that one attempt can read: some, and not too many. -/
structure Chunk where
  bytes : Bytes
  nonempty : bytes ≠ []
  short : bytes.length ≤ readSize

/-- What an attempt to read comes to. -/
inductive ReadOutcome where
  | chunk (chunk : Chunk)
  /-- Nothing has arrived. -/
  | wouldBlock
  | endOfStream
  | failed (fault : IoFault)

/-- What an attempt to write comes to. -/
inductive WriteOutcome where
  /-- At most the given number of bytes are accepted. -/
  | accepted (count : Nat)
  /-- There is no room. -/
  | wouldBlock
  | failed (fault : IoFault)
  deriving DecidableEq, Repr

/-- What became of pending bytes: those that the socket accepted, those that
are still pending, and the fault that ended the attempts, if there was one. -/
structure Flushed where
  accepted : Bytes
  pending : Bytes
  fault : Option IoFault
  deriving DecidableEq, Repr

/-- Attempts to write pending bytes until none are left or an attempt finds no
room or fails.  To accept nothing is a fault.  The attempts come to the given
outcomes; beyond them there is no room. -/
def flush (pending : Bytes) : List WriteOutcome → Flushed
  | [] => { accepted := [], pending, fault := none }
  | outcome :: outcomes =>
      if pending.isEmpty then { accepted := [], pending, fault := none }
      else
        match outcome with
        | .wouldBlock => { accepted := [], pending, fault := none }
        | .failed fault => { accepted := [], pending, fault := some fault }
        | .accepted count =>
            if count = 0 then
              { accepted := [], pending, fault := some (.simple .writeZero) }
            else
              let later := flush (pending.drop count) outcomes
              { later with accepted := pending.take count ++ later.accepted }

/-- No byte is lost between the accepted and the pending ones. -/
theorem accepted_append_pending (pending : Bytes)
    (outcomes : List WriteOutcome) :
    (flush pending outcomes).accepted ++ (flush pending outcomes).pending =
      pending := by
  induction outcomes generalizing pending with
  | nil => simp [flush]
  | cons outcome outcomes induction =>
      unfold flush
      split
      · simp
      · cases outcome with
        | wouldBlock => simp
        | failed fault => simp
        | accepted count =>
            dsimp only
            split <;> simp [induction]

end LoginServer
