import LoginServer.Account.Registry
import LoginServer.Config.Basic
import LoginServer.Server.Counters

/-!
# What connections share

All connections share the registry, the counters, and a fixed number of slots.
A connection is admitted while a slot is free and holds the slot until it ends.
-/

namespace LoginServer

/-- What the connections of a server share. -/
structure Shared where
  config : Config
  registry : Registry
  counters : Counters
  /-- The handle given out last. -/
  lastSession : UInt64
  /-- Slots that no connection holds. -/
  freeSlots : Nat

/-- The hold of an admitted connection on its slot. -/
structure Slot where
  session : UInt64
  peer : Address
  deriving DecidableEq, Repr

namespace Shared

/-- The state of a server that has just started. -/
def start (config : Config) (registry : Registry) : Shared :=
  { config
    registry
    counters := .zero
    lastSession := 0
    freeSlots := config.maxClients }

/-- Gives out the next handle. -/
def nextSession (shared : Shared) : UInt64 × Shared :=
  let session := shared.lastSession + 1
  (session, { shared with lastSession := session })

/-- Changes the counters. -/
def count (shared : Shared) (change : Counters → Counters) : Shared :=
  { shared with counters := change shared.counters }

/-- Takes a slot for a connection, or refuses it. -/
def enter (shared : Shared) (session : UInt64) (peer : Address) :
    Except Failure Slot × Shared :=
  match shared.freeSlots with
  | 0 =>
      (.error (.connectionLimit shared.config.maxClients),
        shared.count Counters.refuse)
  | free + 1 =>
      (.ok { session, peer },
        { shared.count Counters.connect with freeSlots := free })

/-- Gives a slot back. -/
def leave (shared : Shared) (slot : Slot) : Shared × List Notice :=
  ({ shared.count Counters.disconnect with freeSlots := shared.freeSlots + 1 },
    [.slotReleased slot.session slot.peer])

end Shared
end LoginServer
