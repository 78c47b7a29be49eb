/-!
# Counters

What the server counts since its start.  The counters are 64 bits wide and wrap
around in both directions.
-/

namespace LoginServer

/-- The counters of a server. -/
structure Counters where
  /-- Connections that arrived. -/
  total : UInt64
  /-- Connections refused on arrival. -/
  refused : UInt64
  /-- Connections admitted and not yet ended. -/
  connected : UInt64
  /-- Client lines answered. -/
  commands : UInt64
  deriving DecidableEq, Repr

namespace Counters

/-- Nothing counted yet. -/
def zero : Counters :=
  { total := 0, refused := 0, connected := 0, commands := 0 }

/-- Counts an arrival. -/
def arrive (counters : Counters) : Counters :=
  { counters with total := counters.total + 1 }

/-- Counts a refusal. -/
def refuse (counters : Counters) : Counters :=
  { counters with refused := counters.refused + 1 }

/-- Counts an admitted connection. -/
def connect (counters : Counters) : Counters :=
  { counters with connected := counters.connected + 1 }

/-- Counts the end of an admitted connection. -/
def disconnect (counters : Counters) : Counters :=
  { counters with connected := counters.connected - 1 }

/-- Counts an answered line. -/
def answer (counters : Counters) : Counters :=
  { counters with commands := counters.commands + 1 }

end Counters
end LoginServer
