import LoginServer.Address.Basic
import LoginServer.Calendar
import LoginServer.Protocol.Reply

/-!
# Activity events

The server records every exchange with a client: the line it received and the
code it answered with.  A record in the activity log is one line of fields with
dollar signs between them.
-/

namespace LoginServer

/-- One request line and its answer; the greeting answers no line.  An empty
line is a line. -/
structure Exchange where
  peer : Address
  input : Option String
  reply : Reply
  deriving DecidableEq, Repr

/-- An exchange and the time at which it took place. -/
structure Event where
  time : Timestamp
  exchange : Exchange
  deriving DecidableEq, Repr

namespace Exchange

/-- The greeting of a connection. -/
def greeting (peer : Address) : Exchange :=
  { peer, input := none, reply := .connected }

/-- The fields of an exchange: the peer, the line if there is one, and the
code. -/
def fields (exchange : Exchange) : List String :=
  [exchange.peer.render] ++ exchange.input.toList ++ [exchange.reply.code]

end Exchange

namespace Event

/-- The record of an event: its time in square brackets and the fields of the
exchange. -/
def render (event : Event) : String :=
  "$".intercalate (("[" ++ event.time.render ++ "]") :: event.exchange.fields)

end Event
end LoginServer
