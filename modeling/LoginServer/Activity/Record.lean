import LoginServer.Activity.Event

/-!
# Reading the activity log

A record is read from both ends: no dollar sign stands in its time or in its
peer, and its code has three characters.  What is left between them is the line,
which may hold any number of dollar signs.
-/

namespace LoginServer

/-- What the record of an event shows. -/
structure Record where
  time : String
  peer : String
  input : Option String
  reply : Reply
  deriving DecidableEq, Repr

/-- The record of an event: its time in square brackets, and its exchange with
the peer as it is printed. -/
def Event.record (event : Event) : Record :=
  { time := "[" ++ event.time.render ++ "]"
    peer := event.exchange.peer.render
    input := event.exchange.input
    reply := event.exchange.reply }

namespace Record

/-- The number of characters of a code. -/
def codeLength : Nat := 3

/-- The text before the first dollar sign, and the text behind it. -/
def cut? (text : List Char) : Option (List Char × List Char) :=
  match text.dropWhile (· ≠ '$') with
  | [] => none
  | _ :: rest => some (text.takeWhile (· ≠ '$'), rest)

/-- The line in the text between the peer and the code, where a dollar sign
follows it if there is one. -/
def input? (text : List Char) : Option (Option String) :=
  if text = [] then some none
  else if text.getLast? = some '$' then
    some (some (String.ofList text.dropLast))
  else none

/-- What follows the peer: the line, if there is one, and the code. -/
def ending? (text : List Char) : Option (Option String × Reply) := do
  let front := text.length - codeLength
  let input ← input? (text.take front)
  let reply ← Reply.ofCode? (String.ofList (text.drop front))
  return (input, reply)

/-- Reads a record. -/
def parse? (line : String) : Option Record := do
  let (time, rest) ← cut? line.toList
  let (peer, rest) ← cut? rest
  let (input, reply) ← ending? rest
  some
    { time := String.ofList time
      peer := String.ofList peer
      input
      reply }

end Record
end LoginServer
