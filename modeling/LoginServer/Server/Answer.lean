import LoginServer.Protocol.Codec
import LoginServer.Server.Shared
import LoginServer.Session

/-!
# Answering lines

Both ways of serving answer the lines of a connection in the same way: one
reply, one recorded exchange and one counted command for each line.
-/

namespace LoginServer

/-- What answering lines brings about: the replies as they are sent, and the
session and what it shares afterwards. -/
structure Answered where
  session : Session
  shared : Shared
  replies : Bytes
  exchanges : List Exchange
  notices : List Notice

namespace Shared

/-- Answers one line of a session. -/
def answer (shared : Shared) (session : Session) (line : String) :
    Answered :=
  let (turn, exchange) := session.answer shared.registry line
  { session := turn.session
    shared := { shared with registry := turn.registry }.count Counters.answer
    replies := Frame.encode turn.reply
    exchanges := [exchange]
    notices := turn.notices }

/-- Answers lines of a session one after the other. -/
def answerEach (shared : Shared) (session : Session) :
    List String → Answered
  | [] => { session, shared, replies := [], exchanges := [], notices := [] }
  | line :: lines =>
      let first := shared.answer session line
      let later := first.shared.answerEach first.session lines
      { later with
        replies := first.replies ++ later.replies
        exchanges := first.exchanges ++ later.exchanges
        notices := first.notices ++ later.notices }

/-- The end of an admitted connection: first its session gives its account
back, then the connection gives its slot back. -/
def finish (shared : Shared) (session : Session) (slot : Slot) :
    Shared × List Notice :=
  let released := session.release shared.registry
  let (shared, left) :=
    { shared with registry := released.registry }.leave slot
  (shared, released.notices ++ left)

end Shared
end LoginServer
