import LoginServer.Numbered
import LoginServer.Session

/-!
# Sessions that share a registry

Any number of sessions act on one registry, one step of one session at a time.
Each session has a place of its own; a step at a place where no session is does
nothing.
-/

namespace LoginServer

/-- Live sessions by their places, and the registry that they share. -/
structure Sessions where
  registry : Registry
  live : Numbered Session

namespace Sessions

/-- One step of one session. -/
inductive Step where
  /-- A new session begins, and the one that had its place ends. -/
  | opening (place : Nat) (id : UInt64) (peer : Address)
  | greeting (place : Nat)
  | line (place : Nat) (text : String)
  | command (place : Nat) (command : Command)
  | release (place : Nat)
  /-- The session ends. -/
  | closing (place : Nat)
  deriving DecidableEq, Repr

/-- What a step brings about: a reply if the step has one, the sessions after
it, and the exchanges it records. -/
structure Effect where
  reply : Option Reply
  sessions : Sessions
  exchanges : List Exchange
  notices : List Notice

/-- No sessions yet. -/
def start (registry : Registry) : Sessions :=
  { registry, live := .empty }

/-- A step that changes nothing. -/
def idle (sessions : Sessions) : Effect :=
  { reply := none, sessions, exchanges := [], notices := [] }

/-- Ends the session at a place: its account is given back. -/
def close (sessions : Sessions) (place : Nat) : Sessions × List Notice :=
  match sessions.live.get? place with
  | none => (sessions, [])
  | some session =>
      let { registry, notices, .. } := session.release sessions.registry
      ({ registry, live := sessions.live.remove place }, notices)

/-- Ends the sessions at the given places, one after the other. -/
def closeEach (sessions : Sessions) :
    List Nat → Sessions × List Notice
  | [] => (sessions, [])
  | place :: places =>
      let (sessions, first) := sessions.close place
      let (sessions, later) := sessions.closeEach places
      (sessions, first ++ later)

/-- Ends all sessions in the order of their places. -/
def closeAll (sessions : Sessions) : Sessions × List Notice :=
  sessions.closeEach sessions.live.numbers

/-- The effect of a turn of the session at a place. -/
def took (sessions : Sessions) (place : Nat) (turn : Turn)
    (exchanges : List Exchange) : Effect :=
  { reply := some turn.reply
    sessions :=
      { registry := turn.registry
        live := sessions.live.put place turn.session }
    exchanges
    notices := turn.notices }

/-- Carries out one step. -/
def perform (sessions : Sessions) : Step → Effect
  | .opening place id peer =>
      let (sessions, notices) := sessions.close place
      let session := Session.opened id peer
      { sessions.idle with
        sessions :=
          { sessions with live := sessions.live.put place session }
        notices }
  | .greeting place =>
      match sessions.live.get? place with
      | none => sessions.idle
      | some session =>
          let (reply, exchange) := session.greet
          { sessions.idle with
            reply := some reply
            exchanges := [exchange] }
  | .line place text =>
      match sessions.live.get? place with
      | none => sessions.idle
      | some session =>
          let (turn, exchange) := session.answer sessions.registry text
          sessions.took place turn [exchange]
  | .command place command =>
      match sessions.live.get? place with
      | none => sessions.idle
      | some session =>
          sessions.took place (session.perform sessions.registry command) []
  | .release place =>
      match sessions.live.get? place with
      | none => sessions.idle
      | some session =>
          let { session, registry, notices, .. } :=
            session.release sessions.registry
          { sessions.idle with
            sessions := { registry, live := sessions.live.put place session }
            notices }
  | .closing place =>
      let (sessions, notices) := sessions.close place
      { sessions.idle with notices }

/-- The sessions after a list of steps. -/
def performAll (sessions : Sessions) (steps : List Step) : Sessions :=
  steps.foldl (fun sessions step => (sessions.perform step).sessions) sessions

end Sessions
end LoginServer
