import LoginServer.Account.Calls
import LoginServer.Activity.Event
import LoginServer.Protocol.Command
import LoginServer.Text.Utf8

/-!
# Sessions

A session is one connection's side of the login protocol.  It holds at most one
account of the registry: it takes it by a successful `USER` and gives it back by
`BYE` or when it ends.
-/

namespace LoginServer

/-- Whether a session holds an account, and which. -/
inductive SessionState where
  | unauthenticated
  | authenticated (username : String)
  deriving DecidableEq, Repr

/-- A session: the handle of its connection, the peer, and its state. -/
structure Session where
  id : UInt64
  peer : Address
  state : SessionState
  deriving DecidableEq, Repr

/-- One step of a session: its reply, and the session and the registry after
it. -/
structure Turn where
  reply : Reply
  session : Session
  registry : Registry
  /-- The calls to the registry, in order. -/
  calls : List RegistryCall
  notices : List Notice

/-- What a release leaves: a session without an account, and the registry. -/
structure Released where
  session : Session
  registry : Registry
  /-- The calls to the registry, in order. -/
  calls : List RegistryCall
  notices : List Notice

namespace Session

/-- A session that holds no account. -/
def opened (id : UInt64) (peer : Address) : Session :=
  { id, peer, state := .unauthenticated }

/-- The account that a session holds. -/
def username? (session : Session) : Option String :=
  match session.state with
  | .unauthenticated => none
  | .authenticated username => some username

/-- Gives the account back, if the session holds one. -/
def release (session : Session) (registry : Registry) : Released :=
  match session.state with
  | .unauthenticated => { session, registry, calls := [], notices := [] }
  | .authenticated username =>
      let (registry, notices) := registry.logout username
      { session := { session with state := .unauthenticated }
        registry
        calls := [.logout username]
        notices := notices ++ [.loggedOut session.id username] }

/-- A step that has nothing to do with the registry and changes nothing. -/
def stay (session : Session) (registry : Registry) (reply : Reply)
    (notices : List Notice) : Turn :=
  { reply, session, registry, calls := [], notices }

/-- Logs a session in that holds no account. -/
def logIn (session : Session) (registry : Registry) (username : String) :
    Turn :=
  let calls := [.login username]
  match registry.login username with
  | (.success, registry, notices) =>
      { reply := .loginSuccess
        session := { session with state := .authenticated username }
        registry
        calls
        notices := notices ++ [.loggedIn session.id username session.peer] }
  | (.notFound, registry, notices) =>
      { reply := .accountUnknown, session, registry, calls, notices }
  | (.banned, registry, notices) =>
      { reply := .accountBanned, session, registry, calls, notices }
  | (.alreadyActive, registry, notices) =>
      { reply := .loggedInElsewhere, session, registry, calls, notices }

/-- Carries out a command. -/
def perform (session : Session) (registry : Registry) (command : Command) :
    Turn :=
  match command, session.state with
  | .user _, .authenticated _ => session.stay registry .alreadyLoggedIn []
  | .user username, .unauthenticated => session.logIn registry username
  | .post text, .authenticated _ =>
      session.stay registry .postAccepted
        [.postAccepted session.id (Text.Utf8.byteCount text)]
  | .bye, .authenticated _ =>
      let { session, registry, calls, notices } := session.release registry
      { reply := .logoutSuccess, session, registry, calls, notices }
  | .post _, .unauthenticated => session.stay registry .notLoggedIn []
  | .bye, .unauthenticated => session.stay registry .notLoggedIn []
  | .unknown _, _ => session.stay registry .unknownRequest []

/-- The greeting of the connection and its record. -/
def greet (session : Session) : Reply × Exchange :=
  (.connected, .greeting session.peer)

/-- Answers a line, and records the line with its answer. -/
def answer (session : Session) (registry : Registry) (line : String) :
    Turn × Exchange :=
  let command := Command.parse line
  let turn := session.perform registry command
  let received :=
    Notice.commandReceived session.id command.keyword session.peer
  ({ turn with notices := received :: turn.notices },
    { peer := session.peer, input := some line, reply := turn.reply })

end Session
end LoginServer
