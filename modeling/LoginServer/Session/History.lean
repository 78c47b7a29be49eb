import LoginServer.Account.Calls
import LoginServer.Session

/-!
# The history of a session

One deed of a session after the other.  Between two of them other sessions do
with the registry what they like, so each deed finds a registry of its own.
-/

namespace LoginServer

/-- What a session is told to do. -/
inductive Act where
  | line (text : String)
  | command (command : Command)
  | release
  deriving DecidableEq, Repr

/-- The command that an act carries out. -/
def Act.command? : Act → Option Command
  | .line text => some (Command.parse text)
  | .command request => some request
  | .release => none

/-- The line that an act answers. -/
def Act.line? : Act → Option String
  | .line text => some text
  | _ => none

/-- What an act of a session brings about. -/
structure Acted where
  reply : Option Reply
  session : Session
  registry : Registry
  /-- The calls to the registry, in order. -/
  calls : List RegistryCall
  exchanges : List Exchange
  notices : List Notice

/-- An act, with the session that is told to do it and the registry that it
finds. -/
structure Deed where
  session : Session
  registry : Registry
  act : Act

namespace Session

/-- Does as it is told. -/
def obey (session : Session) (registry : Registry) : Act → Acted
  | .line text =>
      let (turn, exchange) := session.answer registry text
      { reply := some turn.reply
        session := turn.session
        registry := turn.registry
        calls := turn.calls
        exchanges := [exchange]
        notices := turn.notices }
  | .command command =>
      let turn := session.perform registry command
      { reply := some turn.reply
        session := turn.session
        registry := turn.registry
        calls := turn.calls
        exchanges := []
        notices := turn.notices }
  | .release =>
      let { session, registry, calls, notices } := session.release registry
      { reply := none, session, registry, calls, exchanges := [], notices }

/-- The call by which a session does an act, if it needs one: it logs in while
it holds no account, and gives the account back that it holds. -/
def call? (session : Session) (act : Act) : Option RegistryCall :=
  match act.command?, session.state with
  | some (.user username), .unauthenticated => some (.login username)
  | some .bye, .authenticated username => some (.logout username)
  | none, .authenticated username => some (.logout username)
  | _, _ => none

/-- A session after acts that find the given registries. -/
def after (session : Session) : List (Registry × Act) → Session
  | [] => session
  | (registry, act) :: acts => (session.obey registry act).session.after acts

/-- The deeds of a session. -/
def history (session : Session) : List (Registry × Act) → List Deed
  | [] => []
  | (registry, act) :: acts =>
      { session, registry, act } ::
        (session.obey registry act).session.history acts

end Session

namespace Deed

/-- What a deed brings about. -/
def done (deed : Deed) : Acted :=
  deed.session.obey deed.registry deed.act

/-- The call of a deed. -/
def call? (deed : Deed) : Option RegistryCall :=
  deed.session.call? deed.act

/-- The name that a deed logs in: that of a `USER` command with the reply for a
success. -/
def takes? (deed : Deed) : Option String :=
  match deed.act.command?, deed.done.reply with
  | some (.user username), some .loginSuccess => some username
  | _, _ => none

/-- The names that a deed has the registry log out, one for each of its calls to
do so. -/
def returned (deed : Deed) : List String :=
  deed.done.calls.filterMap RegistryCall.returned?

/-- A deed makes its call and no other, and has to do with the registry by that
only: it leaves what the call leaves, and all else depends on the answer and not
on the registry. -/
structure IsOneCall (deed : Deed) : Prop where
  calls : deed.done.calls = deed.call?.toList
  registry : deed.done.registry = (deed.registry.carryOut deed.call?).2
  answer : ∀ other : Registry,
    (other.carryOut deed.call?).1 = (deed.registry.carryOut deed.call?).1 →
    let elsewhere := deed.session.obey other deed.act
    elsewhere.reply = deed.done.reply ∧
      elsewhere.session = deed.done.session ∧
      elsewhere.exchanges = deed.done.exchanges

end Deed

/-- An account passes to a session or back to the registry. -/
inductive Passing where
  | taken (username : String)
  | returned (username : String)
  deriving DecidableEq, Repr

/-- The accounts that pass in a deed. -/
def Deed.passings (deed : Deed) : List Passing :=
  deed.takes?.toList.map .taken ++ deed.returned.map .returned

end LoginServer
