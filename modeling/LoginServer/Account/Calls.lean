import LoginServer.Account.Registry

/-!
# Calls to a registry

One call after the other, by whomever, and what was answered.  The history of a
name tells whether its account is in session: the last call that was a
successful login of the name or a logout decides.
-/

namespace LoginServer

/-- What a session can ask of a registry. -/
inductive RegistryCall where
  | login (username : String)
  | logout (username : String)
  deriving DecidableEq, Repr

/-- The name that a call is about. -/
def RegistryCall.username : RegistryCall → String
  | .login username | .logout username => username

/-- The name that a call has the registry log out. -/
def RegistryCall.returned? : RegistryCall → Option String
  | .login _ => none
  | .logout username => some username

/-- What a registry answers to a call, if there is one, and the registry
afterwards.  Only a login has an answer. -/
def Registry.carryOut (registry : Registry) :
    Option RegistryCall → Option LoginResult × Registry
  | none => (none, registry)
  | some (.login username) =>
      let (result, registry, _) := registry.login username
      (some result, registry)
  | some (.logout username) => (none, (registry.logout username).1)

/-- A call that was made, with its answer. -/
structure MadeCall where
  call : RegistryCall
  answer : Option LoginResult
  deriving DecidableEq, Repr

/-- The flag that a call gave to a name: a login that succeeds sets it and a
logout clears it. -/
def MadeCall.flag? (made : MadeCall) (username : String) : Option Bool :=
  match made.call, made.answer with
  | .login name, some .success => if name = username then some true else none
  | .logout name, _ => if name = username then some false else none
  | _, _ => none

/-- The flag of a name after calls, if it was as given before them. -/
def flagAfter (history : List MadeCall) (username : String) (before : Bool) :
    Bool :=
  (history.filterMap fun made => made.flag? username).getLast?.getD before

/-- The results of the logins under a name, in order. -/
def loginResults (history : List MadeCall) (username : String) :
    List LoginResult :=
  history.filterMap fun made =>
    if made.call = .login username then made.answer else none

namespace Registry

/-- A registry after calls. -/
def after (registry : Registry) : List RegistryCall → Registry
  | [] => registry
  | call :: calls => (registry.carryOut (some call)).2.after calls

/-- Calls to a registry with their answers. -/
def history (registry : Registry) : List RegistryCall → List MadeCall
  | [] => []
  | call :: calls =>
      let (answer, next) := registry.carryOut (some call)
      { call, answer } :: next.history calls

end Registry
end LoginServer
