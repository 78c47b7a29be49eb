/-!
# Accounts

An account has a unique name, may or may not log in, and is in session while a
connection is logged in under its name.
-/

namespace LoginServer

/-- Whether an account may log in at all. -/
inductive Status where
  | active
  | banned
  deriving DecidableEq, Repr

/-- The digit of a status in a directory. -/
def Status.code : Status → String
  | .active => "1"
  | .banned => "0"

/-- The status with exactly the given digit. -/
def Status.ofCode? (code : String) : Option Status :=
  if code = "1" then some .active
  else if code = "0" then some .banned
  else none

/-- A directory entry and whether a connection is logged in under its name. -/
structure Account where
  username : String
  status : Status
  inSession : Bool
  deriving DecidableEq, Repr

/-- An account under whose name nobody is logged in. -/
def Account.idle (username : String) (status : Status) : Account :=
  { username, status, inSession := false }

@[simp] theorem Status.ofCode?_code (status : Status) :
    Status.ofCode? status.code = some status := by
  cases status <;> rfl

end LoginServer
