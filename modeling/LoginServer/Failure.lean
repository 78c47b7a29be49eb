import LoginServer.Failure.Io

/-!
# Failures

The ways in which the server can fail.  A bad account directory keeps it from
starting; every other failure ends at most one connection.
-/

namespace LoginServer

/-- A failure, with what its message needs. -/
inductive Failure where
  | io (fault : IoFault)
  /-- A client line longer than the limit. -/
  | lineTooLong (limit : Nat)
  /-- A fault in the account directory, at a line counted from 1. -/
  | accountLoad (line : Nat) (reason : String)
  /-- A connection beyond the limit. -/
  | connectionLimit (limit : Nat)
  deriving DecidableEq, Repr

namespace Failure

/-- The wording of a failure. -/
def message : Failure → String
  | .io fault => "IO Error: " ++ fault.text
  | .lineTooLong limit =>
      "Line exceeds the maximum length of " ++ toString limit ++ " bytes"
  | .accountLoad line reason =>
      "Account load error at line " ++ toString line ++ ": " ++ reason
  | .connectionLimit limit =>
      "Connection limit of " ++ toString limit ++ " reached"

/-- Whether the failure is only the peer's leaving. -/
def isNormalDisconnect : Failure → Bool
  | .io fault => fault.isDisconnect
  | _ => false

end Failure
end LoginServer
