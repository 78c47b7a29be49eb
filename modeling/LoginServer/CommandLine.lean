import LoginServer.Config.Basic
import LoginServer.Text.Numeral

/-!
# The command line

`<port> [--config <path>] [--dispatch <poll|worker>]`, in any order.  A later
flag overrides an earlier one of the same name; the first argument at fault is
the one that is reported.
-/

namespace LoginServer

/-- What a command line asks for. -/
structure CommandLine where
  port : UInt16
  configPath : Option String
  dispatch : Option Dispatch
  deriving DecidableEq, Repr

namespace CommandLine

/-- The one-line summary of the command line. -/
def usage : String :=
  "Usage: sessiond <port> [--config <path>] [--dispatch <poll|worker>]"

/-- Why a command line is refused. -/
inductive Fault where
  | missingValue (flag : String)
  | invalidDispatch (word : String)
  | unknownFlag (flag : String)
  | invalidPort (word : String)
  | unexpected (word : String)
  | missingPort
  deriving DecidableEq, Repr

/-- The diagnostic for a fault. -/
def Fault.message : Fault → String
  | .missingValue flag => flag ++ " flag requires a value"
  | .invalidDispatch word => "Invalid dispatch strategy: " ++ word
  | .unknownFlag flag => "Unknown flag: " ++ flag
  | .invalidPort word => "Invalid port number: " ++ word
  | .unexpected word => "Unexpected argument: " ++ word
  | .missingPort => "Missing <port> argument"

/-- The arguments read so far. -/
structure Seen where
  port : Option UInt16
  configPath : Option String
  dispatch : Option Dispatch
  deriving DecidableEq, Repr

/-- The number of ports, zero included. -/
def portBound : Nat := 65536

/-- The port that a word spells: decimal digits, perhaps after a plus sign,
with a value from 1 to 65535. -/
def port? (word : String) : Option UInt16 :=
  let digits :=
    match word.toList with
    | '+' :: digits => digits
    | digits => digits
  match Text.ofDigitsUpTo? 10 portBound digits with
  | none => none
  | some value =>
      if 1 ≤ value ∧ value < portBound then some value.toUInt16 else none

/-- Whether a word is a flag. -/
def isFlag (word : String) : Bool :=
  ['-', '-'].isPrefixOf word.toList

/-- Reads arguments behind those read so far. -/
def readInto (seen : Seen) : List String → Except Fault Seen
  | [] => .ok seen
  | "--config" :: rest =>
      match rest with
      | [] => .error (.missingValue "--config")
      | path :: rest => readInto { seen with configPath := some path } rest
  | "--dispatch" :: rest =>
      match rest with
      | [] => .error (.missingValue "--dispatch")
      | word :: rest =>
          match Dispatch.ofWord? word with
          | none => .error (.invalidDispatch word)
          | some dispatch =>
              readInto { seen with dispatch := some dispatch } rest
  | word :: rest =>
      if isFlag word then .error (.unknownFlag word)
      else if seen.port.isSome then .error (.unexpected word)
      else
        match port? word with
        | none => .error (.invalidPort word)
        | some port => readInto { seen with port := some port } rest

/-- Reads a command line without the program's name. -/
def parse (arguments : List String) : Except Fault CommandLine :=
  match readInto ⟨none, none, none⟩ arguments with
  | .error fault => .error fault
  | .ok seen =>
      match seen.port with
      | none => .error .missingPort
      | some port =>
          .ok { port, configPath := seen.configPath, dispatch := seen.dispatch }

end CommandLine
end LoginServer
