import LoginServer.Text.Blank

/-!
# Client commands

A line is read by its first word, in which case matters.  What is not a command
is kept as it stands.
-/

namespace LoginServer

/-- A client request. -/
inductive Command where
  /-- Log in under a name. -/
  | user (name : String)
  /-- Publish a text. -/
  | post (text : String)
  /-- Log out. -/
  | bye
  /-- Any other line. -/
  | unknown (line : String)
  deriving DecidableEq, Repr

namespace Command

/-- The word that a log shows for a command. -/
def keyword : Command → String
  | .user _ => "USER"
  | .post _ => "POST"
  | .bye => "BYE"
  | .unknown _ => "UNKNOWN"

/-- Reads a line without its terminator.  A `USER` line without a name is
unknown; what follows the name, or `BYE`, is ignored. -/
def parse (line : String) : Command :=
  let text := Text.trimStart line.toList
  let rest := Text.afterFirstRun text
  match String.ofList (Text.firstRun text) with
  | "USER" =>
      match Text.firstWord? rest with
      | some name => .user (String.ofList name)
      | none => .unknown line
  | "POST" => .post (String.ofList (Text.trimStart rest))
  | "BYE" => .bye
  | _ => .unknown line

end Command
end LoginServer
