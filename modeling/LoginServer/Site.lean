import LoginServer.Address.Basic
import LoginServer.Folder

/-!
# Surroundings

What the program can reach outside itself: files by their names, and the
addresses at which it can listen.
-/

namespace LoginServer

/-- The surroundings of a program. -/
structure Site where
  /-- Whether anything stands at a name. -/
  holds : String → Bool
  /-- The content of a file. -/
  read : String → Except IoFault Bytes
  /-- Opens a file for appending. -/
  openSink : String → Except IoFault Sink
  /-- Listens at a host and a port; the result is the address in use. -/
  listen : String → UInt16 → Except IoFault Address

namespace Site

/-- The surroundings of a program in a working directory. -/
def ofFolder (folder : Folder)
    (listen : String → UInt16 → Except IoFault Address) : Site :=
  { holds := folder.holds
    read := folder.read
    openSink := folder.openSink
    listen }

/-- The content of a file as text. -/
def readText (site : Site) (name : String) : Except IoFault String :=
  match site.read name with
  | .error fault => .error fault
  | .ok content =>
      match Text.Utf8.decode? content with
      | none => .error .notText
      | some text => .ok (String.ofList text)

end Site
end LoginServer
