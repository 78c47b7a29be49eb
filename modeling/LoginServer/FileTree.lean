import LoginServer.Activity.Sink

/-!
# Trees of files

A directory holds files, devices and directories by their names.  A path is
followed one name after the other, with the rights of an ordinary user.
-/

namespace LoginServer

/-- What an ordinary user may do with a directory. -/
inductive Access where
  /-- Find, list and add files. -/
  | full
  /-- Find and list files. -/
  | readOnly
  /-- Nothing. -/
  | none
  deriving DecidableEq, Repr

/-- What a name in a directory stands for. -/
inductive FileTree where
  | file (content : Bytes)
  | device (medium : Medium)
  | directory (access : Access) (entries : List (String × FileTree))

namespace FileTree

/-- Puts a file into a directory, below further directories if its path has more
than one name. -/
def plant (content : Bytes) :
    List String → List (String × FileTree) → List (String × FileTree)
  | [], entries => entries
  | [name], entries =>
      (name, .file content) :: entries.filter fun entry => entry.1 ≠ name
  | name :: rest, entries =>
      let below := match entries.lookup name with
        | some (.directory _ below) => below
        | _ => []
      (name, .directory .full (plant content rest below))
        :: entries.filter fun entry => entry.1 ≠ name

/-- What stands at a path. -/
inductive Place where
  | file (content : Bytes)
  | device (medium : Medium)
  | directory (access : Access)
  /-- Nothing, in a directory that exists. -/
  | absent (access : Access)
  deriving DecidableEq, Repr

/-- What a path stands for that leads to the root of a tree. -/
def place : FileTree → Place
  | .file content => .file content
  | .device medium => .device medium
  | .directory access _ => .directory access

/-- The most bytes of one name. -/
def longestName : Nat := 255

/-- What stands behind the given names, seen from a place below the given
directories, the innermost first.  The directory above the outermost is that
directory itself. -/
def follow : (above : List FileTree) → FileTree → List String →
    Except IoFault Place
  | _, here, [] => .ok here.place
  | above, here, name :: rest =>
      match here with
      | .file _ | .device _ => .error (.system Errno.notDirectory)
      | .directory access entries =>
          if name = "" then follow above here rest
          else if access = .none then
            .error (.system Errno.permissionDenied)
          else if name = "." then follow above here rest
          else if name = ".." then
            match above with
            | [] => follow [] here rest
            | outer :: above => follow above outer rest
          else if longestName < name.utf8ByteSize then
            .error (.system Errno.nameTooLong)
          else
            match entries.lookup name with
            | some next => follow (here :: above) next rest
            | none =>
                if rest.isEmpty then .ok (.absent access)
                else .error .noEntry

end FileTree
end LoginServer
