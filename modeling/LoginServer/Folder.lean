import LoginServer.FileTree

/-!
# The working directory

The files that a server can reach by name: those of its working directory, which
is private and below the directory for temporary files, and the devices and
directories of every system.
-/

namespace LoginServer

/-- A working directory by what it holds. -/
structure Folder where
  entries : List (String × FileTree)

namespace Folder

/-- A directory without files. -/
def empty : Folder :=
  { entries := [] }

/-- The directory of files with the given names. -/
def ofFiles (files : List (String × Bytes)) : Folder :=
  { entries := files.foldl (fun entries file =>
      FileTree.plant file.2 (file.1.splitOn "/") entries) [] }

/-- Directories with the same access in which no file is known. -/
def bare (access : Access) (names : List String) : List (String × FileTree) :=
  names.map fun name => (name, .directory access [])

/-- The devices. -/
def devices : FileTree :=
  .directory .readOnly
    ([("null", .device .discarding), ("full", .device .full)]
      ++ bare .full ["shm"] ++ bare .readOnly ["pts"])

/-- The directory for temporary files. -/
def temporary : FileTree :=
  .directory .full []

/-- The root of all directories. -/
def root : FileTree :=
  .directory .readOnly
    ([ ("dev", devices), ("tmp", temporary),
       ("usr", .directory .readOnly (bare .readOnly
        ["bin", "include", "lib", "local", "sbin", "share", "src"])),
       ("var", .directory .readOnly (bare .full ["tmp"]
        ++ bare .readOnly ["cache", "lib", "log", "spool"])) ]
      ++ bare .readOnly
        [ "bin", "boot", "etc", "home", "lib", "lib64", "media", "mnt", "opt",
          "proc", "run", "sbin", "srv", "sys" ]
      ++ bare .none ["root"])

/-- The number of bytes from which on a path is too long. -/
def pathBound : Nat := 4096

/-- What the names of a path lead to, from the root if the first one is empty. -/
def follow (folder : Folder) : List String → Except IoFault FileTree.Place
  | "" :: names => FileTree.follow [] root names
  | names =>
      FileTree.follow [temporary, root] (.directory .full folder.entries) names

/-- The names of a path that could be one. -/
def names? (path : String) : Except IoFault (List String) :=
  if path.toList.contains '\x00' then
    .error (.custom .invalidInput "file name contained an unexpected NUL byte")
  else if path = "" then .error .noEntry
  else if pathBound ≤ path.utf8ByteSize then .error (.system Errno.nameTooLong)
  else .ok (path.splitOn "/")

/-- What stands at a path. -/
def locate (folder : Folder) (path : String) :
    Except IoFault FileTree.Place := do
  folder.follow (← names? path)

/-- Whether anything stands at a path. -/
def holds (folder : Folder) (path : String) : Bool :=
  match folder.locate path with
  | .ok (.absent _) | .error _ => false
  | .ok _ => true

/-- The content of a file. -/
def read (folder : Folder) (path : String) : Except IoFault Bytes := do
  match ← folder.locate path with
  | .file content => .ok content
  | .device _ => .ok []
  | .directory .none => .error (.system Errno.permissionDenied)
  | .directory _ => .error (.system Errno.isDirectory)
  | .absent _ => .error .noEntry

/-- The names that lead to the directory of a path that ends in slashes behind a
name that could be that of a file. -/
def directoryOf? (names : List String) : Option (List String) :=
  match names.reverse.dropWhile (· = "") with
  | [] => none
  | last :: outer =>
      if names.getLast? = some "" ∧ last ≠ "." ∧ last ≠ ".." then
        some outer.reverse
      else none

/-- Opens a file for appending; one that does not exist begins empty.  A path
that ends in a slash is taken for that of a directory, whatever stands there. -/
def openSink (folder : Folder) (path : String) : Except IoFault Sink := do
  let names ← names? path
  let isDirectory := IoFault.system Errno.isDirectory
  match directoryOf? names with
  | some outer =>
      let _ ← folder.follow (outer ++ ["."])
      .error isDirectory
  | none =>
      match ← folder.follow names with
      | .file content => .ok (.opened .keeping content)
      | .device medium => .ok (.opened medium [])
      | .directory _ => .error isDirectory
      | .absent .full => .ok (.opened .keeping [])
      | .absent _ => .error (.system Errno.permissionDenied)

end Folder
end LoginServer
