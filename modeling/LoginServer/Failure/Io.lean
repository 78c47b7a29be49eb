import LoginServer.Failure.Errno

/-!
# Input and output faults

A fault comes from the system with an error number, or from the program with a
kind and sometimes a text of its own.  `IoFault.text` is what a message shows.
-/

namespace LoginServer

/-- What went wrong, apart from any system error number. -/
inductive IoKind where
  | addressInUse
  | addressNotAvailable
  | alreadyExists
  | argumentListTooLong
  | brokenPipe
  | connectionAborted
  | connectionRefused
  | connectionReset
  | crossesDevices
  | deadlock
  | directoryNotEmpty
  | executableFileBusy
  | fileTooLarge
  | filesystemLoop
  | hostUnreachable
  | inProgress
  | interrupted
  | invalidData
  | invalidFilename
  | invalidInput
  | isDirectory
  | networkDown
  | networkUnreachable
  | notDirectory
  | notConnected
  | notFound
  | notSeekable
  | other
  | outOfMemory
  | permissionDenied
  | quotaExceeded
  | readOnlyFilesystem
  | resourceBusy
  | staleNetworkFileHandle
  | storageFull
  | timedOut
  | tooManyLinks
  | unexpectedEnd
  | unsupported
  | wouldBlock
  | writeZero
  deriving DecidableEq, Repr

/-- The words for a kind of fault. -/
def IoKind.description : IoKind → String
  | .addressInUse => "address in use"
  | .addressNotAvailable => "address not available"
  | .alreadyExists => "entity already exists"
  | .argumentListTooLong => "argument list too long"
  | .brokenPipe => "broken pipe"
  | .connectionAborted => "connection aborted"
  | .connectionRefused => "connection refused"
  | .connectionReset => "connection reset"
  | .crossesDevices => "cross-device link or rename"
  | .deadlock => "deadlock"
  | .directoryNotEmpty => "directory not empty"
  | .executableFileBusy => "executable file busy"
  | .fileTooLarge => "file too large"
  | .filesystemLoop => "filesystem loop or indirection limit (e.g. symlink loop)"
  | .hostUnreachable => "host unreachable"
  | .inProgress => "in progress"
  | .interrupted => "operation interrupted"
  | .invalidData => "invalid data"
  | .invalidFilename => "invalid filename"
  | .invalidInput => "invalid input parameter"
  | .isDirectory => "is a directory"
  | .networkDown => "network down"
  | .networkUnreachable => "network unreachable"
  | .notDirectory => "not a directory"
  | .notConnected => "not connected"
  | .notFound => "entity not found"
  | .notSeekable => "seek on unseekable file"
  | .other => "other error"
  | .outOfMemory => "out of memory"
  | .permissionDenied => "permission denied"
  | .quotaExceeded => "quota exceeded"
  | .readOnlyFilesystem => "read-only filesystem or storage medium"
  | .resourceBusy => "resource busy"
  | .staleNetworkFileHandle => "stale network file handle"
  | .storageFull => "no storage space"
  | .timedOut => "timed out"
  | .tooManyLinks => "too many links"
  | .unexpectedEnd => "unexpected end of file"
  | .unsupported => "unsupported"
  | .wouldBlock => "operation would block"
  | .writeZero => "write zero"

/-- A failed read, write, open or bind. -/
inductive IoFault where
  /-- A system error number. -/
  | system (number : Int)
  /-- A kind without further text. -/
  | simple (kind : IoKind)
  /-- A kind with a text that stands for it in messages. -/
  | custom (kind : IoKind) (text : String)
  deriving DecidableEq, Repr

namespace IoFault

/-- The text of a fault; system faults show their number as well. -/
def text : IoFault → String
  | .system number =>
      Errno.text number ++ " (os error " ++ toString number ++ ")"
  | .simple kind => kind.description
  | .custom _ text => text

/-- Whether a kind of fault means that the peer has left. -/
def kindIsDisconnect (kind : IoKind) : Bool :=
  kind = .connectionReset || kind = .brokenPipe || kind = .unexpectedEnd
    || kind = .connectionAborted

/-- Whether a fault means that the peer has left, and nothing worse. -/
def isDisconnect : IoFault → Bool
  | .system number =>
      number = Errno.connectionReset || number = Errno.brokenPipe
        || number = Errno.connectionAborted
  | .simple kind => kindIsDisconnect kind
  | .custom kind _ => kindIsDisconnect kind

/-- The file or directory does not exist. -/
def noEntry : IoFault := .system Errno.noEntry

/-- A file's bytes are not well-formed text. -/
def notText : IoFault :=
  .custom .invalidData "stream did not contain valid UTF-8"

end IoFault
end LoginServer
