import LoginServer.Activity.Delivery
import LoginServer.Program
import Std.Async.DNS
import Std.Async.Signal
import Std.Async.TCP
import Std.Sync.CancellationToken
import Std.Sync.Mutex

/-!
# The command line program

Everything that touches the machine: files, sockets, signals and the clock.
What to do with them is decided elsewhere.
-/

open Std.Async
open Std.Net

namespace LoginServer.Main

/-- The error number of a fault of the system; numbers of the event loop are
negative. -/
def systemFault (code : UInt32) : IoFault :=
  .system code.toInt32.toInt.natAbs

/-- The error number that a wording of a fault mentions.  The event loop leaves
no more than the wording of some faults. -/
def codeIn? (wording : String) : Option UInt32 :=
  match wording.splitOn "(error code: " with
  | [_, rest] => (rest.takeWhile Char.isDigit).toNat?.map UInt32.ofNat
  | _ => none

/-- A fault of the runtime as a fault of the program. -/
def faultOf : IO.Error → IoFault
  | .alreadyExists _ code _ | .otherError code _ | .resourceBusy code _
  | .resourceVanished code _ | .unsupportedOperation code _
  | .hardwareFault code _ | .unsatisfiedConstraints code _
  | .illegalOperation code _ | .protocolError code _ | .timeExpired code _
  | .interrupted _ code _ | .noFileOrDirectory _ code _
  | .invalidArgument _ code _ | .permissionDenied _ code _
  | .resourceExhausted _ code _ | .inappropriateType _ code _
  | .noSuchThing _ code _ => systemFault code
  | .unexpectedEof => .simple .unexpectedEnd
  | .userError message =>
      match codeIn? message with
      | some code => systemFault code
      | none => .custom .other message

/-- The result of an action, or the fault that ended it. -/
def attempt {Result : Type} (action : IO Result) :
    IO (Except IoFault Result) := do
  match ← action.toBaseIO with
  | .ok result => return .ok result
  | .error fault => return .error (faultOf fault)

/-- The content of a file. -/
def readBytes (path : String) : IO (Except IoFault Bytes) :=
  attempt do return (← IO.FS.readBinFile path).toList

/-- An address of the runtime as an address of the program. -/
def addressOf : SocketAddress → Address
  | .v4 address =>
      let octets := address.addr.octets
      .v4 ⟨octets[0], octets[1], octets[2], octets[3]⟩ address.port
  | .v6 address =>
      .v6 ⟨address.addr.segments.toList, by simp⟩ 0 address.port

/-- The address of a host and a port, which may need the name service. -/
def resolve (host : String) (port : UInt16) : IO SocketAddress := do
  let named := fun (address : IPAddr) => match address with
    | .v4 addr => SocketAddress.v4 { addr, port }
    | .v6 addr => SocketAddress.v6 { addr, port }
  if let some address := IPv4Addr.ofString host then
    return named (.v4 address)
  if let some address := IPv6Addr.ofString host then
    return named (.v6 address)
  let found ← (DNS.getAddrInfo host (toString port.toNat)).block
  match found[0]? with
  | some address => return named address
  | none => throw (.userError "failed to lookup address information")

/-- Listens at a host and a port. -/
def listenAt (host : String) (port : UInt16) :
    IO (TCP.Socket.Server × Address) := do
  let socket ← TCP.Socket.Server.mk
  socket.bind (← resolve host port)
  socket.listen 1024
  return (socket, addressOf (← socket.getSockName))

/-- The time on the clock of the place. -/
def now : IO Timestamp := do
  let time ← Std.Time.PlainDateTime.now
  return {
    year := time.date.year.toInt
    month := time.date.month.toNat
    day := time.date.day.toNat
    hour := time.time.hour.toNat
    minute := time.time.minute.toNat
    second := time.time.second.toNat }

/-- An activity log that runs: its journal, what tells that the journal has
changed, and its file. -/
structure Recorder where
  journal : Std.Mutex Journal
  changed : Std.Condvar
  file : IO.FS.Handle

namespace Recorder

/-- An activity log in front of a file. -/
def start (log : ActivityLog) (file : IO.FS.Handle) : IO Recorder := do
  return {
    journal := ← Std.Mutex.new (.start log)
    changed := ← Std.Condvar.new
    file }

/-- Takes a step of a journal, if it can be taken. -/
def advance (taken : JournalStep) :
    Std.AtomicT Journal IO (Option Delivered) := do
  let delivered := (← get).advance taken
  if let some delivered := delivered then
    set delivered.done.journal
  return delivered

/-- Takes a step of a session or of whoever stops the server; what is told of
that.  Such a step has nothing for the file (`Journal.portions_of_ne_write`). -/
def take (recorder : Recorder) (taken : JournalStep) : IO (List Notice) := do
  let delivered ← recorder.journal.atomically (advance taken)
  recorder.changed.notifyAll
  return delivered.elim [] fun delivered => delivered.done.notices

/-- Takes the next step of the writer once it can go on, or none if it has
stopped (`Journal.write_eq_none_iff`). -/
def work (recorder : Recorder) : IO (Option Delivered) :=
  recorder.journal.atomicallyOnce recorder.changed
    (return !(← get).isIdle) (advance .write)

/-- Stores portions in the file. -/
def store (recorder : Recorder) (portions : List Bytes) :
    IO (Except IoFault Unit) :=
  attempt do
    for portion in portions do
      recorder.file.write (ByteArray.mk portion.toArray)
    recorder.file.flush

/-- The file has failed to store what it was given; what is told of that. -/
def fail (recorder : Recorder) (fault : IoFault) : IO (List Notice) :=
  recorder.journal.atomically do
    let done := (← get).failed fault
    set done.journal
    return done.notices

/-- What the log is at the moment. -/
def log (recorder : Recorder) : IO ActivityLog :=
  recorder.journal.atomically do return (← get).log

end Recorder

/-- A server that runs: its dispatcher, what it shows of its notices, its
activity log, and what tells all tasks to end. -/
structure Running where
  dispatcher : IO.Ref Dispatcher
  filter : LogFilter
  recorder : Option Recorder
  ending : Std.CancellationToken

namespace Running

/-- Prints the notices that the filter shows.  Nobody is left to be told if that
fails. -/
def tell (running : Running) (notices : List Notice) : IO Unit :=
  discard <| attempt do
    for line in Program.outputLines running.filter notices do
      IO.println line
    (← IO.getStdout).flush

/-- The dispatcher does something. -/
def change (running : Running) (what : Dispatcher → Reaction) : IO Reaction :=
  running.dispatcher.modifyGet fun dispatcher =>
    let reaction := what dispatcher
    (reaction, reaction.dispatcher)

/-- Puts exchanges into the queue of the activity log. -/
def keep (running : Running) (exchanges : List Exchange) : IO Unit := do
  if let some recorder := running.recorder then
    for exchange in exchanges do
      let event : Event := { time := ← now, exchange }
      running.tell (← recorder.take (.record event))

/-- Works as the writer of the activity log until that has stopped. -/
def write (running : Running) (recorder : Recorder) : IO Unit := do
  repeat
    match ← recorder.work with
    | none => return
    | some delivered =>
        running.tell delivered.done.notices
        unless delivered.portions.isEmpty do
          if let .error fault ← recorder.store delivered.portions then
            running.tell (← recorder.fail fault)

/-- Tells and records what a reaction asks for. -/
def report (running : Running) (reaction : Reaction) : IO Unit := do
  running.tell reaction.notices
  running.keep reaction.exchanges

/-- Carries out what a reaction asks for.  The connection of the handle fails if
its client cannot be sent the bytes. -/
def perform (running : Running) (client : TCP.Socket.Client) (handle : Nat)
    (reaction : Reaction) : IO Unit := do
  running.report reaction
  unless reaction.sent.isEmpty do
    let sending ← attempt
      (client.send (ByteArray.mk reaction.sent.toArray)).block
    if let .error fault := sending then
      running.report
        (← running.change (Dispatcher.react · handle (.fails fault)))

/-- What a client has done that the given bytes were received, or none. -/
def actOf : Option ByteArray → ClientAct
  | none => .finishes
  | some received =>
      let bytes := received.toList
      if fits : bytes ≠ [] ∧ bytes.length ≤ readSize then
        .sends ⟨bytes, fits.1, fits.2⟩
      else .finishes

/-- The result of an event, or nothing once the tasks have to end. -/
def awaitUnlessEnding {Result : Type} (running : Running)
    (event : Selector Result) : IO (Except IoFault (Option Result)) :=
  attempt (Selectable.one
    #[.case event fun result => return some result,
      .case running.ending.selector fun _ => return none]).block

/-- Serves the client of a handle until its connection or the program ends. -/
def serveClient (running : Running) (client : TCP.Socket.Client)
    (handle : Nat) : IO Unit := do
  while (← running.dispatcher.get).isLive handle do
    let act ← match ← running.awaitUnlessEnding
        (client.recvSelector readSize.toUInt64) with
      | .error fault => pure (.fails fault)
      | .ok none => return
      | .ok (some received) => pure (actOf received)
    running.perform client handle
      (← running.change (Dispatcher.react · handle act))

/-- Takes a client that has arrived from an address. -/
def take (running : Running) (client : TCP.Socket.Client) (peer : Address) :
    IO Unit := do
  let reaction ← running.change (Dispatcher.arrive · peer)
  let handle := reaction.dispatcher.shared.lastSession.toNat
  running.perform client handle reaction
  if (← running.dispatcher.get).isLive handle then
    discard <| IO.asTask (running.serveClient client handle) .dedicated

/-- No client could be accepted, for the given reason. -/
def miss (running : Running) (fault : IoFault) : IO Unit := do
  running.report (← running.change (Dispatcher.missArrival · fault))

/-- Takes clients until the program ends. -/
def takeAll (running : Running) (socket : TCP.Socket.Server) : IO Unit := do
  repeat
    match ← running.awaitUnlessEnding socket.acceptSelector with
    | .ok none => return
    | .error fault => running.miss fault
    | .ok (some client) =>
        match ← attempt client.getPeerName with
        | .error fault => running.miss fault
        | .ok name => running.take client (addressOf name)

/-- Tells all tasks and the writer of the activity log to end. -/
def announce (running : Running) : IO Unit := do
  running.ending.cancel
  if let some recorder := running.recorder then
    running.tell (← recorder.take .announce)

end Running

/-- Waits for a signal to end the program, and tells its name. -/
def awaitSignal : IO String := do
  let interrupt ← Signal.Waiter.mk .sigint false
  let terminate ← Signal.Waiter.mk .sigterm false
  let name ← (Selectable.one
    #[.case interrupt.selector fun _ => return "SIGINT",
      .case terminate.selector fun _ => return "SIGTERM"]).block
  interrupt.stop
  terminate.stop
  return name

/-- Serves clients until a signal ends the program. -/
def serve (server : Server) (filter : LogFilter)
    (socket : TCP.Socket.Server) (file : Option IO.FS.Handle) :
    IO Unit := do
  let recorder ← match server.activity, file with
    | some log, some file => some <$> Recorder.start log file
    | _, _ => pure none
  let running : Running :=
    { dispatcher := ← IO.mkRef server.dispatcher
      filter, recorder
      ending := ← Std.CancellationToken.new }
  let writing ← recorder.mapM fun recorder =>
    IO.asTask (running.write recorder) .dedicated
  let taking ← IO.asTask (running.takeAll socket) .dedicated
  match ← attempt awaitSignal with
  | .error fault => running.tell [.signalsUnavailable fault]
  | .ok name =>
      running.tell [.signalReceived name]
      running.announce
  IO.ofExcept taking.get
  if let some writing := writing then
    IO.ofExcept writing.get
  let dispatcher ← running.dispatcher.get
  let activity ← recorder.mapM Recorder.log
  running.tell { server with dispatcher, activity }.stop.notices

/-- Prints a report, and gives the exit code if there is nothing to serve. -/
def print (report : Program.Report) : IO UInt32 := do
  for line in report.output do
    IO.println line
  (← IO.getStdout).flush
  for line in report.complaints do
    IO.eprintln line
  match report.ending with
  | .exit code => return code.toUInt32
  | .serving _ _ => return 0

/-- Surroundings of which one file has been read. -/
def siteOf (path : String) (content : Except IoFault Bytes) : Site :=
  let isThere := match content with
    | .ok _ => true
    | .error fault => fault ≠ .noEntry
  { holds := fun name => name = path && isThere
    read := fun name => if name = path then content else .error .noEntry
    openSink := fun _ => .error .noEntry
    listen := fun _ _ => .error (.simple .unsupported) }

/-- Starts a server with a configuration, as far as the surroundings allow it,
and serves. -/
def begin (config : Config) : IO UInt32 := do
  let accounts ← readBytes config.accountsFile
  let site := siteOf config.accountsFile accounts
  if config.validate.1.isOk
      && (Server.loadRegistry site config.accountsFile).1.isOk then
    let file ← match config.activityLog with
      | none => pure (.ok none)
      | some path => attempt do
          return some (← IO.FS.Handle.mk path .append)
    let sink := file.map fun _ => Sink.opened .keeping []
    let listening ←
      if file.isOk then attempt (listenAt config.host config.port)
      else pure (.error (.simple .unsupported))
    let site :=
      { site with
        openSink := fun _ => sink
        listen := fun _ _ => listening.map Prod.snd }
    let report := Program.start site config
    let code ← print report
    match report.ending, listening, file with
    | .serving server filter, .ok (socket, _), .ok file =>
        serve server filter socket file
        return code
    | _, _, _ => return code
  else print (Program.start site config)

end LoginServer.Main

/-- Runs the program with the arguments of its command line. -/
def main (arguments : List String) : IO UInt32 := do
  let path := match LoginServer.CommandLine.parse arguments with
    | .ok line => line.configPath.getD LoginServer.Config.usualPath
    | .error _ => LoginServer.Config.usualPath
  let content ← LoginServer.Main.readBytes path
  let site := LoginServer.Main.siteOf path content
  match LoginServer.Program.prepare site arguments with
  | .error report => LoginServer.Main.print report
  | .ok config => LoginServer.Main.begin config
