import Ssim.Gem.Service

/-!
# The HSMS server

The I/O thread: one connection, its session, the queue of outgoing byte vectors
and the GEM service as the handler.  A system takes one completed handler at a
time: an accepted connection, the completion of a read or a write, a tick, or the
task at the front of the queue.  Between two handlers the other threads may change
the machine and publish events.

Reads and writes that were started and have not completed are kept with the
generation they were started in, which is the one their completion compares.
-/

namespace Ssim.Gem

open Ssim.Core (Error Result Event MachineApi)
open Hsms (Session SessionConfig SessionOutput ConnectionState TimePoint)
open Secs2 (Message)

structure Server where
  session : Session
  /-- There is a socket. -/
  connected : Bool
  writeQueue : List (List UInt8)
  writing : Bool
  generation : Nat
  notifiedState : ConnectionState
  pendingReads : List Nat
  pendingWrites : List (Nat × List UInt8)

namespace Server

def fresh (config : SessionConfig) : Server where
  session := .fresh config
  connected := false
  writeQueue := []
  writing := false
  generation := 0
  notifiedState := .notConnected
  pendingReads := []
  pendingWrites := []

/-- Start to write the front of the queue, which stays there until it is written. -/
def writeNext (server : Server) : Server :=
  match server.connected, server.writeQueue with
  | true, front :: _ =>
      { server with
        writing := true
        pendingWrites := server.pendingWrites ++ [(server.generation, front)] }
  | _, _ => { server with writing := false }

def readNext (server : Server) : Server :=
  if server.connected then
    { server with pendingReads := server.pendingReads ++ [server.generation] }
  else
    server

/-- Queue what there is to send; writing starts unless the connection is closed at once. -/
def enqueue (server : Server) (out : SessionOutput) : Server :=
  let server := { server with writeQueue := server.writeQueue ++ out.toSend }
  if !out.close && !server.writeQueue.isEmpty && !server.writing then
    server.writeNext
  else
    server

end Server

structure System where
  server : Server
  handler : Handler

namespace System

def session (system : System) : Session :=
  system.server.session

def withSession (system : System) (session : Session) : System :=
  { system with server := { system.server with session := session } }

/-- Only a state that differs from the one told last is told to the handler. -/
def notifyState (system : System) : System :=
  if system.session.state ≠ system.server.notifiedState then
    { server := { system.server with notifiedState := system.session.state }
      handler := system.handler.onSessionState system.session.state }
  else
    system

def closeSocket (system : System) : System :=
  notifyState
    { system with server :=
        { system.server with
          connected := false
          generation := system.server.generation + 1
          writeQueue := []
          writing := false
          session := system.session.onDisconnect } }

/-- What a call of the session asks for: send, deliver, report, notify, close. -/
def apply (system : System) (now : TimePoint) (out : SessionOutput) : System :=
  let handler := out.deliveries.foldl (fun handler delivery => handler.onData now delivery)
    system.handler
  let handler := out.timedOut.foldl Handler.onTransactionTimeout handler
  let system := notifyState { server := system.server.enqueue out, handler := handler }
  if out.close then system.closeSocket else system

/-! ## Tasks -/

/-- A posted request; the handler learns the system bytes once it is sent. -/
def runRequest (system : System) (now : TimePoint) (message : Message) : Option System :=
  if !system.server.connected then
    some system
  else
    (system.session.sendRequest now message {}).map fun (sent, session, out) =>
      let system := (system.withSession session).apply now out
      match sent with
      | .error _ => system
      | .ok systemBytes => { system with handler := system.handler.onSent message systemBytes }

def runReply (system : System) (now : TimePoint) (systemBytes : UInt32) (message : Message) :
    System :=
  if !system.server.connected then
    system
  else
    system.apply now (system.session.sendReply systemBytes message {}).2

def runTask (system : System) (now : TimePoint) : Task → Option System
  | .request message => system.runRequest now message
  | .reply systemBytes message => some (system.runReply now systemBytes message)
  | .processStateChanged after =>
      some { system with handler := system.handler.onProcessStateChanged after }
  | .controlStateChanged after =>
      some { system with handler := system.handler.onControlStateChanged after }
  | .scanStarted waferId slot =>
      some { system with handler := system.handler.onScanStarted waferId slot }
  | .result wafer => some { system with handler := system.handler.onResult wafer }
  | .runAborted => some { system with handler := system.handler.onRunAborted }
  | .alarm set id text => some { system with handler := system.handler.onAlarm set id text }

/-! ## Handlers of the I/O thread -/

inductive Input where
  | accept (now : TimePoint)
  /-- The started read with this index completes with these bytes. -/
  | read (operation : Nat) (now : TimePoint) (bytes : List UInt8)
  | readFailed (operation : Nat)
  | written (operation : Nat)
  | writeFailed (operation : Nat)
  | tick (now : TimePoint)
  | task (now : TimePoint)
  | stop
  /-- Other threads have changed the machine and published these events. -/
  | machine (api : MachineApi) (events : List Event)

/-- A second connection is refused. -/
def accept (system : System) (now : TimePoint) : System :=
  if system.server.connected then
    system
  else
    let (session, out) := system.session.onConnect now
    let server :=
      { system.server with
        connected := true, generation := system.server.generation + 1, session := session }
    let system := { system with server := server }.apply now out
    { system with server := system.server.readNext }

/-- Bytes of the current connection. -/
def receive (system : System) (now : TimePoint) (bytes : List UInt8) : System :=
  let (session, out) := system.session.onBytes now bytes
  (system.withSession session).apply now out

/-- A read that belongs to an older connection does nothing. -/
def readCompleted (system : System) (generation : Nat) (now : TimePoint) (bytes : List UInt8) :
    System :=
  if generation ≠ system.server.generation then
    system
  else
    let system := system.receive now bytes
    if generation = system.server.generation then
      { system with server := system.server.readNext }
    else
      system

def writeCompleted (system : System) (generation : Nat) : System :=
  if generation ≠ system.server.generation then
    system
  else
    let server := { system.server with writeQueue := system.server.writeQueue.tail }
    { system with server := server.writeNext }

/-- A failed read or write of the current connection closes it. -/
def operationFailed (system : System) (generation : Nat) : System :=
  if generation ≠ system.server.generation then system else system.closeSocket

def tick (system : System) (now : TimePoint) : Option System :=
  if !system.server.connected then
    some system
  else
    (system.session.onTick now).map fun (session, out) =>
      (system.withSession session).apply now out

/-- Take a started read out of those that are pending. -/
def takeRead (system : System) (operation : Nat) : Option (Nat × System) :=
  system.server.pendingReads[operation]?.map fun generation =>
    (generation, { system with server :=
      { system.server with pendingReads := system.server.pendingReads.eraseIdx operation } })

def takeWrite (system : System) (operation : Nat) : Option (Nat × System) :=
  system.server.pendingWrites[operation]?.map fun write =>
    (write.1, { system with server :=
      { system.server with pendingWrites := system.server.pendingWrites.eraseIdx operation } })

/-- One handler; `none` if there is nothing to complete, or if the handler never returns. -/
def step (system : System) : Input → Option System
  | .accept now => some (system.accept now)
  | .read operation now bytes =>
      (system.takeRead operation).map fun (generation, system) =>
        system.readCompleted generation now bytes
  | .readFailed operation =>
      (system.takeRead operation).map fun (generation, system) =>
        system.operationFailed generation
  | .written operation =>
      (system.takeWrite operation).map fun (generation, system) =>
        system.writeCompleted generation
  | .writeFailed operation =>
      (system.takeWrite operation).map fun (generation, system) =>
        system.operationFailed generation
  | .tick now => system.tick now
  | .task now =>
      match system.handler.tasks with
      | [] => none
      | task :: tasks =>
          { system with handler := { system.handler with tasks := tasks } }.runTask now task
  | .stop => some system.closeSocket
  | .machine api events =>
      some { system with handler :=
        { system.handler with
          api := api
          tasks := system.handler.tasks ++ events.filterMap Task.ofEvent } }

def start (session : SessionConfig) (gem : GemConfig) (started : TimePoint) (api : MachineApi) :
    System where
  server := .fresh session
  handler := ⟨.fresh gem started, api, []⟩

end System

/-! ## A host -/

/-- The equipment with the identity of the default configuration. -/
def defaultGem : GemConfig where
  identity :=
    ⟨.ofString "SSIM-128", .ofString "0.1.0"⟩

/-- The bytes of a control frame from the host. -/
def controlBytes (stype : Hsms.SType) (systemBytes : UInt32) : List UInt8 :=
  [0, 0, 0, 10] ++ Hsms.headerBytes (Hsms.makeControlFrame stype systemBytes 0 0).header

/-- The bytes of a data message without a body. -/
def requestBytes (stream function : UInt8) (systemBytes : UInt32) : List UInt8 :=
  [0, 0, 0, 10] ++
    Hsms.headerBytes (Hsms.makeDataFrame 0 stream function true systemBytes []).header

end Ssim.Gem
