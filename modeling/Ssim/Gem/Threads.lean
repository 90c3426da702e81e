import Ssim.Gem.Effects
import Ssim.Library.Runs

/-!
# The I/O thread among the other threads

`System` takes a handler of the I/O thread as one step.  Here the other threads
run between the parts of a handler: the completion of a read hands its deliveries
to the service one at a time, and S1F17 looks at the control mode before it asks
the controller thread to change it.

The controller thread runs one closure at a time.  It stores first and publishes
then, event after event; a subscription of the service posts its task when the
event is published.  A command of the host is submitted from the I/O thread,
which waits until the closure has run and published.
-/

namespace Ssim.Gem

open Ssim.Core (Event Closure CommandSource ControlMode MachineApi)
open Hsms (Frame Delivery Session SessionConfig SessionOutput TimePoint)
open Secs2 (Message)
open Library.Runs

namespace Handler

/-- The message that a delivery hands to `handleMessage`. -/
def hostMessage (config : GemConfig) (delivery : Delivery) : Option Message :=
  if delivery.replyTo.isSome || delivery.frame.header.sessionId ≠ config.deviceId ||
      delivery.frame.body.length > config.maxBodyBytes then
    none
  else
    match Hsms.toMessage delivery.frame with
    | .error _ => none
    | .ok message => if equipmentFactory.check message = .ok then some message else none

/-- The command of an S1F17 that has found the machine offline, and the answer. -/
def goOnline (handler : Handler) (frame : Frame) : Handler :=
  let (result, handler) := handler.submit (.setControlMode handler.gem.preferredOnlineMode)
  handler.reply frame (makeS1f18 (if result.toBool then kOnlackAccepted else kOnlackNotAllowed))

/-- S1F17 passes the checks before its command. -/
def mayGoOnline (handler : Handler) (message : Message) : Bool :=
  message.stream = 1 && message.function = 17 && handler.gem.config.allowHostOnline &&
    handler.api.snapshot.controlMode = .offline

/-- S1F15 and S2F41 submit a command. -/
def submitsCommand (message : Message) : Bool :=
  (message.stream = 1 && message.function = 15) || (message.stream = 2 && message.function = 41)

end Handler

/-- The completion of a read: what it compares its generation with, and what is left of it. -/
structure ReadInProgress where
  generation : Nat
  now : TimePoint
  out : SessionOutput
  deliveries : List Delivery

inductive IoThread where
  /-- Between two handlers. -/
  | idle
  | delivering (read : ReadInProgress)
  /-- S1F17 has found the machine offline; its command is not submitted yet. -/
  | goingOnline (frame : Frame) (read : ReadInProgress)

structure Threads where
  system : System
  io : IoThread
  /-- What the controller thread has still to publish of the closure it runs. -/
  publishing : List Event

namespace Threads

def handler (threads : Threads) : Handler :=
  threads.system.handler

def withHandler (threads : Threads) (handler : Handler) : Threads :=
  { threads with system := { threads.system with handler := handler } }

inductive Input where
  /-- The controller thread runs a closure of an operator or of the machine. -/
  | closure (closure : Closure)
  | publish
  | read (operation : Nat) (now : TimePoint) (bytes : List UInt8)
  | deliver
  | goOnline
  | finish
  /-- A handler of the I/O thread that delivers nothing. -/
  | handle (input : System.Input)

/-- Only the I/O thread submits commands of the host. -/
def runClosure (threads : Threads) (closure : Closure) : Option Threads :=
  if threads.publishing ≠ [] then
    none
  else
    match closure with
    | .command ⟨_, .secsGem⟩ => none
    | _ =>
        let api := threads.handler.api
        let outcome := api.controller.runClosure closure
        some { threads.withHandler
            { threads.handler with api := { api with controller := outcome.next } } with
          publishing := MachineApi.published outcome.effects }

def publish (threads : Threads) : Option Threads :=
  match threads.publishing with
  | [] => none
  | event :: publishing =>
      some { threads.withHandler
          { threads.handler with
            api := threads.handler.api.observe event
            tasks := threads.handler.tasks ++ (Task.ofEvent event).toList } with
        publishing := publishing }

/-- The front part of a read: what it sends is queued before anything is delivered. -/
def beginRead (threads : Threads) (operation : Nat) (now : TimePoint) (bytes : List UInt8) :
    Option Threads :=
  match threads.io, threads.system.takeRead operation with
  | .idle, some (generation, system) =>
      if generation ≠ system.server.generation then
        some { threads with system := system }
      else
        let (session, out) := system.session.onBytes now bytes
        let system := system.withSession session
        some { threads with
          system := { system with server := system.server.enqueue out }
          io := .delivering ⟨generation, now, out, out.deliveries⟩ }
  | _, _ => none

/-- A message that submits a command waits for the controller thread. -/
def deliver (threads : Threads) : Option Threads :=
  match threads.io with
  | .delivering read =>
      match read.deliveries with
      | [] => none
      | delivery :: deliveries =>
          let read := { read with deliveries := deliveries }
          let handled := { threads.withHandler (threads.handler.onData read.now delivery) with
            io := .delivering read }
          match Handler.hostMessage threads.handler.gem.config delivery with
          | none => some handled
          | some message =>
              if threads.handler.mayGoOnline message then
                some { threads with io := .goingOnline delivery.frame read }
              else if Handler.submitsCommand message ∧ threads.publishing ≠ [] then
                none
              else
                some handled
  | _ => none

def goOnline (threads : Threads) : Option Threads :=
  match threads.io, threads.publishing with
  | .goingOnline frame read, [] =>
      some { threads.withHandler (threads.handler.goOnline frame) with io := .delivering read }
  | _, _ => none

/-- The rest of a read, once everything is delivered. -/
def finish (threads : Threads) : Option Threads :=
  match threads.io with
  | .delivering ⟨generation, _, out, []⟩ =>
      let handler := out.timedOut.foldl Handler.onTransactionTimeout threads.handler
      let system := System.notifyState { threads.system with handler := handler }
      let system := if out.close then system.closeSocket else system
      let system :=
        if generation = system.server.generation then
          { system with server := system.server.readNext }
        else
          system
      some { threads with system := system, io := .idle }
  | _ => none

/-- Between two reads the I/O thread runs any other handler. -/
def handle (threads : Threads) (input : System.Input) : Option Threads :=
  match threads.io, input with
  | .idle, .read _ _ _ => none
  | .idle, .machine _ _ => none
  | .idle, input => (threads.system.step input).map fun system => { threads with system := system }
  | _, _ => none

def step (threads : Threads) : Input → Option Threads
  | .closure closure => threads.runClosure closure
  | .publish => threads.publish
  | .read operation now bytes => threads.beginRead operation now bytes
  | .deliver => threads.deliver
  | .goOnline => threads.goOnline
  | .finish => threads.finish
  | .handle input => threads.handle input

def start (session : SessionConfig) (gem : GemConfig) (started : TimePoint) (api : MachineApi) :
    Threads :=
  ⟨.start session gem started api, .idle, []⟩

end Threads

/-! ## A read that nothing interrupts -/

theorem Handler.hostMessage_eq_some_iff {config : GemConfig} {delivery : Delivery}
    {message : Message} :
    hostMessage config delivery = some message ↔ delivery.replyTo = none ∧
      fault config delivery.frame = none ∧ Hsms.toMessage delivery.frame = .ok message := by
  rw [fault_eq_none_iff, hostMessage]
  by_cases fits : delivery.replyTo.isSome || delivery.frame.header.sessionId ≠ config.deviceId ||
      delivery.frame.body.length > config.maxBodyBytes
  · rw [if_pos fits]
    simp only [gt_iff_lt, ne_eq, Bool.or_eq_true, decide_eq_true_eq, Option.isSome_iff_ne_none]
      at fits
    constructor
    · intro impossible
      cases impossible
    · rintro ⟨primary, ⟨device, short, _⟩, _⟩
      rcases fits with (reply | other) | long
      · exact absurd primary reply
      · exact absurd device other
      · omega
  · rw [if_neg fits]
    simp only [gt_iff_lt, ne_eq, Bool.or_eq_true, decide_eq_true_eq, not_or, Bool.not_eq_true,
      Option.isSome_eq_false_iff, Option.isNone_iff_eq_none, not_not, not_lt] at fits
    obtain ⟨⟨primary, device⟩, short⟩ := fits
    cases Hsms.toMessage delivery.frame with
    | error reason => simp
    | ok found =>
        simp only [primary, device, short, true_and, Except.ok.injEq, exists_eq_left',
          Option.ite_none_right_eq_some, Option.some.injEq]

theorem Handler.onData_of_hostMessage {handler : Handler} {delivery : Delivery}
    {message : Message} (now : TimePoint)
    (accepted : hostMessage handler.gem.config delivery = some message) :
    handler.onData now delivery = handler.handleMessage now delivery.frame message := by
  obtain ⟨primary, fine, parsed⟩ := hostMessage_eq_some_iff.mp accepted
  have handled := handler.onData_primary now primary
  rw [fine] at handled
  obtain ⟨found, decoded, _, handled⟩ := handled
  obtain rfl := Except.ok.inj (parsed.symm.trans decoded)
  exact handled

/-- The command of an S1F17, right after its check, is the whole handler. -/
theorem Handler.onData_eq_goOnline {handler : Handler} {delivery : Delivery} {message : Message}
    (now : TimePoint) (accepted : hostMessage handler.gem.config delivery = some message)
    (online : handler.mayGoOnline message = true) :
    handler.onData now delivery = handler.goOnline delivery.frame := by
  rw [onData_of_hostMessage now accepted]
  simp only [mayGoOnline, Bool.and_eq_true, decide_eq_true_eq] at online
  obtain ⟨⟨⟨stream, function⟩, allowed⟩, offline⟩ := online
  simp [handleMessage, stream, function, handleOnlineRequest, allowed, offline, goOnline]

namespace Threads

theorem run_deliver (system : System) (read : ReadInProgress) :
    ∃ inputs, run step ⟨system, .delivering read, []⟩ inputs =
      some ⟨{ system with handler := system.handler.onDeliveries read.now read.deliveries },
        .delivering { read with deliveries := [] }, []⟩ := by
  obtain ⟨generation, now, out, deliveries⟩ := read
  induction deliveries generalizing system with
  | nil => exact ⟨[], rfl⟩
  | cons delivery deliveries ih =>
      obtain ⟨inputs, later⟩ := ih { system with handler := system.handler.onData now delivery }
      cases accepted : Handler.hostMessage system.handler.gem.config delivery with
      | none =>
          refine ⟨.deliver :: inputs, ?_⟩
          rw [run_cons]
          simp only [step, deliver, handler, accepted]
          exact later
      | some message =>
          by_cases online : system.handler.mayGoOnline message = true
          · refine ⟨.deliver :: .goOnline :: inputs, ?_⟩
            rw [Handler.onData_eq_goOnline now accepted online] at later
            rw [run_cons]
            simp only [step, deliver, handler, accepted, online, if_true, Option.bind_some]
            rw [run_cons]
            refine later.trans ?_
            simp only [Handler.onDeliveries, List.foldl_cons,
              Handler.onData_eq_goOnline now accepted online]
          · refine ⟨.deliver :: inputs, ?_⟩
            rw [run_cons]
            simp only [step, deliver, handler, accepted, online, ne_eq, not_true, and_false,
              if_false]
            exact later

/-- A read of the system is a read here during which no other thread runs. -/
theorem run_of_step_read {system next : System} {operation : Nat} {now : TimePoint}
    {bytes : List UInt8} (taken : system.step (.read operation now bytes) = some next) :
    ∃ inputs, run step ⟨system, .idle, []⟩ (.read operation now bytes :: inputs) =
      some ⟨next, .idle, []⟩ := by
  simp only [System.step, Option.map_eq_some_iff] at taken
  obtain ⟨⟨generation, pending⟩, found, rfl⟩ := taken
  by_cases current : generation = pending.server.generation
  · obtain ⟨inputs, delivered⟩ := run_deliver
      { pending.withSession (pending.session.onBytes now bytes).1 with
        server := (pending.withSession (pending.session.onBytes now bytes).1).server.enqueue
          (pending.session.onBytes now bytes).2 }
      ⟨generation, now, (pending.session.onBytes now bytes).2,
        (pending.session.onBytes now bytes).2.deliveries⟩
    refine ⟨inputs ++ [.finish], ?_⟩
    rw [run_cons]
    simp only [step, beginRead, found, current, ne_eq, not_true, if_false, Option.bind_some]
    rw [current] at delivered
    rw [run_concat, delivered]
    simp only [System.readCompleted, ne_eq, not_true, if_false]
    rfl
  · refine ⟨[], ?_⟩
    rw [run_cons]
    simp only [step, beginRead, found, ne_eq, current, not_false_eq_true, if_true,
      Option.bind_some, run_nil, System.readCompleted]

end Threads

end Ssim.Gem
