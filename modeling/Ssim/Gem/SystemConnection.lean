import Ssim.Gem.Connections

/-!
# The equipment's connection

The GEM service is one of the handlers that a server may have, and its tasks are requests,
replies and tasks posted to that server.  So every run of the system is a run of its
connection, and what holds of all connections holds of the system.
-/

namespace Ssim.Gem.Connection

open Hsms (SessionConfig SessionOutput TimePoint)
open Secs2 (Message)
open Library.Runs (run run_cons invariant)

/-- Errors of the server are only logged. -/
def gemHandler : HsmsHandler Handler where
  onSessionState := Handler.onSessionState
  onData := Handler.onData
  onTransactionTimeout := Handler.onTransactionTimeout
  onError handler _ := handler

/-- The system without the moves. -/
def system (connection : Connection Handler) : System where
  server := connection.server
  handler := connection.handler

theorem system_writeNext (connection : Connection Handler) :
    connection.writeNext.system =
      { connection.system with server := connection.server.writeNext } := by
  unfold writeNext
  split <;> rfl

theorem system_enqueue (connection : Connection Handler) (out : SessionOutput) :
    (connection.enqueue out).system =
      { connection.system with server := connection.server.enqueue out } := by
  unfold enqueue Server.enqueue
  dsimp only
  split
  · rw [system_writeNext]
    rfl
  · rfl

theorem system_notifyState (connection : Connection Handler) :
    (notifyState gemHandler connection).system = connection.system.notifyState := by
  unfold notifyState System.notifyState
  split
  next changed =>
    rw [if_pos (by exact changed)]
    rfl
  next unchanged =>
    rw [if_neg (by exact unchanged)]

theorem system_closeSocket (connection : Connection Handler) :
    (closeSocket gemHandler connection).system = connection.system.closeSocket := by
  rw [closeSocket, system_notifyState]
  rfl

theorem system_apply (connection : Connection Handler) (now : TimePoint) (out : SessionOutput) :
    (apply gemHandler connection now out).system = connection.system.apply now out := by
  have queued := system_enqueue connection out
  unfold apply System.apply
  generalize connection.enqueue out = filled at queued ⊢
  obtain ⟨server, handler, moves⟩ := filled
  obtain ⟨rfl, rfl⟩ : server = connection.server.enqueue out ∧ handler = connection.handler := by
    simpa [system] using queued
  dsimp only
  split
  · rw [system_closeSocket, system_notifyState]
    rfl
  · rw [system_notifyState]
    rfl

/-- Starting the next read, seen without the moves. -/
theorem system_readNext {connection : Connection Handler} {expected : System}
    (same : connection.system = expected) :
    connection.readNext.system = { expected with server := expected.server.readNext } := by
  subst same
  rfl

theorem system_accept (connection : Connection Handler) (now : TimePoint) :
    (accept gemHandler connection now).system = connection.system.accept now := by
  unfold accept System.accept
  by_cases connected : connection.server.connected = true
  · rw [if_pos connected, if_pos (by exact connected)]
  · rw [if_neg connected, if_neg (by exact connected)]
    exact system_readNext (system_apply _ now _)

theorem system_readCompleted (connection : Connection Handler) (generation : Nat)
    (now : TimePoint) (bytes : List UInt8) :
    (readCompleted gemHandler connection generation now bytes).system =
      connection.system.readCompleted generation now bytes := by
  unfold readCompleted System.readCompleted
  by_cases stale : generation ≠ connection.server.generation
  · rw [if_pos stale, if_pos (by exact stale)]
  · rw [if_neg stale, if_neg (by exact stale)]
    have received : (apply gemHandler (connection.withSession
        (connection.server.session.onBytes now bytes).1) now
        (connection.server.session.onBytes now bytes).2).system =
        connection.system.receive now bytes := system_apply _ now _
    dsimp only
    generalize apply gemHandler _ now _ = after at received ⊢
    rw [← received]
    by_cases same : generation = after.server.generation
    · rw [if_pos (show generation = after.system.server.generation from same)]
      by_cases connected : after.server.connected = true
      · rw [if_pos ⟨connected, same⟩]
        exact system_readNext rfl
      · rw [if_neg fun both => connected both.1]
        simp [system, Server.readNext, connected]
    · rw [if_neg fun both => same both.2, if_neg (by exact same)]

theorem system_writeCompleted (connection : Connection Handler) (generation : Nat) :
    (connection.writeCompleted generation).system =
      connection.system.writeCompleted generation := by
  unfold writeCompleted System.writeCompleted
  by_cases stale : generation ≠ connection.server.generation
  · rw [if_pos stale, if_pos (by exact stale)]
  · rw [if_neg stale, if_neg (by exact stale)]
    exact system_writeNext _

theorem system_readAborted (connection : Connection Handler) (generation : Nat) :
    (readAborted gemHandler connection generation).system =
      connection.system.operationFailed generation := by
  unfold readAborted System.operationFailed
  by_cases stale : generation ≠ connection.server.generation
  · rw [if_pos stale, if_pos (by exact stale)]
  · rw [if_neg stale, if_neg (by exact stale)]
    exact system_closeSocket _

theorem system_takeRead (connection : Connection Handler) (operation : Nat) :
    connection.system.takeRead operation =
      (connection.takeRead operation).map fun taken => (taken.1, taken.2.system) := by
  unfold System.takeRead takeRead
  rw [Option.map_map]
  rfl

theorem system_takeWrite (connection : Connection Handler) (operation : Nat) :
    connection.system.takeWrite operation =
      (connection.takeWrite operation).map fun taken => (taken.1, taken.2.system) := by
  unfold System.takeWrite takeWrite
  rw [Option.map_map]
  rfl

theorem system_tick (connection : Connection Handler) (now : TimePoint) :
    (tick gemHandler connection now).map system = connection.system.tick now := by
  unfold tick System.tick
  by_cases offline : (!connection.server.connected) = true
  · rw [if_pos offline, if_pos (by exact offline)]
    rfl
  · rw [if_neg offline, if_neg (by exact offline), Option.map_map]
    refine Option.map_congr fun result _ => ?_
    exact system_apply _ now _

theorem system_runReply (connection : Connection Handler) (now : TimePoint)
    (systemBytes : UInt32) (message : Message) :
    (runReply gemHandler connection now systemBytes message).system =
      connection.system.runReply now systemBytes message := by
  unfold runReply System.runReply
  by_cases offline : (!connection.server.connected) = true
  · rw [if_pos offline, if_pos (by exact offline)]
    rfl
  · rw [if_neg offline, if_neg (by exact offline)]
    change _ = connection.system.apply now
      (connection.server.session.sendReply systemBytes message {}).2
    generalize connection.server.session.sendReply systemBytes message {} = result
    obtain ⟨sent, out⟩ := result
    cases sent with
    | error reason => exact system_apply _ now out
    | ok done => exact system_apply _ now out

theorem system_runRequest (connection : Connection Handler) (now : TimePoint)
    (message : Message) :
    (runRequest gemHandler connection now message
      (fun systemBytes handler => handler.onSent message systemBytes)).map system =
      connection.system.runRequest now message := by
  unfold runRequest System.runRequest
  by_cases offline : (!connection.server.connected) = true
  · rw [if_pos offline, if_pos (by exact offline)]
    rfl
  · rw [if_neg offline, if_neg (by exact offline), Option.map_map]
    refine Option.map_congr fun result _ => ?_
    obtain ⟨sent, session, out⟩ := result
    have applied := system_apply (connection.withSession session) now out
    cases sent with
    | error reason => exact applied
    | ok systemBytes =>
        exact congrArg (fun system : System =>
          { system with handler := system.handler.onSent message systemBytes }) applied

/-- A task of the I/O thread is a request, a reply or a task of the handler alone. -/
theorem step_of_runTask {connection : Connection Handler} {now : TimePoint} {task : Task}
    {next : System} (taken : connection.system.runTask now task = some next) :
    ∃ input after, step gemHandler connection input = some after ∧ after.system = next := by
  cases task with
  | request message =>
      rw [System.runTask, ← system_runRequest] at taken
      obtain ⟨after, requested, rfl⟩ := Option.map_eq_some_iff.mp taken
      exact ⟨.request now message fun systemBytes handler => handler.onSent message systemBytes,
        after, requested, rfl⟩
  | reply systemBytes message =>
      rw [System.runTask, ← system_runReply] at taken
      exact ⟨.reply now systemBytes message, _, rfl, Option.some.inj taken⟩
  | processStateChanged after =>
      exact ⟨.task (·.onProcessStateChanged after), _, rfl, Option.some.inj taken⟩
  | controlStateChanged after =>
      exact ⟨.task (·.onControlStateChanged after), _, rfl, Option.some.inj taken⟩
  | scanStarted waferId slot =>
      exact ⟨.task (·.onScanStarted waferId slot), _, rfl, Option.some.inj taken⟩
  | result wafer => exact ⟨.task (·.onResult wafer), _, rfl, Option.some.inj taken⟩
  | runAborted => exact ⟨.task Handler.onRunAborted, _, rfl, Option.some.inj taken⟩
  | alarm set id text => exact ⟨.task (·.onAlarm set id text), _, rfl, Option.some.inj taken⟩

/-- Every step of the system is made of steps of its connection. -/
theorem steps_of_system {connection : Connection Handler} {input : System.Input} {next : System}
    (taken : connection.system.step input = some next) :
    ∃ inputs after, run (step gemHandler) connection inputs = some after ∧ after.system = next := by
  cases input with
  | accept now =>
      refine ⟨[.accept now], _, rfl, ?_⟩
      rw [system_accept]
      exact Option.some.inj taken
  | read operation now bytes =>
      rw [System.step, system_takeRead, Option.map_map] at taken
      obtain ⟨⟨generation, left⟩, took, rfl⟩ := Option.map_eq_some_iff.mp taken
      refine ⟨[.read operation now bytes], readCompleted gemHandler left generation now bytes, ?_,
        system_readCompleted left generation now bytes⟩
      rw [run_cons, step, took]
      rfl
  | readFailed operation =>
      rw [System.step, system_takeRead, Option.map_map] at taken
      obtain ⟨⟨generation, left⟩, took, rfl⟩ := Option.map_eq_some_iff.mp taken
      refine ⟨[.readFailed operation], readAborted gemHandler left generation, ?_,
        system_readAborted left generation⟩
      rw [run_cons, step, took]
      rfl
  | written operation =>
      rw [System.step, system_takeWrite, Option.map_map] at taken
      obtain ⟨⟨generation, left⟩, took, rfl⟩ := Option.map_eq_some_iff.mp taken
      refine ⟨[.written operation], left.writeCompleted generation, ?_,
        system_writeCompleted left generation⟩
      rw [run_cons, step, took]
      rfl
  | writeFailed operation =>
      rw [System.step, system_takeWrite, Option.map_map] at taken
      obtain ⟨⟨generation, left⟩, took, rfl⟩ := Option.map_eq_some_iff.mp taken
      refine ⟨[.writeFailed operation ""], readAborted gemHandler left generation, ?_,
        system_readAborted left generation⟩
      rw [run_cons, step, took]
      rfl
  | tick now =>
      rw [System.step, ← system_tick] at taken
      obtain ⟨after, ticked, rfl⟩ := Option.map_eq_some_iff.mp taken
      refine ⟨[.tick now], after, ?_, rfl⟩
      rw [run_cons, step, ticked]
      rfl
  | task now =>
      cases tasks : connection.handler.tasks with
      | nil => simp [System.step, system, tasks] at taken
      | cons task later =>
          rw [System.step, show connection.system.handler.tasks = task :: later from tasks] at taken
          obtain ⟨input, after, stepped, same⟩ := @step_of_runTask
            { connection with handler := { connection.handler with tasks := later } } now task next
            taken
          refine ⟨[.task fun handler => { handler with tasks := later }, input], after, ?_, same⟩
          rw [run_cons, step, Option.bind_some, run_cons, stepped]
          rfl
  | stop =>
      refine ⟨[.stop], _, rfl, ?_⟩
      rw [system_closeSocket]
      exact Option.some.inj taken
  | machine api events =>
      refine ⟨[.task fun handler =>
        { handler with
          api := api
          tasks := handler.tasks ++ events.filterMap Task.ofEvent }], _, rfl, ?_⟩
      exact Option.some.inj taken

/-- So the equipment's server has at most one write of its current generation in flight. -/
theorem one_write_in_flight {session : SessionConfig} {gem : GemConfig} {started : TimePoint}
    {api : Ssim.Core.MachineApi} {inputs : List System.Input} {reached : System}
    (ran : run System.step (System.start session gem started api) inputs = some reached) :
    (reached.server.pendingWrites.filter fun write =>
      write.1 = reached.server.generation).length ≤ 1 := by
  have sound := invariant
    (fun system : System => ∃ connection : Connection Handler, connection.system = system ∧
      connection.link.Sound)
    (by
      rintro system input next ⟨connection, rfl, sound⟩ taken
      obtain ⟨steps, after, ranOn, rfl⟩ := steps_of_system taken
      exact ⟨after, rfl, invariant (fun connection : Connection Handler => connection.link.Sound)
        (fun sound taken => sound_step sound taken) sound ranOn⟩)
    ⟨fresh session ⟨.fresh gem started, api, []⟩, rfl, sound_fresh _ _⟩ ran
  obtain ⟨connection, rfl, sound⟩ := sound
  exact sound.box.one_flight

end Ssim.Gem.Connection
