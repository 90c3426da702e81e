import Ssim.Core.Controller
import Ssim.Core.Queue
import Ssim.Library.Runs

/-!
# The inbox of the controller thread

Any number of threads hand closures to the controller thread and wait for its
answer, while one thread stops the controller: it aborts and joins the scan, closes
the inbox and joins the controller thread.  When the scan driver's join returns is
up to the driver.  A thread whose closure the closed inbox refuses waits for a
promise that nobody keeps.
-/

namespace Ssim.Core

open Library.Runs

def kInboxCapacity : Nat := 256

/-- Where a thread is in `run_on_controller_thread`. -/
inductive CallState where
  | outside
  /-- Before or in the push of its closure. -/
  | pushing (closure : Closure)
  /-- It waits for the answer. -/
  | waiting (closure : Closure)
  /-- Its promise is kept; it is about to return. -/
  | answered (result : Result ProcessState)
  deriving DecidableEq

/-- The loop of the controller thread. -/
inductive ControllerThread where
  | popping
  | running (thread : Nat) (closure : Closure)
  | exited
  deriving DecidableEq

/-- Where the thread is that stops the controller. -/
inductive StopState where
  | notCalled
  /-- The abort is requested, and the scan is joined. -/
  | joiningScan
  | closing
  | joiningThread
  | stopped
  deriving Repr, DecidableEq

structure ControllerThreads where
  controller : Controller
  /-- The closures, each with the thread that waits for its answer. -/
  inbox : BoundedQueue (Nat × Closure)
  callers : Nat → CallState
  thread : ControllerThread
  stopper : StopState

namespace ControllerThreads

/-- The controller thread is started, and nobody has called it. -/
def fresh : ControllerThreads where
  controller := .fresh
  inbox := .fresh kInboxCapacity .block
  callers := fun _ => .outside
  thread := .popping
  stopper := .notCalled

inductive Input where
  /-- A thread calls the controller. -/
  | call (thread : Nat) (closure : Closure)
  /-- Its push goes through or is refused; the answer to that is not looked at. -/
  | push (thread : Nat)
  /-- A thread that has its answer returns. -/
  | leave (thread : Nat)
  /-- One step of the controller thread. -/
  | controller
  /-- One step of `stop`. -/
  | stop
  deriving DecidableEq

def setCaller (threads : ControllerThreads) (thread : Nat) (state : CallState) :
    ControllerThreads :=
  { threads with callers := Function.update threads.callers thread state }

def call (threads : ControllerThreads) (thread : Nat) (closure : Closure) :
    Option ControllerThreads :=
  match threads.callers thread with
  | .outside => some (threads.setCaller thread (.pushing closure))
  | _ => none

def push (threads : ControllerThreads) (thread : Nat) : Option ControllerThreads :=
  match threads.callers thread with
  | .pushing closure =>
      (threads.inbox.push (thread, closure)).map fun (_, inbox) =>
        { threads with inbox := inbox }.setCaller thread (.waiting closure)
  | _ => none

def leave (threads : ControllerThreads) (thread : Nat) : Option ControllerThreads :=
  match threads.callers thread with
  | .answered _ => some (threads.setCaller thread .outside)
  | _ => none

/-- `run`: pop the next closure, run it and keep its promise; end when the inbox has ended. -/
def loop (threads : ControllerThreads) : Option ControllerThreads :=
  match threads.thread with
  | .popping =>
      threads.inbox.pop.map fun (found, inbox) =>
        match found with
        | some (thread, closure) =>
            { threads with inbox := inbox, thread := .running thread closure }
        | none => { threads with inbox := inbox, thread := .exited }
  | .running thread closure =>
      let outcome := threads.controller.runClosure closure
      some ({ threads with controller := outcome.next, thread := .popping }.setCaller thread
        (.answered outcome.result))
  | .exited => none

def stop (threads : ControllerThreads) : Option ControllerThreads :=
  match threads.stopper with
  | .notCalled => some { threads with stopper := .joiningScan }
  | .joiningScan => some { threads with stopper := .closing }
  | .closing => some { threads with inbox := threads.inbox.close, stopper := .joiningThread }
  | .joiningThread =>
      if threads.thread = .exited then some { threads with stopper := .stopped } else none
  | .stopped => none

def step (threads : ControllerThreads) : Input → Option ControllerThreads
  | .call thread closure => threads.call thread closure
  | .push thread => threads.push thread
  | .leave thread => threads.leave thread
  | .controller => threads.loop
  | .stop => threads.stop

/-! ## The closures that are in the hands of the controller thread -/

/-- The closure that is being run, and those in the inbox. -/
def pending (threads : ControllerThreads) : List (Nat × Closure) :=
  match threads.thread with
  | .running thread closure => (thread, closure) :: threads.inbox.items
  | .popping | .exited => threads.inbox.items

/-- Every closure in the hands of the controller thread is that of one waiting thread. -/
structure Sound (threads : ControllerThreads) : Prop where
  blocks : threads.inbox.policy = .block
  owned : ∀ entry ∈ threads.pending, threads.callers entry.1 = .waiting entry.2
  once : (threads.pending.map Prod.fst).Nodup
  exited : threads.thread = .exited → threads.inbox.items = [] ∧ threads.inbox.closed = true

/-- And every waiting thread has its closure there. -/
def Kept (threads : ControllerThreads) : Prop :=
  ∀ thread closure, threads.callers thread = .waiting closure →
    (thread, closure) ∈ threads.pending

theorem sound_fresh : fresh.Sound :=
  ⟨rfl, nofun, List.nodup_nil, nofun⟩

theorem kept_fresh : fresh.Kept :=
  nofun

/-- A thread that does not wait has no closure there. -/
theorem Sound.not_pending {threads : ControllerThreads} (sound : threads.Sound) {thread : Nat}
    (elsewhere : ∀ closure, threads.callers thread ≠ .waiting closure) :
    ∀ entry ∈ threads.pending, entry.1 ≠ thread := by
  rintro entry member rfl
  exact elsewhere entry.2 (sound.owned entry member)

/-- A push that the closed inbox refuses. -/
def refuses (threads : ControllerThreads) : Input → Bool
  | .push _ => threads.inbox.closed
  | _ => false

/-- The inbox has taken a closure. -/
def queue (threads : ControllerThreads) (entry : Nat × Closure) : ControllerThreads :=
  { threads with inbox := { threads.inbox with items := threads.inbox.items ++ [entry] } }

/-- Everything that a step can do to the callers and to the closures. -/
inductive Does (threads : ControllerThreads) : Input → ControllerThreads → Prop where
  | called (thread : Nat) (closure : Closure) (outside : threads.callers thread = .outside) :
      Does threads (.call thread closure) (threads.setCaller thread (.pushing closure))
  | queued (thread : Nat) (closure : Closure)
      (pushing : threads.callers thread = .pushing closure)
      (isOpen : threads.inbox.closed = false) :
      Does threads (.push thread)
        ((threads.queue (thread, closure)).setCaller thread (.waiting closure))
  | refused (thread : Nat) (closure : Closure)
      (pushing : threads.callers thread = .pushing closure)
      (closed : threads.inbox.closed = true) :
      Does threads (.push thread) (threads.setCaller thread (.waiting closure))
  | returned (thread : Nat) (result : Result ProcessState)
      (answered : threads.callers thread = .answered result) :
      Does threads (.leave thread) (threads.setCaller thread .outside)
  | popped (thread : Nat) (closure : Closure) (items : List (Nat × Closure))
      (popping : threads.thread = .popping)
      (holds : threads.inbox.items = (thread, closure) :: items) :
      Does threads .controller
        { threads with
          inbox := { threads.inbox with items := items }
          thread := .running thread closure }
  | ended (popping : threads.thread = .popping) (empty : threads.inbox.items = [])
      (closed : threads.inbox.closed = true) :
      Does threads .controller { threads with thread := .exited }
  | ran (thread : Nat) (closure : Closure) (running : threads.thread = .running thread closure) :
      Does threads .controller
        ({ threads with
            controller := (threads.controller.runClosure closure).next
            thread := .popping }.setCaller thread
          (.answered (threads.controller.runClosure closure).result))
  | stopped (closed : Bool) (stopper : StopState)
      (stays : threads.inbox.closed = true → closed = true) :
      Does threads .stop
        { threads with inbox := { threads.inbox with closed := closed }, stopper := stopper }

theorem does_step {threads next : ControllerThreads} (sound : threads.Sound) {input : Input}
    (taken : threads.step input = some next) : threads.Does input next := by
  cases input with
  | call thread closure =>
      change threads.call thread closure = some next at taken
      unfold call at taken
      split at taken
      next outside =>
        obtain rfl := Option.some.inj taken
        exact .called thread closure outside
      · cases taken
  | push thread =>
      change threads.push thread = some next at taken
      unfold push at taken
      split at taken
      next closure pushing =>
        obtain ⟨⟨accepted, inbox⟩, pushed, rfl⟩ := Option.map_eq_some_iff.mp taken
        rcases BoundedQueue.push_eq_some sound.blocks pushed with
          ⟨closed, _, rfl⟩ | ⟨isOpen, _, _, rfl⟩
        · exact .refused thread closure pushing closed
        · exact .queued thread closure pushing isOpen
      · cases taken
  | leave thread =>
      change threads.leave thread = some next at taken
      unfold leave at taken
      split at taken
      next result answered =>
        obtain rfl := Option.some.inj taken
        exact .returned thread result answered
      · cases taken
  | controller =>
      change threads.loop = some next at taken
      unfold loop at taken
      split at taken
      next popping =>
        obtain ⟨⟨found, inbox⟩, popped, rfl⟩ := Option.map_eq_some_iff.mp taken
        rcases BoundedQueue.pop_eq_some popped with
          ⟨⟨thread, closure⟩, rfl, holds, same⟩ | ⟨rfl, empty, closed, rfl⟩
        · dsimp only
          rw [same]
          exact .popped thread closure inbox.items popping holds
        · exact .ended popping empty closed
      next thread closure running =>
        obtain rfl := Option.some.inj taken
        exact .ran thread closure running
      · cases taken
  | stop =>
      change threads.stop = some next at taken
      unfold stop at taken
      split at taken
      · obtain rfl := Option.some.inj taken
        exact .stopped threads.inbox.closed .joiningScan id
      · obtain rfl := Option.some.inj taken
        exact .stopped threads.inbox.closed .closing id
      · obtain rfl := Option.some.inj taken
        exact .stopped true .joiningThread fun _ => rfl
      · split at taken
        · obtain rfl := Option.some.inj taken
          exact .stopped threads.inbox.closed .stopped id
        · cases taken
      · cases taken

/-! ## One step -/

/-- A thread that has no closure there goes on; its answer is no promise to wait for. -/
theorem Sound.setCaller {threads : ControllerThreads} (sound : threads.Sound) {thread : Nat}
    (elsewhere : ∀ closure, threads.callers thread ≠ .waiting closure) (state : CallState) :
    (threads.setCaller thread state).Sound := by
  refine ⟨sound.blocks, ?_, sound.once, sound.exited⟩
  intro entry member
  have other := sound.not_pending elsewhere entry member
  change Function.update threads.callers thread state entry.1 = _
  rw [Function.update_of_ne other]
  exact sound.owned entry member

theorem pending_queue (threads : ControllerThreads) (entry : Nat × Closure) (thread : Nat)
    (state : CallState) :
    ((threads.queue entry).setCaller thread state).pending = threads.pending ++ [entry] := by
  unfold pending setCaller queue
  cases threads.thread <;> rfl

theorem pending_of_popping {threads : ControllerThreads} (popping : threads.thread = .popping) :
    threads.pending = threads.inbox.items := by
  unfold pending
  rw [popping]

theorem pending_of_running {threads : ControllerThreads} {thread : Nat} {closure : Closure}
    (running : threads.thread = .running thread closure) :
    threads.pending = (thread, closure) :: threads.inbox.items := by
  unfold pending
  rw [running]

theorem sound_step {threads next : ControllerThreads} {input : Input} (sound : threads.Sound)
    (taken : threads.step input = some next) : next.Sound := by
  cases does_step sound taken with
  | called thread closure outside => exact sound.setCaller (by simp [outside]) _
  | queued thread closure pushing isOpen =>
      have elsewhere : ∀ entry ∈ threads.pending, entry.1 ≠ thread :=
        sound.not_pending (by simp [pushing])
      have alive : threads.thread ≠ .exited := by
        intro exited
        rw [(sound.exited exited).2] at isOpen
        cases isOpen
      refine ⟨sound.blocks, ?_, ?_, fun exited => absurd exited alive⟩
      · intro entry member
        rw [pending_queue] at member
        rcases List.mem_append.mp member with before | last
        · exact (Function.update_of_ne (elsewhere entry before) _ _).trans
            (sound.owned entry before)
        · obtain rfl := List.mem_singleton.mp last
          exact Function.update_self _ _ _
      · rw [pending_queue, List.map_append]
        refine List.nodup_append.mpr ⟨sound.once, by simp, ?_⟩
        intro first member second last
        obtain ⟨entry, before, rfl⟩ := List.mem_map.mp member
        obtain rfl : second = thread := by simpa using last
        exact elsewhere entry before
  | refused thread closure pushing closed => exact sound.setCaller (by simp [pushing]) _
  | returned thread result answered => exact sound.setCaller (by simp [answered]) _
  | popped thread closure items popping holds =>
      have owned := sound.owned
      have once := sound.once
      rw [pending_of_popping popping, holds] at owned once
      exact ⟨sound.blocks, owned, once, nofun⟩
  | ended popping empty closed =>
      have owned := sound.owned
      have once := sound.once
      rw [pending_of_popping popping] at owned once
      exact ⟨sound.blocks, owned, once, fun _ => ⟨empty, closed⟩⟩
  | ran thread closure running =>
      have owned := sound.owned
      have once := sound.once
      rw [pending_of_running running] at owned once
      rw [List.map_cons, List.nodup_cons] at once
      refine ⟨sound.blocks, ?_, once.2, nofun⟩
      intro entry (member : entry ∈ threads.inbox.items)
      have other : entry.1 ≠ thread := by
        rintro rfl
        exact once.1 (List.mem_map.mpr ⟨entry, member, rfl⟩)
      exact (Function.update_of_ne other _ _).trans (owned entry (List.mem_cons_of_mem _ member))
  | stopped closed stopper stays =>
      exact ⟨sound.blocks, sound.owned, sound.once,
        fun exited => ⟨(sound.exited exited).1, stays (sound.exited exited).2⟩⟩

/-- A thread that goes on without waiting takes no closure with it. -/
theorem Kept.setCaller {threads : ControllerThreads} (kept : threads.Kept) (thread : Nat)
    {state : CallState} (free : ∀ closure, state ≠ .waiting closure) :
    (threads.setCaller thread state).Kept := by
  intro other closure waits
  change Function.update threads.callers thread state other = _ at waits
  by_cases same : other = thread
  · rw [same, Function.update_self] at waits
    exact absurd waits (free closure)
  · rw [Function.update_of_ne same] at waits
    exact kept other closure waits

/-- As long as no push is refused, every waiting thread has its closure with the controller. -/
theorem kept_step {threads next : ControllerThreads} {input : Input} (sound : threads.Sound)
    (kept : threads.Kept) (accepts : threads.refuses input = false)
    (taken : threads.step input = some next) : next.Kept := by
  cases does_step sound taken with
  | called thread closure outside => exact kept.setCaller thread nofun
  | queued thread closure pushing isOpen =>
      intro other waited waits
      change Function.update threads.callers thread _ other = _ at waits
      rw [pending_queue, List.mem_append]
      by_cases same : other = thread
      · rw [same, Function.update_self] at waits
        obtain rfl := CallState.waiting.inj waits
        exact .inr (by simp [same])
      · rw [Function.update_of_ne same] at waits
        exact .inl (kept other waited waits)
  | refused thread closure pushing closed =>
      rw [refuses, closed] at accepts
      cases accepts
  | returned thread result answered => exact kept.setCaller thread nofun
  | popped thread closure items popping holds =>
      intro other waited waits
      have member := kept other waited waits
      rwa [pending_of_popping popping, holds] at member
  | ended popping empty closed =>
      intro other waited waits
      have member := kept other waited waits
      rwa [pending_of_popping popping] at member
  | ran thread closure running =>
      intro other waited waits
      change Function.update threads.callers thread _ other = _ at waits
      by_cases same : other = thread
      · rw [same, Function.update_self] at waits
        cases waits
      · rw [Function.update_of_ne same] at waits
        have member := kept other waited waits
        rw [pending_of_running running, List.mem_cons] at member
        refine member.resolve_left fun equal => same ?_
        exact congrArg Prod.fst equal
  | stopped closed stopper stays => exact kept

/-- After a refused push the thread waits for a promise that nobody keeps. -/
theorem not_kept_of_refused {threads next : ControllerThreads} {input : Input}
    (sound : threads.Sound) (refused : threads.refuses input = true)
    (taken : threads.step input = some next) : ¬ next.Kept := by
  intro kept
  cases does_step sound taken with
  | queued thread closure pushing isOpen =>
      rw [refuses, isOpen] at refused
      cases refused
  | refused thread closure pushing closed =>
      have member : (thread, closure) ∈ threads.pending :=
        kept thread closure (Function.update_self _ _ _)
      have waits := sound.owned _ member
      rw [pushing] at waits
      cases waits
  | _ => cases refused

/-! ## Runs -/

/--
What is promised to the callers: a thread that waits for its answer has its closure
in the inbox or with the controller thread, and once the controller thread has
ended nobody waits.
-/
structure Promised (threads : ControllerThreads) : Prop where
  served : ∀ thread closure, threads.callers thread = .waiting closure →
    (thread, closure) ∈ threads.inbox.items ∨ threads.thread = .running thread closure
  ended : threads.thread = .exited → ∀ thread closure, threads.callers thread ≠ .waiting closure

theorem mem_pending_iff {threads : ControllerThreads} {thread : Nat} {closure : Closure} :
    (thread, closure) ∈ threads.pending ↔
      (thread, closure) ∈ threads.inbox.items ∨ threads.thread = .running thread closure := by
  unfold pending
  cases state : threads.thread with
  | popping => simp
  | exited => simp
  | running other run =>
      simp only [List.mem_cons, Prod.mk.injEq, ControllerThread.running.injEq]
      rw [or_comm, eq_comm, @eq_comm _ closure]

theorem promised_iff_kept {threads : ControllerThreads} (sound : threads.Sound) :
    threads.Promised ↔ threads.Kept := by
  constructor
  · intro promised thread closure waits
    exact mem_pending_iff.mpr (promised.served thread closure waits)
  · intro kept
    refine ⟨fun thread closure waits => mem_pending_iff.mp (kept thread closure waits), ?_⟩
    intro exited thread closure waits
    have member := mem_pending_iff.mp (kept thread closure waits)
    rw [(sound.exited exited).1, exited] at member
    simp at member

theorem sound_of_run {inputs : List Input} {threads : ControllerThreads}
    (reached : run step fresh inputs = some threads) : threads.Sound :=
  invariant Sound sound_step sound_fresh reached

/--
In a run of callers, controller thread and `stop` the promise to the callers is kept
in every state if and only if no closure is pushed to the closed inbox.
-/
theorem callers_served_iff (inputs : List Input) (threads : ControllerThreads)
    (reached : run step fresh inputs = some threads) :
    (∀ before after state, inputs = before ++ after → run step fresh before = some state →
        state.Promised) ↔
      Meets step (fun state input => state.refuses input = false) fresh inputs := by
  constructor
  · intro promised before input after state split front
    refine Bool.eq_false_iff.mpr fun refused => ?_
    have sound := sound_of_run front
    -- The push is taken, so the state after it is one of the run.
    rw [split, run_append, front, Option.bind_some, run_cons] at reached
    obtain ⟨next, taken, _⟩ := Option.bind_eq_some_iff.mp reached
    have later : run step fresh (before ++ [input]) = some next := by
      rw [run_concat, front]
      exact taken
    have kept := (promised_iff_kept (sound_of_run later)).mp
      (promised (before ++ [input]) after next (by simp [split]) later)
    exact not_kept_of_refused sound refused taken kept
  · rintro accepts before after state rfl front
    obtain ⟨sound, kept⟩ := invariant_of_meets
      (fun state input => refuses state input = false)
      (fun threads : ControllerThreads => threads.Sound ∧ threads.Kept)
      (fun held met taken => ⟨sound_step held.1 taken, kept_step held.1 held.2 met taken⟩)
      ⟨sound_fresh, kept_fresh⟩ accepts.front front
    exact (promised_iff_kept sound).mpr kept

/-- The controller is stopped, and then a thread submits a command. -/
def lateInputs : List Input :=
  [.stop, .stop, .stop, .controller, .stop, .call 0 (.command ⟨.stop, .ui⟩), .push 0]

/-- The inbox is closed, the controller thread has ended, and the caller waits for ever. -/
theorem late_caller_waits_for_ever :
    ∃ threads, run step fresh lateInputs = some threads ∧ threads.thread = .exited ∧
      threads.stopper = .stopped ∧ threads.inbox.items = [] ∧
      threads.callers 0 = .waiting (.command ⟨.stop, .ui⟩) := by
  have checked : (run step fresh lateInputs).any (fun threads =>
      threads.thread = .exited ∧ threads.stopper = .stopped ∧ threads.inbox.items = [] ∧
        threads.callers 0 = .waiting (.command ⟨.stop, .ui⟩)) = true := by decide
  obtain ⟨threads, reached, facts⟩ := (Option.any_eq_true _ _).mp checked
  exact ⟨threads, reached, of_decide_eq_true facts⟩

/-- A command is in the inbox when it is closed; it is answered before the thread ends. -/
def timelyInputs : List Input :=
  [.call 0 (.command ⟨.stop, .ui⟩), .push 0, .stop, .stop, .stop, .controller, .controller,
    .controller, .stop, .leave 0]

theorem callers_served_iff_timely :
    ∃ threads, run step fresh timelyInputs = some threads ∧ threads.thread = .exited ∧
      threads.Promised := by
  have checked : (run (guarded step fun state input => state.refuses input = false) fresh
      timelyInputs).any (fun threads => threads.thread = .exited) = true := by decide
  obtain ⟨threads, guarded, facts⟩ := (Option.any_eq_true _ _).mp checked
  obtain ⟨reached, accepts⟩ := run_of_guarded guarded
  exact ⟨threads, reached, of_decide_eq_true facts,
    (callers_served_iff timelyInputs threads reached).mpr accepts timelyInputs [] threads
      (by simp) reached⟩

end ControllerThreads

end Ssim.Core
