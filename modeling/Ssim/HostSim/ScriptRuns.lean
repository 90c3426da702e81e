import Ssim.HostSim.Conversation
import Mathlib.Data.List.Perm.Basic

/-!
# The verdict of a script

What the commands of a script do, as a run of small steps: a moment that passes, a
frame written, a message taken from the queue, the end of a connection.

A script that passes has met its expectations one after the other, each with messages
of its own.  No message is lost, made up or taken twice, and what is still queued keeps
its order.  A polite script, which leaves the answers to auto-ack, has answered exactly
what it has read.
-/

namespace Ssim.HostSim

open Core (Text Result Error)
open Gem Hsms Secs2

/-! ## What a script reads -/

/-- The entry of the queue that a frame becomes. -/
def receivedOf (frame : Frame) : Option Received :=
  if frame.header.stype ≠ 0 then none
  else
    match toMessage frame with
    | .error _ => none
    | .ok message => some ⟨frame, message⟩

/-- The frames that a client reads as the moments pass. -/
def HostClient.reads (client : HostClient) : List Moment → List Frame
  | [] => []
  | .arrival arrival :: moments =>
      (client.read arrival).2.1 ++ (client.read arrival).2.2.reads moments
  | .clock _ :: moments => client.reads moments
  | .connection (.ok _) :: moments => HostClient.connected.reads moments
  | .connection (.error _) :: moments => HostClient.fresh.reads moments

/-- A read without frames leaves nothing to answer; frames come from an open socket. -/
theorem HostClient.read_frames {client : HostClient} {arrival : Arrival}
    (frames : (client.read arrival).2.1 ≠ []) : (client.read arrival).2.2.isOpen = true := by
  unfold read at frames ⊢
  cases alive : client.isAlive with
  | false => simp [alive] at frames
  | true =>
      have isOpen : client.isOpen = true := by
        unfold isAlive at alive
        exact (Bool.and_eq_true_iff.mp alive).1
      rw [alive] at frames
      cases arrival with
      | timeout => exact absurd rfl frames
      | failed => exact absurd rfl frames
      | bytes received =>
          simp only [Bool.not_true, Bool.false_eq_true, if_false]
          obtain ⟨found, decoder⟩ := client.decoder.feed received
          cases found <;> exact isOpen

namespace Runner

theorem onFrame_queue (runner : Runner) (frame : Frame) :
    (runner.onFrame frame).1.queue = runner.queue ++ (receivedOf frame).toList := by
  unfold onFrame receivedOf
  split
  · exact (List.append_nil _).symm
  · cases toMessage frame with
    | error reason => exact (List.append_nil _).symm
    | ok message => rfl

theorem onFrames_queue (runner : Runner) (frames : List Frame) :
    (runner.onFrames frames).1.queue = runner.queue ++ frames.filterMap receivedOf := by
  induction frames generalizing runner with
  | nil => exact (List.append_nil _).symm
  | cons frame frames ih =>
      have rest : (runner.onFrames (frame :: frames)).1.queue =
          (runner.onFrame frame).1.queue ++ frames.filterMap receivedOf := ih _
      rw [rest, onFrame_queue, List.append_assoc, List.filterMap_cons]
      cases receivedOf frame <;> rfl

theorem pump_client (runner : Runner) (arrival : Arrival) :
    (runner.pump arrival).1.client = (runner.client.read arrival).2.2 := by
  unfold pump
  dsimp only
  split <;> exact onFrames_client _ _

theorem pump_queue (runner : Runner) (arrival : Arrival) :
    (runner.pump arrival).1.queue =
      runner.queue ++ (runner.client.read arrival).2.1.filterMap receivedOf := by
  unfold pump
  dsimp only
  split <;> exact onFrames_queue _ _

theorem pump_autoAck (runner : Runner) (arrival : Arrival) :
    (runner.pump arrival).1.autoAck = runner.autoAck := by
  unfold pump
  dsimp only
  split <;> exact onFrames_autoAck _ _

theorem pump_sent {runner : Runner} (acks : runner.autoAck = true) (arrival : Arrival) :
    EncodesEach ((runner.client.read arrival).2.1.filterMap answerTo) (runner.pump arrival).2 := by
  have isOpen := @HostClient.read_frames runner.client arrival
  unfold pump
  dsimp only
  generalize (runner.client.read arrival).2.1 = frames at isOpen ⊢
  generalize (runner.client.read arrival).2.2 = client at isOpen ⊢
  cases frames with
  | nil => exact .nil
  | cons frame frames =>
      have answering := @onFrames_sent { runner with client := client }
      exact answering (isOpen (List.cons_ne_nil _ _)) acks _

end Runner

/-! ## Steps and runs -/

inductive HostEvent where
  | passed (moment : Moment) (sent : List (List UInt8))
  | wrote (sent : List (List UInt8))
  | took (message : Received)

namespace HostEvent

def sent : HostEvent → List (List UInt8)
  | passed _ sent => sent
  | wrote sent => sent
  | took _ => []

def moment? : HostEvent → Option Moment
  | passed moment _ => some moment
  | _ => none

def taken? : HostEvent → Option Received
  | took message => some message
  | _ => none

end HostEvent

/-- Only what the runner keeps for itself differs; auto-ack goes off in a free one alone. -/
structure Keeps (free : Prop) (runner middle : Runner) : Prop where
  client : middle.client = runner.client
  queue : middle.queue = runner.queue
  closed : middle.closed = runner.closed
  autoAck : middle.autoAck = runner.autoAck ∨ middle.autoAck = true ∨ free

/-- The steps of a runner; only a free one answers as it likes. -/
inductive HostRun (free : Prop) : Runner → List HostEvent → Runner → Prop where
  | done (runner : Runner) : HostRun free runner [] runner
  | pumped {runner next : Runner} {events : List HostEvent} (arrival : Arrival)
      (stillOpen : runner.closed = false)
      (rest : HostRun free (runner.pump arrival).1 events next) :
      HostRun free runner (.passed (.arrival arrival) (runner.pump arrival).2 :: events) next
  | clock {runner next : Runner} {events : List HostEvent} (late : Bool)
      (rest : HostRun free runner events next) :
      HostRun free runner (.passed (.clock late) [] :: events) next
  | connected {runner next : Runner} {events : List HostEvent}
      (rest : HostRun free
        { runner with client := .connected, closed := false, queue := [], control := [] }
        events next) :
      HostRun free runner (.passed (.connection (.ok ())) [] :: events) next
  | refused {runner next : Runner} {events : List HostEvent} (why : Text)
      (rest : HostRun free { runner with client := .fresh } events next) :
      HostRun free runner (.passed (.connection (.error why)) [] :: events) next
  | wrote {runner next : Runner} {events : List HostEvent} (frame : Frame)
      (own : isAnswer frame = false ∨ free) (rest : HostRun free runner events next) :
      HostRun free runner (.wrote (runner.written frame) :: events) next
  | wroteRaw {runner next : Runner} {events : List HostEvent} (sent : List (List UInt8))
      (permitted : free) (rest : HostRun free runner events next) :
      HostRun free runner (.wrote sent :: events) next
  | took {runner next : Runner} {events : List HostEvent} {message : Received}
      {queue : List Received} (suits : Received → Bool)
      (found : takeFirst suits runner.queue = some (message, queue))
      (rest : HostRun free { runner with queue := queue } events next) :
      HostRun free runner (.took message :: events) next
  /-- System bytes, control messages and what an assertion looks at. -/
  | noted {runner middle next : Runner} {events : List HostEvent}
      (keeps : Keeps free runner middle) (rest : HostRun free middle events next) :
      HostRun free runner events next
  | disconnected {runner next : Runner} {events : List HostEvent}
      (rest : HostRun free { runner with client := runner.client.close, closed := true }
        events next) : HostRun free runner events next

theorem HostRun.trans {free : Prop} {runner middle next : Runner} {events later : List HostEvent}
    (first : HostRun free runner events middle) (second : HostRun free middle later next) :
    HostRun free runner (events ++ later) next := by
  induction first with
  | done => exact second
  | pumped arrival stillOpen _ ih => exact .pumped arrival stillOpen (ih second)
  | clock late _ ih => exact .clock late (ih second)
  | connected _ ih => exact .connected (ih second)
  | refused why _ ih => exact .refused why (ih second)
  | wrote frame own _ ih => exact .wrote frame own (ih second)
  | wroteRaw sent permitted _ ih => exact .wroteRaw sent permitted (ih second)
  | took suits found _ ih => exact .took suits found (ih second)
  | noted keeps _ ih => exact .noted keeps (ih second)
  | disconnected _ ih => exact .disconnected (ih second)

/-! ## What a run leaves -/

/-- The client that reads the moments is that of the runner, as long as it is used. -/
def Shows (runner : Runner) (client : HostClient) : Prop :=
  runner.client = client ∨ runner.closed = true

/-- What became of the messages that were queued and read, and what was answered. -/
structure Accounts (free : Prop) (runner : Runner) (client : HostClient) (events : List HostEvent)
    (next : Runner) : Prop where
  kept : ∃ dropped, (events.filterMap HostEvent.taken? ++ dropped ++ next.queue).Perm
      (runner.queue ++ (client.reads (events.filterMap HostEvent.moment?)).filterMap receivedOf) ∧
    ((∀ outcome, Moment.connection outcome ∉ events.filterMap HostEvent.moment?) → dropped = [])
  order : next.queue.Sublist
    (runner.queue ++ (client.reads (events.filterMap HostEvent.moment?)).filterMap receivedOf)
  answers : ¬ free → runner.autoAck = true → ∃ written,
    EncodesEach written (events.flatMap HostEvent.sent) ∧
      written.filter isAnswer =
        (client.reads (events.filterMap HostEvent.moment?)).filterMap answerTo

theorem takeFirst_perm {α : Type} {suits : α → Bool} {entries rest : List α} {entry : α}
    (found : takeFirst suits entries = some (entry, rest)) : (entry :: rest).Perm entries := by
  induction entries generalizing rest with
  | nil => cases found
  | cons other entries ih =>
      unfold takeFirst at found
      split at found
      · obtain ⟨rfl, rfl⟩ := Prod.mk.inj (Option.some.inj found)
        exact .refl _
      · obtain ⟨⟨first, others⟩, later, same⟩ := Option.map_eq_some_iff.mp found
        obtain ⟨rfl, rfl⟩ := Prod.mk.inj same
        exact (List.Perm.swap _ _ _).trans ((ih later).cons other)

theorem takeFirst_sublist {α : Type} {suits : α → Bool} {entries rest : List α} {entry : α}
    (found : takeFirst suits entries = some (entry, rest)) : rest.Sublist entries := by
  induction entries generalizing rest with
  | nil => cases found
  | cons other entries ih =>
      unfold takeFirst at found
      split at found
      · obtain ⟨rfl, rfl⟩ := Prod.mk.inj (Option.some.inj found)
        exact List.sublist_cons_self _ _
      · obtain ⟨⟨first, others⟩, later, same⟩ := Option.map_eq_some_iff.mp found
        obtain ⟨rfl, rfl⟩ := Prod.mk.inj same
        exact (ih later).cons_cons other

namespace Accounts

variable {free : Prop} {runner middle next : Runner} {client : HostClient}
  {events : List HostEvent}

theorem done (runner : Runner) (client : HostClient) : Accounts free runner client [] runner where
  kept := ⟨[], by simp [HostClient.reads], fun _ => rfl⟩
  order := by simp [HostClient.reads]
  answers := fun _ _ => ⟨[], .nil, rfl⟩

theorem pumped {arrival : Arrival}
    (rest : Accounts free (runner.pump arrival).1 (runner.client.read arrival).2.2 events next) :
    Accounts free runner runner.client
      (.passed (.arrival arrival) (runner.pump arrival).2 :: events) next := by
  obtain ⟨⟨dropped, perm, none⟩, order, answers⟩ := rest
  rw [Runner.pump_queue] at perm order
  have reads : runner.client.reads (.arrival arrival :: events.filterMap HostEvent.moment?) =
      (runner.client.read arrival).2.1 ++
        (runner.client.read arrival).2.2.reads (events.filterMap HostEvent.moment?) := rfl
  refine ⟨⟨dropped, ?_, fun quiet => none fun outcome member => ?_⟩, ?_, fun polite acks => ?_⟩
  · simp only [HostEvent.moment?, HostEvent.taken?, List.filterMap_cons, reads,
      List.filterMap_append, ← List.append_assoc]
    simpa using perm
  · exact quiet outcome (by simp [HostEvent.moment?, member])
  · simp only [HostEvent.moment?, List.filterMap_cons, reads, List.filterMap_append,
      ← List.append_assoc]
    exact order
  · obtain ⟨written, encoded, answered⟩ := answers polite ((Runner.pump_autoAck _ _).trans acks)
    refine ⟨_, (Runner.pump_sent acks arrival).append encoded, ?_⟩
    rw [List.filter_append, answered]
    simp only [HostEvent.moment?, List.filterMap_cons, reads, List.filterMap_append]
    congr 1
    refine List.filter_eq_self.mpr fun answer member => ?_
    obtain ⟨frame, -, answered⟩ := List.mem_filterMap.mp member
    exact isAnswer_of_answerTo answered

/-- A moment that brings no frames, on the same connection. -/
theorem clock {late : Bool} (rest : Accounts free runner client events next) :
    Accounts free runner client (.passed (.clock late) [] :: events) next := by
  obtain ⟨⟨dropped, perm, none⟩, order, answers⟩ := rest
  refine ⟨⟨dropped, perm, fun quiet => none fun outcome member => ?_⟩, order, answers⟩
  exact quiet outcome (by simp [HostEvent.moment?, member])

/-- With a new connection, or none, what is queued may be dropped. -/
theorem connection {outcome : Except Text Unit} {fresh : HostClient}
    (rest : Accounts free middle fresh events next)
    (reads : ∀ moments, client.reads (.connection outcome :: moments) = fresh.reads moments)
    (queue : middle.queue = [] ∨ middle.queue = runner.queue)
    (autoAck : middle.autoAck = runner.autoAck) :
    Accounts free runner client (.passed (.connection outcome) [] :: events) next := by
  obtain ⟨⟨dropped, perm, none⟩, order, answers⟩ := rest
  have moments : (HostEvent.passed (.connection outcome) [] :: events).filterMap
      HostEvent.moment? = .connection outcome :: events.filterMap HostEvent.moment? := rfl
  have noisy : ¬ ∀ other, Moment.connection other ∉
      (HostEvent.passed (.connection outcome) [] :: events).filterMap HostEvent.moment? := by
    intro quiet
    exact quiet outcome (by simp [moments])
  refine ⟨?_, ?_, fun polite acks => ?_⟩
  · simp only [moments, reads] at noisy ⊢
    rcases queue with none | same
    · rw [none, List.nil_append] at perm
      refine ⟨runner.queue ++ dropped, ?_, fun quiet => absurd quiet noisy⟩
      refine .trans ?_ (perm.append_left runner.queue)
      simp only [HostEvent.taken?, List.filterMap_cons, List.append_assoc]
      exact List.perm_append_comm_assoc _ _ _
    · rw [same] at perm
      exact ⟨dropped, perm, fun quiet => absurd quiet noisy⟩
  · rw [moments, reads]
    rcases queue with none | same
    · rw [none, List.nil_append] at order
      exact order.trans (List.sublist_append_right _ _)
    · rwa [same] at order
  · rw [moments, reads]
    exact answers polite (autoAck.trans acks)

theorem wrote {frame : Frame} (own : isAnswer frame = false ∨ free)
    (rest : Accounts free runner client events next) :
    Accounts free runner client (.wrote (runner.written frame) :: events) next := by
  obtain ⟨kept, order, answers⟩ := rest
  refine ⟨kept, order, fun polite acks => ?_⟩
  obtain ⟨written, encoded, answered⟩ := answers polite acks
  rcases runner.written_encodes frame with silent | ⟨bytes, framed, sent⟩
  · refine ⟨written, ?_, answered⟩
    simp only [List.flatMap_cons, HostEvent.sent, silent, List.nil_append]
    exact encoded
  · refine ⟨frame :: written, ?_, ?_⟩
    · simp only [List.flatMap_cons, HostEvent.sent, sent, List.singleton_append]
      exact .cons framed encoded
    · have own := own.resolve_right polite
      simp only [List.filter_cons, own, Bool.false_eq_true, if_false]
      exact answered

theorem wroteRaw {sent : List (List UInt8)} (permitted : free)
    (rest : Accounts free runner client events next) :
    Accounts free runner client (.wrote sent :: events) next :=
  ⟨rest.kept, rest.order, fun polite => absurd permitted polite⟩

theorem took {suits : Received → Bool} {message : Received} {queue : List Received}
    (found : takeFirst suits runner.queue = some (message, queue))
    (rest : Accounts free { runner with queue := queue } client events next) :
    Accounts free runner client (.took message :: events) next := by
  obtain ⟨⟨dropped, perm, none⟩, order, answers⟩ := rest
  refine ⟨⟨dropped, ?_, none⟩, ?_, answers⟩
  · exact (perm.cons message).trans ((takeFirst_perm found).append_right _)
  · exact order.trans ((takeFirst_sublist found).append_right _)

/-- The books look at no more of a runner than its queue and auto-ack. -/
theorem noted (rest : Accounts free middle client events next)
    (queue : middle.queue = runner.queue)
    (autoAck : middle.autoAck = runner.autoAck ∨ middle.autoAck = true ∨ free) :
    Accounts free runner client events next := by
  obtain ⟨kept, order, answers⟩ := rest
  rw [queue] at kept order
  refine ⟨kept, order, fun polite acks => answers polite ?_⟩
  rcases autoAck with same | on | permitted
  · exact same.trans acks
  · exact on
  · exact absurd permitted polite

end Accounts

/-- The books of every run are in order. -/
theorem HostRun.accounts {free : Prop} {runner next : Runner} {events : List HostEvent}
    (run : HostRun free runner events next) {client : HostClient} (shows : Shows runner client) :
    Accounts free runner client events next := by
  induction run generalizing client with
  | done runner => exact .done runner client
  | pumped arrival stillOpen _ ih =>
      rcases shows with rfl | closed
      · exact .pumped (ih (.inl (Runner.pump_client _ _)))
      · rw [stillOpen] at closed
        cases closed
  | clock late _ ih => exact .clock (ih shows)
  | connected _ ih => exact .connection (ih (.inl rfl)) (fun _ => rfl) (.inl rfl) rfl
  | refused why _ ih => exact .connection (ih (.inl rfl)) (fun _ => rfl) (.inr rfl) rfl
  | wrote frame own _ ih => exact .wrote own (ih shows)
  | wroteRaw sent permitted _ ih => exact .wroteRaw permitted (ih shows)
  | took suits found _ ih => exact .took found (ih shows)
  | noted keeps _ ih =>
      refine .noted (ih ?_) keeps.queue keeps.autoAck
      rw [Shows, keeps.client, keeps.closed]
      exact shows
  | disconnected _ ih => exact .noted (ih (.inr rfl)) rfl (.inl rfl)

/-! ## Outcomes -/

/-- The outcome is that of a run, and what the run took explains its verdict. -/
def Outcome.Reached {α : Type} (free : Prop) (explains : Verdict α → List Received → Prop)
    (runner : Runner) (moments : List Moment) (outcome : Outcome α) : Prop :=
  ∃ events, moments = events.filterMap HostEvent.moment? ++ outcome.rest ∧
    HostRun free runner events outcome.runner ∧
    outcome.sent = events.flatMap HostEvent.sent ∧
    explains outcome.verdict (events.filterMap HostEvent.taken?)

/-- Only what was taken when all went well is explained. -/
def OnDone {α : Type} (meets : α → List Received → Prop) : Verdict α → List Received → Prop
  | .done value, taken => meets value taken
  | _, _ => True

theorem OnDone.imp {α : Type} {meets others : α → List Received → Prop} {verdict : Verdict α}
    {taken : List Received} (explained : OnDone meets verdict taken)
    (implied : ∀ value, meets value taken → others value taken) :
    OnDone others verdict taken := by
  cases verdict with
  | done value => exact implied value explained
  | failed why => trivial
  | waiting => trivial

namespace Outcome

variable {free : Prop} {α β : Type} {explains others : Verdict α → List Received → Prop}
  {runner middle : Runner} {moments : List Moment} {outcome : Outcome α}

/-- Nothing happens. -/
theorem Reached.still {verdict : Verdict α} (explained : explains verdict []) :
    Reached free explains runner moments ⟨verdict, runner, [], moments⟩ :=
  ⟨[], rfl, .done runner, rfl, explained⟩

theorem Reached.imp (reached : outcome.Reached free explains runner moments)
    (implied : ∀ taken, explains outcome.verdict taken → others outcome.verdict taken) :
    outcome.Reached free others runner moments := by
  obtain ⟨events, passed, run, sent, explained⟩ := reached
  exact ⟨events, passed, run, sent, implied _ explained⟩

theorem Reached.clock {late : Bool} (reached : outcome.Reached free explains runner moments) :
    outcome.Reached free explains runner (.clock late :: moments) := by
  obtain ⟨events, rfl, run, sent, explained⟩ := reached
  exact ⟨_, rfl, .clock late run, sent, explained⟩

theorem Reached.pumped {arrival : Arrival} (stillOpen : runner.closed = false)
    (reached : outcome.Reached free explains (runner.pump arrival).1 moments) :
    (outcome.after (runner.pump arrival).2).Reached free explains runner
      (.arrival arrival :: moments) := by
  obtain ⟨events, rfl, run, sent, explained⟩ := reached
  refine ⟨_, rfl, .pumped arrival stillOpen run, ?_, explained⟩
  simp [after, sent, HostEvent.sent]

theorem Reached.noted (keeps : Keeps free runner middle)
    (reached : outcome.Reached free explains middle moments) :
    outcome.Reached free explains runner moments := by
  obtain ⟨events, passed, run, sent, explained⟩ := reached
  exact ⟨events, passed, .noted keeps run, sent, explained⟩

/-- What the runner keeps for itself changes, and nothing else. -/
theorem Reached.kept {verdict : Verdict α} (keeps : Keeps free runner middle)
    (explained : explains verdict []) :
    Reached free explains runner moments ⟨verdict, middle, [], moments⟩ :=
  .noted keeps (.still explained)

theorem Reached.took {verdict : Verdict α} {suits : Received → Bool} {message : Received}
    {queue : List Received} (found : takeFirst suits runner.queue = some (message, queue))
    (explained : explains verdict [message]) :
    Reached free explains runner moments
      ⟨verdict, { runner with queue := queue }, [], moments⟩ :=
  ⟨_, rfl, .took suits found (.done _), rfl, explained⟩

theorem Reached.ite {condition : Prop} [Decidable condition] {left right : Outcome α}
    (leftReached : condition → left.Reached free explains runner moments)
    (rightReached : ¬ condition → right.Reached free explains runner moments) :
    (if condition then left else right).Reached free explains runner moments := by
  split
  next holds => exact leftReached holds
  next fails => exact rightReached fails

theorem Reached.andThen {first : α → List Received → Prop} {whole : β → List Received → Prop}
    {next : α → Runner → List Moment → Outcome β}
    (reached : outcome.Reached free (OnDone first) runner moments)
    (continued : ∀ value taken, first value taken → ∀ runner moments,
      (next value runner moments).Reached free
        (OnDone fun result more => whole result (taken ++ more)) runner moments) :
    (outcome.andThen next).Reached free (OnDone whole) runner moments := by
  unfold Outcome.andThen
  obtain ⟨events, passed, run, sent, explained⟩ := reached
  cases verdict : outcome.verdict with
  | done value =>
      rw [verdict] at explained
      obtain ⟨later, rest, onward, written, alsoExplained⟩ :=
        continued value _ explained outcome.runner outcome.rest
      refine ⟨events ++ later, ?_, run.trans onward, ?_, ?_⟩
      · rw [List.filterMap_append]
        exact (passed.trans (congrArg (_ ++ ·) rest)).trans (List.append_assoc _ _ _).symm
      · simp [after, sent, written]
      · rw [List.filterMap_append]
        dsimp only [after]
        generalize (next value outcome.runner outcome.rest).verdict = last at alsoExplained ⊢
        cases last <;> exact alsoExplained
  | failed why => exact ⟨events, passed, run, sent, trivial⟩
  | waiting => exact ⟨events, passed, run, sent, trivial⟩

end Outcome

namespace Runner

variable {free : Prop} {runner : Runner} {moments : List Moment}

/-! ## Waits -/

end Runner

section Meaning

variable (comparisons : Comparisons)

/-- What a command that succeeds has taken. -/
def Action.Meets : Action → List Received → Prop
  | .expect stream function pattern _, taken =>
      ∃ received, taken = [received] ∧ Runner.isMessage stream function received = true ∧
        Runner.matchesBody pattern received.message = true
  | .waitEvent id filters _, taken =>
      ∃ received event, taken = [received] ∧
        Runner.eventOf comparisons id filters received = some event
  | .waitAlarm id set _, taken =>
      ∃ received alarm, taken = [received] ∧ Runner.alarmOf id set received = some alarm
  | .expectStatus _ pattern _, taken =>
      ∃ earlier received value wanted, taken = earlier ++ [received] ∧
        received.message.stream = 1 ∧ received.message.function = 4 ∧
        Runner.statusValue received = some value ∧ pattern = some wanted ∧
        matchesItem wanted value = true
  | _, taken => taken = []

/-- Commands that all succeeded, one after the other, each with messages of its own. -/
inductive Passed : List Command → List Received → Prop where
  | done : Passed [] []
  | command {command : Command} {commands : List Command} {taken more : List Received}
      (meets : command.action.Meets comparisons taken) (rest : Passed commands more) :
      Passed (command :: commands) (taken ++ more)

end Meaning

namespace Runner

variable {free : Prop} {runner : Runner} {moments : List Moment}

/-- Why a run ended as it did: all commands passed, or those before the one that failed. -/
def Explained (comparisons : Comparisons) (commands : List Command) (result : RunResult)
    (taken : List Received) : Prop :=
  if result.ok then Passed comparisons commands taken
  else ∃ before command after why early late, commands = before ++ command :: after ∧
    result.failedLine = command.line ∧ result.message = command.text ++ text ": " ++ why ∧
    taken = early ++ late ∧ Passed comparisons before early

theorem Explained.cons {comparisons : Comparisons} {command : Command} {commands : List Command}
    {result : RunResult} {taken more : List Received}
    (meets : command.action.Meets comparisons taken)
    (explained : Explained comparisons commands result more) :
    Explained comparisons (command :: commands) result (taken ++ more) := by
  unfold Explained at explained ⊢
  split at explained
  next ok =>
    rw [if_pos ok]
    exact .command meets explained
  next failed =>
    rw [if_neg failed]
    obtain ⟨before, failing, after, why, early, late, rfl, line, message, rfl, passed⟩ := explained
    exact ⟨command :: before, failing, after, why, taken ++ early, late, rfl, line, message,
      (List.append_assoc _ _ _).symm, .command meets passed⟩

end Runner

end Ssim.HostSim
