import Mathlib.Logic.Function.Basic
import Ssim.Core.Queue
import Ssim.Library.Runs

/-!
# The logger

Any thread hands records to a bounded queue that drops what does not fit, and one thread writes
them to a file.  A file that has become too long is renamed and a new one is begun.  Every record
that the queue took ends up in the files, once and in order, whatever the threads do in between.
-/

namespace Ssim.Core

open Library Runs

inductive LogFile where
  | path
  /-- The path with a dot and the number after it. -/
  | rotated (index : Nat)
  deriving Repr, DecidableEq

theorem LogFile.rotated_ne_path (index : Nat) : LogFile.rotated index ≠ .path := by
  simp

structure LoggerConfig where
  queueCapacity : Nat
  rotateBytes : Nat
  deriving Repr, DecidableEq

/-- The thread that the logger owns. -/
inductive LogWriter (Record : Type) where
  | unstarted
  | popping
  | writing (record : Record)
  | ended
  deriving Repr, DecidableEq

inductive LogStop where
  | running
  /-- Has closed the queue and waits for the thread. -/
  | joining
  | stopped
  deriving Repr, DecidableEq

structure Logger (Record : Type) where
  config : LoggerConfig
  queue : BoundedQueue Record
  writer : LogWriter Record
  started : Bool
  stop : LogStop
  fileOpen : Bool
  /-- The contents of the files that there are. -/
  files : LogFile → Option (List UInt8)
  bytesWritten : Nat
  rotationIndex : Nat

inductive LogMove (Record : Type) where
  | log (record : Record)
  /-- Whether the file can be opened. -/
  | start (opens : Bool)
  | pop
  /-- Whether a file that is begun by this line can be opened. -/
  | write (opens : Bool)
  | stop
  | join
  deriving Repr, DecidableEq

namespace Logger

variable {Record : Type}

def fresh (config : LoggerConfig) (files : LogFile → Option (List UInt8)) : Logger Record where
  config := config
  queue := BoundedQueue.fresh config.queueCapacity .dropNewest
  writer := .unstarted
  started := false
  stop := .running
  fileOpen := false
  files := files
  bytesWritten := 0
  rotationIndex := 0

/-- Opens the path, to append to it. -/
def openFile (logger : Logger Record) (opens : Bool) : Logger Record :=
  { logger with
    fileOpen := opens
    files :=
      if opens then Function.update logger.files .path (some ((logger.files .path).getD []))
      else logger.files }

/-- The path takes another name, and with it the place of what had that name. -/
def rename (logger : Logger Record) (name : LogFile) : Logger Record :=
  { logger with
    files := Function.update (Function.update logger.files name (logger.files .path)) .path none }

def rotateIfNeeded (logger : Logger Record) (opens : Bool) : Logger Record :=
  if logger.bytesWritten < logger.config.rotateBytes then
    logger
  else
    let index := logger.rotationIndex + 1
    { ({ logger with rotationIndex := index }.rename (.rotated index)).openFile opens with
      bytesWritten := 0 }

/-- The record's text, from the JSON library, and the end of the line. -/
def line (dump : Record → List UInt8) (record : Record) : List UInt8 :=
  dump record ++ [10]

variable (dump : Record → List UInt8)

def writeLine (logger : Logger Record) (record : Record) (opens : Bool) : Logger Record :=
  if logger.fileOpen then
    rotateIfNeeded
      { logger with
        files := Function.update logger.files .path
          (some ((logger.files .path).getD [] ++ line dump record))
        bytesWritten := logger.bytesWritten + ((dump record).length + 1) } opens
  else
    logger

def step (logger : Logger Record) : LogMove Record → Option (Logger Record)
  | .log record =>
      (logger.queue.push record).map fun pushed => { logger with queue := pushed.2 }
  | .start opens =>
      if logger.started then some logger
      else some { logger.openFile opens with started := true, writer := .popping }
  | .pop =>
      match logger.writer with
      | .popping =>
          logger.queue.pop.map fun popped =>
            { logger with
              queue := popped.2
              writer := match popped.1 with
                | some record => .writing record
                | none => .ended }
      | _ => none
  | .write opens =>
      match logger.writer with
      | .writing record => some { logger.writeLine dump record opens with writer := .popping }
      | _ => none
  | .stop =>
      match logger.stop with
      | .running => some { logger with stop := .joining, queue := logger.queue.close }
      | _ => some logger
  | .join =>
      match logger.stop, logger.writer with
      | .joining, .unstarted | .joining, .ended =>
          some { logger with stop := .stopped, fileOpen := false }
      | _, _ => none

/-- The record that the queue takes in the move. -/
def takes (logger : Logger Record) : LogMove Record → List Record
  | .log record =>
      match logger.queue.push record with
      | some (true, _) => [record]
      | _ => []
  | _ => []

/-- The record that the queue does not take. -/
def refuses (logger : Logger Record) : LogMove Record → List Record
  | .log record =>
      match logger.queue.push record with
      | some (false, _) => [record]
      | _ => []
  | _ => []

end Logger

namespace LogMove

variable {Record : Type}

/-- A move that finds every file that it opens. -/
def opens : LogMove Record → Bool
  | start opens | write opens => opens
  | _ => true

def isLog : LogMove Record → Bool
  | log _ => true
  | _ => false

/-- A move of the logger's own thread, or the end of `stop`. -/
def drains : LogMove Record → Bool
  | pop | write _ | join => true
  | _ => false

end LogMove

/-! ## What is in the files -/

namespace LogWriter

variable {Record : Type}

/-- The record that the thread has taken and not written. -/
def inHand : LogWriter Record → List Record
  | writing record => [record]
  | _ => []

end LogWriter

namespace Logger

variable {Record : Type} (dump : Record → List UInt8)

def text (records : List Record) : List UInt8 :=
  records.flatMap (line dump)

theorem text_concat (records : List Record) (record : Record) :
    text dump (records ++ [record]) = text dump records ++ line dump record := by
  simp [text]

theorem length_line (record : Record) : (line dump record).length = (dump record).length + 1 := by
  simp [line]

/-- What a file of the log begins with: the first one continues what was there before. -/
def begins (before : LogFile → Option (List UInt8)) : Nat → List UInt8
  | 0 => (before .path).getD []
  | _ + 1 => []

/-- The last of the records has made the file too long. -/
structure JustFull (rotateBytes : Nat) (records : List Record) : Prop where
  full : rotateBytes ≤ (text dump records).length
  before : records.dropLast = [] ∨ (text dump records.dropLast).length < rotateBytes

/-- The records of each file: those of the rotated ones, and those of the path. -/
structure Written (before : LogFile → Option (List UInt8)) (parts : List (List Record))
    (last : List Record) (logger : Logger Record) : Prop where
  index : logger.rotationIndex = parts.length
  rotated : ∀ number part, parts[number]? = some part →
    logger.files (.rotated (number + 1)) = some (begins before number ++ text dump part)
  untouched : ∀ number, number = 0 ∨ parts.length < number →
    logger.files (.rotated number) = before (.rotated number)
  path : logger.started = true →
    logger.files .path = some (begins before parts.length ++ text dump last)
  unstarted : logger.started = false →
    logger.files .path = before .path ∧ parts = [] ∧ last = [] ∧ logger.writer = .unstarted
  full : ∀ part ∈ parts, JustFull dump logger.config.rotateBytes part
  bytes : logger.bytesWritten = (text dump last).length
  room : last = [] ∨ logger.bytesWritten < logger.config.rotateBytes

/-- What the queue took is in the files, in the hand of the thread, or still in the queue. -/
structure Keeps (config : LoggerConfig) (before : LogFile → Option (List UInt8))
    (taken : List Record) (parts : List (List Record)) (last : List Record)
    (logger : Logger Record) : Prop where
  config_eq : logger.config = config
  written : Written dump before parts last logger
  order : taken = parts.flatten ++ last ++ logger.writer.inHand ++ logger.queue.items
  drops : logger.queue.policy = .dropNewest
  isOpen : logger.writer = .popping ∨ (∃ record, logger.writer = .writing record) →
    logger.fileOpen = true
  ended : logger.writer = .ended → logger.queue.closed = true ∧ logger.queue.items = []
  closed : logger.stop ≠ .running → logger.queue.closed = true
  runs : logger.started = true → logger.writer ≠ .unstarted

section Steps

variable {dump} {config : LoggerConfig} {before : LogFile → Option (List UInt8)}
  {taken : List Record} {parts : List (List Record)} {last : List Record}
  {logger next : Logger Record}

/-- What the files hold does not depend on the queue, and on the thread only where it begins. -/
theorem Written.congr (written : Written dump before parts last logger)
    (config_eq : next.config = logger.config) (index : next.rotationIndex = logger.rotationIndex)
    (files : next.files = logger.files) (bytes : next.bytesWritten = logger.bytesWritten)
    (started : next.started = logger.started)
    (writer : logger.started = false → next.writer = logger.writer) :
    Written dump before parts last next where
  index := index.trans written.index
  rotated := files ▸ written.rotated
  untouched := files ▸ written.untouched
  path := fun isStarted => files ▸ written.path (started ▸ isStarted)
  unstarted := fun isUnstarted => by
    have same : logger.started = false := started ▸ isUnstarted
    obtain ⟨path, noParts, none, is⟩ := written.unstarted same
    exact ⟨files ▸ path, noParts, none, (writer same).trans is⟩
  full := config_eq ▸ written.full
  bytes := bytes.trans written.bytes
  room := by rw [bytes, config_eq]; exact written.room

/-- One more line is written, and the file is rotated if it has become too long. -/
theorem Written.writeLine (written : Written dump before parts last logger)
    (started : logger.started = true) (isOpen : logger.fileOpen = true) (record : Record) :
    ∃ newParts newLast,
      Written dump before newParts newLast (logger.writeLine dump record true) ∧
        newParts.flatten ++ newLast = parts.flatten ++ (last ++ [record]) := by
  have path := written.path started
  have bytes : logger.bytesWritten + ((dump record).length + 1) =
      (text dump (last ++ [record])).length := by
    rw [text_concat, List.length_append, length_line, written.bytes]
  simp only [Logger.writeLine, isOpen, if_true, path, Option.getD_some]
  unfold rotateIfNeeded
  split
  next room =>
    refine ⟨parts, last ++ [record], ?_, rfl⟩
    exact
      { index := written.index
        rotated := fun number part found => by
          rw [← written.rotated number part found]
          simp only [Function.update_of_ne (LogFile.rotated_ne_path _)]
        untouched := fun number far => by
          rw [← written.untouched number far]
          simp only [Function.update_of_ne (LogFile.rotated_ne_path _)]
        path := fun _ => by
          simp only [Function.update_self, text_concat, List.append_assoc]
        unstarted := fun isUnstarted => by simp [started] at isUnstarted
        full := written.full
        bytes := bytes
        room := .inr room }
  next full =>
    simp only at full
    refine ⟨parts ++ [last ++ [record]], [], ?_, by simp⟩
    exact
      { index := by simp [openFile, rename, written.index]
        rotated := fun number part found => by
          simp only [openFile, rename, if_true, written.index]
          by_cases isLast : number = parts.length
          · subst isLast
            obtain rfl : last ++ [record] = part := by simpa using found
            simp [text_concat]
          · have inside : number < parts.length := by
              have bound := (List.getElem?_eq_some_iff.mp found).1
              simp only [List.length_append, List.length_singleton] at bound
              omega
            rw [List.getElem?_append_left inside] at found
            rw [← written.rotated number part found]
            rw [Function.update_of_ne (by simp), Function.update_of_ne (by simp),
              Function.update_of_ne (by simp [isLast]), Function.update_of_ne (by simp)]
        untouched := fun number far => by
          simp only [List.length_append, List.length_singleton] at far
          simp only [openFile, rename, if_true, written.index]
          rw [← written.untouched number (by omega)]
          have different : number ≠ parts.length + 1 := by omega
          rw [Function.update_of_ne (by simp), Function.update_of_ne (by simp),
            Function.update_of_ne (by simp [different]), Function.update_of_ne (by simp)]
        path := fun _ => by simp [openFile, rename, begins, text]
        unstarted := fun isUnstarted => by simp [openFile, rename, started] at isUnstarted
        full := fun part isPart => by
          rcases List.mem_append.mp isPart with old | new
          · exact written.full part old
          · obtain rfl := List.mem_singleton.mp new
            refine ⟨?_, ?_⟩
            · rw [← bytes]
              exact Nat.not_lt.mp full
            · rw [List.dropLast_concat]
              exact written.room.imp_right fun room => written.bytes ▸ room
        bytes := rfl
        room := .inl rfl }

theorem Written.start (written : Written dump before parts last logger)
    (isUnstarted : logger.started = false) :
    Written dump before parts last
      { logger.openFile true with started := true, writer := .popping } := by
  obtain ⟨path, rfl, rfl, -⟩ := written.unstarted isUnstarted
  exact
    { index := written.index
      rotated := fun _ _ found => by simp at found
      untouched := fun number far => by
        rw [← written.untouched number far]
        simp only [openFile, if_true, Function.update_of_ne (LogFile.rotated_ne_path _)]
      path := fun _ => by simp [openFile, path, begins, text]
      unstarted := fun isUnstarted => by cases isUnstarted
      full := fun _ isPart => by simp at isPart
      bytes := written.bytes
      room := .inl rfl }

/-- The files of a thread that runs belong to a logger that has been started. -/
theorem Written.started_of (written : Written dump before parts last logger)
    (runs : logger.writer ≠ .unstarted) : logger.started = true := by
  by_contra isUnstarted
  exact runs (written.unstarted (by simpa using isUnstarted)).2.2.2

theorem Keeps.log (keeps : Keeps dump config before taken parts last logger) (record : Record)
    (stepped : logger.step dump (.log record) = some next) :
    Keeps dump config before (taken ++ logger.takes (.log record)) parts last next := by
  obtain ⟨⟨accepted, queue⟩, pushed, rfl⟩ := Option.map_eq_some_iff.mp stepped
  have written : Written dump before parts last { logger with queue := queue } :=
    keeps.written.congr rfl rfl rfl rfl rfl fun _ => rfl
  simp only [takes, pushed]
  unfold BoundedQueue.push at pushed
  split at pushed
  · obtain ⟨rfl, rfl⟩ := Prod.mk.inj (Option.some.inj pushed)
    exact ⟨keeps.config_eq, written, by simpa using keeps.order, keeps.drops, keeps.isOpen,
      keeps.ended, keeps.closed, keeps.runs⟩
  next isOpen =>
    split at pushed
    · split at pushed
      · obtain ⟨rfl, rfl⟩ := Prod.mk.inj (Option.some.inj pushed)
        exact ⟨keeps.config_eq, written, by simpa using keeps.order, keeps.drops, keeps.isOpen,
          keeps.ended, keeps.closed, keeps.runs⟩
      · cases pushed
    · obtain ⟨rfl, rfl⟩ := Prod.mk.inj (Option.some.inj pushed)
      refine ⟨keeps.config_eq, written, ?_, keeps.drops, keeps.isOpen,
        fun ended => absurd (keeps.ended ended).1 isOpen, keeps.closed, keeps.runs⟩
      simp only [keeps.order, List.append_assoc]

theorem Keeps.pop (keeps : Keeps dump config before taken parts last logger)
    (stepped : logger.step dump .pop = some next) :
    Keeps dump config before taken parts last next := by
  simp only [step] at stepped
  split at stepped
  next popping =>
    obtain ⟨⟨found, queue⟩, popped, rfl⟩ := Option.map_eq_some_iff.mp stepped
    have order := keeps.order
    simp only [popping, LogWriter.inHand, List.append_nil] at order
    have started : logger.started = true :=
      keeps.written.started_of (by simp [popping])
    have written (writer : LogWriter Record) :
        Written dump before parts last { logger with queue := queue, writer := writer } :=
      keeps.written.congr rfl rfl rfl rfl rfl fun isUnstarted => by
        rw [started] at isUnstarted
        cases isUnstarted
    obtain ⟨record, rfl, first, changed⟩ | ⟨rfl, empty, isClosed, rfl⟩ :=
      BoundedQueue.pop_eq_some popped
    · refine ⟨keeps.config_eq, written _, ?_, ?_, fun _ => keeps.isOpen (.inl popping),
        fun ended => (by cases ended), fun stops => ?_, fun _ => by simp⟩
      · simp only [order, first, LogWriter.inHand, List.append_assoc, List.singleton_append]
      · rw [changed]
        exact keeps.drops
      · rw [changed]
        exact keeps.closed stops
    · refine ⟨keeps.config_eq, written _, ?_, keeps.drops, ?_, fun _ => ⟨isClosed, empty⟩,
        keeps.closed, fun _ => by simp⟩
      · simp only [order, LogWriter.inHand, List.append_nil]
      · rintro (busy | ⟨_, busy⟩) <;> cases busy
  · cases stepped

theorem rotateIfNeeded_frame (logger : Logger Record) (opens : Bool) :
    (logger.rotateIfNeeded opens).config = logger.config ∧
      (logger.rotateIfNeeded opens).queue = logger.queue ∧
      (logger.rotateIfNeeded opens).stop = logger.stop ∧
      (logger.rotateIfNeeded opens).started = logger.started ∧
      (logger.fileOpen = true → opens = true →
        (logger.rotateIfNeeded opens).fileOpen = true) := by
  unfold rotateIfNeeded
  split
  · exact ⟨rfl, rfl, rfl, rfl, fun isOpen _ => isOpen⟩
  · exact ⟨rfl, rfl, rfl, rfl, fun _ opens => opens⟩

theorem Keeps.write (keeps : Keeps dump config before taken parts last logger)
    (stepped : logger.step dump (.write true) = some next) :
    ∃ newParts newLast, Keeps dump config before taken newParts newLast next := by
  simp only [step] at stepped
  split at stepped
  next record writing =>
    obtain rfl := Option.some.inj stepped
    have isOpen := keeps.isOpen (.inr ⟨record, writing⟩)
    have started := keeps.written.started_of (by simp [writing])
    obtain ⟨newParts, newLast, written, same⟩ := keeps.written.writeLine started isOpen record
    have order := keeps.order
    simp only [writing, LogWriter.inHand] at order
    obtain ⟨configKept, queueKept, stopKept, startedKept, openKept⟩ := rotateIfNeeded_frame
      { logger with
        files := Function.update logger.files .path
          (some ((logger.files .path).getD [] ++ line dump record))
        bytesWritten := logger.bytesWritten + ((dump record).length + 1) } true
    have changed : logger.writeLine dump record true = rotateIfNeeded
      { logger with
        files := Function.update logger.files .path
          (some ((logger.files .path).getD [] ++ line dump record))
        bytesWritten := logger.bytesWritten + ((dump record).length + 1) } true := by
      simp only [Logger.writeLine, isOpen, if_true]
    rw [← changed] at configKept queueKept stopKept startedKept openKept
    refine ⟨newParts, newLast, ?_⟩
    exact
      { config_eq := configKept.trans keeps.config_eq
        written := written.congr rfl rfl rfl rfl rfl fun isUnstarted => by
          rw [startedKept, started] at isUnstarted
          cases isUnstarted
        order := by
          simp only [LogWriter.inHand, List.append_nil, same, queueKept]
          simpa only [List.append_assoc] using order
        drops := by
          rw [show ({ logger.writeLine dump record true with writer := .popping } :
            Logger Record).queue = logger.queue from queueKept]
          exact keeps.drops
        isOpen := fun _ => openKept isOpen rfl
        ended := fun ended => by cases ended
        closed := fun stops => by
          have stopped : (logger.writeLine dump record true).stop ≠ .running := stops
          rw [stopKept] at stopped
          simp only [queueKept]
          exact keeps.closed stopped
        runs := fun _ => by simp }
  · cases stepped

theorem Keeps.step (keeps : Keeps dump config before taken parts last logger)
    {move : LogMove Record} (opens : move.opens = true)
    (stepped : logger.step dump move = some next) :
    ∃ newParts newLast,
      Keeps dump config before (taken ++ logger.takes move) newParts newLast next := by
  cases move with
  | log record => exact ⟨parts, last, keeps.log record stepped⟩
  | start opened =>
      obtain rfl : opened = true := opens
      simp only [takes, List.append_nil]
      simp only [Logger.step] at stepped
      split at stepped
      · exact ⟨parts, last, Option.some.inj stepped ▸ keeps⟩
      next isUnstarted =>
        rw [Bool.not_eq_true] at isUnstarted
        obtain rfl := Option.some.inj stepped
        have order := keeps.order
        simp only [(keeps.written.unstarted isUnstarted).2.2.2, LogWriter.inHand] at order
        exact ⟨parts, last, keeps.config_eq, keeps.written.start isUnstarted, order, keeps.drops,
          fun _ => rfl, fun ended => (by cases ended), keeps.closed, fun _ => by simp⟩
  | pop =>
      simp only [takes, List.append_nil]
      exact ⟨parts, last, keeps.pop stepped⟩
  | write opened =>
      obtain rfl : opened = true := opens
      simp only [takes, List.append_nil]
      exact keeps.write stepped
  | stop =>
      simp only [takes, List.append_nil]
      simp only [Logger.step] at stepped
      split at stepped
      · obtain rfl := Option.some.inj stepped
        exact ⟨parts, last, keeps.config_eq, keeps.written.congr rfl rfl rfl rfl rfl fun _ => rfl,
          keeps.order, keeps.drops, keeps.isOpen,
          fun ended => ⟨rfl, (keeps.ended ended).2⟩, fun _ => rfl, keeps.runs⟩
      · exact ⟨parts, last, Option.some.inj stepped ▸ keeps⟩
  | join =>
      simp only [takes, List.append_nil]
      simp only [Logger.step] at stepped
      have frame {idle : LogWriter Record} (isIdle : logger.writer = idle)
          (notBusy : idle ≠ .popping ∧ ∀ record, idle ≠ .writing record)
          (joining : logger.stop = .joining) :
          Keeps dump config before taken parts last
            { logger with stop := .stopped, fileOpen := false } := by
        refine ⟨keeps.config_eq, keeps.written.congr rfl rfl rfl rfl rfl fun _ => rfl, keeps.order,
          keeps.drops, ?_, keeps.ended, fun _ => keeps.closed (by simp [joining]), keeps.runs⟩
        rintro (busy | ⟨record, busy⟩)
        · exact absurd (isIdle.symm.trans busy) notBusy.1
        · exact absurd (isIdle.symm.trans busy) (notBusy.2 record)
      split at stepped
      next joining unstarted =>
        obtain rfl := Option.some.inj stepped
        exact ⟨parts, last, frame unstarted (by simp) joining⟩
      next joining ended =>
        obtain rfl := Option.some.inj stepped
        exact ⟨parts, last, frame ended (by simp) joining⟩
      · cases stepped

end Steps

/-! ## Every run -/

section Runs

variable {dump} {config : LoggerConfig} {before : LogFile → Option (List UInt8)}
  {taken : List Record} {parts : List (List Record)} {last : List Record}
  {logger next : Logger Record} {moves : List (LogMove Record)}

/-- The moves that the thread and `stop` still have to make. -/
def remaining (logger : Logger Record) : Nat :=
  2 * logger.queue.items.length +
    (match logger.writer with
      | .popping => 2
      | .writing _ => 3
      | _ => 0) +
    match logger.stop with
    | .stopped => 0
    | _ => 1

theorem remaining_le (logger : Logger Record) :
    logger.remaining ≤ 2 * logger.queue.items.length + 4 := by
  unfold remaining
  split <;> split <;> omega

theorem remaining_lt {move : LogMove Record} (drains : move.drains = true)
    (stepped : logger.step dump move = some next) : next.remaining < logger.remaining := by
  cases move with
  | log | start | stop => cases drains
  | pop =>
      simp only [step] at stepped
      split at stepped
      next popping =>
        obtain ⟨⟨found, queue⟩, popped, rfl⟩ := Option.map_eq_some_iff.mp stepped
        obtain ⟨record, rfl, first, changed⟩ | ⟨rfl, empty, isClosed, rfl⟩ :=
          BoundedQueue.pop_eq_some popped
        · simp only [remaining, popping, first, List.length_cons]
          omega
        · simp only [remaining, popping, empty, List.length_nil]
          omega
      · cases stepped
  | write opened =>
      simp only [step] at stepped
      split at stepped
      next record writing =>
        obtain rfl := Option.some.inj stepped
        have same : (logger.writeLine dump record opened).queue = logger.queue ∧
            (logger.writeLine dump record opened).stop = logger.stop := by
          unfold Logger.writeLine
          split
          · exact ⟨(rotateIfNeeded_frame _ _).2.1, (rotateIfNeeded_frame _ _).2.2.1⟩
          · exact ⟨rfl, rfl⟩
        simp only [remaining, writing, same.1, same.2]
        omega
      · cases stepped
  | join =>
      simp only [step] at stepped
      split at stepped
      next joining unstarted =>
        obtain rfl := Option.some.inj stepped
        simp [remaining, joining]
      next joining ended =>
        obtain rfl := Option.some.inj stepped
        simp [remaining, joining]
      · cases stepped

/-- Neither the thread nor `stop` can go on. -/
def Stuck (dump : Record → List UInt8) (logger : Logger Record) : Prop :=
  ∀ move, move.drains = true → logger.step dump move = none

end Runs

end Logger

end Ssim.Core
