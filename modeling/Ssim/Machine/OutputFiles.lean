import Mathlib.Logic.Function.Basic
import Ssim.Core.Controller
import Ssim.Library.Numerals
import Ssim.Library.Runs

/-!
# The output files

Machines that share an output root, each with a directory for its run and files for its
wafers in it.  A machine tries the names for its directory in turn until it creates one.
A writer looks whether its file is there, opens it, which empties a file that is there,
and writes it in pieces.  Each call of the file system is one step, and the steps of the
machines interleave in any order.

No two machines get the same directory, and so no file is ever written over.
-/

namespace Ssim.Machine

open Core (Text)
open Library.Numerals (numeral)
open Library.Runs (run trace trace_of_meets)

/-! ## Files and steps -/

inductive OutputFile where
  | summaryJson
  | linesCsv
  | samplesCsv
  | waferMapPng
  deriving Repr, DecidableEq

/-- A file in the directory of a wafer in the directory of a run. -/
structure OutputPath where
  run : Text
  wafer : Text
  file : OutputFile
  deriving DecidableEq

/-- The directories under the output root, and the files in them. -/
structure Disk where
  folders : List Text
  files : OutputPath → Option Text

/-- How far `create_run_dir` is. -/
inductive RunFolder where
  | starting
  | trying (attempt : Nat)
  | failed (why : Text)
  | made (name : Text)

/-- How far a writer is. -/
inductive Writing where
  | idle
  /-- There was no such file. -/
  | absent (path : OutputPath) (content : Text)
  /-- So many bytes are written. -/
  | opened (path : OutputPath) (content : Text) (written : Nat)

/-- A machine as far as its files go; `base` is its run id. -/
structure OutputSide where
  base : Text
  folder : RunFolder
  writing : Writing

/-- The name that is tried at an attempt. -/
def runName (base : Text) (attempt : Nat) : Text :=
  if attempt = 1 then base else base ++ Text.ofString "-" ++ numeral 10 attempt

def kAttempts : Nat := 1000

def noFreeName : Text := Text.ofString "no free run directory name"

structure OutputSystem (Machine : Type) where
  disk : Disk
  side : Machine → OutputSide

inductive FileMove (Machine : Type) where
  /-- `create_directories` of the output root, with its error. -/
  | createRoot (machine : Machine) (error : Option Text)
  /-- `create_directory` of the next name, with its error. -/
  | createFolder (machine : Machine) (error : Option Text)
  /-- A writer is called, and asks whether its file is there. -/
  | look (machine : Machine) (wafer : Text) (file : OutputFile) (content : Text)
  /-- The file is opened, unless that fails. -/
  | openFile (machine : Machine) (opens : Bool)
  | write (machine : Machine) (count : Nat)
  | close (machine : Machine)

/-- The file that a writer is about. -/
def Writing.path? : Writing → Option OutputPath
  | .idle => none
  | .absent path _ | .opened path _ _ => some path

/-- Every file is in a directory that is there. -/
def Disk.Valid (disk : Disk) : Prop :=
  ∀ path, (disk.files path).isSome = true → path.run ∈ disk.folders

namespace OutputSystem

variable {Machine : Type}

def fresh (disk : Disk) (base : Machine → Text) : OutputSystem Machine :=
  ⟨disk, fun machine => ⟨base machine, .starting, .idle⟩⟩

def folder (system : OutputSystem Machine) (machine : Machine) : RunFolder :=
  (system.side machine).folder

def writing (system : OutputSystem Machine) (machine : Machine) : Writing :=
  (system.side machine).writing

def addFolder (system : OutputSystem Machine) (name : Text) : OutputSystem Machine :=
  { system with disk := { system.disk with folders := name :: system.disk.folders } }

def setFile (system : OutputSystem Machine) (path : OutputPath) (content : Text) :
    OutputSystem Machine :=
  { system with
    disk := { system.disk with files := Function.update system.disk.files path (some content) } }

section Disk

variable (system : OutputSystem Machine) (machine : Machine)

@[simp]
theorem addFolder_folders (name : Text) :
    (system.addFolder name).disk.folders = name :: system.disk.folders :=
  rfl

@[simp]
theorem addFolder_files (name : Text) :
    (system.addFolder name).disk.files = system.disk.files := rfl

@[simp]
theorem addFolder_folder (name : Text) :
    (system.addFolder name).folder machine = system.folder machine :=
  rfl

@[simp]
theorem addFolder_writing (name : Text) :
    (system.addFolder name).writing machine = system.writing machine :=
  rfl

@[simp]
theorem addFolder_side (name : Text) : (system.addFolder name).side = system.side := rfl

@[simp]
theorem setFile_folders (path : OutputPath) (content : Text) :
    (system.setFile path content).disk.folders = system.disk.folders :=
  rfl

theorem setFile_files (path another : OutputPath) (content : Text) :
    (system.setFile path content).disk.files another =
      if another = path then some content else system.disk.files another := by
  by_cases same : another = path
  · simp [setFile, same]
  · simp [setFile, same]

@[simp]
theorem setFile_folder (path : OutputPath) (content : Text) :
    (system.setFile path content).folder machine = system.folder machine :=
  rfl

@[simp]
theorem setFile_writing (path : OutputPath) (content : Text) :
    (system.setFile path content).writing machine = system.writing machine :=
  rfl

@[simp]
theorem setFile_side (path : OutputPath) (content : Text) :
    (system.setFile path content).side = system.side :=
  rfl

end Disk

variable [DecidableEq Machine]

def setFolder (system : OutputSystem Machine) (machine : Machine) (folder : RunFolder) :
    OutputSystem Machine :=
  { system with
    side := Function.update system.side machine { system.side machine with folder := folder } }

def setWriting (system : OutputSystem Machine) (machine : Machine) (writing : Writing) :
    OutputSystem Machine :=
  { system with
    side := Function.update system.side machine { system.side machine with writing := writing } }

section Parts

variable (system : OutputSystem Machine) (machine other : Machine)

@[simp]
theorem setFolder_disk (folder : RunFolder) :
    (system.setFolder machine folder).disk = system.disk :=
  rfl

theorem setFolder_folder (folder : RunFolder) :
    (system.setFolder machine folder).folder other =
      if other = machine then folder else system.folder other := by
  unfold OutputSystem.folder setFolder
  by_cases same : other = machine
  · simp [same]
  · simp [same]

@[simp]
theorem setFolder_writing (folder : RunFolder) :
    (system.setFolder machine folder).writing other = system.writing other := by
  unfold writing setFolder
  by_cases same : other = machine
  · simp [same]
  · simp [same]

@[simp]
theorem setFolder_base (folder : RunFolder) :
    ((system.setFolder machine folder).side other).base = (system.side other).base := by
  unfold setFolder
  by_cases same : other = machine
  · simp [same]
  · simp [same]

@[simp]
theorem setWriting_disk (writing : Writing) :
    (system.setWriting machine writing).disk = system.disk :=
  rfl

@[simp]
theorem setWriting_folder (writing : Writing) :
    (system.setWriting machine writing).folder other = system.folder other := by
  unfold folder setWriting
  by_cases same : other = machine
  · simp [same]
  · simp [same]

theorem setWriting_writing (writing : Writing) :
    (system.setWriting machine writing).writing other =
      if other = machine then writing else system.writing other := by
  unfold OutputSystem.writing setWriting
  by_cases same : other = machine
  · simp [same]
  · simp [same]

@[simp]
theorem setWriting_base (writing : Writing) :
    ((system.setWriting machine writing).side other).base = (system.side other).base := by
  unfold setWriting
  by_cases same : other = machine
  · simp [same]
  · simp [same]

end Parts

/-- The next attempt, or the end of them. -/
def tryNext (attempt : Nat) : RunFolder :=
  if attempt + 1 < kAttempts then .trying (attempt + 1) else .failed noFreeName

def step (system : OutputSystem Machine) : FileMove Machine → Option (OutputSystem Machine)
  | .createRoot machine error =>
      match system.folder machine, error with
      | .starting, some why =>
          some (system.setFolder machine
            (.failed (Text.ofString "cannot create output directory: " ++ why)))
      | .starting, none => some (system.setFolder machine (.trying 1))
      | _, _ => none
  | .createFolder machine error =>
      match system.folder machine, error with
      | .trying _, some why =>
          some (system.setFolder machine
            (.failed (Text.ofString "cannot create run directory: " ++ why)))
      | .trying attempt, none =>
          let name := runName (system.side machine).base attempt
          -- Creating a directory that is there fails without an error.
          if name ∈ system.disk.folders then some (system.setFolder machine (tryNext attempt))
          else some ((system.addFolder name).setFolder machine (.made name))
      | _, _ => none
  | .look machine wafer file content =>
      match system.folder machine, system.writing machine with
      | .made name, .idle =>
          let path : OutputPath := ⟨name, wafer, file⟩
          if (system.disk.files path).isSome then some system
          else some (system.setWriting machine (.absent path content))
      | _, _ => none
  | .openFile machine opens =>
      match system.writing machine with
      | .absent path content =>
          -- A stream that is opened for writing empties a file that is there.
          if opens then some ((system.setFile path []).setWriting machine (.opened path content 0))
          else some (system.setWriting machine .idle)
      | _ => none
  | .write machine count =>
      match system.writing machine with
      | .opened path content written =>
          let before := (system.disk.files path).getD []
          some ((system.setFile path (before ++ (content.drop written).take count)).setWriting
            machine (.opened path content (written + count)))
      | _ => none
  | .close machine =>
      match system.writing machine with
      | .opened _ content written =>
          if content.length ≤ written then some (system.setWriting machine .idle) else none
      | _ => none

/-- The files that a step completes. -/
def completes (system : OutputSystem Machine) : FileMove Machine → List (OutputPath × Text)
  | .close machine =>
      match system.writing machine with
      | .opened path content written =>
          if content.length ≤ written then [(path, content)] else []
      | _ => []
  | _ => []

/-! ## What the machines keep -/

/-- All names that a machine tries are taken. -/
def Exhausted (system : OutputSystem Machine) (machine : Machine) (attempts : Nat) : Prop :=
  ∀ attempt, 1 ≤ attempt → attempt < attempts →
    runName (system.side machine).base attempt ∈ system.disk.folders

/-- The directories and the writers, from a disk at the start. -/
structure Kept (start : Disk) (done : List (OutputPath × Text)) (system : OutputSystem Machine) :
    Prop where
  older : ∀ name ∈ start.folders, name ∈ system.disk.folders
  claimed : ∀ machine name, system.folder machine = .made name →
    name ∈ system.disk.folders ∧ name ∉ start.folders
  distinct : ∀ machine other name, system.folder machine = .made name →
    system.folder other = .made name → machine = other
  tried : ∀ machine attempt, system.folder machine = .trying attempt →
    1 ≤ attempt ∧ attempt < kAttempts ∧ system.Exhausted machine attempt
  exhausted : ∀ machine, system.folder machine = .failed noFreeName →
    system.Exhausted machine kAttempts
  own : ∀ machine path, (system.writing machine).path? = some path →
    system.folder machine = .made path.run
  absent : ∀ machine path content, system.writing machine = .absent path content →
    system.disk.files path = none
  opened : ∀ machine path content written, system.writing machine = .opened path content written →
    system.disk.files path = some (content.take written) ∧ ∀ other, (path, other) ∉ done
  untouched : ∀ path content, start.files path = some content →
    system.disk.files path = some content
  written : ∀ path content, (path, content) ∈ done → system.disk.files path = some content
  once : (done.map Prod.fst).Nodup

variable {start : Disk} {done : List (OutputPath × Text)} {system : OutputSystem Machine}
  {machine : Machine}

omit [DecidableEq Machine] in
/-- A machine without a directory writes nothing. -/
theorem Kept.idle (kept : system.Kept start done)
    (homeless : ∀ name, system.folder machine ≠ .made name) :
    (system.writing machine).path? = none := by
  cases writes : (system.writing machine).path? with
  | none => rfl
  | some path => exact absurd (kept.own machine path writes) (homeless _)

/-- The machine goes on with its attempts. -/
theorem Kept.moveFolder (kept : system.Kept start done) {folder : RunFolder}
    (homeless : ∀ name, system.folder machine ≠ .made name) (still : ∀ name, folder ≠ .made name)
    (trying : ∀ attempt, folder = .trying attempt →
      1 ≤ attempt ∧ attempt < kAttempts ∧ system.Exhausted machine attempt)
    (failed : folder = .failed noFreeName → system.Exhausted machine kAttempts) :
    (system.setFolder machine folder).Kept start done := by
  have made (other : Machine) (name : Text)
      (has : (system.setFolder machine folder).folder other = .made name) :
      system.folder other = .made name := by
    rw [setFolder_folder] at has
    split at has
    · exact absurd has (still name)
    · exact has
  have same (other : Machine) (attempts : Nat) :
      (system.setFolder machine folder).Exhausted other attempts ↔
        system.Exhausted other attempts := by simp [Exhausted]
  refine ⟨kept.older, fun other name has => kept.claimed other name (made other name has),
    fun first second name one two => kept.distinct first second name (made _ _ one) (made _ _ two),
    fun other attempt tries => ?_, fun other tries => ?_, fun other path writes => ?_, ?_, ?_,
    kept.untouched, kept.written, kept.once⟩
  · rw [same]
    rw [setFolder_folder] at tries
    split at tries
    next self => exact self ▸ trying attempt tries
    · exact kept.tried other attempt tries
  · rw [same]
    rw [setFolder_folder] at tries
    split at tries
    next self => exact self ▸ failed tries
    · exact kept.exhausted other tries
  · rw [setFolder_writing] at writes
    rw [setFolder_folder]
    split
    next self =>
      rw [self, kept.idle homeless] at writes
      cases writes
    · exact kept.own other path writes
  · simpa using kept.absent
  · simpa using kept.opened

/-- The machine creates its directory. -/
theorem Kept.makeFolder (kept : system.Kept start done) {name : Text}
    (homeless : ∀ name, system.folder machine ≠ .made name) (free : name ∉ system.disk.folders) :
    ((system.addFolder name).setFolder machine (.made name)).Kept start done := by
  have more (other : Machine) (attempts : Nat) (taken : system.Exhausted other attempts) :
      ((system.addFolder name).setFolder machine (.made name)).Exhausted other attempts := by
    intro attempt first last
    have among := taken attempt first last
    simp [among]
  refine ⟨fun older member => ?_, fun other made has => ?_, fun first second made one two => ?_,
    fun other attempt tries => ?_, fun other fails => ?_, fun other path writes => ?_, ?_, ?_,
    kept.untouched, kept.written, kept.once⟩
  · exact List.mem_cons_of_mem _ (kept.older older member)
  · rw [setFolder_folder] at has
    split at has
    · obtain rfl := RunFolder.made.inj has
      exact ⟨List.mem_cons_self, fun old => free (kept.older _ old)⟩
    · obtain ⟨among, new⟩ := kept.claimed other made has
      exact ⟨List.mem_cons_of_mem _ among, new⟩
  · -- A directory that another machine has made was there.
    have taken (other : Machine) (has : system.folder other = .made made) :
        made ≠ name := by
      rintro rfl
      exact free (kept.claimed other made has).1
    rw [setFolder_folder] at one two
    split at one
    · split at two
      next first_eq second_eq => exact first_eq.trans second_eq.symm
      · exact absurd (RunFolder.made.inj one).symm (taken second two)
    · split at two
      · exact absurd (RunFolder.made.inj two).symm (taken first one)
      · exact kept.distinct first second made one two
  · rw [setFolder_folder] at tries
    split at tries
    · cases tries
    · obtain ⟨first, last, taken⟩ := kept.tried other attempt tries
      exact ⟨first, last, more other attempt taken⟩
  · rw [setFolder_folder] at fails
    split at fails
    · cases fails
    · exact more other kAttempts (kept.exhausted other fails)
  · rw [setFolder_writing, addFolder_writing] at writes
    rw [setFolder_folder]
    split
    next self =>
      rw [self, kept.idle homeless] at writes
      cases writes
    · exact kept.own other path writes
  · simpa using kept.absent
  · simpa using kept.opened

omit [DecidableEq Machine] in
/-- Two machines never write the same file. -/
theorem Kept.alone (kept : system.Kept start done) {other : Machine} {path : OutputPath}
    (mine : (system.writing machine).path? = some path)
    (theirs : (system.writing other).path? = some path) : other = machine :=
  kept.distinct other machine path.run (kept.own other path theirs) (kept.own machine path mine)

omit [DecidableEq Machine] in
/-- The file of a writer was not there at the start. -/
theorem Kept.new (kept : system.Kept start done) (valid : start.Valid) {path : OutputPath}
    (mine : (system.writing machine).path? = some path) : start.files path = none := by
  have fresh := (kept.claimed machine path.run (kept.own machine path mine)).2
  cases there : start.files path with
  | none => rfl
  | some content => exact absurd (valid path (by simp [there])) fresh

/-- A writer stops, or finds that its file is not there. -/
theorem Kept.moveWriting (kept : system.Kept start done) {writing : Writing}
    (still : ∀ path content written, writing ≠ .opened path content written)
    (own : ∀ path, writing.path? = some path → system.folder machine = .made path.run)
    (free : ∀ path content, writing = .absent path content → system.disk.files path = none) :
    (system.setWriting machine writing).Kept start done := by
  refine ⟨kept.older, ?_, ?_, ?_, ?_, fun other path writes => ?_,
    fun other path content looks => ?_, fun other path content count opens => ?_,
    kept.untouched, kept.written, kept.once⟩
  · simpa using kept.claimed
  · simpa using kept.distinct
  · simpa [Exhausted] using kept.tried
  · simpa [Exhausted] using kept.exhausted
  · rw [setWriting_folder]
    rw [setWriting_writing] at writes
    split at writes
    next self => exact self ▸ own path writes
    · exact kept.own other path writes
  · rw [setWriting_writing] at looks
    split at looks
    · exact free path content looks
    · exact kept.absent other path content looks
  · rw [setWriting_writing] at opens
    split at opens
    · exact absurd opens (still path content count)
    · exact kept.opened other path content count opens

/-- A writer changes its own file, which nobody else knows. -/
theorem Kept.putFile (kept : system.Kept start done) (valid : start.Valid) {path : OutputPath}
    {content : Text} {count : Nat} (mine : (system.writing machine).path? = some path)
    (pending : ∀ other, (path, other) ∉ done) :
    ((system.setFile path (content.take count)).setWriting machine
      (.opened path content count)).Kept start done := by
  have apart {other : Machine} {another : OutputPath} (different : other ≠ machine)
      (writes : (system.writing other).path? = some another) : another ≠ path := by
    rintro rfl
    exact different (kept.alone mine writes)
  refine ⟨kept.older, ?_, ?_, ?_, ?_, fun other another writes => ?_,
    fun other another rest looks => ?_, fun other another rest number opens => ?_,
    fun another old there => ?_, fun another old among => ?_, kept.once⟩
  · simpa using kept.claimed
  · simpa using kept.distinct
  · simpa [Exhausted] using kept.tried
  · simpa [Exhausted] using kept.exhausted
  · rw [setWriting_folder, setFile_folder]
    rw [setWriting_writing] at writes
    split at writes
    next self =>
      obtain rfl : path = another := Option.some.inj writes
      exact self ▸ kept.own machine path mine
    · exact kept.own other another writes
  · rw [setWriting_writing] at looks
    split at looks
    · cases looks
    next different =>
      rw [setFile_writing] at looks
      have writes : (system.writing other).path? = some another := by
        rw [looks]
        rfl
      rw [setWriting_disk, setFile_files, if_neg (apart different writes)]
      exact kept.absent other another rest looks
  · rw [setWriting_writing] at opens
    rw [setWriting_disk, setFile_files]
    split at opens
    · obtain ⟨rfl, rfl, rfl⟩ := Writing.opened.inj opens
      exact ⟨if_pos rfl, pending⟩
    next different =>
      rw [setFile_writing] at opens
      have writes : (system.writing other).path? = some another := by
        rw [opens]
        rfl
      rw [if_neg (apart different writes)]
      exact kept.opened other another rest number opens
  · rw [setWriting_disk, setFile_files, if_neg]
    · exact kept.untouched another old there
    · rintro rfl
      rw [kept.new valid mine] at there
      cases there
  · rw [setWriting_disk, setFile_files, if_neg]
    · exact kept.written another old among
    · rintro rfl
      exact pending old among

/-- A writer has written all of its file. -/
theorem Kept.closeFile (kept : system.Kept start done) {path : OutputPath} {content : Text}
    {count : Nat} (writes : system.writing machine = .opened path content count)
    (whole : content.length ≤ count) :
    (system.setWriting machine .idle).Kept start (done ++ [(path, content)]) := by
  obtain ⟨there, pending⟩ := kept.opened machine path content count writes
  have mine : (system.writing machine).path? = some path := by
    rw [writes]
    rfl
  have idle : (system.setWriting machine .idle).Kept start done :=
    kept.moveWriting (fun _ _ _ same => by cases same) (fun _ same => by cases same)
      fun _ _ same => by cases same
  refine { idle with opened := ?_, written := ?_, once := ?_ }
  · intro other another rest number opens
    refine ⟨(idle.opened other another rest number opens).1, fun old among => ?_⟩
    rcases List.mem_append.mp among with before | now
    · exact (idle.opened other another rest number opens).2 old before
    · obtain ⟨rfl, rfl⟩ := Prod.mk.inj (List.mem_singleton.mp now)
      rw [setWriting_writing] at opens
      split at opens
      · cases opens
      next different =>
        refine different (kept.alone mine ?_)
        rw [opens]
        rfl
  · intro another old among
    rcases List.mem_append.mp among with before | now
    · exact kept.written another old before
    · obtain ⟨rfl, rfl⟩ := Prod.mk.inj (List.mem_singleton.mp now)
      rw [List.take_of_length_le whole] at there
      exact there
  · rw [List.map_append, List.nodup_append]
    refine ⟨kept.once, List.nodup_singleton _, ?_⟩
    rintro first among second now rfl
    obtain ⟨⟨_, old⟩, member, rfl⟩ := List.mem_map.mp among
    obtain rfl : _ = path := List.mem_singleton.mp now
    exact pending old member

omit [DecidableEq Machine] in
theorem Kept.exhausted_next (kept : system.Kept start done) {attempt : Nat}
    (tries : system.folder machine = .trying attempt)
    (taken : runName (system.side machine).base attempt ∈ system.disk.folders) :
    system.Exhausted machine (attempt + 1) := by
  obtain ⟨-, -, earlier⟩ := kept.tried machine attempt tries
  intro another first last
  rcases Nat.lt_succ_iff_lt_or_eq.mp last with before | rfl
  · exact earlier another first before
  · exact taken

omit [DecidableEq Machine] in
/-- A refusal of the file system is not the end of the names. -/
theorem refused_ne_noFreeName (why : Text) :
    Text.ofString "cannot create output directory: " ++ why ≠ noFreeName ∧
      Text.ofString "cannot create run directory: " ++ why ≠ noFreeName := by
  have first : noFreeName.head? ≠ some 99 := by decide
  constructor
  · intro same
    exact first (same ▸ rfl)
  · intro same
    exact first (same ▸ rfl)

theorem Kept.createRoot (kept : system.Kept start done) {error : Option Text}
    {next : OutputSystem Machine} (stepped : system.step (.createRoot machine error) = some next) :
    next.Kept start done := by
  cases home : system.folder machine with
  | trying attempt => simp [OutputSystem.step, home] at stepped
  | failed why => simp [OutputSystem.step, home] at stepped
  | made name => simp [OutputSystem.step, home] at stepped
  | starting =>
      have homeless (name : Text) : system.folder machine ≠ .made name := by simp [home]
      cases error with
      | some why =>
          simp only [OutputSystem.step, home, Option.some.injEq] at stepped
          subst stepped
          refine kept.moveFolder homeless (by simp) (by simp) fun same => ?_
          exact absurd (RunFolder.failed.inj same) (refused_ne_noFreeName why).1
      | none =>
          simp only [OutputSystem.step, home, Option.some.injEq] at stepped
          subst stepped
          refine kept.moveFolder homeless (by simp) (fun attempt same => ?_) (by simp)
          obtain rfl := RunFolder.trying.inj same
          exact ⟨by decide, by decide, fun attempt first last => by omega⟩

theorem Kept.createFolder (kept : system.Kept start done) {error : Option Text}
    {next : OutputSystem Machine}
    (stepped : system.step (.createFolder machine error) = some next) : next.Kept start done := by
  cases home : system.folder machine with
  | starting => simp [OutputSystem.step, home] at stepped
  | failed why => simp [OutputSystem.step, home] at stepped
  | made name => simp [OutputSystem.step, home] at stepped
  | trying attempt =>
      have homeless (name : Text) : system.folder machine ≠ .made name := by simp [home]
      cases error with
      | some why =>
          simp only [OutputSystem.step, home, Option.some.injEq] at stepped
          subst stepped
          refine kept.moveFolder homeless (by simp) (by simp) fun same => ?_
          exact absurd (RunFolder.failed.inj same) (refused_ne_noFreeName why).2
      | none =>
          simp only [OutputSystem.step, home] at stepped
          split at stepped
          next taken =>
            obtain rfl := Option.some.inj stepped
            have through := kept.exhausted_next home taken
            obtain ⟨first, last, -⟩ := kept.tried machine attempt home
            unfold tryNext
            split
            next more =>
              refine kept.moveFolder homeless (by simp) (fun another same => ?_) (by simp)
              obtain rfl := RunFolder.trying.inj same
              exact ⟨by omega, more, through⟩
            next ends =>
              refine kept.moveFolder homeless (by simp) (by simp) fun _ => ?_
              have all : attempt + 1 = kAttempts := by omega
              exact all ▸ through
          next free =>
            obtain rfl := Option.some.inj stepped
            exact kept.makeFolder homeless free

theorem Kept.look (kept : system.Kept start done) {wafer content : Text} {file : OutputFile}
    {next : OutputSystem Machine}
    (stepped : system.step (.look machine wafer file content) = some next) :
    next.Kept start done := by
  simp only [OutputSystem.step] at stepped
  split at stepped
  next name home _ =>
    split at stepped
    · obtain rfl := Option.some.inj stepped
      exact kept
    next nothing =>
      obtain rfl := Option.some.inj stepped
      refine kept.moveWriting (by simp) (fun path same => ?_) fun path rest same => ?_
      · obtain rfl := Option.some.inj same
        exact home
      · obtain ⟨rfl, rfl⟩ := Writing.absent.inj same
        simpa using nothing
  · cases stepped

theorem Kept.openFile (kept : system.Kept start done) (valid : start.Valid) {opens : Bool}
    {next : OutputSystem Machine} (stepped : system.step (.openFile machine opens) = some next) :
    next.Kept start done := by
  simp only [OutputSystem.step] at stepped
  split at stepped
  next path content looks =>
    have mine : (system.writing machine).path? = some path := by
      rw [looks]
      rfl
    have nothing := kept.absent machine path content looks
    split at stepped
    · obtain rfl := Option.some.inj stepped
      have put : ((system.setFile path (content.take 0)).setWriting machine
          (.opened path content 0)).Kept start done :=
        kept.putFile valid mine fun other among => by
          rw [kept.written path other among] at nothing
          cases nothing
      rwa [List.take_zero] at put
    · obtain rfl := Option.some.inj stepped
      exact kept.moveWriting (by simp) (by simp [Writing.path?]) (by simp)
  · cases stepped

theorem Kept.write (kept : system.Kept start done) (valid : start.Valid) {count : Nat}
    {next : OutputSystem Machine} (stepped : system.step (.write machine count) = some next) :
    next.Kept start done := by
  simp only [OutputSystem.step] at stepped
  split at stepped
  next path content written opens =>
    obtain rfl := Option.some.inj stepped
    have mine : (system.writing machine).path? = some path := by
      rw [opens]
      rfl
    obtain ⟨there, pending⟩ := kept.opened machine path content written opens
    have grown : (system.disk.files path).getD [] ++ (content.drop written).take count =
        content.take (written + count) := by
      rw [there, Option.getD_some, List.take_add]
    rw [grown]
    exact kept.putFile valid mine pending
  · cases stepped

/-- A step keeps everything, and what it completes stays. -/
theorem Kept.step (kept : system.Kept start done) (valid : start.Valid)
    {move : FileMove Machine} {next : OutputSystem Machine}
    (stepped : system.step move = some next) :
    next.Kept start (done ++ system.completes move) := by
  have quiet (nothing : system.completes move = []) (same : next.Kept start done) :
      next.Kept start (done ++ system.completes move) := by
    rwa [nothing, List.append_nil]
  cases move with
  | createRoot machine error => exact quiet rfl (kept.createRoot stepped)
  | createFolder machine error => exact quiet rfl (kept.createFolder stepped)
  | look machine wafer file content => exact quiet rfl (kept.look stepped)
  | openFile machine opens => exact quiet rfl (kept.openFile valid stepped)
  | write machine count => exact quiet rfl (kept.write valid stepped)
  | close machine =>
      simp only [OutputSystem.step] at stepped
      split at stepped
      next path content written opens =>
        split at stepped
        next whole =>
          obtain rfl := Option.some.inj stepped
          have completed : system.completes (.close machine) = [(path, content)] := by
            simp only [completes, opens]
            exact if_pos whole
          rw [completed]
          exact kept.closeFile opens whole
        · cases stepped
      · cases stepped

omit [DecidableEq Machine] in
theorem kept_fresh (start : Disk) (base : Machine → Text) :
    (fresh start base).Kept start [] where
  older := fun _ member => member
  claimed := fun _ _ has => by cases has
  distinct := fun _ _ _ has => by cases has
  tried := fun _ _ tries => by cases tries
  exhausted := fun _ fails => by cases fails
  own := fun _ _ writes => by cases writes
  absent := fun _ _ _ looks => by cases looks
  opened := fun _ _ _ _ opens => by cases opens
  untouched := fun _ _ there => there
  written := fun _ _ among => by cases among
  once := List.nodup_nil

/--
However the machines interleave, no two get the same directory, none gets one that was
there, and one that finds no free name has seen all its names taken.  Files that were
there stay as they were; each new file is completed once at most, and stays as it was
completed.
-/
theorem outputs_never_overwritten {start : Disk} {base : Machine → Text}
    {moves : List (FileMove Machine)} {finish : OutputSystem Machine} (valid : start.Valid)
    (reached : run OutputSystem.step (fresh start base) moves = some finish) :
    (∀ machine name, finish.folder machine = .made name → name ∉ start.folders ∧
        ∀ other, finish.folder other = .made name → other = machine) ∧
      (∀ machine, finish.folder machine = .failed noFreeName →
        finish.Exhausted machine kAttempts) ∧
      (∀ path content, start.files path = some content →
        finish.disk.files path = some content) ∧
      ((trace OutputSystem.step completes (fresh start base) moves).map Prod.fst).Nodup ∧
      ∀ path content,
        (path, content) ∈ trace OutputSystem.step completes (fresh start base) moves →
          finish.disk.files path = some content := by
  have kept : finish.Kept start (trace OutputSystem.step completes (fresh start base) moves) :=
    trace_of_meets (fun _ _ => True) (fun done system => system.Kept start done)
      (fun holds _ stepped => holds.step valid stepped) (kept_fresh start base)
      (fun _ _ _ _ _ _ => trivial) reached
  exact ⟨fun machine name has => ⟨(kept.claimed machine name has).2,
    fun other also => kept.distinct other machine name also has⟩, kept.exhausted, kept.untouched,
    kept.once, kept.written⟩

/-- Two machines that start in the same second, and the summary of the faster one. -/
theorem outputs_never_overwritten_two :
    ∃ (moves : List (FileMove Bool)) (finish : OutputSystem Bool),
      run OutputSystem.step (fresh ⟨[], fun _ => none⟩ fun _ => [49]) moves = some finish ∧
        finish.folder false = .made [49] ∧ finish.folder true ≠ .made [49] ∧
        finish.disk.files ⟨[49], [87], .summaryJson⟩ = some [1, 2] := by
  let start : Disk := ⟨[], fun _ => none⟩
  let moves : List (FileMove Bool) :=
    [.createRoot true none, .createRoot false none, .createFolder false none,
      .createFolder true none, .look false [87] .summaryJson [1, 2], .openFile false true,
      .write false 1, .write false 1, .close false]
  have valid : start.Valid := fun path there => by cases there
  have reached : run OutputSystem.step (fresh start fun _ => [49]) moves = some _ := rfl
  obtain ⟨folders, -, -, -, stays⟩ := outputs_never_overwritten valid reached
  refine ⟨moves, _, reached, rfl, fun also => ?_, ?_⟩
  · exact absurd ((folders false [49] rfl).2 true also) (by decide)
  · exact stays ⟨[49], [87], .summaryJson⟩ [1, 2] List.mem_cons_self

end OutputSystem

end Ssim.Machine
