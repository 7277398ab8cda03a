import TreeBoard.CommandLine.Launch
import TreeBoard.Proofs.PatternText

/-!
# All or nothing

A command reads everything that it needs before it changes a file. A run that fails before this point
leaves every file as it was, and a pattern is written to its file as a whole. Paths may lead to the
same file: what counts is its content before the run. How command lines and the texts of settings
files are read makes no difference, and neither does what the log shows.

Results:
1. `Reads.bind`, parts of a command that only read, one after another.
2. `Delivers.save`, `Delivers.after`, a pattern that is saved after parts that only read.
3. `outcome_of_execute`, what a run leaves behind.
-/

namespace TreeBoard

/-! ## Built-in patterns -/

namespace Pattern

theorem inRange_frameOf {level : Nat → Level} (low : ∀ led, level led ≤ Board.fullLevel) :
    (frameOf level).InRange := by
  intro found member
  obtain ⟨led, rfl⟩ : ∃ led : Fin Board.ledCount, level led = found := by
    simpa [frameOf] using member
  exact low led

theorem inRange_sweepFrames : ∀ frame ∈ sweepFrames, frame.InRange := by
  intro frame member
  obtain ⟨lit, -, among⟩ := List.mem_flatMap.1 member
  obtain ⟨level, known, rfl⟩ := List.mem_map.1 among
  have low : ∀ level ∈ sweepLevels, level ≤ Board.fullLevel := by decide +kernel
  refine inRange_frameOf fun led => ?_
  split
  · exact low level known
  · decide

theorem inRange_cascade {above : List Nat} {rows : List (List Nat)} :
    ∀ frame ∈ cascade above rows, frame.InRange := by
  induction rows generalizing above with
  | nil => exact List.forall_mem_nil _
  | cons row later ih =>
      refine List.forall_mem_append.2 ⟨fun frame member => ?_, ih⟩
      obtain ⟨level, inSteps, rfl⟩ := List.mem_map.1 member
      have low : ∀ level ∈ List.range 8, UInt8.ofNat level ≤ Board.fullLevel := by decide
      refine inRange_frameOf fun led => ?_
      split
      · exact low level inSteps
      · split <;> decide

theorem inRange_colourFrames {rows : List (List Nat)} :
    ∀ frame ∈ colourFrames rows, frame.InRange := by
  unfold colourFrames
  simp only
  split
  · rename_i last ends
    refine List.forall_mem_append.2 ⟨inRange_cascade, fun frame member => ?_⟩
    rw [List.eq_of_mem_replicate member]
    exact inRange_cascade last (List.mem_of_getLast? ends)
  · exact inRange_cascade

theorem inRange_frames (pattern : Pattern) : ∀ frame ∈ pattern.frames, frame.InRange := by
  have waterfall : ∀ frame ∈ waterfallFrames, frame.InRange :=
    List.forall_mem_append.2 ⟨inRange_colourFrames, inRange_colourFrames⟩
  cases pattern with
  | waterfall => exact waterfall
  | sweep => exact inRange_sweepFrames
  | both => exact List.forall_mem_append.2 ⟨waterfall, inRange_sweepFrames⟩

/-- A built-in pattern fills the memory with frames whose levels are in range. -/
theorem inRange_of_fitWhole {pattern : Pattern} {found : List Frame × Fit}
    (fits : Memory.fitWhole pattern.frames = .ok found) :
    found.1.length = Board.slotCount ∧ ∀ frame ∈ found.1, frame.InRange := by
  cases ends : pattern.frames.getLast? with
  | none =>
      rw [List.getLast?_eq_none_iff.1 ends, Memory.fitWhole_eq, Memory.fit_nil] at fits
      cases fits
  | some last =>
      rw [Memory.fitWhole_eq, Memory.fit_eq ends (fun _ => rfl) id] at fits
      cases fits
      refine ⟨by simp [Memory.filled], fun frame member => inRange_frames pattern frame ?_⟩
      exact Script.mem_of_mem_filled (List.mem_of_getLast? ends) member

end Pattern

namespace CommandLine

variable {α β : Type}

/-! ## Definitions -/

namespace Workspace

/-- What a program comes to in a workspace, and what becomes of the workspace. -/
def run (workspace : Workspace) (program : ExceptT Error (StateM Workspace) α) :
    Except Error α × Workspace :=
  StateT.run program.run workspace

/-- The content of a file, or the error that there is none. -/
def content (workspace : Workspace) (path : String) : Except Error (List UInt8) :=
  (workspace.read path).mapError .stream

/-- The settings in a file, or the standard settings when no file is named. -/
def settings (workspace : Workspace) (parse? : String → Option Settings) :
    Option String → Except Error Settings
  | none => .ok {}
  | some path => workspace.content path >>= Settings.load parse?

/-- The records in a pattern file. -/
def records (workspace : Workspace) (path : String) : Except Error (List Record) :=
  workspace.content path >>= PatternFile.read

/-- The frames of the script in a file, with settings from another file. -/
def compiled (workspace : Workspace) (parse? : String → Option Settings) (input : String)
    (config : Option String) : Except Error (List Frame) := do
  let settings ← workspace.settings parse? config
  let bytes ← workspace.content input
  let animation ← Script.compileBytes settings.defaults bytes
  return animation.frames

/-- The name of the file that is written under a path, if there can be such a file. -/
def target (workspace : Workspace) (path : String) : Except StreamFault String :=
  if endsNameInSlash path ∧ path.utf8ByteSize < pathLimit then .error .isDirectory
  else workspace.resolve path

end Workspace

/-- A program comes to a result that depends on the files only, and leaves the files as they are. -/
def Reads (files : Files) (program : ExceptT Error (StateM Workspace) α) (result : Except Error α) :
    Prop :=
  ∀ workspace : Workspace, workspace.files = files →
    ∃ after, workspace.run program = (result, after) ∧ after.files = files

/-- Frames stand in a pattern file, and no other file has changed. -/
structure Saved (before after : Files) (name : String) (frames : List Frame) : Prop where
  full : frames.length = Board.slotCount
  holds : ∃ text, after.get? name = some (Text.encode text) ∧ PatternFile.Holds text frames
  others : ∀ other, other ≠ name → after.get? other = before.get? other

/-- Frames are saved as a whole, or no file has changed. -/
inductive Delivered (before : Workspace) (after : Files) (output : String) :
    Except Error (List Frame) → UInt32 → Prop where
  /-- There are no frames to save. -/
  | failed (error : Error) (unchanged : after = before.files) :
      Delivered before after output (.error error) 1
  /-- There can be no file to save them in. -/
  | refused (frames : List Frame) (fault : StreamFault)
      (unwritable : before.target output = .error fault) (unchanged : after = before.files) :
      Delivered before after output (.ok frames) 1
  | saved (frames : List Frame) (name : String) (writable : before.target output = .ok name)
      (saved : Saved before.files after name frames) :
      Delivered before after output (.ok frames) 0

/-- The frames of a built-in pattern, fitted into memory. -/
def fitted (pattern : Pattern) : Except Error (List Frame) := do
  let (frames, _) ← Memory.fitWhole pattern.frames
  return frames

/-- Nothing can be uploaded: there are no settings, no records, or too many records. -/
def Unsendable (parse? : String → Option Settings) (workspace : Workspace) (path : String)
    (config : Option String) : Prop :=
  (∃ error, workspace.settings parse? config = .error error) ∨
    (∃ error, workspace.records path = .error error) ∨
    ∃ records, workspace.records path = .ok records ∧ Board.slotCount < records.length

/-- What a command promises about its exit status and the files that it leaves. -/
def Command.Outcome (parse? : String → Option Settings) (before : Workspace) (after : Files)
    (status : UInt32) : Command → Prop
  | .compile input output _ config =>
      Delivered before after output (before.compiled parse? input config) status
  | .generate output pattern =>
      Delivered before after output (fitted pattern) status
  | .display path =>
      after = before.files ∧ (status = 0 ↔ ∃ records, before.records path = .ok records)
  | .upload _ path config =>
      Unsendable parse? before path config → status = 1 ∧ after = before.files

/-- The exit status of a command. -/
def exitStatus : Except Error Unit → UInt32
  | .ok () => 0
  | .error _ => 1

/-- A program delivers frames, from every workspace with the files of this one. -/
def Delivers (before : Workspace) (output : String)
    (program : ExceptT Error (StateM Workspace) Unit) (frames : Except Error (List Frame)) : Prop :=
  ∀ workspace : Workspace, workspace.files = before.files →
    Delivered before (workspace.run program).2.files output frames
      (exitStatus (workspace.run program).1)

/-! ## Programs -/

theorem run_bind (workspace : Workspace) (program : ExceptT Error (StateM Workspace) α)
    (next : α → ExceptT Error (StateM Workspace) β) :
    workspace.run (program >>= next) =
      match workspace.run program with
      | (.ok value, after) => after.run (next value)
      | (.error error, after) => (.error error, after) := by
  show StateT.run (ExceptT.run (program >>= next)) workspace = _
  rw [ExceptT.run_bind, StateT.run_bind]
  unfold Workspace.run
  cases StateT.run program.run workspace with
  | mk result after => cases result <;> rfl

namespace Workspace

variable {workspace other : Workspace}

theorem tell_files (workspace : Workspace) (event : Event) :
    (workspace.tell event).files = workspace.files := by
  unfold tell
  split <;> rfl

/-- What is read depends on the files only. -/
theorem content_congr (same : other.files = workspace.files) (path : String) :
    other.content path = workspace.content path := by
  unfold content read resolve
  rw [same]

theorem target_congr (same : other.files = workspace.files) (path : String) :
    other.target path = workspace.target path := by
  unfold target resolve
  rw [same]

theorem write_eq (workspace : Workspace) (path : String) (content : List UInt8) :
    workspace.write path content = (workspace.target path).map fun name =>
      { workspace with files := workspace.files.set name content } := by
  unfold write target
  split
  · rfl
  · cases workspace.resolve path <;> rfl

end Workspace

theorem Files.get?_set_self (files : Files) (name : String) (content : List UInt8) :
    (files.set name content).get? name = some content := by
  induction files with
  | nil => simp [set, get?]
  | cons file later ih =>
      unfold get? at ih ⊢
      rw [set]
      split
      · simp
      · rename_i differs
        rw [List.lookup_cons, beq_false_of_ne (Ne.symm differs)]
        exact ih

theorem Files.get?_set_of_ne (files : Files) {name other : String} (differs : other ≠ name)
    (content : List UInt8) : (files.set name content).get? other = files.get? other := by
  induction files with
  | nil => simp [set, get?, List.lookup_cons, beq_false_of_ne differs]
  | cons file later ih =>
      unfold get? at ih ⊢
      rw [set]
      split
      · rename_i same
        rw [List.lookup_cons, List.lookup_cons, same, beq_false_of_ne differs]
      · rw [List.lookup_cons, List.lookup_cons, ih]

/-- An operation of the workspace, with its fault as an error. -/
theorem run_orFail (workspace : Workspace) (operation : StateM Workspace (Except StreamFault α)) :
    workspace.run (Link.orFail operation) =
      ((StateT.run operation workspace).1.mapError .stream,
        (StateT.run operation workspace).2) := by
  show StateT.run (operation >>= _) workspace = _
  rw [StateT.run_bind]
  cases StateT.run operation workspace with
  | mk result after => cases result <;> rfl

namespace Reads

variable {files : Files} {program : ExceptT Error (StateM Workspace) α}
  {next : α → ExceptT Error (StateM Workspace) β}

theorem pure (value : α) : Reads files (Pure.pure value) (.ok value) :=
  fun workspace same => ⟨workspace, rfl, same⟩

theorem settled (result : Except Error α) : Reads files (Link.settled result) result :=
  fun workspace same => ⟨workspace, rfl, same⟩

/-- Parts that only read are read one after another. -/
theorem bind {result : Except Error α} {rest : α → Except Error β}
    (first : Reads files program result)
    (others : ∀ value, result = .ok value → Reads files (next value) (rest value)) :
    Reads files (program >>= next) (result >>= rest) := by
  intro workspace same
  obtain ⟨after, ran, kept⟩ := first workspace same
  rw [run_bind, ran]
  cases result with
  | error error => exact ⟨after, rfl, kept⟩
  | ok value => exact others value rfl after kept

/-- A part that is sure to succeed only hands over its value. -/
theorem andThen {value : α} {result : Except Error β} (first : Reads files program (.ok value))
    (others : Reads files (next value) result) : Reads files (program >>= next) result := by
  show Reads files (program >>= next) (Except.ok value >>= fun _ => result)
  refine first.bind fun found same => ?_
  cases same
  exact others

/-- Nothing comes behind a part that fails. -/
theorem fail {error : Error} (first : Reads files program (.error error))
    (next : α → ExceptT Error (StateM Workspace) β) :
    Reads files (program >>= next) (.error error) := by
  have nothing : Reads files (program >>= next)
      ((.error error : Except Error α) >>= fun _ => .error error) := first.bind nofun
  exact nothing

theorem tell (event : Event) : Reads files (tell event) (.ok ()) :=
  fun workspace same => ⟨workspace.tell event, rfl, (workspace.tell_files event).trans same⟩

theorem tellAll (events : List Event) : Reads files (tellAll events) (.ok ()) := by
  induction events with
  | nil => exact pure ()
  | cons event later ih => exact (tell event).bind fun _ _ => ih

theorem readFile (workspace : Workspace) (path : String) :
    Reads workspace.files (readFile path) (workspace.content path) := by
  intro other same
  rw [CommandLine.readFile, run_orFail, ← Workspace.content_congr same]
  exact ⟨other, rfl, same⟩

/-- A device can be opened if it can be read. -/
theorem openDevice (workspace : Workspace) (path : String) :
    Reads workspace.files (Link.orFail (Host.openDevice path))
      (workspace.content path >>= fun _ => .ok ()) := by
  intro other same
  have opened : StateT.run (Host.openDevice (m := StateM Workspace) path) other =
      StateT.run (Workspace.change (other.openDevice path)) other := rfl
  rw [run_orFail, opened, ← Workspace.content_congr same]
  unfold Workspace.openDevice Workspace.content Workspace.read
  cases other.resolve path with
  | error fault => exact ⟨other, rfl, same⟩
  | ok name =>
      simp only [Bind.bind, Except.bind]
      cases other.files.get? name with
      | none => exact ⟨other, rfl, same⟩
      | some content => exact ⟨{ other with device := some { name } }, rfl, same⟩

end Reads

/-! ## Commands that read -/

variable (parse? : String → Option Settings) (workspace : Workspace)

theorem reads_loadSettings (config : Option String) :
    Reads workspace.files (loadSettings parse? config) (workspace.settings parse? config) := by
  cases config with
  | none => exact .pure ({} : Settings)
  | some path =>
      exact (Reads.tell _).bind fun _ _ => (Reads.readFile workspace path).bind fun bytes _ =>
        .settled (Settings.load parse? bytes)

theorem reads_loadRecords (path : String) :
    Reads workspace.files (loadRecords path) (workspace.records path) :=
  (Reads.readFile workspace path).bind fun bytes _ => .settled (PatternFile.read bytes)

theorem reads_display (path : String) :
    Reads workspace.files (display path) (workspace.records path >>= fun _ => .ok ()) :=
  (reads_loadRecords workspace path).bind fun _ _ => .tellAll _

theorem reads_compileScript (files : Files) (defaults : Script.Defaults) (lines : List String) :
    Reads files (compileScript defaults lines) (Script.compile defaults lines) := by
  unfold compileScript Script.compile
  cases Script.compileReporting defaults lines with
  | error failure => exact (Reads.tellAll _).bind fun _ _ => .settled (.error failure.error)
  | ok compiled => exact (Reads.tellAll _).bind fun _ _ => .pure compiled.1

/-- Records that are too many are refused before anything is sent. -/
theorem reads_upload {path : String} {records : List Record}
    (found : workspace.records path = .ok records) (tooMany : Board.slotCount < records.length)
    (device : String) (settings : Settings) :
    ∃ error, Reads workspace.files (upload device path settings) (.error error) := by
  have refused : Reads workspace.files (Link.upload settings.mode records)
      (.error (.tooManyRecords records.length)) := by
    rw [Link.upload, if_pos tooMany]
    exact fun other same => ⟨other, rfl, same⟩
  have loaded := reads_loadRecords workspace path
  have opened := Reads.openDevice workspace device
  rw [found] at loaded
  cases there : workspace.content device with
  | error error =>
      rw [there] at opened
      exact ⟨error, loaded.andThen ((Reads.tell _).andThen (opened.fail _))⟩
  | ok content =>
      rw [there] at opened
      exact ⟨.tooManyRecords records.length,
        loaded.andThen ((Reads.tell _).andThen (opened.andThen (refused.fail _)))⟩

/-- What cannot be sent is found out by reading. -/
theorem reads_of_unsendable {path : String} {config : Option String}
    (unsendable : Unsendable parse? workspace path config) (device : String) :
    ∃ error, Reads workspace.files (run parse? (.upload device path config)) (.error error) := by
  have given := reads_loadSettings parse? workspace config
  have loaded := reads_loadRecords workspace path
  cases settled : workspace.settings parse? config with
  | error error =>
      rw [settled] at given
      exact ⟨error, given.fail _⟩
  | ok settings =>
      rw [settled] at given
      rcases unsendable with ⟨error, none⟩ | ⟨error, none⟩ | ⟨records, found, tooMany⟩
      · rw [settled] at none
        cases none
      · rw [none] at loaded
        exact ⟨error, given.andThen (loaded.fail _)⟩
      · obtain ⟨error, refused⟩ := reads_upload workspace found tooMany device settings
        exact ⟨error, given.andThen refused⟩

/-! ## Commands that save -/

variable {parse? workspace}

namespace Delivers

variable {before : Workspace} {output : String}

/-- A pattern is saved as a whole, if there can be such a file. -/
theorem save {frames : List Frame} (full : frames.length = Board.slotCount)
    (inRange : ∀ frame ∈ frames, frame.InRange) :
    Delivers before output (save output (frames.map Record.ofFrame)) (.ok frames) := by
  intro workspace same
  have written (content : List UInt8) :
      StateT.run (Host.writeFile (m := StateM Workspace) output content) workspace =
        StateT.run (Workspace.change (workspace.write output content)) workspace := rfl
  rw [CommandLine.save, run_bind, run_orFail, written, Workspace.write_eq,
    Workspace.target_congr same]
  cases target : before.target output with
  | error fault => exact .refused frames fault target same
  | ok name =>
      show Delivered before (Workspace.tell _ (.saved output)).files output _ 0
      rw [Workspace.tell_files]
      refine .saved frames name target ⟨full, ⟨_, ?_, PatternFile.holds_render inRange⟩, ?_⟩
      · exact Files.get?_set_self _ name _
      · intro other differs
        rw [← same]
        exact Files.get?_set_of_ne _ differs _

/-- Parts that only read come before the pattern is saved. -/
theorem after {program : ExceptT Error (StateM Workspace) α}
    {next : α → ExceptT Error (StateM Workspace) Unit} {result : Except Error α}
    {rest : α → Except Error (List Frame)} (first : Reads before.files program result)
    (others : ∀ value, result = .ok value → Delivers before output (next value) (rest value)) :
    Delivers before output (program >>= next) (result >>= rest) := by
  intro workspace same
  obtain ⟨after, ran, kept⟩ := first workspace same
  rw [run_bind, ran]
  cases result with
  | error error => exact .failed error kept
  | ok value => exact others value rfl after kept

/-- A part that is sure to succeed only hands over its value. -/
theorem andThen {program : ExceptT Error (StateM Workspace) α}
    {next : α → ExceptT Error (StateM Workspace) Unit} {value : α}
    {frames : Except Error (List Frame)} (first : Reads before.files program (.ok value))
    (others : Delivers before output (next value) frames) :
    Delivers before output (program >>= next) frames := by
  show Delivers before output (program >>= next) (Except.ok value >>= fun _ => frames)
  refine after first fun found same => ?_
  cases same
  exact others

end Delivers

theorem delivers_compile (input output : String) (pretty : Bool) (settings : Settings) :
    Delivers workspace output (compile input output pretty settings) (do
      let bytes ← workspace.content input
      let animation ← Script.compileBytes settings.defaults bytes
      return animation.frames) := by
  unfold compile
  refine .andThen (Reads.tell _) ?_
  refine .after (Reads.readFile workspace input) fun bytes _ => ?_
  rw [Script.compileBytes, bind_assoc]
  refine .after (Reads.settled _) fun lines _ => ?_
  refine .after (reads_compileScript _ settings.defaults lines) fun animation compiled => ?_
  obtain ⟨full, inRange⟩ := Script.inRange_of_compile compiled
  split
  · exact .andThen (Reads.tellAll _) (.save full inRange)
  · exact .save full inRange

theorem delivers_generate (output : String) (pattern : Pattern) :
    Delivers workspace output (generate output pattern) (fitted pattern) := by
  refine .andThen (Reads.tell _) (.after (Reads.settled _) fun found fits => ?_)
  obtain ⟨full, inRange⟩ := Pattern.inRange_of_fitWhole fits
  exact .andThen (Reads.tell _) (.save full inRange)

/-! ## All commands -/

section

variable {request : List String → Request} {arguments : List String} {command : Command}
  (asked : request arguments = .run command)
include asked

theorem execute_eq (parse? : String → Option Settings) (workspace : Workspace) :
    (workspace.execute request parse? arguments).1 =
        exitStatus (workspace.run (run parse? command)).1 ∧
      (workspace.execute request parse? arguments).2.files =
        (workspace.run (run parse? command)).2.files := by
  have answered : workspace.execute request parse? arguments =
      StateT.run (answer parse? (.run command) : StateM Workspace UInt32) workspace := by
    rw [Workspace.execute, asked]
  rw [answered, answer, StateT.run_bind]
  unfold Workspace.run
  cases StateT.run (run parse? command : ExceptT Error (StateM Workspace) Unit).run workspace with
  | mk result after =>
      cases result with
      | ok done => exact ⟨rfl, rfl⟩
      | error error => exact ⟨rfl, Workspace.tell_files _ _⟩

/-- A command that only reads changes no file. -/
theorem execute_of_reads {result : Except Error Unit}
    (reads : Reads workspace.files (run parse? command) result) :
    (workspace.execute request parse? arguments).1 = exitStatus result ∧
      (workspace.execute request parse? arguments).2.files = workspace.files := by
  obtain ⟨status, files⟩ := execute_eq asked parse? workspace
  obtain ⟨after, ran, kept⟩ := reads workspace rfl
  rw [status, files, ran]
  exact ⟨rfl, kept⟩

/-- What a command delivers is there at its end. -/
theorem delivered_of_execute {output : String} {frames : Except Error (List Frame)}
    (delivers : Delivers workspace output (run parse? command) frames) :
    Delivered workspace (workspace.execute request parse? arguments).2.files output frames
      (workspace.execute request parse? arguments).1 := by
  obtain ⟨status, files⟩ := execute_eq asked parse? workspace
  rw [status, files]
  exact delivers workspace rfl

/-- **Nothing is done by halves.** A command that saves a pattern replaces one file by a whole
pattern, which holds the frames that were to be saved, or it fails and changes no file. A pattern
is shown without changing a file, and no file is changed if nothing can be uploaded. This holds
for any reader of command lines and any reader of settings, and whatever the log shows. -/
theorem outcome_of_execute (parse? : String → Option Settings) (workspace : Workspace) :
    command.Outcome parse? workspace (workspace.execute request parse? arguments).2.files
      (workspace.execute request parse? arguments).1 := by
  cases command with
  | compile input output pretty config =>
      refine delivered_of_execute asked ?_
      exact .after (reads_loadSettings parse? workspace config) fun settings _ =>
        delivers_compile input output pretty settings
  | generate output pattern =>
      exact delivered_of_execute asked (delivers_generate output pattern)
  | display path =>
      have reads : Reads workspace.files (run parse? (.display path)) _ :=
        reads_display workspace path
      obtain ⟨status, unchanged⟩ := execute_of_reads asked reads
      refine ⟨unchanged, ?_⟩
      rw [status]
      cases workspace.records path with
      | error error => exact iff_of_false (show (1 : UInt32) ≠ 0 by decide) nofun
      | ok records => exact iff_of_true rfl ⟨records, rfl⟩
  | upload device path config =>
      intro unsendable
      obtain ⟨error, refused⟩ := reads_of_unsendable parse? workspace unsendable device
      exact execute_of_reads asked refused

end

/-- A script and settings for it, with the log that is shown when nothing else is asked for. -/
def twoFiles : Workspace where
  files := [
    ("tree", Text.encode "777777777777 000000000000\nset_marker\nfade_to\n\nrepeat"),
    ("dawn", Text.encode "[[\"dawn\", 9]]")]
  log := Filter.standard.log

/-- The program with the two files. -/
def executeTwoFiles (arguments : List String) : UInt32 × Workspace :=
  twoFiles.execute Request.ofArguments Settings.ofJson? arguments

theorem outcome_twoFiles :
    (Request.ofArguments ["compile", "./tree", "tree", "-p", "-cdawn"] =
        .run (.compile "./tree" "tree" true (some "dawn")) ∧
      (Command.compile "./tree" "tree" true (some "dawn")).Outcome Settings.ofJson? twoFiles
        (executeTwoFiles ["compile", "./tree", "tree", "-p", "-cdawn"]).2.files
        (executeTwoFiles ["compile", "./tree", "tree", "-p", "-cdawn"]).1 ∧
      (executeTwoFiles ["compile", "./tree", "tree", "-p", "-cdawn"]).1 = 0) ∧
    (Request.ofArguments ["upload", "dawn", "tree"] = .run (.upload "dawn" "tree" none) ∧
      Unsendable Settings.ofJson? twoFiles "tree" none ∧
      (executeTwoFiles ["upload", "dawn", "tree"]).1 = 1 ∧
      (executeTwoFiles ["upload", "dawn", "tree"]).2.files = twoFiles.files) := by
  have compiles : Request.ofArguments ["compile", "./tree", "tree", "-p", "-cdawn"] =
    .run (.compile "./tree" "tree" true (some "dawn")) := by decide
  have uploads : Request.ofArguments ["upload", "dawn", "tree"] =
    .run (.upload "dawn" "tree" none) := by decide
  have unsendable : Unsendable Settings.ofJson? twoFiles "tree" none :=
    .inr (.inl ⟨.invalidRecord 1 (.length 25), by decide +kernel⟩)
  unfold executeTwoFiles
  exact ⟨⟨compiles, outcome_of_execute compiles Settings.ofJson? twoFiles, by decide +kernel⟩,
    uploads, unsendable, outcome_of_execute uploads Settings.ofJson? twoFiles unsendable⟩

end CommandLine

end TreeBoard
