import TreeBoard.CommandLine.Command
import TreeBoard.CommandLine.Host
import TreeBoard.PatternFile
import TreeBoard.Settings

/-!
# Running commands

The settings are read before anything else. A compiled or generated pattern is complete before its
file is touched, and a pattern is read completely before it is shown or uploaded. How the text of a
settings file is parsed is left open: `parse?` gives the settings that it holds.
-/

namespace TreeBoard.CommandLine

variable {m : Type → Type} [Monad m] [Host m]

/-- Saves records as a pattern file. -/
def save (path : String) (records : List Record) : ExceptT Error m Unit := do
  Link.orFail (Host.writeFile path (Text.encode (PatternFile.render records)))
  tell (.saved path)

/-- The settings of a file, or the standard settings when no file is named. -/
def loadSettings (parse? : String → Option Settings) : Option String → ExceptT Error m Settings
  | none => return {}
  | some path => do
      tell (.readingSettings path)
      let bytes ← readFile path
      Link.settled (Settings.load parse? bytes)

/-- The records of a pattern file. -/
def loadRecords (path : String) : ExceptT Error m (List Record) := do
  let bytes ← readFile path
  Link.settled (PatternFile.read bytes)

/-- The events that tell of notices, with the speeds of the fades among them. -/
def noticeEvents : List Script.Notice → List UInt32 → List Event
  | .faded first _ inserted :: later, speed :: speeds =>
      .faded first inserted speed :: noticeEvents later speeds
  | notice :: later, speeds => .noticed notice :: noticeEvents later speeds
  | [], _ => []

/-- The events that tell of a compiled animation, with the speeds of its fades. -/
def animationEvents (animation : Animation) (fadeSpeeds : List UInt32) : List Event :=
  (noticeEvents animation.notices fadeSpeeds).flatMap fun event =>
    match event with
    | .noticed (.fitted fit) => [.compiled animation.authored, .fitted animation.authored fit]
    | _ => [event]

/-- Compiles a script and tells what was noticed, also when it fails. -/
def compileScript (defaults : Script.Defaults) (lines : List String) :
    ExceptT Error m Animation :=
  match Script.compileReporting defaults lines with
  | .ok (animation, fadeSpeeds) => do
      tellAll (animationEvents animation fadeSpeeds)
      return animation
  | .error failure => do
      tellAll (noticeEvents failure.notices failure.fadeSpeeds)
      throw failure.error

/-- The command `compile`. -/
def compile (input output : String) (pretty : Bool) (settings : Settings) :
    ExceptT Error m Unit := do
  tell (.compiling input output)
  let bytes ← readFile input
  let lines ← Link.settled (Script.readLines bytes)
  let animation ← compileScript settings.defaults lines
  if pretty || settings.pretty then
    tellAll (animation.frames.zipIdx.map fun (frame, index) => .showingFrame index frame)
  save output animation.records

/-- The command `generate`. -/
def generate (output : String) (pattern : Pattern) : ExceptT Error m Unit := do
  tell (.generated pattern pattern.frames.length)
  let (frames, fit) ← Link.settled (Memory.fitWhole pattern.frames)
  tell (.fitted pattern.frames.length fit)
  save output (frames.map Record.ofFrame)

/-- The command `show`. -/
def display (path : String) : ExceptT Error m Unit := do
  let records ← loadRecords path
  tellAll (records.zipIdx.map fun (record, slot) => .showingRecord slot record)

/-- The command `upload`. -/
def upload (device path : String) (settings : Settings) : ExceptT Error m Unit := do
  let records ← loadRecords path
  tell (.uploading device records.length)
  Link.orFail (Host.openDevice device)
  Link.upload settings.mode records
  tell (.uploaded records.length)

/-- Runs a command. -/
def run (parse? : String → Option Settings) : Command → ExceptT Error m Unit
  | .compile input output pretty settings => do
      compile input output pretty (← loadSettings parse? settings)
  | .generate output pattern => generate output pattern
  | .display records => display records
  | .upload device records settings => do
      upload device records (← loadSettings parse? settings)

/-- Answers a request with an exit status: 0 for success, 1 for a failure, which is told, and 2 for a
wrong command line. -/
def answer (parse? : String → Option Settings) : Request → m UInt32
  | .invalid => return 2
  | .print lines => do
      lines.forM Host.print
      return 0
  | .run command => do
      match ← (run parse? command).run with
      | .ok () => return 0
      | .error error => do
          Host.tell (.failed error)
          return 1

end TreeBoard.CommandLine
