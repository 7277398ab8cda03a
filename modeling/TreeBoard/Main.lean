import TreeBoard.CommandLine.Filter
import TreeBoard.CommandLine.Help
import TreeBoard.CommandLine.Run
import TreeBoard.Settings.Json

/-!
# The program

The program runs its command line on the files of the machine and prints the events that the filter
in the environment lets through.
-/

namespace TreeBoard.CommandLine

/-- What a running program holds: its filter, and the device that it has opened. -/
structure Live where
  filter : Filter
  device : Option IO.FS.Handle := none

/-- Programs that talk to the machine. -/
abbrev LiveM := StateT Live IO

/-- The fault behind an error of the system. -/
def faultOf (error : IO.Error) : StreamFault :=
  match error with
  | .noFileOrDirectory .. => .missing
  | .inappropriateType _ 21 _ => .isDirectory
  | .inappropriateType _ 20 _ => .notDirectory
  | .invalidArgument _ 36 _ => .nameTooLong
  | _ => .other (toString error)

/-- Runs an action of the machine and catches its error. -/
def attempt {α : Type} (action : IO α) : LiveM (Except StreamFault α) := do
  try
    return .ok (← action)
  catch error =>
    return .error (faultOf error)

/-- Runs an action on the opened device. -/
def onDevice {α : Type} (action : IO.FS.Handle → IO α) : LiveM (Except StreamFault α) := do
  match (← get).device with
  | some device => attempt (action device)
  | none => return .error .missing

/-- Prints an event, if the filter lets it through. -/
def tellLive (event : Event) : LiveM Unit := do
  match event.entry? with
  | some entry => if (← get).filter.passes entry then IO.println entry.text
  | none => pure ()

instance : Host LiveM where
  write bytes := onDevice fun device => do
    device.write ⟨bytes.toArray⟩
    return bytes.length
  flush := onDevice fun device => device.flush
  read wanted := onDevice fun device => do
    return (← device.read (USize.ofNat wanted)).toList
  report mismatch := tellLive (.echoed mismatch)
  readFile path := attempt do return (← IO.FS.readBinFile path).toList
  writeFile path content := attempt (IO.FS.writeBinFile path ⟨content.toArray⟩)
  openDevice path := do
    match ← attempt (IO.FS.Handle.mk path .readWrite) with
    | .ok device => do
        modify fun live => { live with device := some device }
        return .ok ()
    | .error fault => return .error fault
  tell := tellLive
  print line := IO.println line

end TreeBoard.CommandLine

/-- Runs the command line; the result is the exit status. -/
def main (arguments : List String) : IO UInt32 := do
  match TreeBoard.CommandLine.Filter.ofSetting? (← IO.getEnv "RUST_LOG") with
  | some filter =>
      let request := TreeBoard.CommandLine.Request.ofArguments arguments
      let program : TreeBoard.CommandLine.LiveM UInt32 :=
        TreeBoard.CommandLine.answer TreeBoard.Settings.ofJson? request
      program.run' { filter }
  | none => return TreeBoard.CommandLine.Filter.tornStatus
