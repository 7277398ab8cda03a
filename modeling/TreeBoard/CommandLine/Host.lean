import TreeBoard.CommandLine.Event
import TreeBoard.Link.Channel

/-!
# Hosts

A command needs a host: files, one device to talk to, and someone to tell events to. Commands are
written for every host, so they run alike on the files of a machine and on a workspace in memory.
-/

namespace TreeBoard.CommandLine

/-- What a command needs from its surroundings. The operations of a channel work on the device that was
opened last. -/
class Host (m : Type → Type) extends Link.Channel m where
  /-- The content of a file. -/
  readFile : String → m (Except StreamFault (List UInt8))
  /-- Gives a file a content, whether or not it was there before. -/
  writeFile : String → List UInt8 → m (Except StreamFault Unit)
  /-- Opens a device, which must be there. -/
  openDevice : String → m (Except StreamFault Unit)
  /-- Tells an event. -/
  tell : Event → m Unit
  /-- Prints a line. -/
  print : String → m Unit

variable {m : Type → Type} [Monad m] [Host m]

/-- Tells an event. -/
def tell (event : Event) : ExceptT Error m Unit :=
  ExceptT.lift (Host.tell event)

/-- Tells events in their order. -/
def tellAll : List Event → ExceptT Error m Unit
  | [] => pure ()
  | event :: later => do
      tell event
      tellAll later

/-- The content of a file. -/
def readFile (path : String) : ExceptT Error m (List UInt8) :=
  Link.orFail (Host.readFile path)

end TreeBoard.CommandLine
