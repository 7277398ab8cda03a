import TreeBoard.CommandLine.Run
import TreeBoard.Text.Split

/-!
# Workspaces

A workspace is a directory in memory that holds files and no directories. A device in it is a file
with one cursor: what is sent overwrites the content at the cursor, and what is received is what
stands behind it. What the log shows of an entry is up to the workspace.
-/

namespace TreeBoard.CommandLine

/-- Files by name. -/
abbrev Files := List (String × List UInt8)

/-- The content of a file. -/
def Files.get? (files : Files) (name : String) : Option (List UInt8) :=
  files.lookup name

/-- The files with another content of one of them, which is added if it is new. -/
def Files.set (files : Files) (name : String) (content : List UInt8) : Files :=
  match files with
  | [] => [(name, content)]
  | (other, old) :: later =>
      if other = name then (name, content) :: later else (other, old) :: Files.set later name content

/-- An opened device: the name of its file and the place of the cursor. -/
structure Device where
  name : String
  cursor : Nat := 0
deriving DecidableEq, Repr

/-- The state of a workspace in which a command runs. -/
structure Workspace where
  files : Files
  /-- The lines that are printed for an entry of the log. There are none for one that is hidden. -/
  log : Entry → List String
  device : Option Device := none
  /-- The lines printed so far. -/
  printed : List String := []

/-- The parts of a path between slashes, without those that stay in the same directory. -/
def pathParts (path : String) : List String :=
  (Text.split '/' path).filter fun part => part ≠ "" ∧ part ≠ "."

/-- Whether a path ends in a slash. -/
def endsInSlash (path : String) : Bool :=
  path.toList.getLast? == some '/'

/-- Whether a path asks for a directory by its last part. -/
def asksForDirectory (path : String) : Bool :=
  endsInSlash path || (Text.split '/' path).getLast? == some "."

/-- The parts of a path behind those at its start that lead upwards. -/
def namedParts (path : String) : List String :=
  (pathParts path).dropWhile (· = "..")

/-- Whether a path leads out of the workspace. -/
def leavesWorkspace (path : String) : Bool :=
  path.toList.head? == some '/' || (pathParts path).head? == some ".."

/-- Whether a path has a slash behind its only name. -/
def endsNameInSlash (path : String) : Bool :=
  endsInSlash path &&
    match namedParts path with
    | [name] => ((Text.split '/' path).filter (· ≠ "")).getLast? == some name
    | _ => false

/-- The number of bytes that a path cannot reach. -/
def pathLimit : Nat := 4096

/-- The most bytes that a name can have. -/
def nameLimit : Nat := 255

namespace Workspace

/-- The name of the file that a path leads to, whether or not the file is there. Outside the
workspace there are the directories above it and nothing else. -/
def resolve (workspace : Workspace) (path : String) : Except StreamFault String :=
  if pathLimit ≤ path.utf8ByteSize then .error .nameTooLong
  else
    match namedParts path with
    | [] => .error .isDirectory
    | first :: later =>
        if nameLimit < first.utf8ByteSize then .error .nameTooLong
        else if leavesWorkspace path then .error .missing
        else if later = [] ∧ !asksForDirectory path then .ok first
        else if (workspace.files.get? first).isSome then .error .notDirectory
        else .error .missing

/-- The content of a file. -/
def read (workspace : Workspace) (path : String) : Except StreamFault (List UInt8) := do
  let name ← workspace.resolve path
  match workspace.files.get? name with
  | some content => return content
  | none => throw .missing

/-- The workspace with another content of a file. A name with a slash at its end cannot be given to a
file. -/
def write (workspace : Workspace) (path : String) (content : List UInt8) :
    Except StreamFault Workspace := do
  if endsNameInSlash path ∧ path.utf8ByteSize < pathLimit then throw .isDirectory
  let name ← workspace.resolve path
  return { workspace with files := workspace.files.set name content }

/-- The workspace with an opened device. -/
def openDevice (workspace : Workspace) (path : String) : Except StreamFault Workspace := do
  let name ← workspace.resolve path
  match workspace.files.get? name with
  | some _ => return { workspace with device := some { name } }
  | none => throw .missing

/-- Overwrites what stands behind the cursor of the device. -/
def send (workspace : Workspace) (bytes : List UInt8) : Workspace :=
  match workspace.device with
  | none => workspace
  | some device =>
      let content := (workspace.files.get? device.name).getD []
      let changed :=
        content.take device.cursor ++ bytes ++ content.drop (device.cursor + bytes.length)
      { workspace with
        files := workspace.files.set device.name changed
        device := some { device with cursor := device.cursor + bytes.length } }

/-- Takes what stands behind the cursor of the device. -/
def receive (workspace : Workspace) (wanted : Nat) : List UInt8 × Workspace :=
  match workspace.device with
  | none => ([], workspace)
  | some device =>
      let content := (workspace.files.get? device.name).getD []
      let bytes := (content.drop device.cursor).take wanted
      (bytes, { workspace with
        device := some { device with cursor := device.cursor + bytes.length } })

/-- Prints what the log shows of an event. -/
def tell (workspace : Workspace) (event : Event) : Workspace :=
  match event.entry? with
  | some entry => { workspace with printed := workspace.printed ++ workspace.log entry }
  | none => workspace

/-- Prints a line. -/
def print (workspace : Workspace) (line : String) : Workspace :=
  { workspace with printed := workspace.printed ++ [line] }

/-- Takes over a change that may fail and then leaves everything as it was. -/
def change (result : Except StreamFault Workspace) : StateM Workspace (Except StreamFault Unit) :=
  match result with
  | .ok next => do
      set next
      return .ok ()
  | .error fault => return .error fault

end Workspace

instance : Host (StateM Workspace) where
  write bytes := do
    modify (·.send bytes)
    return .ok bytes.length
  flush := return .ok ()
  read wanted := do return .ok (← modifyGet (·.receive wanted))
  report mismatch := modify (·.tell (.echoed mismatch))
  readFile path := do return (← get).read path
  writeFile path content := do Workspace.change ((← get).write path content)
  openDevice path := do Workspace.change ((← get).openDevice path)
  tell event := modify (·.tell event)
  print line := modify (·.print line)

/-- Runs a command line in a workspace: the exit status, and the workspace that it leaves. Command
lines and the texts of settings files are read by the given readers. -/
def Workspace.execute (request : List String → Request) (parse? : String → Option Settings)
    (workspace : Workspace) (arguments : List String) : UInt32 × Workspace :=
  (answer parse? (request arguments) : StateM Workspace UInt32).run workspace

end TreeBoard.CommandLine
