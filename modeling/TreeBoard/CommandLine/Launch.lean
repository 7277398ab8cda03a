import TreeBoard.CommandLine.Filter
import TreeBoard.CommandLine.Help
import TreeBoard.CommandLine.Workspace
import TreeBoard.Settings.Json

/-!
# Launching the program

The program reads its command line, takes its settings from JSON files and logs what its filter lets
through.
-/

namespace TreeBoard.CommandLine

/-- Runs a command line on files, with the filter that is asked for. Without a filter nothing
happens. -/
def Workspace.launch (files : Files) (setting : Option String) (arguments : List String) :
    UInt32 × Workspace :=
  match Filter.ofSetting? setting with
  | some filter =>
      Workspace.execute Request.ofArguments Settings.ofJson? { files, log := filter.log } arguments
  | none => (Filter.tornStatus, { files, log := fun _ => [] })

end TreeBoard.CommandLine
