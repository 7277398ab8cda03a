import TreeBoard.CommandLine.Event
import TreeBoard.Text.Lines
import TreeBoard.Text.Terminal

/-!
# The log

An entry of the log is a line with its severity, its target, its message and its fields. The message
may go on over several lines.
-/

namespace TreeBoard.CommandLine

namespace Entry

/-- Whether an entry has something of the given name to tell. -/
def hasField (entry : Entry) (name : String) : Bool :=
  name == "message" || entry.fields.any (·.1 == name)

/-- The text of an entry. Its message is made for a terminal, and its fields stay as they are. -/
def text (entry : Entry) : String :=
  entry.severity.name ++ " " ++ entry.target ++ ": " ++ Text.forTerminal entry.message ++
    String.join (entry.fields.map fun (name, value) => " " ++ name ++ "=" ++ value)

/-- The lines that an entry takes on the output. -/
def lines (entry : Entry) : List String :=
  Text.lines (entry.text ++ "\n")

end Entry

end TreeBoard.CommandLine
