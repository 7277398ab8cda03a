import TreeBoard.CommandLine.Arguments

/-!
# Help

A help text says what a command does, how it is called, and what its operands and options mean. The
meanings stand in a column of their own.
-/

namespace TreeBoard.CommandLine

/-- The name of a command. -/
def Verb.name : Verb → String
  | compile => "compile"
  | generate => "generate"
  | display => "show"
  | upload => "upload"

/-- What a command does. -/
def Verb.purpose : Verb → String
  | compile => "Compile an animation script into a pattern memory file"
  | generate => "Write a built-in procedural pattern"
  | display => "Print a pattern memory file in the board's layout"
  | upload => "Program a pattern memory file into the board"

/-- The operands of a command and their meanings. -/
def Verb.operands : Verb → List (String × String)
  | compile =>
      [("<INPUT>", "Animation script, one frame per line or spread over several lines"),
        ("<OUTPUT>", "Output path for the 256 hex records")]
  | generate => [("<OUTPUT>", "Output path for the 256 hex records")]
  | display => [("<RECORDS>", "Pattern memory file, one hex record per line")]
  | upload =>
      [("<DEVICE>", "Serial device, already configured for 115200 baud"),
        ("<RECORDS>", "Pattern memory file, one hex record per line")]

/-- How an option is written, and its meaning. -/
def Switch.entry : Switch → String × String
  | help => ("-h, --help", "Print help")
  | pretty => ("-p, --pretty", "Log every frame laid out like the board")
  | settings => ("-c, --config <CONFIG>", "Optional JSON configuration file")
  | pattern =>
      ("    --pattern <PATTERN>", "[default: both] [possible values: waterfall, sweep, both]")

/-- What the command `help` does. -/
def helpPurpose : String := "Print this message or the help of the given subcommand(s)"

/-- The commands and what they do. -/
def commandEntries : List (String × String) :=
  ([.compile, .generate, .display, .upload].map fun (verb : Verb) => (verb.name, verb.purpose)) ++
    [("help", helpPurpose)]

/-- Labels and meanings in two columns, two spaces apart. -/
def columns (entries : List (String × String)) : List String :=
  let width := (entries.map fun (label, _) => label.length).foldl max 0
  entries.map fun (label, meaning) =>
    "  " ++ label ++ String.ofList (List.replicate (width + 2 - label.length) ' ') ++ meaning

/-- A section of a help text, with a blank line before it. -/
def helpSection (title : String) (entries : List (String × String)) : List String :=
  ["", title ++ ":"] ++ columns entries

/-- The lines of a help text, from a purpose, the call, and what follows. -/
def helpText (purpose call : String) (sections : List (List String)) : List String :=
  [purpose, "", "Usage: treelights " ++ call] ++ sections.flatten

/-- How a command is called. Options are hinted at if there is one besides the request for help. -/
def Verb.call (verb : Verb) : String :=
  let hint := if verb.switches = [.help] then "" else " [OPTIONS]"
  verb.name ++ hint ++ String.join (verb.operands.map fun (label, _) => " " ++ label)

/-- The lines of the help on a topic. -/
def Topic.lines : Topic → List String
  | program =>
      helpText "Christmas tree board pattern tools" "<COMMAND>"
        [helpSection "Commands" commandEntries,
          helpSection "Options" [Switch.help.entry, ("-V, --version", "Print version")]]
  | command verb =>
      helpText verb.purpose verb.call
        [helpSection "Arguments" verb.operands,
          helpSection "Options" (verb.switches.map Switch.entry)]
  | help =>
      helpText helpPurpose "help [COMMAND]..."
        [helpSection "Arguments" [("[COMMAND]...", "Print help for the subcommand(s)")]]

/-- Reads a command line, with the texts of the help that it asks for. -/
def Request.ofArguments (arguments : List String) : Request :=
  match Asked.ofArguments arguments with
  | .run command => .run command
  | .help topic => .print topic.lines
  | .version => .print ["treelights-app 0.1.0"]
  | .invalid => .invalid

end TreeBoard.CommandLine
