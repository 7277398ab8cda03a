import TreeBoard.CommandLine.Command

/-!
# Command lines

The first argument names a command. Options and operands of a command may be mixed; after `--` all
arguments are operands. An option takes its value from the same argument or from the next one, and no
option may be given twice. Arguments are read from left to right, so a wrong argument behind a
request for help goes unnoticed.
-/

namespace TreeBoard.CommandLine

/-- The name of a command. -/
inductive Verb where
  | compile
  | generate
  | display
  | upload
deriving DecidableEq, Repr

/-- What help can be asked about. -/
inductive Topic where
  | program
  | command (verb : Verb)
  /-- The command `help` itself. -/
  | help
deriving DecidableEq, Repr

/-- What a command line asks for, with help by its topic. -/
inductive Asked where
  | run (command : Command)
  | help (topic : Topic)
  | version
  /-- The command line is wrong. -/
  | invalid
deriving DecidableEq, Repr

/-- An option of some command. -/
inductive Switch where
  | help
  | pretty
  | settings
  | pattern
deriving DecidableEq, Repr

/-- The command of a name. -/
def Verb.ofName? : String → Option Verb
  | "compile" => some compile
  | "generate" => some generate
  | "show" => some display
  | "upload" => some upload
  | _ => none

/-- Number of operands that a command takes. -/
def Verb.operandCount : Verb → Nat
  | compile => 2
  | generate => 1
  | display => 1
  | upload => 2

/-- The options of a command. -/
def Verb.switches : Verb → List Switch
  | compile => [.pretty, .settings, .help]
  | generate => [.pattern, .help]
  | display => [.help]
  | upload => [.settings, .help]

/-- The long name of an option. -/
def Switch.long : Switch → String
  | help => "help"
  | pretty => "pretty"
  | settings => "config"
  | pattern => "pattern"

/-- The letter of an option, if it has one. -/
def Switch.letter? : Switch → Option Char
  | help => some 'h'
  | pretty => some 'p'
  | settings => some 'c'
  | pattern => none

/-- Why reading arguments ends early. -/
inductive Ending where
  | help
  | invalid
deriving DecidableEq, Repr

/-- The arguments of a command that were read so far. -/
structure Given where
  operands : List String := []
  pretty : Bool := false
  settings : Option String := none
  pattern : Option Pattern := none
  /-- The option that takes the next argument as its value. -/
  waiting : Option Switch := none
  /-- Whether all further arguments are operands. -/
  operandsOnly : Bool := false
deriving DecidableEq, Repr

/-- The pattern of a name. -/
def patternOfName? : String → Option Pattern
  | "waterfall" => some .waterfall
  | "sweep" => some .sweep
  | "both" => some .both
  | _ => none

namespace Given

/-- Takes an operand. No operand may be empty. -/
def addOperand (verb : Verb) (given : Given) (value : String) : Except Ending Given :=
  if value.isEmpty ∨ verb.operandCount ≤ given.operands.length then .error .invalid
  else .ok { given with operands := given.operands ++ [value] }

/-- Takes an option that has no value. -/
def addFlag (given : Given) : Switch → Except Ending Given
  | .help => .error .help
  | .pretty => if given.pretty then .error .invalid else .ok { given with pretty := true }
  | _ => .error .invalid

/-- Takes an option and its value. -/
def addValue (given : Given) (value : String) : Switch → Except Ending Given
  | .settings =>
      if value.isEmpty ∨ given.settings.isSome then .error .invalid
      else .ok { given with settings := some value, waiting := none }
  | .pattern =>
      match patternOfName? value, given.pattern with
      | some pattern, none => .ok { given with pattern := some pattern, waiting := none }
      | _, _ => .error .invalid
  | _ => .error .invalid

end Given

/-- Whether an option takes a value. -/
def Switch.takesValue : Switch → Bool
  | help => false
  | pretty => false
  | settings => true
  | pattern => true

/-- Reads the letters after a single dash. The last of them may have its value behind it. -/
def readLetters (verb : Verb) (given : Given) : List Char → Except Ending Given
  | [] => .ok given
  | letter :: later =>
      match verb.switches.find? fun switch => switch.letter? == some letter with
      | none => .error .invalid
      | some switch =>
          if switch.takesValue then
            match later with
            | [] => .ok { given with waiting := some switch }
            | '=' :: value => given.addValue (String.ofList value) switch
            | value => given.addValue (String.ofList value) switch
          else do
            let next ← given.addFlag switch
            readLetters verb next later

/-- Reads what stands after two dashes: a long name, with a value behind an equals sign if any. -/
def readLong (verb : Verb) (given : Given) (text : List Char) : Except Ending Given :=
  let name := String.ofList (text.takeWhile (· ≠ '='))
  match verb.switches.find? fun switch => switch.long == name with
  | none => .error .invalid
  | some switch =>
      match text.dropWhile (· ≠ '=') with
      | [] =>
          if switch.takesValue then .ok { given with waiting := some switch }
          else given.addFlag switch
      | _ :: value =>
          if switch.takesValue then given.addValue (String.ofList value) switch
          else .error .invalid

/-- Reads one argument of a command. -/
def readArgument (verb : Verb) (given : Given) (argument : String) : Except Ending Given :=
  if given.operandsOnly then given.addOperand verb argument
  else
    match given.waiting, argument.toList with
    | some switch, ['-'] => given.addValue argument switch
    | some _, '-' :: _ => .error .invalid
    | some switch, _ => given.addValue argument switch
    | none, ['-'] => given.addOperand verb argument
    | none, ['-', '-'] => .ok { given with operandsOnly := true }
    | none, '-' :: '-' :: long => readLong verb given long
    | none, '-' :: letters => readLetters verb given letters
    | none, _ => given.addOperand verb argument

/-- The command that is complete with the arguments read. -/
def Given.command? (given : Given) (verb : Verb) : Option Command :=
  if given.waiting.isSome then none
  else
    match verb, given.operands with
    | .compile, [input, output] => some (.compile input output given.pretty given.settings)
    | .generate, [output] => some (.generate output (given.pattern.getD .both))
    | .display, [records] => some (.display records)
    | .upload, [device, records] => some (.upload device records given.settings)
    | _, _ => none

/-- Reads the arguments of a command. -/
def readCommand (verb : Verb) (arguments : List String) : Asked :=
  match arguments.foldlM (readArgument verb) {} with
  | .error .help => .help (.command verb)
  | .error .invalid => .invalid
  | .ok given =>
      match given.command? verb with
      | some command => .run command
      | none => .invalid

/-- Reads what follows the command `help`: nothing, or the name of a command. -/
def readHelp : List String → Asked
  | [] => .help .program
  | [name] =>
      match Verb.ofName? name with
      | some verb => .help (.command verb)
      | none => if name = "help" then .help .help else .invalid
  | _ => .invalid

/-- Reads a command line. -/
def Asked.ofArguments : List String → Asked
  | [] => .invalid
  | first :: later =>
      match Verb.ofName? first with
      | some verb => readCommand verb later
      | none =>
          match first.toList with
          | '-' :: 'h' :: _ => .help .program
          | '-' :: 'V' :: _ => .version
          | _ =>
              if first = "help" then readHelp later
              else if first = "--help" then .help .program
              else if first = "--version" then .version
              else .invalid

end TreeBoard.CommandLine
