import TreeBoard.Pattern

/-!
# Commands

What the program can be asked for: one of four commands, or a text about itself.
-/

namespace TreeBoard.CommandLine

/-- A command with its operands and options. -/
inductive Command where
  /-- Compile a script into a pattern file. -/
  | compile (input output : String) (pretty : Bool) (settings : Option String)
  /-- Write a built-in pattern. -/
  | generate (output : String) (pattern : Pattern)
  /-- Show the records of a pattern file. -/
  | display (records : String)
  /-- Program a pattern file into the board. -/
  | upload (device records : String) (settings : Option String)
deriving DecidableEq, Repr

/-- What a command line asks for. -/
inductive Request where
  | run (command : Command)
  /-- Print a text, such as a help text or the version. -/
  | print (lines : List String)
  /-- The command line is wrong. -/
  | invalid
deriving DecidableEq, Repr

end TreeBoard.CommandLine
