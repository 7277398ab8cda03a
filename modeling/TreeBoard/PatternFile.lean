import TreeBoard.Record.Hex
import TreeBoard.Text.Blank
import TreeBoard.Text.Lines

/-!
# Pattern files

A pattern file holds one record on each line, in the order in which the board plays them. A reader
skips blank lines and the blanks around a record.
-/

namespace TreeBoard.PatternFile

/-- The text of a pattern file. -/
def render (records : List Record) : String :=
  String.ofList (records.flatMap fun record => record.hexChars ++ ['\n'])

/-- The record on a line, if the line is not blank. -/
def readLine (line : Nat) (bytes : List UInt8) : Except Error (Option Record) :=
  match Text.decode? bytes with
  | none => .error (.stream .notUnicode)
  | some text =>
      match Text.trim text.toList with
      | [] => .ok none
      | trimmed =>
          match Record.ofHex? (String.ofList trimmed) with
          | .ok record => .ok (some record)
          | .error fault => .error (.invalidRecord line fault)

/-- The records on lines of which the first has the given number. -/
def readLines : Nat → List (List UInt8) → Except Error (List Record)
  | _, [] => .ok []
  | line, bytes :: later => do
      let found ← readLine line bytes
      let records ← readLines (line + 1) later
      return found.toList ++ records

/-- The records of a pattern file. The first faulty line decides how reading fails. -/
def read (bytes : List UInt8) : Except Error (List Record) :=
  readLines 1 (Text.byteLines bytes)

end TreeBoard.PatternFile
