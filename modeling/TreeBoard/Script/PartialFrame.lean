import TreeBoard.Frame
import TreeBoard.Text.Blank

/-!
# Partly written frames

The 24 levels of a frame may stand on one line or be spread over several. The levels read so far wait
until a line ends with the 24th. An error does not undo what was read before it.
-/

namespace TreeBoard.Script

/-- The levels of a frame that is not complete yet, and the line of the first of them. -/
structure PartialFrame where
  pending : List Level := []
  startLine : Nat := 0
deriving DecidableEq, Repr

namespace PartialFrame

/-- Whether no level is waiting. -/
def isEmpty (gathered : PartialFrame) : Bool :=
  gathered.pending.isEmpty

/-- Number of waiting levels. -/
def size (gathered : PartialFrame) : Nat :=
  gathered.pending.length

/-- The level that a character denotes, a digit from 0 to 7. -/
def level? (c : Char) : Option Level :=
  if '0' ≤ c ∧ c ≤ '7' then some (UInt8.ofNat (c.toNat - '0'.toNat)) else none

/-- Reads one character that is not blank. -/
def pushChar (gathered : PartialFrame) (line column : Nat) (c : Char) :
    PartialFrame × Except Error Unit :=
  let opened := if gathered.isEmpty then { gathered with startLine := line } else gathered
  if opened.size = Board.ledCount then (opened, .error (.frameOverflow line column))
  else
    match level? c with
    | some level => ({ opened with pending := opened.pending ++ [level] }, .ok ())
    | none => (opened, .error (.invalidDigit line column c))

/-- Reads the characters of a line from the given column on, up to the first that is wrong. -/
def pushChars (gathered : PartialFrame) (line : Nat) : Nat → List Char →
    PartialFrame × Except Error Unit
  | _, [] => (gathered, .ok ())
  | column, c :: later =>
      if Text.isBlank c then pushChars gathered line (column + 1) later
      else
        match gathered.pushChar line column c with
        | (next, .ok ()) => pushChars next line (column + 1) later
        | (next, .error error) => (next, .error error)

/-- Takes out the frame if all its levels are there. -/
def release (gathered : PartialFrame) : PartialFrame × Except Error (Option Frame) :=
  if complete : gathered.pending.length = Board.ledCount then
    match Frame.ofLevels? ⟨gathered.pending.toArray, by simpa using complete⟩ gathered.startLine with
    | .ok frame => ({ gathered with pending := [] }, .ok (some frame))
    | .error error => (gathered, .error error)
  else (gathered, .ok none)

/-- Reads a line of levels. The frame that it completes, if any, is handed over at its end. -/
def push (gathered : PartialFrame) (line : Nat) (text : String) :
    PartialFrame × Except Error (Option Frame) :=
  match gathered.pushChars line 1 text.toList with
  | (next, .ok ()) => next.release
  | (next, .error error) => (next, .error error)

/-- Reads a blank line, which may not stand inside a frame. -/
def boundary (gathered : PartialFrame) (line : Nat) : PartialFrame × Except Error (Option Frame) :=
  if gathered.isEmpty ∨ gathered.size = Board.ledCount then gathered.release
  else (gathered, .error (.incompleteFrame gathered.startLine line gathered.size))

/-- Checks that the script does not end inside a frame. -/
def finish (gathered : PartialFrame) (lastLine : Nat) : Except Error Unit :=
  if gathered.isEmpty then .ok ()
  else .error (.incompleteFrame gathered.startLine lastLine gathered.size)

end PartialFrame

end TreeBoard.Script
