import TreeBoard.Error

/-!
# Frames

A frame is one snapshot of the board: a level for each LED, LED 0 first, and the line of the script
that the frame started on. The line is for diagnostics; frames that no line wrote carry line 0.
-/

namespace TreeBoard

/-- A level for each LED, tagged with the line where the frame started. -/
structure Frame where
  levels : Vector Level Board.ledCount
  line : Nat
deriving DecidableEq, Repr

namespace Frame

/-- Every level of the frame is one that an LED accepts. -/
def InRange (frame : Frame) : Prop :=
  ∀ level ∈ frame.levels.toList, level ≤ Board.fullLevel

instance (frame : Frame) : Decidable frame.InRange :=
  inferInstanceAs (Decidable (∀ level ∈ frame.levels.toList, level ≤ Board.fullLevel))

/-- The frame with the given levels, or the first level that is out of range. -/
def ofLevels? (levels : Vector Level Board.ledCount) (line : Nat) : Except Error Frame :=
  match levels.toList.find? (Board.fullLevel < ·) with
  | some level => .error (.levelOutOfRange level)
  | none => .ok ⟨levels, line⟩

/-- The frame in which every LED has the same level. -/
def uniform? (level : Level) : Except Error Frame :=
  ofLevels? (Vector.replicate Board.ledCount level) 0

/-- The level of an LED, if the board has one of that number. -/
def level? (frame : Frame) (led : Nat) : Option Level :=
  frame.levels[led]?

/-- Whether two frames light the board alike, wherever they were written. -/
def sameLevels (one other : Frame) : Bool :=
  one.levels == other.levels

end Frame

end TreeBoard
