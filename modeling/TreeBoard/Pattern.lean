import TreeBoard.Frame

/-!
# Built-in patterns

Two patterns need no script. The sweep lights one LED after the other. The waterfall lights row after
row from the top down, first in red and then in green.
-/

namespace TreeBoard

/-- A built-in pattern. -/
inductive Pattern where
  | waterfall
  | sweep
  /-- The waterfall, followed by the sweep. -/
  | both
deriving DecidableEq, Repr

namespace Pattern

/-- The frame in which each LED has the level that a rule gives it. -/
def frameOf (level : Nat → Level) : Frame :=
  ⟨Vector.ofFn fun led => level led.val, 0⟩

/-- The levels that the sweep shows on an LED. -/
def sweepLevels : List Level := [0, 2, 4, 6]

/-- Each LED in turn takes every other level, while all others are dark. -/
def sweepFrames : List Frame :=
  (List.range Board.ledCount).flatMap fun lit =>
    sweepLevels.map fun level => frameOf fun led => if led = lit then level else Board.darkLevel

/-- A row at the given level below rows that are fully lit. -/
def cascadeFrame (above row : List Nat) (level : Level) : Frame :=
  frameOf fun led =>
    if row.contains led then level
    else if above.contains led then Board.fullLevel
    else Board.darkLevel

/-- Each row rises from dark to full brightness while the rows above it stay lit. -/
def cascade (above : List Nat) : List (List Nat) → List Frame
  | [] => []
  | row :: later =>
      ((List.range 8).map fun level => cascadeFrame above row (UInt8.ofNat level)) ++
        cascade (above ++ row) later

/-- Number of frames for which a colour of the waterfall rests when all its rows are lit. -/
def holdCount : Nat := 8

/-- The waterfall in one colour, with its last frame held. -/
def colourFrames (rows : List (List Nat)) : List Frame :=
  let rising := cascade [] rows
  match rising.getLast? with
  | some last => rising ++ List.replicate holdCount last
  | none => rising

/-- The waterfall in red, then in green from a dark board on. -/
def waterfallFrames : List Frame :=
  colourFrames Board.redRows ++ colourFrames Board.greenRows

/-- The frames of a pattern. -/
def frames : Pattern → List Frame
  | waterfall => waterfallFrames
  | sweep => sweepFrames
  | both => waterfallFrames ++ sweepFrames

end Pattern

end TreeBoard
