import TreeBoard.Memory

/-!
# Notices

A notice says what a directive did, without stopping the compilation. The notices of a script stand
in the order in which their causes do.
-/

namespace TreeBoard.Script

/-- What happened to an animation while it was compiled. Indices count frames from 0. -/
inductive Notice where
  /-- Frames were put between the frame at `first` and the one that is now at `last`. -/
  | faded (first last inserted : Nat)
  /-- The frames around a fade were too similar for any frame between them. -/
  | flatFade (line : Nat)
  /-- No frame follows a fade. -/
  | danglingFade (line : Nat)
  /-- A marker was set to a frame. -/
  | markerSet (name : String) (index : Nat)
  /-- The frames from `first` to `last` were appended a number of times. -/
  | repeated (name : String) (first last copies : Nat)
  /-- The animation was fitted into memory. -/
  | fitted (fit : Fit)
deriving DecidableEq, Repr

end TreeBoard.Script
