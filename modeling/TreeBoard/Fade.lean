import TreeBoard.Fade.Binary
import TreeBoard.Frame

/-!
# Fades

A fade leads from one frame to another in equal steps. It takes as many steps as the greatest change
of a level, times the speed of the fade. A step is computed in units of a level divided by the speed
and cut off when it is scaled back, so it can lie one level below the exact value.
-/

namespace TreeBoard.Fade

/-- How far apart two levels are. -/
def distance (one other : Level) : Nat :=
  (one.toNat - other.toNat) + (other.toNat - one.toNat)

/-- The greatest change of a level between two frames. -/
def maxDelta (start stop : Frame) : Nat :=
  (List.zipWith distance start.levels.toList stop.levels.toList).foldl max 0

/-- The factor by which a speed stretches a fade. Speed 0 acts as speed 1. -/
def factor (speed : UInt32) : Nat :=
  max speed.toNat 1

/-- Number of steps of a fade, held below `2 ^ 32`. -/
def stepCount (delta : Nat) (speed : UInt32) : Nat :=
  min (delta * factor speed) (UInt32.size - 1)

/-- The level of an LED after a number of steps. -/
def levelAt (first last : Level) (speed : UInt32) (steps step : Nat) : Level :=
  let scale := Binary.ofNat (factor speed)
  let first := (Binary.ofNat first.toNat).mul scale
  let last := (Binary.ofNat last.toNat).mul scale
  let slope := (last.sub first).div (Binary.ofNat steps)
  ((first.add (slope.mul (Binary.ofNat step))).div scale).toByte

/-- The frame after a number of steps. It counts as written where the fade starts. -/
def frameAt (start stop : Frame) (speed : UInt32) (steps step : Nat) : Frame :=
  ⟨Vector.zipWith (fun first last => levelAt first last speed steps step) start.levels stop.levels,
    start.line⟩

/-- The frames between `start` and `stop`, without the two. No level skips a value when all change
by one at most, so there are none then. At most one memory of frames is computed: what lies beyond
it is never played. -/
def between (start stop : Frame) (speed : UInt32) : List Frame :=
  let delta := maxDelta start stop
  if delta < 2 then []
  else
    let steps := stepCount delta speed
    (List.range (min Board.slotCount (steps - 1))).map fun index =>
      frameAt start stop speed steps (index + 1)

end TreeBoard.Fade
