import TreeBoard.Frame

/-!
# Fitting an animation into memory

The pattern memory is always filled: a longer animation loses its end, and a shorter one rests on its
last frame.
-/

namespace TreeBoard

/-- How an animation was fitted into memory. -/
inductive Fit where
  /-- It has as many frames as the memory has slots. -/
  | exact
  /-- Its last frames were left out. -/
  | truncated (dropped : Nat)
  /-- Its last frame was repeated. -/
  | padded (added : Nat)
deriving DecidableEq, Repr

namespace Memory

/-- Fits an animation in place, of which `frames` are kept and `authored` is the full length: what is
kept afterwards, and how the animation was fitted. Frames that were not kept lie beyond the memory and
count only as dropped. Where there are no frames, nothing is changed. -/
def fitInPlace (frames : List Frame) (authored : Nat) : List Frame × Except Error Fit :=
  match frames.getLast? with
  | none => (frames, .error .emptyAnimation)
  | some last =>
      let total := max authored frames.length
      if Board.slotCount < total then
        (frames.take Board.slotCount, .ok (.truncated (total - Board.slotCount)))
      else if total < Board.slotCount then
        let added := Board.slotCount - frames.length
        (frames ++ List.replicate added last, .ok (.padded added))
      else (frames, .ok .exact)

/-- Fits an animation in place of which all frames are kept. -/
def fitWholeInPlace (frames : List Frame) : List Frame × Except Error Fit :=
  fitInPlace frames frames.length

/-- What is kept after fitting and the fit, or the error alone. -/
def returned : List Frame × Except Error Fit → Except Error (List Frame × Fit)
  | (frames, outcome) => outcome.map (frames, ·)

/-- Fits an animation of which `frames` are kept and `authored` is the full length. -/
def fit (frames : List Frame) (authored : Nat) : Except Error (List Frame × Fit) :=
  returned (fitInPlace frames authored)

/-- Fits an animation of which all frames are kept. -/
def fitWhole (frames : List Frame) : Except Error (List Frame × Fit) :=
  returned (fitWholeInPlace frames)

end Memory

end TreeBoard
