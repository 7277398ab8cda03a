import Mathlib.Algebra.Order.Ring.Nat
import TreeBoard.Script.Compile

/-!
# What the operations on a state do

Completing a frame may end a fade. `fadeSteps` and `fadeNotices` say what that adds to an
animation, for any way of computing the frames in between and any list of frames that the
animation consists of.

Results: `addFrame_eq`, all that completing a frame does; `saturate_eq`, `stepCount_eq`, how far
lengths and steps are counted; `between_eq_take`, a fade is the beginning of the one that is not cut
off.
-/

namespace TreeBoard

/-- How an animation of a given length is fitted into memory. -/
def Fit.ofLength (length : Nat) : Fit :=
  if length = Board.slotCount then .exact
  else if Board.slotCount < length then .truncated (length - Board.slotCount)
  else .padded (Board.slotCount - length)

/-! ## Fades that are not cut off -/

namespace Fade

/-- A fade takes as many steps as its greatest change times its speed, where speed 0 acts as 1. -/
theorem stepCount_eq (delta : Nat) (speed : UInt32) :
    stepCount delta speed = min (delta * max speed.toNat 1) (2 ^ 32 - 1) :=
  rfl

/-- All frames between `start` and `stop`, however many there are. -/
def betweenAll (start stop : Frame) (speed : UInt32) : List Frame :=
  let delta := maxDelta start stop
  if delta < 2 then []
  else
    let steps := min (delta * max speed.toNat 1) (2 ^ 32 - 1)
    (List.range (steps - 1)).map fun index => frameAt start stop speed steps (index + 1)

/-- A fade is computed up to one memory of frames. -/
theorem between_eq_take (start stop : Frame) (speed : UInt32) :
    between start stop speed = (betweenAll start stop speed).take Board.slotCount := by
  unfold between betweenAll
  simp only [stepCount_eq]
  split
  · rfl
  · rw [← List.map_take, List.take_range]

end Fade

/-! ## The filled memory -/

namespace Memory

/-- What the slots of the memory hold: each the frame of its number, and those behind the end of the
animation its last frame. -/
def filled (frames : List Frame) (last : Frame) : List Frame :=
  (List.range Board.slotCount).map fun slot => frames.getD slot last

theorem filled_congr {frames frames' : List Frame} {last last' : Frame}
    (same : frames.take Board.slotCount = frames'.take Board.slotCount)
    (ends : frames.length < Board.slotCount → last = last') :
    filled frames last = filled frames' last' := by
  apply List.map_congr_left
  intro slot member
  have inMemory : slot < Board.slotCount := List.mem_range.1 member
  have look : frames[slot]? = frames'[slot]? := by
    have both := congrArg (fun kept => kept[slot]?) same
    simpa only [List.getElem?_take_of_lt inMemory] using both
  rw [List.getD_eq_getElem?_getD, List.getD_eq_getElem?_getD, look]
  cases found : frames'[slot]? with
  | some frame => rfl
  | none =>
      rw [← look, List.getElem?_eq_none_iff] at found
      exact ends (Nat.lt_of_le_of_lt found inMemory)

theorem filled_of_le {frames : List Frame} (last : Frame)
    (full : Board.slotCount ≤ frames.length) :
    filled frames last = frames.take Board.slotCount := by
  apply List.ext_getElem
  · simp [filled, full]
  · intro slot inFilled inTake
    have inFrames : slot < frames.length := by
      rw [List.length_take] at inTake
      omega
    simp [filled, inFrames]

theorem filled_of_lt {frames : List Frame} (last : Frame)
    (room : frames.length < Board.slotCount) :
    filled frames last = frames ++ List.replicate (Board.slotCount - frames.length) last := by
  apply List.ext_getElem
  · simp [filled]
    omega
  · intro slot inFilled inPadded
    simp only [filled, List.getElem_map, List.getElem_range, List.getElem_append,
      List.getD_eq_getElem?_getD]
    split
    · rename_i inFrames
      rw [List.getElem?_eq_getElem inFrames]
      rfl
    · rename_i behind
      rw [List.getElem?_eq_none (Nat.le_of_not_lt behind), List.getElem_replicate]
      rfl

theorem fitWhole_eq (frames : List Frame) : fitWhole frames = fit frames frames.length :=
  rfl

theorem fit_nil (authored : Nat) : fit [] authored = .error .emptyAnimation :=
  rfl

/-- Fitting fills the memory, provided that the length is counted exactly before the memory is full
and counts as full afterwards. -/
theorem fitInPlace_eq {frames : List Frame} {authored : Nat} {last : Frame}
    (ends : frames.getLast? = some last)
    (inside : frames.length < Board.slotCount → authored = frames.length)
    (beyond : Board.slotCount ≤ frames.length → Board.slotCount ≤ authored) :
    fitInPlace frames authored =
      (filled frames last, .ok (Fit.ofLength (max authored frames.length))) := by
  unfold fitInPlace Fit.ofLength
  rw [ends]
  by_cases room : frames.length < Board.slotCount
  · have counted := inside room
    rw [counted, Nat.max_self, filled_of_lt last room]
    simp only [Nat.not_lt.2 (Nat.le_of_lt room), Nat.ne_of_lt room, room, if_true, if_false]
  · have noRoom := Nat.le_of_not_lt room
    have counted := beyond noRoom
    rw [filled_of_le last noRoom]
    simp only
    split
    · rw [if_neg (by omega)]
    · rw [if_neg (by omega), if_pos (by omega), List.take_of_length_le (by omega)]

theorem fit_eq {frames : List Frame} {authored : Nat} {last : Frame}
    (ends : frames.getLast? = some last)
    (inside : frames.length < Board.slotCount → authored = frames.length)
    (beyond : Board.slotCount ≤ frames.length → Board.slotCount ≤ authored) :
    fit frames authored =
      .ok (filled frames last, Fit.ofLength (max authored frames.length)) :=
  congrArg returned (fitInPlace_eq ends inside beyond)

end Memory

namespace Script

/-! ## Counting -/

theorem saturate_eq (length : Nat) : saturate length = min length (2 ^ 64 - 1) :=
  rfl

theorem saturate_saturate_add (length more : Nat) :
    saturate (saturate length + more) = saturate (length + more) := by
  unfold saturate
  omega

/-- Counting is exact as long as the memory is not full. -/
theorem saturate_of_lt {length : Nat} (room : length < Board.slotCount) :
    saturate length = length := by
  have small : Board.slotCount ≤ UInt64.size - 1 := by decide
  exact Nat.min_eq_left (by omega)

/-- A full memory counts as full. -/
theorem slotCount_le_saturate {length : Nat} (full : Board.slotCount ≤ length) :
    Board.slotCount ≤ saturate length :=
  Nat.le_min.2 ⟨full, by decide⟩

/-! ## Completing a frame -/

/-- The fade that the next frame ends, with the frames that it puts before that frame. There is none
as long as the animation has no frame to start from. -/
def endFade (fade : Frame → Frame → UInt32 → List Frame) (pending : Option PendingFade)
    (frames : List Frame) (frame : Frame) : Option (PendingFade × List Frame) :=
  match pending, frames.getLast? with
  | some pending, some start => some (pending, fade start frame pending.speed)
  | _, _ => none

/-- The frames of an ended fade. -/
def fadeSteps : Option (PendingFade × List Frame) → List Frame
  | none => []
  | some (_, steps) => steps

/-- Of an ended fade as many frames are computed as the memory has slots. -/
theorem fadeSteps_between (pending : Option PendingFade) (frames : List Frame) (frame : Frame) :
    fadeSteps (endFade Fade.between pending frames frame) =
      (fadeSteps (endFade Fade.betweenAll pending frames frame)).take Board.slotCount := by
  unfold endFade
  cases pending with
  | none => rfl
  | some pending =>
      cases frames.getLast? with
      | none => rfl
      | some start => exact Fade.between_eq_take start frame pending.speed

/-- A fade without a frame to start from has no frames. -/
theorem ne_nil_of_fadeSteps {fade : Frame → Frame → UInt32 → List Frame}
    {pending : Option PendingFade} {frames : List Frame} {frame : Frame}
    (some : fadeSteps (endFade fade pending frames frame) ≠ []) : frames ≠ [] := by
  rintro rfl
  cases pending <;> exact some rfl

/-- What is noticed of an ended fade, when `length` frames stand before it. -/
def fadeNotices (length : Nat) : Option (PendingFade × List Frame) → List Notice
  | none => []
  | some (pending, []) => [.flatFade pending.line]
  | some (_, step :: others) =>
      let inserted := (step :: others).length
      [.faded (length - 1) (length + inserted) inserted]

/-- The speed that is told of an ended fade with frames. -/
def fadeSpeeds : Option (PendingFade × List Frame) → List UInt32
  | some (pending, _ :: _) => [pending.speed]
  | _ => []

/-- An ended fade is noticed as flat, or with the frames that it puts before its last frame. -/
theorem of_mem_fadeNotices {length : Nat} {ended : Option (PendingFade × List Frame)}
    {notice : Notice} (member : notice ∈ fadeNotices length ended) :
    (∃ line, notice = .flatFade line) ∨ fadeSteps ended ≠ [] ∧
      notice = .faded (length - 1) (length + (fadeSteps ended).length)
        (fadeSteps ended).length := by
  obtain _ | ⟨pending, _ | ⟨step, others⟩⟩ := ended
  · cases member
  · exact .inl ⟨pending.line, List.mem_singleton.1 member⟩
  · exact .inr ⟨List.cons_ne_nil _ _, List.mem_singleton.1 member⟩

/-- What is noticed of a fade that no frame ends. -/
def danglingNotices (pending : Option PendingFade) : List Notice :=
  pending.toList.map fun fade => .danglingFade fade.line

namespace State

/-- The fade that a frame ends in this state. -/
def endFade (state : State) (frame : Frame) : Option (PendingFade × List Frame) :=
  Script.endFade Fade.between state.pendingFade state.frames frame

/-- All that completing a frame does. -/
theorem addFrame_eq (state : State) (frame : Frame) :
    state.addFrame frame = { state with
      frames := state.frames ++ fadeSteps (state.endFade frame) ++ [frame]
      authored := saturate (state.authored + 1 + (fadeSteps (state.endFade frame)).length)
      pendingFade := none
      notices := state.notices ++ fadeNotices state.frames.length (state.endFade frame)
      fadeSpeeds := state.fadeSpeeds ++ Script.fadeSpeeds (state.endFade frame) } := by
  unfold addFrame endFade Script.endFade
  cases state.pendingFade with
  | none => simp [fadeSteps, fadeNotices, Script.fadeSpeeds]
  | some fade =>
      cases state.frames.getLast? with
      | none => simp [fadeSteps, fadeNotices, Script.fadeSpeeds]
      | some start =>
          simp only
          cases Fade.between start frame fade.speed with
          | nil => simp [fadeSteps, fadeNotices, Script.fadeSpeeds, notify]
          | cons step others =>
              simp [fadeSteps, fadeNotices, Script.fadeSpeeds, notify, saturate_saturate_add]

end State

end Script

end TreeBoard
