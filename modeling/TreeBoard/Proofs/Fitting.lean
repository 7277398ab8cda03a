import TreeBoard.Proofs.Operations

/-!
# Fitting what is kept of an animation

Fitting reads a length that is counted and acts on frames that are kept. An animation of which only
the beginning is kept is still fitted like the whole of it, as long as nothing is missing that the
memory shows: the frames that it shows are the same, and so is what is told of the others.

Results:
1. `fitInPlace_of_keeps`, what fitting makes of the frames that are kept.
2. `fitWholeInPlace_full`, a full memory is not changed.
3. `kept_fitted_as_whole`, what is kept of an animation is fitted like the whole of it.
-/

namespace TreeBoard.Memory

/-! ## Definitions -/

/-- What is kept of an animation: all of it, or at least what the memory shows of it. -/
inductive Keeps (kept whole : List Frame) : Prop where
  | all (same : kept = whole)
  | beginning (full : Board.slotCount ≤ kept.length) (shorter : kept.length ≤ whole.length)
      (agrees : kept.take Board.slotCount = whole.take Board.slotCount)

/-- Frames are those that the memory shows of an animation: the first ones, or all of them and behind
them copies of the last one. -/
structure Shown (whole frames : List Frame) : Prop where
  full : frames.length = Board.slotCount
  long : Board.slotCount ≤ whole.length → frames = whole.take Board.slotCount
  short : whole.length < Board.slotCount → ∃ last, whole.getLast? = some last ∧
    frames = whole ++ List.replicate (Board.slotCount - whole.length) last

/-! ## The frames that are kept -/

namespace Keeps

variable {kept whole : List Frame}

theorem length_le (keeps : Keeps kept whole) : kept.length ≤ whole.length := by
  cases keeps with
  | all same => exact Nat.le_of_eq (congrArg List.length same)
  | beginning _ shorter => exact shorter

theorem take_eq (keeps : Keeps kept whole) :
    kept.take Board.slotCount = whole.take Board.slotCount := by
  cases keeps with
  | all same => rw [same]
  | beginning _ _ agrees => exact agrees

/-- Where the memory has room, nothing is missing. -/
theorem eq_of_lt (keeps : Keeps kept whole) (room : kept.length < Board.slotCount) :
    kept = whole := by
  cases keeps with
  | all same => exact same
  | beginning full => exact absurd full (Nat.not_le.2 room)

/-- Of an animation with frames some are kept. -/
theorem exists_last (keeps : Keeps kept whole) {last : Frame} (ends : whole.getLast? = some last) :
    ∃ last', kept.getLast? = some last' := by
  cases here : kept.getLast? with
  | some last' => exact ⟨last', rfl⟩
  | none =>
      obtain rfl := List.getLast?_eq_none_iff.1 here
      obtain rfl := keeps.eq_of_lt (by decide)
      cases ends

end Keeps

/-! ## Fitting -/

theorem shown_filled {whole : List Frame} {last : Frame} (ends : whole.getLast? = some last) :
    Shown whole (filled whole last) where
  full := by simp [filled]
  long := filled_of_le last
  short room := ⟨last, ends, filled_of_lt last room⟩

/-- What is kept is fitted by the length of the whole animation. -/
theorem fitInPlace_of_keeps {kept whole : List Frame} {last : Frame} (keeps : Keeps kept whole)
    (ends : whole.getLast? = some last) :
    fitInPlace kept whole.length = (filled whole last, .ok (Fit.ofLength whole.length)) := by
  obtain ⟨last', here⟩ := keeps.exists_last ends
  have inside (room : kept.length < Board.slotCount) : whole.length = kept.length := by
    rw [keeps.eq_of_lt room]
  have beyond (full : Board.slotCount ≤ kept.length) : Board.slotCount ≤ whole.length :=
    Nat.le_trans full keeps.length_le
  -- The last frames differ only where frames are missing, and then the memory repeats neither.
  have same : filled kept last' = filled whole last := by
    refine filled_congr keeps.take_eq fun room => ?_
    rw [keeps.eq_of_lt room, ends] at here
    exact (Option.some.inj here).symm
  rw [fitInPlace_eq here inside beyond, same, Nat.max_eq_left keeps.length_le]

/-- A full memory is not changed. -/
theorem fitWholeInPlace_full {frames : List Frame} (full : frames.length = Board.slotCount) :
    fitWholeInPlace frames = (frames, .ok .exact) := by
  have started : frames ≠ [] := List.length_pos_iff.1 (by rw [full]; decide)
  rw [fitWholeInPlace, fitInPlace_of_keeps (.all rfl) (List.getLast?_eq_some_getLast started),
    filled_of_le _ (Nat.le_of_eq full.symm), List.take_of_length_le (Nat.le_of_eq full), full]
  rfl

/-- **What is kept of an animation is fitted like the whole of it.** The fit and the frames that
remain are the same, these frames are what the memory shows of the animation, and fitting them once
more changes nothing. Where there are no frames at all, fitting fails and leaves none. -/
theorem kept_fitted_as_whole :
    (∀ kept whole : List Frame, whole ≠ [] → Keeps kept whole → ∃ frames,
      fitInPlace kept whole.length = (frames, .ok (Fit.ofLength whole.length)) ∧
        fitWholeInPlace whole = (frames, .ok (Fit.ofLength whole.length)) ∧
        Shown whole frames ∧ fitWholeInPlace frames = (frames, .ok .exact)) ∧
      (∀ authored, fitInPlace [] authored = ([], .error .emptyAnimation)) ∧
      fitWholeInPlace [] = ([], .error .emptyAnimation) := by
  refine ⟨fun kept whole started keeps => ?_, fun _ => rfl, rfl⟩
  have ends := List.getLast?_eq_some_getLast started
  have shown := shown_filled ends
  exact ⟨filled whole (whole.getLast started), fitInPlace_of_keeps keeps ends,
    fitInPlace_of_keeps (.all rfl) ends, shown, fitWholeInPlace_full shown.full⟩

/-- Frames with levels and lines of their own. -/
def numberedFrames (count : Nat) : List Frame :=
  (List.range count).map fun place =>
    ⟨Vector.replicate Board.ledCount (UInt8.ofNat (place % 8)), place + 1⟩

theorem kept_fitted_as_whole_numberedFrames :
    numberedFrames 300 ≠ [] ∧ Keeps (numberedFrames 257) (numberedFrames 300) ∧ ∃ frames,
      fitInPlace (numberedFrames 257) (numberedFrames 300).length = (frames, .ok (.truncated 44)) ∧
        fitWholeInPlace (numberedFrames 300) = (frames, .ok (.truncated 44)) ∧
        Shown (numberedFrames 300) frames ∧ fitWholeInPlace frames = (frames, .ok .exact) := by
  have length (count : Nat) : (numberedFrames count).length = count := by simp [numberedFrames]
  have started : numberedFrames 300 ≠ [] := List.length_pos_iff.1 (by rw [length]; decide)
  have keeps : Keeps (numberedFrames 257) (numberedFrames 300) := by
    refine .beginning ?_ ?_ ?_
    · rw [length]
      decide
    · rw [length, length]
      decide
    · simp only [numberedFrames, ← List.map_take, List.take_range]
      rfl
  have dropped : Fit.ofLength (numberedFrames 300).length = .truncated 44 := by
    rw [length]
    rfl
  have fitted := kept_fitted_as_whole.1 (numberedFrames 257) (numberedFrames 300) started keeps
  rw [dropped] at fitted
  exact ⟨started, keeps, fitted⟩

end TreeBoard.Memory
