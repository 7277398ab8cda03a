import TreeBoard.Proofs.FadeLevels
import TreeBoard.Proofs.Steps
import TreeBoard.Proofs.Unbounded

/-!
# The levels of an animation

No frame of an animation has a level above full brightness. The digits of a script are checked when
they are gathered. Nothing checks the frames that a fade computes, but they lie between two frames
whose levels are in range, and a repeat only copies frames.

Results:
1. `step_inRange`, `run_inRange`, the frames that stand in a script.
2. `InRange.invariant`, no action adds a frame with another level.
3. `inRange_of_compile`, the frames of a compiled animation.
-/

namespace TreeBoard.Script

/-- Every kept frame has its levels in range. -/
def State.InRange (state : State) : Prop :=
  ∀ frame ∈ state.frames, frame.InRange

/-! ## Frames of the script -/

namespace Reader

variable {defaults : Defaults} {reader : Reader} {line : Nat}

/-- A line completes a frame of levels that were gathered. -/
theorem step_inRange {text : String} {next : Reader} {actions : List Action} (sound : reader.Sound)
    (accepted : reader.step defaults line text = .ok (next, actions)) :
    Complete Frame.InRange actions := by
  cases data : isDataLine text with
  | true =>
      obtain ⟨goesOn, valid, fits⟩ := valid_of_step sound data accepted
      rcases Nat.lt_or_eq_of_le fits with short | full
      · rw [step_short defaults goesOn data valid line short] at accepted
        cases accepted
        exact List.forall_mem_nil _
      · obtain ⟨frame, levels, -, stepped⟩ := step_full defaults sound goesOn data valid line full
        rw [stepped] at accepted
        cases accepted
        intro action member found completes
        rw [List.mem_singleton.1 member] at completes
        cases completes
        rw [Frame.InRange, levels, ← PartialFrame.collect_pending reader.gathered line]
        exact PartialFrame.low_collect sound.gathering.low line text.toList
  | false =>
      cases empty : reader.gathered.isEmpty with
      | true =>
          have admitted := admits_of_step empty accepted
          obtain ⟨others, stepped, frameless⟩ := step_of_admits data empty admitted line
          rw [stepped] at accepted
          cases accepted
          intro action member frame completes
          have none := List.filterMap_eq_nil_iff.1 frameless action member
          rw [none] at completes
          cases completes
      | false =>
          obtain ⟨error, refused⟩ := step_of_occupied defaults sound data empty line
          rw [refused] at accepted
          cases accepted

theorem run_inRange {lines : List String} {last : Reader} {actions : List Action}
    (sound : reader.Sound) (accepted : run defaults line lines reader = .ok (last, actions)) :
    Complete Frame.InRange actions := by
  induction lines generalizing line reader actions with
  | nil =>
      cases accepted
      exact List.forall_mem_nil _
  | cons text later ih =>
      obtain ⟨next, first, others, stepped, rest, rfl⟩ := run_cons_iff.1 accepted
      exact List.forall_mem_append.2
        ⟨step_inRange sound stepped, ih (step_sound sound stepped) rest⟩

end Reader

/-! ## Frames that are added -/

/-- The steps of an ended fade lie between two frames in range. -/
theorem inRange_of_mem_fadeSteps {pending : Option PendingFade} {frames : List Frame}
    {frame step : Frame} (keptInRange : ∀ kept ∈ frames, kept.InRange)
    (frameInRange : frame.InRange)
    (member : step ∈ fadeSteps (endFade Fade.between pending frames frame)) : step.InRange := by
  unfold endFade at member
  split at member
  · rename_i fade start ends
    have startInRange := keptInRange start (List.mem_of_getLast? ends)
    exact Fade.inRange_of_mem_between startInRange frameInRange member
  · cases member

namespace State.InRange

variable {state : State}

theorem addFrame (inRange : state.InRange) {frame : Frame} (frameInRange : frame.InRange) :
    (state.addFrame frame).InRange := by
  intro found member
  rw [addFrame_eq, List.mem_append, List.mem_append, List.mem_singleton] at member
  rcases member with (kept | faded) | rfl
  · exact inRange found kept
  · exact inRange_of_mem_fadeSteps inRange frameInRange faded
  · exact frameInRange

/-- A repeat only copies frames. -/
theorem repeatFrom (inRange : state.InRange) (name : String) (first copies : Nat) :
    (state.repeatFrom name first copies).InRange := by
  intro found member
  rcases List.mem_append.1 member with kept | copied
  · exact inRange found kept
  · obtain ⟨copy, among, inCopy⟩ := List.mem_flatten.1 (List.mem_of_mem_take copied)
    rw [List.eq_of_mem_replicate among] at inCopy
    exact inRange found (List.mem_of_mem_drop inCopy)

theorem invariant : Invariant State.InRange Frame.InRange where
  addFrame inRange frameInRange := inRange.addFrame frameInRange
  fade _ inRange := inRange
  setMarker _ inRange := inRange
  repeatFrom copies inRange _ := inRange.repeatFrom _ _ copies
  close inRange := inRange

end State.InRange

/-! ## Frames of an animation -/

/-- Every slot of the filled memory holds a frame of the animation. -/
theorem mem_of_mem_filled {frames : List Frame} {last frame : Frame} (ends : last ∈ frames)
    (member : frame ∈ Memory.filled frames last) : frame ∈ frames := by
  obtain ⟨slot, -, rfl⟩ := List.mem_map.1 member
  rw [List.getD_eq_getElem?_getD]
  cases found : frames[slot]? with
  | none => exact ends
  | some frame => exact List.mem_of_getElem? found

/-- A compiled animation fills the memory with frames whose levels are in range. -/
theorem inRange_of_compile {defaults : Defaults} {lines : List String} {animation : Animation}
    (compiled : compile defaults lines = .ok animation) :
    animation.frames.length = Board.slotCount ∧ ∀ frame ∈ animation.frames, frame.InRange := by
  obtain ⟨actions, accepted⟩ := read_of_compile compiled
  obtain ⟨again, compiled', full⟩ := compile_of_read accepted
  rw [compiled] at compiled'
  cases compiled'
  refine ⟨full, ?_⟩
  obtain ⟨last, reading, -, -⟩ := read_iff.1 accepted
  have start : ({} : State).InRange := List.forall_mem_nil _
  have inRange := State.InRange.invariant.performAll start
    (Reader.run_inRange Reader.sound_empty reading)
  have started := read_started accepted
  have ending := State.ending_eq (List.getLast?_eq_some_getLast started)
    (performAll_inside actions) (Shows.start.performAll actions).beyond
  rw [compile_eq, accepted] at compiled
  have same := Except.ok.inj (compiled.symm.trans ending)
  intro frame member
  rw [same] at member
  exact inRange frame (mem_of_mem_filled (List.getLast_mem started) member)

end TreeBoard.Script
