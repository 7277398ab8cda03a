import TreeBoard.Proofs.Operations
import TreeBoard.Proofs.Reading

/-!
# Compiling without a bound on memory

A compiler that is not bound by the memory reads a script in the same way and performs the same
actions, but every repeat really appends its copies, and the memory is filled only at the end. Two
of them are of interest. The *eager* one computes all frames of a fade and counts exactly. The
*reference* fades and counts as the bounded compiler does, and differs from it only in what it
keeps.

Results:
1. `Shows.perform`, as far as the memory reaches, an action does the same to what is kept and to the
   whole animation.
2. `frames_eq_eager`, the bounded compiler fails like the eager one or fills the memory like it.
-/

namespace TreeBoard

namespace Script

/-! ## Definitions -/

/-- An animation that is being built, with all of its frames. -/
structure Whole where
  frames : List Frame := []
  /-- The frame of each marker. The latest setting of a name comes first. -/
  markers : List (String × Nat) := []
  pendingFade : Option PendingFade := none
  notices : List Notice := []
deriving DecidableEq, Repr

/-- How a compiler that keeps all frames fades, and how far it counts them. -/
structure Unbounded where
  fade : Frame → Frame → UInt32 → List Frame
  count : Nat → Nat

namespace Unbounded

/-- Every frame of a fade is computed, and the length is exact. -/
def eager : Unbounded := ⟨Fade.betweenAll, id⟩

/-- Fades and the length have the limits that they have in the bounded compiler. -/
def reference : Unbounded := ⟨Fade.between, fun length => min length (2 ^ 64 - 1)⟩

end Unbounded

namespace Whole

variable (mode : Unbounded)

/-- The length of the animation. -/
def length (whole : Whole) : Nat :=
  mode.count whole.frames.length

/-- The fade that a frame ends. -/
def endFade (whole : Whole) (frame : Frame) : Option (PendingFade × List Frame) :=
  Script.endFade mode.fade whole.pendingFade whole.frames frame

/-- Appends a complete frame, and before it the frames of the fade that it ends. -/
def addFrame (whole : Whole) (frame : Frame) : Whole :=
  { whole with
    frames := whole.frames ++ fadeSteps (whole.endFade mode frame) ++ [frame]
    pendingFade := none
    notices := whole.notices ++ fadeNotices whole.frames.length (whole.endFade mode frame) }

/-- Sets a marker to the last frame, or to index 0 when there is none yet. -/
def setMarker (whole : Whole) (name : String) : Whole :=
  { whole with
    markers := (name, whole.length mode - 1) :: whole.markers
    notices := whole.notices ++ [.markerSet name (whole.length mode - 1)] }

/-- Appends copies of the frames from `first` on. -/
def repeatFrom (whole : Whole) (name : String) (first copies : Nat) : Whole :=
  { whole with
    frames := whole.frames ++ (List.replicate copies (whole.frames.drop first)).flatten
    notices := whole.notices ++ [.repeated name first (whole.length mode - 1) copies] }

/-- How many whole copies of the frames from `first` on still go into the memory. -/
def copiesThatFit (whole : Whole) (first : Nat) : Nat :=
  (Board.slotCount - whole.length mode) / (whole.length mode - first)

/-- Performs an action. -/
def perform (whole : Whole) : Action → Whole
  | .addFrame frame => whole.addFrame mode frame
  | .fade fade => { whole with pendingFade := some fade }
  | .mark name => whole.setMarker mode name
  | .again name =>
      match whole.markers.lookup name with
      | some first => whole.repeatFrom mode name first 1
      | none => whole
  | .forever name =>
      match whole.markers.lookup name with
      | some first => whole.repeatFrom mode name first (whole.copiesThatFit mode first)
      | none => whole

/-- Performs actions one after another. -/
def performAll (whole : Whole) (actions : List Action) : Whole :=
  actions.foldl (perform mode) whole

/-- The animation when the script is at its end. Each slot of the memory holds the frame of its
number, and those behind the end hold the last frame. -/
def ending (whole : Whole) : Except Error Animation :=
  match whole.frames.getLast? with
  | none => .error .emptyAnimation
  | some last =>
      .ok {
        frames := Memory.filled whole.frames last
        notices := whole.notices ++ danglingNotices whole.pendingFade ++
          [.fitted (Fit.ofLength (whole.length mode))]
        authored := whole.length mode }

end Whole

/-- Compiles the lines of a script without a bound on memory. -/
def Unbounded.compile (mode : Unbounded) (defaults : Defaults) (lines : List String) :
    Except Error Animation :=
  (read defaults lines).bind fun actions => (({} : Whole).performAll mode actions).ending mode

/-! ## What is kept -/

/-- What is kept shows the animation as far as the memory reaches: before the memory is full, all of
it is kept and markers mean the same. -/
structure Shows (state : State) (whole : Whole) : Prop where
  pendingFade : state.pendingFade = whole.pendingFade
  names : state.markers.map Prod.fst = whole.markers.map Prod.fst
  frames : state.frames.take Board.slotCount = whole.frames.take Board.slotCount
  inside : state.frames.length < Board.slotCount →
    state.authored = whole.frames.length ∧ state.markers = whole.markers
  beyond : Board.slotCount ≤ state.frames.length → Board.slotCount ≤ state.authored

namespace Shows

variable {state : State} {whole : Whole}

/-- Before the memory is full, all frames are kept. -/
theorem frames_eq (shows : Shows state whole) (room : state.frames.length < Board.slotCount) :
    state.frames = whole.frames := by
  have lengths := congrArg List.length shows.frames
  have same := shows.frames
  simp only [List.length_take] at lengths
  rwa [List.take_of_length_le (by omega), List.take_of_length_le (by omega)] at same

theorem full (shows : Shows state whole) (noRoom : Board.slotCount ≤ state.frames.length) :
    Board.slotCount ≤ whole.frames.length := by
  have lengths := congrArg List.length shows.frames
  simp only [List.length_take] at lengths
  omega

/-- Whatever is appended to a full memory lies beyond it. -/
theorem take_append_eq (shows : Shows state whole)
    (noRoom : Board.slotCount ≤ state.frames.length) (kept appended : List Frame) :
    (state.frames ++ kept).take Board.slotCount =
      (whole.frames ++ appended).take Board.slotCount := by
  rw [List.take_append_of_le_length noRoom, List.take_append_of_le_length (shows.full noRoom)]
  exact shows.frames

/-- Once the memory is full, it does not matter what is appended. -/
theorem append_full (shows : Shows state whole) (noRoom : Board.slotCount ≤ state.frames.length)
    {next : State} {nextWhole : Whole} {kept appended : List Frame}
    (pendingFade : next.pendingFade = nextWhole.pendingFade)
    (names : next.markers.map Prod.fst = nextWhole.markers.map Prod.fst)
    (frames : next.frames = state.frames ++ kept)
    (wholeFrames : nextWhole.frames = whole.frames ++ appended)
    (beyond : Board.slotCount ≤ next.authored) : Shows next nextWhole where
  pendingFade := pendingFade
  names := names
  frames := by
    rw [frames, wholeFrames]
    exact shows.take_append_eq noRoom kept appended
  inside room := by
    rw [frames, List.length_append] at room
    exact absurd noRoom (Nat.not_le.2 (Nat.lt_of_add_right_lt room))
  beyond _ := beyond

theorem first_eq (shows : Shows state whole) {name : String} {first first' : Nat}
    (here : state.markers.lookup name = some first)
    (there : whole.markers.lookup name = some first')
    (room : state.frames.length < Board.slotCount) : first = first' := by
  rw [(shows.inside room).2, there] at here
  exact (Option.some.inj here).symm

/-- In a list that is cut off at the end of the memory, cutting what is appended changes nothing. -/
theorem take_append_take (frames appended : List Frame) :
    (frames ++ appended.take (Board.slotCount - frames.length)).take Board.slotCount =
      (frames ++ appended).take Board.slotCount := by
  rw [List.take_append, List.take_append, List.take_take, Nat.min_self]

theorem fade (shows : Shows state whole) (fade : PendingFade) :
    Shows { state with pendingFade := some fade } { whole with pendingFade := some fade } :=
  ⟨rfl, shows.names, shows.frames, shows.inside, shows.beyond⟩

theorem close (shows : Shows state whole) : Shows { state with closed := true } whole :=
  ⟨shows.pendingFade, shows.names, shows.frames, shows.inside, shows.beyond⟩

theorem setMarker (shows : Shows state whole) (name : String) :
    Shows (state.setMarker name) (whole.setMarker .eager name) where
  pendingFade := shows.pendingFade
  names := congrArg (name :: ·) shows.names
  frames := shows.frames
  inside room := by
    obtain ⟨counted, markers⟩ := shows.inside room
    refine ⟨counted, ?_⟩
    show (name, state.authored - 1) :: state.markers = (name, whole.frames.length - 1) :: _
    rw [counted, markers]
  beyond := shows.beyond

theorem repeatFrom (shows : Shows state whole) (name : String) {first first' copies copies' : Nat}
    (same : state.frames.length < Board.slotCount → first = first' ∧ copies = copies') :
    Shows (state.repeatFrom name first copies) (whole.repeatFrom .eager name first' copies') := by
  -- Before the memory is full, both repeat the same frames; afterwards the repeats are not played.
  by_cases room : state.frames.length < Board.slotCount
  · obtain ⟨counted, markers⟩ := shows.inside room
    obtain ⟨rfl, rfl⟩ := same room
    have kept := shows.frames_eq room
    have appended : ((List.replicate copies (whole.frames.drop first)).flatten).length =
        (whole.frames.length - first) * copies := by
      simp [Nat.mul_comm]
    constructor
    · exact shows.pendingFade
    · exact shows.names
    · simp only [State.repeatFrom, State.notify, Whole.repeatFrom, kept]
      exact take_append_take _ _
    · intro still
      simp only [State.repeatFrom, State.notify, Whole.repeatFrom, kept, List.length_append,
        List.length_take, appended, counted] at still ⊢
      exact ⟨(saturate_of_lt (by omega)).trans (by omega), markers⟩
    · intro reached
      simp only [State.repeatFrom, State.notify, kept, List.length_append,
        List.length_take, appended, counted] at reached ⊢
      exact slotCount_le_saturate (by omega)
  · have noRoom := Nat.le_of_not_lt room
    refine shows.append_full noRoom shows.pendingFade shows.names rfl rfl ?_
    exact slotCount_le_saturate (Nat.le_add_right_of_le (shows.beyond noRoom))

/-- Where a fade is cut off, it fills the memory together with the frame that it starts from. -/
theorem take_cutFade {frames shown all : List Frame} (frame : Frame) (started : 0 < frames.length)
    (steps : shown = all.take Board.slotCount) (cut : Board.slotCount < all.length) :
    (frames ++ shown ++ [frame]).take Board.slotCount =
      (frames ++ all ++ [frame]).take Board.slotCount := by
  have long : shown.length = Board.slotCount := by
    rw [steps, List.length_take]
    omega
  calc (frames ++ shown ++ [frame]).take Board.slotCount
      = (frames ++ shown).take Board.slotCount := by
        refine List.take_append_of_le_length ?_
        rw [List.length_append]
        omega
    _ = (frames ++ all).take Board.slotCount := by
        rw [steps, List.take_append, List.take_append, List.take_take,
          Nat.min_eq_left (Nat.sub_le _ _)]
    _ = (frames ++ all ++ [frame]).take Board.slotCount := by
        refine (List.take_append_of_le_length ?_).symm
        rw [List.length_append]
        omega

/-- Completing a frame, with or without a fade before it. A fade that is cut off fills the memory.
-/
theorem addFrame (shows : Shows state whole) (frame : Frame) :
    Shows (state.addFrame frame) (whole.addFrame .eager frame) := by
  rw [State.addFrame_eq]
  by_cases room : state.frames.length < Board.slotCount
  · obtain ⟨counted, markers⟩ := shows.inside room
    have kept := shows.frames_eq room
    have steps : fadeSteps (state.endFade frame) =
        (fadeSteps (whole.endFade .eager frame)).take Board.slotCount := by
      rw [State.endFade, shows.pendingFade, kept]
      exact fadeSteps_between whole.pendingFade whole.frames frame
    generalize fadeSteps (state.endFade frame) = shown at steps ⊢
    -- A fade that is cut off is as long as the memory, so the frame that ends it is not played.
    by_cases cut : Board.slotCount < (fadeSteps (whole.endFade .eager frame)).length
    · have started := List.length_pos_iff.2
        (ne_nil_of_fadeSteps (List.length_pos_iff.1 (Nat.zero_lt_of_lt cut)))
      have long : shown.length = Board.slotCount := by
        rw [steps, List.length_take]
        omega
      constructor
      · rfl
      · exact shows.names
      · rw [kept]
        exact take_cutFade frame started steps cut
      · intro still
        simp only [List.length_append] at still
        omega
      · intro _
        exact slotCount_le_saturate (by omega)
    · rw [List.take_of_length_le (Nat.le_of_not_lt cut)] at steps
      have lengths := congrArg List.length kept
      constructor
      · rfl
      · exact shows.names
      · rw [steps, kept]
        rfl
      · intro still
        simp only [List.length_append, List.length_singleton] at still
        refine ⟨(saturate_of_lt (by omega)).trans ?_, markers⟩
        simp only [Whole.addFrame, List.length_append, List.length_singleton, steps, counted]
        omega
      · intro reached
        simp only [List.length_append, List.length_singleton] at reached
        exact slotCount_le_saturate (by omega)
  · have noRoom := Nat.le_of_not_lt room
    refine shows.append_full noRoom rfl shows.names (List.append_assoc ..)
      (List.append_assoc ..) (slotCount_le_saturate ?_)
    exact Nat.le_add_right_of_le (Nat.le_add_right_of_le (shows.beyond noRoom))

/-- As far as the memory reaches, an action does the same to what is kept and to the whole. -/
theorem perform (shows : Shows state whole) (action : Action) :
    Shows (state.perform action) (whole.perform .eager action) := by
  cases action with
  | addFrame frame => exact shows.addFrame frame
  | fade fade => exact shows.fade fade
  | mark name => exact shows.setMarker name
  | again name =>
      rcases lookup_both shows.names name with ⟨here, there⟩ | ⟨first, first', here, there⟩
      · simp only [State.perform, Whole.perform, here, there]
        exact shows
      · simp only [State.perform, Whole.perform, here, there]
        exact shows.repeatFrom name fun room => ⟨shows.first_eq here there room, rfl⟩
  | forever name =>
      rcases lookup_both shows.names name with ⟨here, there⟩ | ⟨first, first', here, there⟩
      · simp only [State.perform, Whole.perform, here, there]
        exact shows
      · simp only [State.perform, Whole.perform, here, there]
        have copies : state.frames.length < Board.slotCount →
            state.copiesThatFit first = whole.copiesThatFit .eager first' := by
          intro room
          unfold State.copiesThatFit Whole.copiesThatFit
          rw [shows.first_eq here there room, (shows.inside room).1]
          rfl
        have appended := shows.repeatFrom name fun room =>
          ⟨shows.first_eq here there room, copies room⟩
        exact appended.close

theorem performAll (shows : Shows state whole) (actions : List Action) :
    Shows (state.performAll actions) (whole.performAll .eager actions) := by
  -- That what is kept shows the animation is the invariant of the run.
  induction actions generalizing state whole with
  | nil => exact shows
  | cons action later ih => exact ih (shows.perform action)

theorem start : Shows {} {} :=
  ⟨rfl, rfl, rfl, fun _ => ⟨rfl, rfl⟩, fun full => absurd full (by decide)⟩

/-- At the end of the script the memory is filled alike. -/
theorem ending_frames (shows : Shows state whole) :
    state.ending.map Animation.frames = (whole.ending .eager).map Animation.frames := by
  unfold Whole.ending
  cases there : whole.frames.getLast? with
  | none =>
      have empty := List.getLast?_eq_none_iff.1 there
      have kept := shows.frames
      rw [empty, List.take_nil, List.take_eq_nil_iff] at kept
      rw [State.ending_of_nil (kept.resolve_left (by decide))]
  | some last' =>
      have started : state.frames ≠ [] := by
        intro empty
        have room : state.frames.length < Board.slotCount := by
          rw [empty]
          decide
        rw [← shows.frames_eq room, empty] at there
        cases there
      have here := List.getLast?_eq_some_getLast started
      rw [State.ending_eq here (fun room => ?_) shows.beyond]
      · refine congrArg Except.ok (Memory.filled_congr shows.frames fun room => ?_)
        rw [← shows.frames_eq room, here] at there
        exact Option.some.inj there
      · rw [(shows.inside room).1, shows.frames_eq room]

end Shows

/-! ## The end of a script -/

/-- After any actions the length is counted exactly before the memory is full. -/
theorem performAll_inside (actions : List Action)
    (room : (({} : State).performAll actions).frames.length < Board.slotCount) :
    (({} : State).performAll actions).authored =
      (({} : State).performAll actions).frames.length := by
  have shows := Shows.start.performAll actions
  rw [(shows.inside room).1, shows.frames_eq room]

/-- A script that can be read compiles, to a frame for each slot of the memory. -/
theorem compile_of_read {defaults : Defaults} {lines : List String} {actions : List Action}
    (accepted : read defaults lines = .ok actions) :
    ∃ animation, compile defaults lines = .ok animation ∧
      animation.frames.length = Board.slotCount := by
  have ends := List.getLast?_eq_some_getLast (read_started accepted)
  have ending := State.ending_eq ends (performAll_inside actions)
    (Shows.start.performAll actions).beyond
  rw [compile_eq, accepted]
  refine ⟨_, ending, ?_⟩
  simp [Memory.filled]

theorem read_of_compile {defaults : Defaults} {lines : List String} {animation : Animation}
    (compiled : compile defaults lines = .ok animation) :
    ∃ actions, read defaults lines = .ok actions := by
  rw [compile_eq] at compiled
  cases accepted : read defaults lines with
  | error error =>
      rw [accepted] at compiled
      cases compiled
  | ok actions => exact ⟨actions, rfl⟩

/-- **A bound on memory does not change what is played.** For every script the compiler fails with
the error that the eager one fails with, or both fill the memory with the same frames. -/
theorem frames_eq_eager (defaults : Defaults) (lines : List String) :
    (compile defaults lines).map Animation.frames =
        (Unbounded.eager.compile defaults lines).map Animation.frames ∧
      ∀ animation, compile defaults lines = .ok animation →
        animation.frames.length = Board.slotCount := by
  constructor
  · rw [compile_eq]
    unfold Unbounded.compile
    cases read defaults lines with
    | error error => rfl
    | ok actions => exact (Shows.start.performAll actions).ending_frames
  · intro animation compiled
    obtain ⟨actions, accepted⟩ := read_of_compile compiled
    obtain ⟨same, again, filled⟩ := compile_of_read accepted
    rw [compiled] at again
    cases again
    exact filled

end Script

end TreeBoard
