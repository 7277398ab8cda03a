import TreeBoard.Proofs.FullMemory
import TreeBoard.Proofs.PendingFades

/-!
# States between two lines

Between two lines the kept frames, the length, the markers and the fade that waits fit together. No
line takes back a frame, so a marker that was set inside the memory means the same frame until it is
set again.

Results:
1. `change_of_step`, all that a line can do to a state.
2. `extends_of_change`, `lookup_of_change`, what a line leaves as it is.
3. `State.Sound.step`, what every line preserves.
4. `consistent_of_reached`, every state that lines lead to is consistent, and what the next line
   leaves of it.
-/

namespace TreeBoard.Script

/-! ## Definitions -/

/-- Lines that are allowed, with any numbers, lead from one state to another. -/
inductive Leads (defaults : Defaults) (allowed : String → Prop) (first : State) : State → Prop where
  | refl : Leads defaults allowed first first
  | step {state next : State} {line : Nat} {text : String}
      (before : Leads defaults allowed first state) (fits : allowed text)
      (stepped : state.step defaults line text = .ok next) : Leads defaults allowed first next

/-- A state that lines lead to from the beginning of a script. -/
def Reached (defaults : Defaults) (state : State) : Prop :=
  Leads defaults (fun _ => True) {} state

/-- Whether a line sets a marker. -/
def Sets (defaults : Defaults) (name text : String) : Prop :=
  begins "set_marker" text = true ∧ markerOf defaults text = name

/-- The parts of a state fit together. -/
structure State.Consistent (state : State) : Prop where
  kept : state.frames.length ≤ state.authored
  /-- As long as the memory has room, every frame is kept. -/
  complete : state.frames.length < Board.slotCount → state.frames.length = state.authored
  markers : ∀ marker ∈ state.markers, marker.2 < max 1 state.authored
  /-- A fade that waits has a frame to start from, so that the frame that ends it tells what has
  become of it. -/
  fade : ∀ fade, state.pendingFade = some fade → state.frames ≠ [] ∧
    ∀ frame, ∃ notice, notice.isFade = true ∧
      (state.addFrame frame).notices = state.notices ++ [notice]
  empty_iff : state.frames = [] ↔ state.authored = 0
  closed : state.closed = true → state.gathered.isEmpty = true

/-- What a line leaves of a state. -/
structure Leaves (defaults : Defaults) (state : State) (text : String) (next : State) : Prop where
  frames : state.frames <+: next.frames
  repeats : begins "repeat" text = true →
    next.frames.length ≤ max Board.slotCount state.frames.length
  /-- A marker that is set inside the memory means the frame that was the last one, until the marker
  is set again. -/
  marker : ∀ name index, Sets defaults name text → next.markers.lookup name = some index →
    index < Board.slotCount → state.frames ≠ [] →
      ∀ later, Leads defaults (fun other => ¬ Sets defaults name other) next later →
        later.markers.lookup name = some index ∧
          later.frames[index]? = state.frames.getLast?

/-- All that a line can do to a state. -/
inductive Change (defaults : Defaults) (state : State) (line : Nat) (text : String) :
    State → Prop where
  /-- Blanks, or levels that leave the frame incomplete. -/
  | gather (silent : kind text = .blank ∨ kind text = .data) (gathered : PartialFrame) :
      Change defaults state line text { state with gathered }
  /-- Levels that complete the frame. -/
  | complete (data : kind text = .data) (frame : Frame) (gathered : PartialFrame) :
      Change defaults state line text { state.addFrame frame with gathered }
  | fade (is : kind text = .fade) (started : state.frames ≠ []) :
      Change defaults state line text
        { state with pendingFade := some ⟨line, speedOf defaults text⟩ }
  | mark (is : kind text = .mark) :
      Change defaults state line text (state.setMarker (markerOf defaults text))
  | again (is : kind text = .again) {first : Nat}
      (known : state.markers.lookup (markerOf defaults text) = some first) :
      Change defaults state line text (state.repeatFrom (markerOf defaults text) first 1)
  | forever (is : kind text = .forever) {first : Nat}
      (known : state.markers.lookup (markerOf defaults text) = some first) :
      Change defaults state line text
        { state.repeatFrom (markerOf defaults text) first (state.copiesThatFit first) with
          closed := true }

/-- What every line preserves. -/
structure State.Sound (state : State) : Prop where
  counted : Counted state
  limited : state.authored ≤ UInt64.size - 1
  complete : state.frames.length < Board.slotCount → state.authored = state.frames.length
  marked : ∀ marker ∈ state.markers, marker.2 < max 1 state.authored
  fading : state.pendingFade.isSome = true → state.frames ≠ []
  reading : state.reader.Sound

/-! ## One line -/

section

variable {defaults : Defaults} {state next : State} {line : Nat} {text : String}

theorem change_of_step (sound : state.reader.Sound)
    (stepped : state.step defaults line text = .ok next) :
    Change defaults state line text next := by
  obtain ⟨reader, actions, accepted, rfl⟩ := exists_of_step stepped
  have fits := kind_fits text
  cases Reader.step_cases sound accepted with
  | short data => exact .gather (.inr (kind_of_data data)) _
  | full data goesOn valid full frame => exact .complete (kind_of_data data) frame _
  | separator separator empty admitted =>
      rw [Reader.step_separator separator empty admitted] at accepted
      cases accepted
      unfold Reader.actionsOf
      cases is : kind text with
      | blank => exact .gather (.inl is) _
      | data =>
          rw [isDataLine_eq, is] at separator
          cases separator
      | fade =>
          have started := (admitted.fade (by rw [fits.fade, is]; rfl)).1
          exact .fade is (by simpa [State.reader] using started)
      | mark => exact .mark is
      | again =>
          obtain ⟨first, known⟩ := State.mem_reader_names_iff.1
            (admitted.known (by rw [fits.again, is]; rfl))
          simp only [State.advance, State.performAll, List.foldl, State.perform, known]
          exact .again is known
      | forever =>
          obtain ⟨first, known⟩ := State.mem_reader_names_iff.1
            (admitted.known (by rw [fits.again, is]; rfl))
          simp only [State.advance, State.performAll, List.foldl, State.perform, known]
          exact .forever is known

/-! ## What a line leaves as it is -/

theorem extends_of_change (limited : state.authored ≤ UInt64.size - 1)
    (change : Change defaults state line text next) : Extends state next := by
  have same := Extends.refl limited
  cases change with
  | gather silent gathered => exact ⟨same.frames, same.notices, same.authored, same.counted⟩
  | complete data frame gathered =>
      have added := same.addFrame frame
      exact ⟨added.frames, added.notices, added.authored, added.counted⟩
  | fade is started => exact ⟨same.frames, same.notices, same.authored, same.counted⟩
  | mark is => exact same.setMarker _
  | again is known => exact same.repeatFrom _ _ _
  | @forever is first known =>
      have appended := same.repeatFrom (markerOf defaults text) first (state.copiesThatFit first)
      exact ⟨appended.frames, appended.notices, appended.authored, appended.counted⟩

theorem markers_addFrame (state : State) (frame : Frame) :
    (state.addFrame frame).markers = state.markers := by
  rw [State.addFrame_eq]

/-- A marker stays where it is unless the line sets it. -/
theorem lookup_of_change {name : String} (unset : ¬ Sets defaults name text)
    (change : Change defaults state line text next) :
    next.markers.lookup name = state.markers.lookup name := by
  cases change with
  | gather silent gathered => rfl
  | complete data frame gathered => exact congrArg _ (markers_addFrame state frame)
  | fade is started => rfl
  | mark is =>
      have other : name ≠ markerOf defaults text := by
        rintro rfl
        exact unset ⟨by rw [(kind_fits text).mark, is]; rfl, rfl⟩
      show List.lookup name ((markerOf defaults text, state.authored - 1) :: state.markers) = _
      rw [List.lookup_cons, beq_false_of_ne other]
  | again is known => rfl
  | forever is known => rfl

/-- A line that sets a marker does nothing else. -/
theorem eq_setMarker_of_change {name : String} (sets : Sets defaults name text)
    (change : Change defaults state line text next) : next = state.setMarker name := by
  obtain ⟨marks, rfl⟩ := sets
  rw [(kind_fits text).mark, decide_eq_true_eq] at marks
  cases change with
  | mark is => rfl
  -- No other line begins with the keyword.
  | _ => grind

/-- A repeat keeps no frame behind the memory. -/
theorem length_repeatFrom_le (state : State) (name : String) (first copies : Nat) :
    (state.repeatFrom name first copies).frames.length ≤
      max Board.slotCount state.frames.length := by
  simp only [State.repeatFrom, State.notify, List.length_append, List.length_take]
  omega

theorem length_le_of_change (repeats : begins "repeat" text = true)
    (change : Change defaults state line text next) :
    next.frames.length ≤ max Board.slotCount state.frames.length := by
  rw [(kind_fits text).again, decide_eq_true_eq] at repeats
  cases change with
  | again is known => exact length_repeatFrom_le state _ _ _
  | @forever is first known =>
      exact length_repeatFrom_le state (markerOf defaults text) first (state.copiesThatFit first)
  -- No other line begins with the keyword.
  | _ => grind

end

/-! ## What every line preserves -/

namespace State.Sound

variable {defaults : Defaults} {state next : State} {line : Nat} {text : String}

theorem start : Sound {} :=
  ⟨Counted.start, Nat.zero_le _, fun _ => rfl, List.forall_mem_nil _, (nomatch ·),
    Reader.sound_empty⟩

/-- Before the memory is full, a completed frame is counted exactly. -/
theorem complete_addFrame (sound : state.Sound) (frame : Frame)
    (room : (state.addFrame frame).frames.length < Board.slotCount) :
    (state.addFrame frame).authored = (state.addFrame frame).frames.length := by
  rw [addFrame_eq] at room ⊢
  simp only [List.length_append, List.length_singleton] at room ⊢
  have exact := sound.complete (by omega)
  rw [exact, saturate_of_lt (by omega)]
  omega

/-- Before the memory is full, no copy of a repeat is cut off. -/
theorem complete_repeatFrom (sound : state.Sound) (name : String) (first copies : Nat)
    (room : (state.repeatFrom name first copies).frames.length < Board.slotCount) :
    (state.repeatFrom name first copies).authored =
      (state.repeatFrom name first copies).frames.length := by
  have copied : ((List.replicate copies (state.frames.drop first)).flatten).length =
      (state.frames.length - first) * copies := by
    simp [Nat.mul_comm]
  simp only [repeatFrom, notify, List.length_append, List.length_take, copied] at room ⊢
  have exact := sound.complete (by omega)
  rw [exact, saturate_of_lt (by omega)]
  omega

theorem step (sound : state.Sound) (stepped : state.step defaults line text = .ok next) :
    next.Sound := by
  have change := change_of_step sound.reading stepped
  have extended := extends_of_change sound.limited change
  have reading : next.reader.Sound := by
    obtain ⟨reader, actions, accepted, rfl⟩ := exists_of_step stepped
    rw [step_reader accepted]
    exact Reader.step_sound sound.reading accepted
  have marked : ∀ marker ∈ state.markers, marker.2 < max 1 next.authored := by
    intro marker member
    exact Nat.lt_of_lt_of_le (sound.marked marker member)
      (max_le_max (Nat.le_refl 1) extended.authored)
  have fading (waits : state.pendingFade.isSome = true) : next.frames ≠ [] := by
    intro empty
    have before := extended.frames
    rw [empty, List.prefix_nil] at before
    exact sound.fading waits before
  cases change with
  | gather silent gathered =>
      exact ⟨⟨sound.counted.kept, sound.counted.unfitted⟩, extended.counted, sound.complete, marked,
        fading, reading⟩
  | complete data frame gathered =>
      have counted := sound.counted.addFrame frame
      refine ⟨⟨counted.kept, counted.unfitted⟩, extended.counted, sound.complete_addFrame frame,
        ?_, ?_, reading⟩
      · rw [show ({ state.addFrame frame with gathered } : State).markers = state.markers from
          markers_addFrame state frame]
        exact marked
      · rw [addFrame_eq]
        exact (nomatch ·)
  | fade is started =>
      exact ⟨⟨sound.counted.kept, sound.counted.unfitted⟩, extended.counted, sound.complete, marked,
        fun _ => started, reading⟩
  | mark is =>
      refine ⟨sound.counted.setMarker _, extended.counted, sound.complete, ?_, fading, reading⟩
      refine List.forall_mem_cons.2 ⟨?_, marked⟩
      show state.authored - 1 < max 1 state.authored
      omega
  | again is known =>
      exact ⟨sound.counted.repeatFrom _ _ _, extended.counted, sound.complete_repeatFrom _ _ _,
        marked, fading, reading⟩
  | @forever is first known =>
      have counted := sound.counted.repeatFrom (markerOf defaults text) first
        (state.copiesThatFit first)
      have complete := sound.complete_repeatFrom (markerOf defaults text) first
        (state.copiesThatFit first)
      exact ⟨⟨counted.kept, counted.unfitted⟩, extended.counted, complete, marked, fading, reading⟩

theorem leads {allowed : String → Prop} {first : State} (sound : first.Sound)
    (leads : Leads defaults allowed first state) : state.Sound := by
  induction leads with
  | refl => exact sound
  | step before fits stepped ih => exact ih.step stepped

/-- A marker that is set inside the memory means the last frame that is kept. -/
theorem last_of_marker (sound : state.Sound) (inMemory : state.authored - 1 < Board.slotCount) :
    state.frames[state.authored - 1]? = state.frames.getLast? := by
  have kept := sound.counted.kept
  have limit : Board.slotCount < UInt64.size - 1 := by decide
  have exact : state.authored = state.frames.length := by
    rcases Nat.lt_or_ge state.frames.length Board.slotCount with room | full
    · exact sound.complete room
    · unfold saturate at kept
      omega
  rw [exact, List.getLast?_eq_getElem?]

end State.Sound

/-! ## All states that lines lead to -/

section

variable {defaults : Defaults} {first state next : State} {text name : String}

/-- A run leads on from where other lines have led. -/
theorem Leads.run {last : State} {line : Nat} {lines : List String}
    (before : Leads defaults (fun _ => True) first state)
    (ran : Script.run defaults line lines state = .ok last) :
    Leads defaults (fun _ => True) first last := by
  induction lines generalizing line state with
  | nil =>
      cases ran
      exact before
  | cons text later ih =>
      obtain ⟨next, stepped, rest⟩ := State.run_cons_iff.1 ran
      exact ih (before.step trivial stepped) rest

/-- No line takes back a frame. -/
theorem frames_of_leads {allowed : String → Prop} (sound : first.Sound)
    (leads : Leads defaults allowed first state) : first.frames <+: state.frames := by
  induction leads with
  | refl => exact List.prefix_rfl
  | step before fits stepped ih =>
      have here := sound.leads before
      have change := change_of_step here.reading stepped
      exact ih.trans (extends_of_change here.limited change).frames

/-- A marker stays where it is until a line sets it. -/
theorem lookup_of_leads (sound : first.Sound)
    (leads : Leads defaults (fun other => ¬ Sets defaults name other) first state) :
    state.markers.lookup name = first.markers.lookup name := by
  induction leads with
  | refl => rfl
  | step before unset stepped ih =>
      exact (lookup_of_change unset (change_of_step (sound.leads before).reading stepped)).trans ih

/-- A fade that has a frame to start from is told of by the frame that ends it. -/
theorem exists_told {fade : PendingFade} (waits : state.pendingFade = some fade)
    (started : state.frames ≠ []) (frame : Frame) : ∃ notice, notice.isFade = true ∧
      (state.addFrame frame).notices = state.notices ++ [notice] := by
  have ended : state.endFade frame =
      some (fade, Fade.between (state.frames.getLast started) frame fade.speed) := by
    unfold State.endFade Script.endFade
    rw [waits, List.getLast?_eq_some_getLast started]
  rw [State.addFrame_eq, ended]
  cases Fade.between (state.frames.getLast started) frame fade.speed with
  | nil => exact ⟨_, rfl, rfl⟩
  | cons step others => exact ⟨_, rfl, rfl⟩

theorem State.Sound.consistent (sound : state.Sound) (stored : state.frames.length < 2 ^ 63) :
    state.Consistent := by
  have limit : 2 ^ 63 ≤ UInt64.size - 1 := by decide
  have kept : state.frames.length ≤ state.authored := by
    have counted := sound.counted.kept
    unfold saturate at counted
    omega
  constructor
  case kept => exact kept
  case complete => exact fun room => (sound.complete room).symm
  case markers => exact sound.marked
  case fade =>
    intro fade waits
    have started := sound.fading (by rw [waits]; rfl)
    exact ⟨started, exists_told waits started⟩
  case empty_iff =>
    rw [← List.length_eq_zero_iff]
    constructor
    · intro empty
      rw [sound.complete (by rw [empty]; decide), empty]
    · intro none
      omega
  case closed => exact sound.reading.closed

/-- What a line that sets a marker inside the memory makes of it, until it is set again. -/
theorem marker_of_leads {index : Nat} {later : State} {line : Nat} (sound : state.Sound)
    (stepped : state.step defaults line text = .ok next) (sets : Sets defaults name text)
    (found : next.markers.lookup name = some index) (inMemory : index < Board.slotCount)
    (started : state.frames ≠ [])
    (leads : Leads defaults (fun other => ¬ Sets defaults name other) next later) :
    later.markers.lookup name = some index ∧ later.frames[index]? = state.frames.getLast? := by
  have after := sound.step stepped
  have kept := (lookup_of_leads after leads).trans found
  have grown := frames_of_leads after leads
  obtain rfl := eq_setMarker_of_change sets (change_of_step sound.reading stepped)
  obtain rfl : state.authored - 1 = index := by
    have set : List.lookup name ((name, state.authored - 1) :: state.markers) = some index := found
    rw [List.lookup_cons_self] at set
    exact Option.some.inj set
  refine ⟨kept, ?_⟩
  have last := sound.last_of_marker inMemory
  rw [List.getLast?_eq_some_getLast started] at last ⊢
  obtain ⟨inside, same⟩ := List.getElem?_eq_some_iff.1 last
  rw [← same]
  exact List.prefix_iff_getElem?.1 grown _ inside

/-- **Between any two lines the parts of the state fit together, and no line takes back a frame.** The
frames that are kept are held in a list, which has fewer than `2 ^ 63` of them. -/
theorem consistent_of_reached (reached : Reached defaults state)
    (stored : state.frames.length < 2 ^ 63) : state.Consistent ∧
      ∀ line text next, state.step defaults line text = .ok next →
        Leaves defaults state text next := by
  have sound := State.Sound.start.leads reached
  refine ⟨sound.consistent stored, fun line text next stepped => ?_⟩
  have change := change_of_step sound.reading stepped
  constructor
  case frames => exact (extends_of_change sound.limited change).frames
  case repeats => exact fun repeats => length_le_of_change repeats change
  case marker =>
    intro name index sets found inMemory started later leads
    exact marker_of_leads sound stepped sets found inMemory started leads

end

/-- Repeats beyond the memory, a frame behind them, and a fade that waits. -/
def repeatedBeyond : List String :=
  ["set_marker", "0000 0000 0000 0000 0000 0000", "1234 5670 1234 5670 1234 5670",
    "7777 7777 7777 7777 7777 7777"] ++ List.replicate 7 "repeat" ++
    ["4444 4444 4444 4444 4444 4444", "set_marker:dusk", "fade_to:5", "0101 0101"]

theorem repeatedBeyond_leaves :
    ((run {} 1 repeatedBeyond {}).toOption.map fun state =>
      (state.frames.length, state.authored, state.gathered.size)) = some (257, 385, 8) := by
  decide +kernel

theorem consistent_of_reached_repeatedBeyond :
    ∃ state, Reached {} state ∧ state.frames.length < 2 ^ 63 ∧ state.frames.length = 257 ∧
      state.authored = 385 ∧ state.Consistent ∧
      ∀ line text next, state.step {} line text = .ok next → Leaves {} state text next := by
  cases ran : run {} 1 repeatedBeyond {} with
  | error failure =>
      have found := repeatedBeyond_leaves
      rw [ran] at found
      cases found
  | ok state =>
      have found := repeatedBeyond_leaves
      rw [ran] at found
      obtain ⟨length, more⟩ := Prod.mk.inj (Option.some.inj found)
      have reached : Reached {} state := Leads.refl.run ran
      have stored : state.frames.length < 2 ^ 63 := by
        rw [length]
        decide
      exact ⟨state, reached, stored, length, (Prod.mk.inj more).1, consistent_of_reached reached stored⟩

end TreeBoard.Script
