import Mathlib.Data.List.GetD
import TreeBoard.Proofs.BegunFrames
import TreeBoard.Proofs.Continuation

/-!
# Blank lines

Line numbers are for diagnostics only. A script that is read under other line numbers comes to the
same animation, with the other numbers in its tags. So a blank line that is put between two frames
only moves the numbers of the lines behind it; inside a frame it is an error.

Results:
1. `Reader.run_renumber`, `State.performAll_renumber`, reading and performing under other numbers.
2. `compile_renumber`, the animation of a script whose actions are renumbered.
3. `inserted_blank`, what a blank line does that is put into a script that compiles.
-/

namespace TreeBoard

/-! ## Definitions -/

/-- The frame with another number for its line. -/
def Frame.renumber (number : Nat → Nat) (frame : Frame) : Frame :=
  { frame with line := number frame.line }

namespace Script

/-- The notice with another number for its line, if it names one. -/
def Notice.renumber (number : Nat → Nat) : Notice → Notice
  | .flatFade line => .flatFade (number line)
  | .danglingFade line => .danglingFade (number line)
  | notice => notice

end Script

/-- The animation with other numbers for the lines that wrote it. -/
def Animation.renumber (number : Nat → Nat) (animation : Animation) : Animation where
  frames := animation.frames.map (Frame.renumber number)
  notices := animation.notices.map (Script.Notice.renumber number)
  authored := animation.authored

namespace Script

/-- The number that a line has after another line has been put in behind the first `place` lines. -/
def behindInserted (place line : Nat) : Nat :=
  if place < line then line + 1 else line

/-- The fade with another number for its line. -/
def PendingFade.renumber (number : Nat → Nat) (fade : PendingFade) : PendingFade :=
  { fade with line := number fade.line }

/-- The action with another number for its line. -/
def Action.renumber (number : Nat → Nat) : Action → Action
  | .addFrame frame => .addFrame (frame.renumber number)
  | .fade pending => .fade (pending.renumber number)
  | .mark name => .mark name
  | .again name => .again name
  | .forever name => .forever name

/-- The partial frame with another number for the line on which it is begun. -/
def PartialFrame.renumber (number : Nat → Nat) (gathered : PartialFrame) : PartialFrame :=
  { gathered with startLine := number gathered.startLine }

/-- The reader with another number for the line on which a frame is begun. -/
def Reader.renumber (number : Nat → Nat) (reader : Reader) : Reader :=
  { reader with gathered := reader.gathered.renumber number }

/-- The state with other numbers for the lines that led to it. -/
def State.renumber (number : Nat → Nat) (state : State) : State :=
  { state with
    frames := state.frames.map (Frame.renumber number)
    pendingFade := state.pendingFade.map (PendingFade.renumber number)
    notices := state.notices.map (Notice.renumber number) }

variable {number : Nat → Nat}

/-! ## Reading under other numbers -/

namespace Reader

variable {defaults : Defaults} {reader next last : Reader} {actions : List Action} {line line' : Nat}
  {text : String}

theorem sound_renumber (number : Nat → Nat) (sound : reader.Sound) :
    (reader.renumber number).Sound :=
  ⟨⟨sound.gathering.short, sound.gathering.low⟩, sound.closed⟩

theorem collect_renumber (number : Nat → Nat) (gathered : PartialFrame) (line : Nat)
    (levels : List Level) :
    (gathered.renumber number).collect (number line) levels =
      (gathered.collect line levels).renumber number := by
  unfold PartialFrame.collect PartialFrame.renumber PartialFrame.isEmpty
  cases levels with
  | nil => rfl
  | cons level others => cases gathered.pending <;> rfl

theorem actionsOf_renumber (defaults : Defaults) (line : Nat) (text : String) :
    actionsOf defaults (number line) text =
      (actionsOf defaults line text).map (Action.renumber number) := by
  unfold actionsOf
  cases kind text <;> rfl

/-- A line is read alike under another number. -/
theorem step_renumber (number : Nat → Nat) (sound : reader.Sound)
    (accepted : reader.step defaults line text = .ok (next, actions)) :
    (reader.renumber number).step defaults (number line) text =
      .ok (next.renumber number, actions.map (Action.renumber number)) := by
  cases data : isDataLine text with
  | true =>
      obtain ⟨goesOn, valid, fits⟩ := valid_of_step sound data accepted
      have collected := collect_renumber number reader.gathered line (levelsOf text)
      rcases Nat.lt_or_eq_of_le fits with short | full
      · rw [step_short defaults goesOn data valid line short] at accepted
        cases accepted
        have goesOn' : (reader.renumber number).closed = false := goesOn
        rw [step_short defaults goesOn' data valid (number line) short, renumber, collected]
        rfl
      · obtain ⟨frame, levels, started, stepped⟩ :=
          step_full defaults sound goesOn data valid line full
        obtain ⟨frame', levels', started', stepped'⟩ := step_full defaults
          (sound_renumber number sound) goesOn data valid (number line) full
        -- Both frames have the levels that were gathered.
        have same : frame' = frame.renumber number := by
          obtain ⟨vector, tag⟩ := frame
          obtain ⟨vector', tag'⟩ := frame'
          obtain rfl : vector' = vector := Vector.toList_inj.1 (levels'.trans levels.symm)
          have tagged : tag' = number tag := by
            simp only at started started'
            rw [started', started]
            exact congrArg PartialFrame.startLine collected
          rw [tagged]
          rfl
        rw [stepped] at accepted
        cases accepted
        rw [stepped', same]
        rfl
  | false =>
      cases empty : reader.gathered.isEmpty with
      | true =>
          have admitted := admits_of_step empty accepted
          rw [step_separator data empty admitted] at accepted
          cases accepted
          have admitted' : (reader.renumber number).Admits defaults text :=
            ⟨admitted.ended, admitted.fade, admitted.known⟩
          have empty' : (reader.renumber number).gathered.isEmpty = true := empty
          rw [step_separator data empty' admitted', actionsOf_renumber]
          rfl
      | false =>
          obtain ⟨error, refused⟩ := step_of_occupied defaults sound data empty line
          rw [refused] at accepted
          cases accepted

/-- Lines are read alike under other numbers. -/
theorem run_renumber (number : Nat → Nat) {lines : List String} (sound : reader.Sound)
    (numbers : ∀ place < lines.length, number (line + place) = line' + place)
    (accepted : run defaults line lines reader = .ok (last, actions)) :
    run defaults line' lines (reader.renumber number) =
      .ok (last.renumber number, actions.map (Action.renumber number)) := by
  induction lines generalizing line line' reader actions with
  | nil =>
      cases accepted
      rfl
  | cons text later ih =>
      obtain ⟨next, first, others, stepped, rest, rfl⟩ := run_cons_iff.1 accepted
      have here : number line = line' := numbers 0 (Nat.zero_lt_succ _)
      have renumbered := step_renumber number sound stepped
      rw [here] at renumbered
      refine run_cons_iff.2 ⟨_, _, _, renumbered, ih (step_sound sound stepped) ?_ rest, ?_⟩
      · intro place inside
        rw [Nat.add_assoc, Nat.add_assoc, Nat.add_comm 1]
        exact numbers (place + 1) (Nat.succ_lt_succ inside)
      · exact List.map_append

end Reader

/-! ## Performing under other numbers -/

theorem between_renumber (number : Nat → Nat) (start stop : Frame) (speed : UInt32) :
    Fade.between (start.renumber number) (stop.renumber number) speed =
      (Fade.between start stop speed).map (Frame.renumber number) := by
  unfold Fade.between
  simp only [show Fade.maxDelta (start.renumber number) (stop.renumber number) =
    Fade.maxDelta start stop from rfl]
  split
  · rfl
  · rw [List.map_map]
    rfl

/-- An ended fade under other numbers. -/
theorem endFade_renumber (number : Nat → Nat) (pending : Option PendingFade) (frames : List Frame)
    (frame : Frame) :
    endFade Fade.between (pending.map (PendingFade.renumber number))
        (frames.map (Frame.renumber number)) (frame.renumber number) =
      (endFade Fade.between pending frames frame).map
        (Prod.map (PendingFade.renumber number) (List.map (Frame.renumber number))) := by
  unfold endFade
  rw [List.getLast?_map]
  cases pending with
  | none => rfl
  | some pending =>
      cases frames.getLast? with
      | none => rfl
      | some start =>
          simp only [Option.map_some, between_renumber]
          rfl

theorem fadeSteps_renumber (number : Nat → Nat) (ended : Option (PendingFade × List Frame)) :
    fadeSteps (ended.map (Prod.map (PendingFade.renumber number)
        (List.map (Frame.renumber number)))) =
      (fadeSteps ended).map (Frame.renumber number) := by
  cases ended <;> rfl

theorem fadeNotices_renumber (number : Nat → Nat) (length : Nat)
    (ended : Option (PendingFade × List Frame)) :
    fadeNotices length (ended.map (Prod.map (PendingFade.renumber number)
        (List.map (Frame.renumber number)))) =
      (fadeNotices length ended).map (Notice.renumber number) := by
  obtain _ | ⟨pending, _ | ⟨step, others⟩⟩ := ended
  · rfl
  · rfl
  · simp [fadeNotices, Notice.renumber, PendingFade.renumber]

theorem fadeSpeeds_renumber (number : Nat → Nat) (ended : Option (PendingFade × List Frame)) :
    fadeSpeeds (ended.map (Prod.map (PendingFade.renumber number)
        (List.map (Frame.renumber number)))) = fadeSpeeds ended := by
  obtain _ | ⟨pending, _ | ⟨step, others⟩⟩ := ended <;> rfl

theorem danglingNotices_renumber (number : Nat → Nat) (pending : Option PendingFade) :
    danglingNotices (pending.map (PendingFade.renumber number)) =
      (danglingNotices pending).map (Notice.renumber number) := by
  cases pending <;> rfl

namespace State

theorem addFrame_renumber (number : Nat → Nat) (state : State) (frame : Frame) :
    (state.renumber number).addFrame (frame.renumber number) =
      (state.addFrame frame).renumber number := by
  rw [addFrame_eq, addFrame_eq]
  simp only [renumber, endFade, endFade_renumber, fadeSteps_renumber, fadeNotices_renumber,
    fadeSpeeds_renumber, List.map_append, List.map_cons, List.map_nil, List.length_map,
    Option.map_none]

theorem repeatFrom_renumber (number : Nat → Nat) (state : State) (name : String)
    (first copies : Nat) :
    (state.renumber number).repeatFrom name first copies =
      (state.repeatFrom name first copies).renumber number := by
  simp only [repeatFrom, renumber, notify, List.map_append, List.map_take, List.map_flatten,
    List.map_replicate, List.map_drop, List.length_map, List.map_cons, List.map_nil,
    Notice.renumber]

theorem setMarker_renumber (number : Nat → Nat) (state : State) (name : String) :
    (state.renumber number).setMarker name = (state.setMarker name).renumber number := by
  simp only [setMarker, notify, renumber, List.map_append, List.map_cons, List.map_nil,
    Notice.renumber]

theorem perform_renumber (number : Nat → Nat) (state : State) (action : Action) :
    (state.renumber number).perform (action.renumber number) =
      (state.perform action).renumber number := by
  cases action with
  | addFrame frame => exact addFrame_renumber number state frame
  | fade fade => rfl
  | mark name => exact setMarker_renumber number state name
  | again name =>
      simp only [Action.renumber, perform, show (state.renumber number).markers = state.markers from rfl]
      cases state.markers.lookup name with
      | none => rfl
      | some first => exact repeatFrom_renumber number state name first 1
  | forever name =>
      simp only [Action.renumber, perform, show (state.renumber number).markers = state.markers from rfl]
      cases state.markers.lookup name with
      | none => rfl
      | some first =>
          exact congrArg (fun state : State => { state with closed := true })
            (repeatFrom_renumber number state name first (state.copiesThatFit first))

theorem performAll_renumber (number : Nat → Nat) (state : State) (actions : List Action) :
    (state.renumber number).performAll (actions.map (Action.renumber number)) =
      (state.performAll actions).renumber number := by
  induction actions generalizing state with
  | nil => rfl
  | cons action later ih =>
      simp only [performAll, List.map_cons, List.foldl_cons] at ih ⊢
      rw [perform_renumber, ih]

end State

theorem filled_renumber (number : Nat → Nat) (frames : List Frame) (last : Frame) :
    Memory.filled (frames.map (Frame.renumber number)) (last.renumber number) =
      (Memory.filled frames last).map (Frame.renumber number) := by
  unfold Memory.filled
  rw [List.map_map]
  refine List.map_congr_left fun slot _ => ?_
  rw [Function.comp_apply, List.getD_map]

/-- A script whose actions are those of another one under other numbers has the same animation, with
the other numbers. -/
theorem compile_renumber {defaults : Defaults} {lines lines' : List String} {actions : List Action}
    {animation : Animation} (compiled : compile defaults lines = .ok animation)
    (accepted : read defaults lines = .ok actions)
    (renumbered : read defaults lines' = .ok (actions.map (Action.renumber number))) :
    compile defaults lines' = .ok (animation.renumber number) := by
  obtain ⟨actions, last, accepted', ends, rfl⟩ := exists_ending_of_compile compiled
  obtain rfl := Except.ok.inj (accepted.symm.trans accepted')
  obtain ⟨animation', compiled', -⟩ := compile_of_read renumbered
  obtain ⟨actions', last', accepted'', ends', rfl⟩ := exists_ending_of_compile compiled'
  obtain rfl := Except.ok.inj (renumbered.symm.trans accepted'')
  have performed : ({} : State).performAll (actions.map (Action.renumber number)) =
      (({} : State).performAll actions).renumber number :=
    State.performAll_renumber number {} actions
  generalize ({} : State).performAll actions = state at *
  rw [performed] at ends' compiled'
  have lasts : last' = last.renumber number := by
    rw [State.renumber, List.getLast?_map, ends] at ends'
    exact (Option.some.inj ends').symm
  rw [compiled', lasts]
  simp only [State.renumber, Animation.renumber, filled_renumber, danglingNotices_renumber,
    List.map_append, List.map_cons, List.map_nil, List.length_map, Notice.renumber]

/-! ## A blank line that is put in -/

section

variable {defaults : Defaults} {before after : List String} {text : String}

/-- A script is read alike with a blank line in it that interrupts no frame. -/
theorem read_inserted {mid last : Reader} {first others : List Action}
    (reached : Reader.run defaults 1 before {} = .ok (mid, first))
    (rest : Reader.run defaults (1 + before.length) after mid = .ok (last, others))
    (started : last.started = true) (ends : last.gathered.isEmpty = true)
    (blank : isBlankLine text = true) (empty : mid.gathered.isEmpty = true) :
    read defaults (before ++ text :: after) =
      .ok ((first ++ others).map (Action.renumber (behindInserted before.length))) := by
  have initial : ({} : Reader).renumber (behindInserted before.length) = {} := by
    simp [Reader.renumber, PartialFrame.renumber, behindInserted]
  have sound := Reader.run_sound Reader.sound_empty reached
  have front : ∀ place < before.length, behindInserted before.length (1 + place) = 1 + place :=
    fun place inside => if_neg (by omega)
  have back : ∀ place < after.length, behindInserted before.length (1 + before.length + place) =
      1 + before.length + 1 + place := by
    intro place inside
    rw [behindInserted, if_pos (by omega)]
    omega
  -- The lines before the blank one keep their numbers, and so does all that they lead to.
  have kept := Reader.run_renumber _ Reader.sound_empty front reached
  rw [initial, reached] at kept
  obtain ⟨sameReader, sameActions⟩ := Prod.mk.inj (Except.ok.inj kept)
  have moved := Reader.run_renumber _ sound back rest
  rw [← sameReader] at moved
  refine read_iff.2 ⟨last.renumber (behindInserted before.length), ?_, started, ends⟩
  rw [List.map_append, ← sameActions]
  exact Reader.run_append_iff.2 ⟨_, _, _, reached, run_cons_iff.2
    ⟨_, _, _, Reader.step_blank defaults empty blank _, moved, rfl⟩, rfl⟩

/-- **A blank line is invisible or an error.** A blank line is put into a script that compiles. Where
no frame is begun, the script compiles to the same animation, in which only the numbers of the lines
behind the blank one grow by one. Otherwise the frame is incomplete, from the line of its first level
to the blank line. -/
theorem inserted_blank {animation : Animation}
    (compiled : compile defaults (before ++ after) = .ok animation)
    (blank : isBlankLine text = true) :
    (begunLines before = [] →
      compile defaults (before ++ text :: after) =
        .ok (animation.renumber (behindInserted before.length))) ∧
    ∀ start others, begunLines before = start :: others →
      compile defaults (before ++ text :: after) =
        .error (.incompleteFrame start (before.length + 1) (others.length + 1)) ∧
      others.length + 1 < Board.ledCount := by
  obtain ⟨actions, accepted⟩ := read_of_compile compiled
  obtain ⟨last, run, started, ends⟩ := read_iff.1 accepted
  obtain ⟨mid, first, second, reached, rest, rfl⟩ := Reader.run_append_iff.1 run
  have gathers := gathers_of_run reached
  have sound := Reader.run_sound Reader.sound_empty reached
  refine ⟨fun complete => ?_, fun start others begun => ?_⟩
  · exact compile_renumber compiled accepted
      (read_inserted reached rest started ends blank (gathers.isEmpty_iff.2 complete))
  · rw [begun] at gathers
    have short := sound.gathering.short
    rw [gathers.size] at short
    refine ⟨compile_of_step_error reached ?_ after, short⟩
    rw [Reader.step_boundary defaults blank,
      PartialFrame.boundary_of_occupied sound.gathering gathers.occupied, gathers.size,
      gathers.startLine start rfl, Nat.add_comm 1]
    rfl

end

/-- A frame over two lines, and fades between and behind frames. -/
def unevenFades : List String :=
  ["0123 4567 0123", "4567 0123 4567", "fade_to", "7777 7777 7777 7777 7777 7777", "fade_to:2",
    "7777 7777 7777 7777 7777 7776", "fade_to:3"]

theorem inserted_blank_unevenFades :
    ∃ animation, compile {} unevenFades = .ok animation ∧ isBlankLine " \t" = true ∧
      begunLines (unevenFades.take 3) = [] ∧
      begunLines (unevenFades.take 1) = List.replicate 12 1 ∧
      (animation.renumber (behindInserted 3)).notices =
        [.faded 0 7 6, .flatFade 6, .danglingFade 8, .fitted (.padded 247)] ∧
      compile {} (unevenFades.take 3 ++ " \t" :: unevenFades.drop 3) =
        .ok (animation.renumber (behindInserted 3)) ∧
      compile {} (unevenFades.take 1 ++ " \t" :: unevenFades.drop 1) =
        .error (.incompleteFrame 1 2 12) := by
  obtain ⟨animation, compiled⟩ := exists_of_isOk
    (show (compile {} unevenFades).isOk = true by decide +kernel)
  have noticed : (compile {} unevenFades).toOption.map Animation.notices =
      some [.faded 0 7 6, .flatFade 5, .danglingFade 7, .fitted (.padded 247)] := by
    decide +kernel
  rw [compiled] at noticed
  have blank : isBlankLine " \t" = true := by decide
  have complete : begunLines (unevenFades.take 3) = [] := by decide
  have begun : begunLines (unevenFades.take 1) = List.replicate 12 1 := by decide
  refine ⟨animation, compiled, blank, complete, begun, ?_, ?_, ?_⟩
  · rw [Animation.renumber, Option.some.inj noticed]
    rfl
  · have whole : compile {} (unevenFades.take 3 ++ unevenFades.drop 3) = .ok animation := compiled
    exact (inserted_blank whole blank).1 complete
  · have whole : compile {} (unevenFades.take 1 ++ unevenFades.drop 1) = .ok animation := compiled
    exact ((inserted_blank whole blank).2 1 _ begun).1

end Script

end TreeBoard
