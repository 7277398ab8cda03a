import Mathlib.Data.List.Forall2
import TreeBoard.Proofs.BegunFrames
import TreeBoard.Proofs.Continuation
import TreeBoard.Proofs.FadeLevels

/-!
# Fades that wait

A fade waits for the next frame. Until that frame is complete another fade can replace it; blank
lines, markers, repeats and unfinished frames leave it waiting. The frame takes it, so that it runs
once, from the frame that is the last one by then.

Results:
1. `awaited_completing`, `awaited_fade`, `awaited_other`, the fades of a script line by line.
2. `effect_of_step`, what a line does to the fade that waits.
3. `kept_of_run`, every fade that waits or follows is run once, and noticed in its turn.
4. `completes_iff`, the lines that complete frames, by the text and by the compiler.
5. `fades_of_compile`, the fades of a script that compiles.
-/

namespace TreeBoard

/-- Frames are put between two frames unless these are too similar. -/
theorem Fade.between_eq_nil_iff (start stop : Frame) (speed : UInt32) :
    between start stop speed = [] ↔ maxDelta start stop < 2 := by
  unfold between
  constructor
  · intro empty
    by_contra wide
    have stretched := Nat.le_mul_of_pos_right (maxDelta start stop) (factor_pos speed)
    have long : 2 ≤ stepCount (maxDelta start stop) speed :=
      Nat.le_min.2 ⟨by omega, by decide⟩
    simp only [if_neg wide, List.map_eq_nil_iff, List.range_eq_nil] at empty
    unfold Board.slotCount at empty
    omega
  · intro narrow
    exact if_pos narrow

namespace Script

/-! ## Definitions -/

/-- Whether a line of a script completes a frame. -/
def completes (lines : List String) (line : String × Nat) : Bool :=
  isDataLine line.1 && (begunLines (lines.take line.2)).isEmpty

/-- Whether there is a fade on the given lines before they complete a frame. -/
def replaced (lines : List String) (later : List (String × Nat)) : Bool :=
  (later.takeWhile fun line => !completes lines line).any fun line => begins "fade_to" line.1

/-- The fades on the given lines of a script that no other fade replaces before the next frame is
complete. Each stands with the line that completes this frame, if there is one. -/
def lastingFades (lines : List String) :
    List (String × Nat) → List ((String × Nat) × Option (String × Nat))
  | [] => []
  | line :: later =>
      if begins "fade_to" line.1 && !replaced lines later then
        (line, later.find? (completes lines)) :: lastingFades lines later
      else lastingFades lines later

/-- Whether a notice says what has become of a fade. -/
def Notice.isFade : Notice → Bool
  | .faded _ _ _ => true
  | .flatFade _ => true
  | .danglingFade _ => true
  | _ => false

/-- A line completes a frame. The lines before it lead to the given state. The line then appends some
frames and the one that it completes, and notices are added, and the speeds that go with them. -/
structure Completion (defaults : Defaults) (lines : List String) (stop : String × Nat)
    (state : State) (frame : Frame) (steps : List Frame) (told : List Notice)
    (speeds : List UInt32) : Prop where
  reached : run defaults 1 (lines.take (stop.2 - 1)) {} = .ok state
  completed : (state.gathered.push stop.2 stop.1).2 = .ok (some frame)
  appended : ∃ next, state.step defaults stop.2 stop.1 = .ok next ∧
    next.frames = state.frames ++ steps ++ [frame] ∧
    next.authored = min (state.authored + 1 + steps.length) (2 ^ 64 - 1) ∧
    next.pendingFade = none ∧ next.notices = state.notices ++ told ∧
    next.fadeSpeeds = state.fadeSpeeds ++ speeds

/-- What a notice tells of a fade and the line that completes the next frame. -/
inductive Told (defaults : Defaults) (lines : List String) :
    (String × Nat) × Option (String × Nat) → Notice → Prop where
  /-- No frame is completed behind the fade. -/
  | dangling (fade : String × Nat) : Told defaults lines (fade, none) (.danglingFade fade.2)
  /-- The frame is too similar to the last one before it. -/
  | flat {fade stop : String × Nat} {state : State} {start frame : Frame}
      (last : state.frames.getLast? = some start) (similar : Fade.maxDelta start frame < 2)
      (completion : Completion defaults lines stop state frame [] [.flatFade fade.2] []) :
      Told defaults lines (fade, some stop) (.flatFade fade.2)
  /-- The fade leads from the last frame before to the frame, at the speed of its line. -/
  | faded {fade stop : String × Nat} {state : State} {start frame : Frame} {steps : List Frame}
      {notice : Notice} (last : state.frames.getLast? = some start)
      (different : 2 ≤ Fade.maxDelta start frame)
      (between : steps = Fade.between start frame (speedOf defaults fade.1))
      (noticed : notice = .faded (state.frames.length - 1) (state.frames.length + steps.length)
        steps.length)
      (completion : Completion defaults lines stop state frame steps [notice]
        [speedOf defaults fade.1]) :
      Told defaults lines (fade, some stop) notice

/-- Notices tell of fades in their order, and frames on the given lines that end none of them are
added alone. -/
structure Kept (defaults : Defaults) (lines : List String)
    (fades : List ((String × Nat) × Option (String × Nat))) (later : List (String × Nat))
    (notices : List Notice) : Prop where
  told : List.Forall₂ (Told defaults lines) fades (notices.filter Notice.isFade)
  plain : ∀ stop ∈ later, completes lines stop = true → (∀ fade, (fade, some stop) ∉ fades) →
    ∃ state frame, Completion defaults lines stop state frame [] [] []

/-- The fades of a script are run as the notices of its animation tell. -/
structure FadesRun (defaults : Defaults) (lines : List String) (animation : Animation) : Prop where
  /-- The lines that complete frames are those where the text says so. -/
  sealing : ∀ stop ∈ numbered lines, completes lines stop = true ↔
    ∃ state frame steps told speeds,
      Completion defaults lines stop state frame steps told speeds
  kept : Kept defaults lines (lastingFades lines (numbered lines)) (numbered lines)
    animation.notices
  /-- A fade that no frame ends is noticed at the end only. -/
  dangling : ∀ front line back, animation.notices = front ++ .danglingFade line :: back →
    (∃ fit, back = [.fitted fit]) ∧ ∀ other, .danglingFade other ∉ front

/-- The fade that waits in a state, as it stands in the script. It has a frame to start from. -/
structure Waits (defaults : Defaults) (waiting : Option (String × Nat)) (state : State) : Prop where
  pendingFade : state.pendingFade = waiting.map fun fade => ⟨fade.2, speedOf defaults fade.1⟩
  started : waiting.isSome = true → state.frames ≠ []

/-- A fade that waits for the given lines, unless one of them replaces it, and the fades on these
lines. -/
def awaited (lines : List String) (waiting : Option (String × Nat)) (later : List (String × Nat)) :
    List ((String × Nat) × Option (String × Nat)) :=
  (if replaced lines later then []
    else waiting.toList.map fun fade => (fade, later.find? (completes lines))) ++
      lastingFades lines later

/-! ## The fades of a script -/

section

variable {lines : List String} {waiting : Option (String × Nat)} {text : String} {number : Nat}
  {later : List (String × Nat)}

theorem begins_fade_of_completes (stops : completes lines (text, number) = true) :
    begins "fade_to" text = false :=
  begins_eq_false_of_data (Bool.and_eq_true_iff.1 stops).1 (.inl rfl)

theorem completes_of_fade (fades : begins "fade_to" text = true) :
    completes lines (text, number) = false := by
  by_contra stops
  rw [Bool.not_eq_false] at stops
  rw [begins_fade_of_completes stops] at fades
  cases fades

theorem awaited_none (lines : List String) (later : List (String × Nat)) :
    awaited lines none later = lastingFades lines later := by
  simp [awaited]

/-- A completed frame ends the fade that waits. -/
theorem awaited_completing (stops : completes lines (text, number) = true) :
    awaited lines waiting ((text, number) :: later) =
      waiting.toList.map (fun fade => (fade, some (text, number))) ++ awaited lines none later := by
  rw [awaited_none]
  simp [awaited, replaced, lastingFades, stops, begins_fade_of_completes stops]

/-- A fade replaces the one that waits. -/
theorem awaited_fade (fades : begins "fade_to" text = true) :
    awaited lines waiting ((text, number) :: later) =
      awaited lines (some (text, number)) later := by
  have goesOn : completes lines (text, number) = false := completes_of_fade fades
  have replaces : replaced lines ((text, number) :: later) = true := by
    simp [replaced, goesOn, fades]
  rw [awaited, replaces, lastingFades, fades, awaited]
  cases replaced lines later <;> simp

/-- Any other line leaves the fade waiting. -/
theorem awaited_other (silent : begins "fade_to" text = false)
    (goesOn : completes lines (text, number) = false) :
    awaited lines waiting ((text, number) :: later) = awaited lines waiting later := by
  have replaces : replaced lines ((text, number) :: later) = replaced lines later := by
    simp [replaced, goesOn, silent]
  simp [awaited, replaces, lastingFades, goesOn, silent]

end

/-! ## One line -/

section

variable {defaults : Defaults} {before : List String} {text : String} {state next : State}

/-- What a line does to the fade that waits. -/
inductive Effect (defaults : Defaults) (before : List String) (text : String)
    (state next : State) : Prop where
  /-- The line completes a frame. -/
  | completing (data : isDataLine text = true) (complete : begunLines (before ++ [text]) = [])
      (frame : Frame) (gathered : PartialFrame)
      (pushed : state.gathered.push (before.length + 1) text = (gathered, .ok (some frame)))
      (result : next = { state.addFrame frame with gathered }) :
      Effect defaults before text state next
  /-- The line is a fade. -/
  | fade (fades : begins "fade_to" text = true) (started : state.frames ≠ [])
      (result : next = { state with
        pendingFade := some ⟨before.length + 1, speedOf defaults text⟩ }) :
      Effect defaults before text state next
  /-- The line tells nothing of fades. -/
  | other (goesOn : isDataLine text = true → begunLines (before ++ [text]) ≠ [])
      (silent : begins "fade_to" text = false) (pendingFade : next.pendingFade = state.pendingFade)
      (started : state.frames ≠ [] → next.frames ≠ [])
      (told : List Notice) (noticed : next.notices = state.notices ++ told)
      (others : ∀ notice ∈ told, notice.isFade = false) : Effect defaults before text state next

/-- A repeat tells nothing of fades, whether or not its marker is known. -/
theorem perform_repeat (state : State) {action : Action} {name : String}
    (repeats : action = .again name ∨ action = .forever name) :
    (state.perform action).pendingFade = state.pendingFade ∧ ∃ told,
      (state.perform action).notices = state.notices ++ told ∧
        ∀ notice ∈ told, notice.isFade = false := by
  rcases repeats with rfl | rfl
  all_goals
    simp only [State.perform]
    cases state.markers.lookup name with
    | none => exact ⟨rfl, [], (List.append_nil _).symm, List.forall_mem_nil _⟩
    | some first => exact ⟨rfl, _, rfl, List.forall_mem_singleton.2 rfl⟩

/-- A line without levels that is no fade tells nothing of fades. -/
theorem performAll_separator (defaults : Defaults) (state : State) (line : Nat)
    (silent : begins "fade_to" text = false) :
    (state.performAll (Reader.actionsOf defaults line text)).pendingFade = state.pendingFade ∧
      ∃ told, (state.performAll (Reader.actionsOf defaults line text)).notices =
          state.notices ++ told ∧ ∀ notice ∈ told, notice.isFade = false := by
  rw [(kind_fits text).fade, decide_eq_false_iff_not] at silent
  unfold Reader.actionsOf
  cases is : kind text with
  | fade => exact absurd is silent
  | mark => exact ⟨rfl, _, rfl, List.forall_mem_singleton.2 rfl⟩
  | again => exact perform_repeat state (.inl rfl)
  | forever => exact perform_repeat state (.inr rfl)
  | blank => exact ⟨rfl, [], (List.append_nil _).symm, List.forall_mem_nil _⟩
  | data => exact ⟨rfl, [], (List.append_nil _).symm, List.forall_mem_nil _⟩

/-- A step that succeeds performs what its line says. -/
theorem exists_of_step {line : Nat} (stepped : state.step defaults line text = .ok next) :
    ∃ reader actions, state.reader.step defaults line text = .ok (reader, actions) ∧
      next = state.advance (reader, actions) := by
  rw [State.step_eq] at stepped
  cases accepted : state.reader.step defaults line text with
  | error error =>
      rw [accepted] at stepped
      cases stepped
  | ok found =>
      rw [accepted] at stepped
      cases stepped
      exact ⟨found.1, found.2, rfl, rfl⟩

/-- A line does one of these to the fade that waits. -/
theorem effect_of_step (reached : run defaults 1 before {} = .ok state)
    (stepped : state.step defaults (before.length + 1) text = .ok next) :
    Effect defaults before text state next := by
  obtain ⟨actions, readable⟩ := exists_reader reached
  have sound := Reader.run_sound Reader.sound_empty readable
  have gathers := gathers_of_run readable
  obtain ⟨reader, found, accepted, rfl⟩ := exists_of_step stepped
  cases data : isDataLine text with
  | true =>
      obtain ⟨goesOn, valid, fits⟩ := Reader.valid_of_step sound data accepted
      rcases Nat.lt_or_eq_of_le fits with short | full
      · rw [Reader.step_short defaults goesOn data valid _ short] at accepted
        cases accepted
        rw [gathers.size] at short
        refine .other (fun _ => ?_) (begins_eq_false_of_data data (.inl rfl)) rfl id []
          (List.append_nil _).symm (List.forall_mem_nil _)
        rw [begunLines_short data short]
        simp [levelsOf_ne_nil data valid]
      · obtain ⟨frame, -, -, pushed⟩ :=
          PartialFrame.push_full sound.gathering (before.length + 1) valid full
        rw [Reader.step_data defaults data, if_neg (by rw [goesOn]; decide), pushed] at accepted
        cases accepted
        rw [gathers.size] at full
        exact .completing data (begunLines_full data full) frame _ pushed rfl
  | false =>
      cases empty : state.reader.gathered.isEmpty with
      | false =>
          obtain ⟨error, refused⟩ :=
            Reader.step_of_occupied defaults sound data empty (before.length + 1)
          rw [refused] at accepted
          cases accepted
      | true =>
          have admitted := Reader.admits_of_step empty accepted
          have kept := State.step_reader accepted
          rw [Reader.step_separator data empty admitted] at accepted
          cases fades : begins "fade_to" text with
          | true =>
              have is : kind text = .fade := by
                rw [(kind_fits text).fade, decide_eq_true_eq] at fades
                exact fades
              rw [Reader.actionsOf, is] at accepted
              cases accepted
              refine .fade fades ?_ rfl
              simpa [State.reader] using (admitted.fade fades).1
          | false =>
              cases accepted
              obtain ⟨pendingFade, told, noticed, others⟩ :=
                performAll_separator defaults state (before.length + 1) fades
              refine .other (fun levels => ?_) fades pendingFade ?_ told noticed others
              · rw [data] at levels
                cases levels
              · have started := congrArg Reader.started kept
                exact fun framed empty =>
                  framed (started_iff.1 (started.symm.trans (started_iff.2 empty)))

end

/-! ## Runs -/

namespace State

variable {defaults : Defaults} {line : Nat} {state last : State}

theorem run_cons_iff {text : String} {later : List String} :
    run defaults line (text :: later) state = .ok last ↔
      ∃ next, state.step defaults line text = .ok next ∧
        run defaults (line + 1) later next = .ok last := by
  rw [run]
  cases state.step defaults line text with
  | error error => simp
  | ok next => simp

theorem run_append_iff {front rest : List String} :
    run defaults line (front ++ rest) state = .ok last ↔
      ∃ mid, run defaults line front state = .ok mid ∧
        run defaults (line + front.length) rest mid = .ok last := by
  induction front generalizing line state with
  | nil => simp [run]
  | cons text later ih =>
      simp only [List.cons_append, run_cons_iff, ih, List.length_cons, Nat.add_assoc, Nat.add_comm 1]
      constructor
      · rintro ⟨next, stepped, mid, reached, rest⟩
        exact ⟨mid, ⟨next, stepped, reached⟩, rest⟩
      · rintro ⟨mid, ⟨next, stepped, reached⟩, rest⟩
        exact ⟨next, stepped, mid, reached, rest⟩

end State

section

variable {defaults : Defaults} {lines before later : List String} {text : String}
  {waiting : Option (String × Nat)} {state next : State} {frame : Frame} {gathered : PartialFrame}

theorem completes_at (whole : lines = before ++ text :: later) :
    completes lines (text, before.length + 1) =
      (isDataLine text && (begunLines (before ++ [text])).isEmpty) := by
  have taken : lines.take (before.length + 1) = before ++ [text] := by
    simp [whole, List.take_append]
  rw [completes, taken]

theorem completion_of_pushed (whole : lines = before ++ text :: later)
    (reached : run defaults 1 before {} = .ok state)
    (stepped : state.step defaults (before.length + 1) text =
      .ok { state.addFrame frame with gathered })
    (pushed : state.gathered.push (before.length + 1) text = (gathered, .ok (some frame))) :
    Completion defaults lines (text, before.length + 1) state frame
      (fadeSteps (state.endFade frame)) (fadeNotices state.frames.length (state.endFade frame))
      (fadeSpeeds (state.endFade frame)) := by
  have taken : lines.take (before.length + 1 - 1) = before := by simp [whole]
  refine ⟨?_, congrArg Prod.snd pushed, _, stepped, ?_⟩
  · rw [taken]
    exact reached
  · rw [State.addFrame_eq]
    exact ⟨rfl, rfl, rfl, rfl, rfl⟩

/-- A frame ends the fade that waits, and what is noticed tells of it. -/
theorem Waits.told {fade stop : String × Nat} (waits : Waits defaults (some fade) state)
    (completion : Completion defaults lines stop state frame (fadeSteps (state.endFade frame))
      (fadeNotices state.frames.length (state.endFade frame)) (fadeSpeeds (state.endFade frame))) :
    ∃ notice, fadeNotices state.frames.length (state.endFade frame) = [notice] ∧
      notice.isFade = true ∧ Told defaults lines (fade, some stop) notice := by
  obtain ⟨start, last⟩ : ∃ start, state.frames.getLast? = some start :=
    ⟨_, List.getLast?_eq_some_getLast (waits.started rfl)⟩
  have ended : state.endFade frame = some (⟨fade.2, speedOf defaults fade.1⟩,
      Fade.between start frame (speedOf defaults fade.1)) := by
    unfold State.endFade endFade
    rw [waits.pendingFade, last]
    rfl
  have flat := Fade.between_eq_nil_iff start frame (speedOf defaults fade.1)
  generalize between : Fade.between start frame (speedOf defaults fade.1) = steps at *
  rw [ended] at completion ⊢
  cases steps with
  | nil => exact ⟨_, rfl, rfl, .flat last (flat.1 rfl) completion⟩
  | cons step others =>
      have different := Nat.le_of_not_lt fun similar => List.cons_ne_nil _ _ (flat.2 similar)
      exact ⟨_, rfl, rfl, .faded last different between.symm rfl completion⟩

namespace Kept

variable {script : List (String × Nat)} {line : String × Nat}
  {fades : List ((String × Nat) × Option (String × Nat))} {told notices : List Notice}

/-- At the end of the script a fade that still waits has no frame to end it. -/
theorem finish (waits : Waits defaults waiting state) :
    Kept defaults lines (awaited lines waiting []) [] (danglingNotices state.pendingFade) := by
  refine ⟨?_, fun stop member => nomatch member⟩
  rw [waits.pendingFade]
  cases waiting with
  | none => exact .nil
  | some fade => exact .cons (.dangling fade) .nil

/-- A line that completes no frame adds no fade to those that are told of. -/
theorem skip (kept : Kept defaults lines fades script notices)
    (others : ∀ notice ∈ told, notice.isFade = false) (goesOn : completes lines line = false) :
    Kept defaults lines fades (line :: script) (told ++ notices) := by
  have nothing : told.filter Notice.isFade = [] :=
    List.filter_eq_nil_iff.2 fun notice member => by simp [others notice member]
  refine ⟨?_, fun stop member stops => ?_⟩
  · rw [List.filter_append, nothing]
    exact kept.told
  · rcases List.mem_cons.1 member with rfl | member
    · rw [goesOn] at stops
      cases stops
    · exact kept.plain stop member stops

/-- A line that completes a frame ends the fade that waits. -/
theorem complete (kept : Kept defaults lines (awaited lines none script) script notices)
    (waits : Waits defaults waiting state) (stops : completes lines line = true)
    (completion : Completion defaults lines line state frame (fadeSteps (state.endFade frame))
      (fadeNotices state.frames.length (state.endFade frame)) (fadeSpeeds (state.endFade frame))) :
    Kept defaults lines (awaited lines waiting (line :: script)) (line :: script)
      (fadeNotices state.frames.length (state.endFade frame) ++ notices) := by
  rw [awaited_completing stops]
  cases waiting with
  | none =>
      have ended : state.endFade frame = none := by
        unfold State.endFade endFade
        rw [waits.pendingFade]
        rfl
      rw [ended] at completion ⊢
      refine ⟨kept.told, fun stop member => ?_⟩
      rcases List.mem_cons.1 member with rfl | member
      · exact fun _ _ => ⟨state, frame, completion⟩
      · exact kept.plain stop member
  | some fade =>
      obtain ⟨notice, noticed, tells, told⟩ := waits.told completion
      rw [noticed]
      refine ⟨?_, fun stop member stops' others => ?_⟩
      · rw [List.singleton_append, List.filter_cons, if_pos tells]
        exact .cons told kept.told
      · rcases List.mem_cons.1 member with rfl | member
        · exact absurd List.mem_cons_self (others fade)
        · exact kept.plain stop member stops' fun fade inside =>
            others fade (List.mem_append_right _ inside)

end Kept

/-- From any line on, the fade that waits and the fades that follow are run as they are told of. -/
theorem kept_of_run {last : State} (whole : lines = before ++ later)
    (reached : run defaults 1 before {} = .ok state) (waits : Waits defaults waiting state)
    (rest : run defaults (before.length + 1) later state = .ok last) :
    ∃ told, last.notices = state.notices ++ told ∧
      Kept defaults lines (awaited lines waiting (later.zipIdx (before.length + 1)))
        (later.zipIdx (before.length + 1)) (told ++ danglingNotices last.pendingFade) := by
  induction later generalizing before state waiting with
  | nil =>
      cases rest
      exact ⟨[], (List.append_nil _).symm, Kept.finish waits⟩
  | cons text later ih =>
      obtain ⟨next, stepped, further⟩ := State.run_cons_iff.1 rest
      have stops := completes_at whole
      have reached' : run defaults 1 (before ++ [text]) {} = .ok next := by
        refine State.run_append_iff.2 ⟨state, reached, State.run_cons_iff.2 ⟨next, ?_, rfl⟩⟩
        rw [Nat.add_comm]
        exact stepped
      have whole' : lines = (before ++ [text]) ++ later := by simp [whole]
      have length : (before ++ [text]).length = before.length + 1 := by simp
      rw [← length] at further
      rw [List.zipIdx_cons]
      cases effect_of_step reached stepped with
      | completing data complete frame gathered pushed result =>
          have completing : completes lines (text, before.length + 1) = true := by
            rw [stops, data, complete]
            rfl
          subst result
          have completion := completion_of_pushed whole reached stepped pushed
          have nothing : (state.addFrame frame).pendingFade = none := by rw [State.addFrame_eq]
          have waits' : Waits defaults none { state.addFrame frame with gathered } :=
            ⟨nothing, fun some => nomatch some⟩
          obtain ⟨told, noticed, kept⟩ := ih whole' reached' waits' further
          rw [length] at kept
          refine ⟨fadeNotices state.frames.length (state.endFade frame) ++ told, ?_, ?_⟩
          · rw [noticed, State.addFrame_eq, List.append_assoc]
          · rw [List.append_assoc]
            exact kept.complete waits completing completion
      | fade fades started result =>
          subst result
          have waits' : Waits defaults (some (text, before.length + 1))
              { state with pendingFade := some ⟨before.length + 1, speedOf defaults text⟩ } :=
            ⟨rfl, fun _ => started⟩
          obtain ⟨told, noticed, kept⟩ := ih whole' reached' waits' further
          rw [length] at kept
          refine ⟨[] ++ told, noticed, ?_⟩
          rw [awaited_fade fades, List.append_assoc]
          exact kept.skip (List.forall_mem_nil _) (completes_of_fade fades)
      | other goesOn silent pendingFade started first noticed others =>
          have waits' : Waits defaults waiting next :=
            ⟨pendingFade.trans waits.pendingFade, fun some => started (waits.started some)⟩
          obtain ⟨told, noticed', kept⟩ := ih whole' reached' waits' further
          rw [length] at kept
          have goesOn' : completes lines (text, before.length + 1) = false := by
            rw [stops]
            cases data : isDataLine text with
            | false => rfl
            | true => simpa using goesOn data
          refine ⟨first ++ told, by rw [noticed', noticed, List.append_assoc], ?_⟩
          rw [awaited_other silent goesOn', List.append_assoc]
          exact kept.skip others goesOn'

end

/-! ## Scripts that compile -/

section

variable {defaults : Defaults} {lines : List String}

/-- Only a line of levels completes a frame, and then no frame is begun behind it. -/
theorem completes_of_pushed {before : List String} {text : String} {state : State} {frame : Frame}
    {line : Nat} (reached : run defaults 1 before {} = .ok state)
    (pushed : (state.gathered.push line text).2 = .ok (some frame)) :
    isDataLine text = true ∧ begunLines (before ++ [text]) = [] := by
  obtain ⟨actions, readable⟩ := exists_reader reached
  have opened := (Reader.run_sound Reader.sound_empty readable).gathering
  have gathers := gathers_of_run readable
  rw [show state.gathered = state.reader.gathered from rfl] at pushed
  obtain ⟨valid, fits⟩ := PartialFrame.valid_of_push opened (Prod.ext rfl pushed)
  rcases Nat.lt_or_eq_of_le fits with short | full
  · rw [PartialFrame.push_short line valid short] at pushed
    cases pushed
  · have visible : levelsOf text ≠ [] := by
      intro nothing
      have short := opened.short
      rw [nothing] at full
      exact absurd full (Nat.ne_of_lt short)
    have data := isDataLine_of_valid valid visible
    rw [gathers.size] at full
    exact ⟨data, begunLines_full data full⟩

/-- A line of a script that can be read completes a frame where the text says so. -/
theorem completes_iff {last : State} (accepted : run defaults 1 lines {} = .ok last)
    {stop : String × Nat} (member : stop ∈ numbered lines) :
    completes lines stop = true ↔
      ∃ state frame steps told speeds,
      Completion defaults lines stop state frame steps told speeds := by
  obtain ⟨text, number⟩ := stop
  obtain ⟨before, later, rfl, rfl⟩ := exists_of_mem_numbered member
  obtain ⟨state, reached, rest⟩ := State.run_append_iff.1 accepted
  obtain ⟨next, stepped, -⟩ := State.run_cons_iff.1 rest
  rw [Nat.add_comm 1] at stepped
  rw [completes_at rfl, Bool.and_eq_true_iff, List.isEmpty_iff]
  constructor
  · rintro ⟨data, complete⟩
    cases effect_of_step reached stepped with
    | completing data complete frame gathered pushed result =>
        subst result
        exact ⟨_, _, _, _, _, completion_of_pushed rfl reached stepped pushed⟩
    | fade fades =>
        rw [begins_eq_false_of_data data (.inl rfl)] at fades
        cases fades
    | other goesOn => exact absurd complete (goesOn data)
  · rintro ⟨state', frame, steps, told, speeds, completion⟩
    have again := completion.reached
    rw [show (before ++ text :: later).take (before.length + 1 - 1) = before by simp, reached] at again
    cases again
    exact completes_of_pushed reached completion.completed

/-- Only the fit is noticed behind a fade that no frame ends, and no such fade before it. -/
theorem dangling_of_unended {state : State} (unended : state.Unended) {fit : Fit}
    {front back : List Notice} {line : Nat}
    (notices : state.notices ++ danglingNotices state.pendingFade ++ [.fitted fit] =
      front ++ .danglingFade line :: back) :
    back = [.fitted fit] ∧ ∀ other, .danglingFade other ∉ front := by
  have absent (other : Nat) : .danglingFade other ∉ state.notices :=
    fun member => Bool.noConfusion (unended _ member)
  rw [List.append_assoc] at notices
  -- The notice is none of those before the end.
  obtain ⟨more, rfl, ending⟩ : ∃ more, front = state.notices ++ more ∧
      danglingNotices state.pendingFade ++ [.fitted fit] = more ++ .danglingFade line :: back := by
    rcases List.append_eq_append_iff.1 notices with found | ⟨more, earlier, ending⟩
    · exact found
    · cases more with
      | nil => exact ⟨[], by rw [earlier, List.append_nil, List.append_nil], ending.symm⟩
      | cons notice others =>
          obtain ⟨rfl, -⟩ := List.cons.inj ending
          exact absurd (earlier ▸ List.mem_append_right _ List.mem_cons_self) (absent line)
  cases waiting : state.pendingFade with
  | none =>
      rw [waiting] at ending
      rcases more with _ | ⟨notice, others⟩ <;> simp [danglingNotices] at ending
  | some fade =>
      rw [waiting] at ending
      rcases more with _ | ⟨notice, _ | ⟨other, others⟩⟩
      · rw [List.append_nil]
        exact ⟨(List.cons.inj ending).2.symm, absent⟩
      · simp [danglingNotices] at ending
      · simp [danglingNotices] at ending

/-- **No fade is lost, doubled or applied to the wrong frames.** In a script that compiles, the fades
that are not replaced before the next frame is complete are told of by the notices of fades, one by
one. The next frame runs such a fade from the last frame before it, at the speed of its line; the one
that no frame follows is noticed as the last thing before the fit. A frame that no fade waits for is
added alone. -/
theorem fades_of_compile {animation : Animation}
    (compiled : compile defaults lines = .ok animation) : FadesRun defaults lines animation := by
  obtain ⟨actions, last, accepted, -, rfl⟩ := exists_ending_of_compile compiled
  obtain ⟨reader, readable, -, -⟩ := read_iff.1 accepted
  have run := run_of_read readable
  have unended : (({} : State).performAll actions).Unended :=
    State.Unended.invariant.performAll (List.forall_mem_nil _) fun _ _ _ _ => trivial
  obtain ⟨told, noticed, kept⟩ := kept_of_run (List.nil_append lines).symm rfl
    (⟨rfl, fun some => nomatch some⟩ : Waits defaults none {}) run
  rw [awaited_none] at kept
  refine ⟨fun stop => completes_iff run, ?_, ?_⟩
  · have every : (({} : State).performAll actions).notices = told := noticed
    refine ⟨?_, kept.plain⟩
    rw [List.filter_append, every]
    exact (List.append_nil _).symm ▸ kept.told
  · intro front line back notices
    obtain ⟨rfl, others⟩ := dangling_of_unended unended notices
    exact ⟨⟨_, rfl⟩, others⟩

/-- Fades that are replaced, that wait over a repeat, that find no change and that no frame ends. -/
def waitingFades : List String :=
  ["0000 0000 0000 0000 0000 0000", "set_marker", "fade_to:9", "fade_to:2", "", "7777 7777 7777",
    "7777 7777 7777", "fade_to", "repeat", "7777 7777 7777 7777 7777 7776",
    "0123 4567 0123 4567 0123 4567", "fade_to:5", "fade_to"]

theorem fades_of_compile_waitingFades :
    ∃ animation, compile {} waitingFades = .ok animation ∧
      (lastingFades waitingFades (numbered waitingFades)).map
          (fun fade => (fade.1.2, fade.2.map Prod.snd)) =
        [(4, some 7), (8, some 10), (13, none)] ∧
      animation.notices.filter Notice.isFade =
        [.faded 0 14 13, .flatFade 8, .danglingFade 13] ∧
      FadesRun {} waitingFades animation := by
  obtain ⟨animation, compiled⟩ := exists_of_isOk
    (show (compile {} waitingFades).isOk = true by decide +kernel)
  have noticed : (compile {} waitingFades).toOption.map
      (fun animation => animation.notices.filter Notice.isFade) =
        some [.faded 0 14 13, .flatFade 8, .danglingFade 13] := by
    decide +kernel
  rw [compiled] at noticed
  exact ⟨animation, compiled, by decide +kernel, Option.some.inj noticed,
    fades_of_compile compiled⟩

end

end Script

end TreeBoard
