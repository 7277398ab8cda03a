import TreeBoard.Proofs.Keywords

/-!
# Steps of a reader

A line of levels is gathered. Any other line is read only where no frame is begun, and each kind of
directive asks for one thing more.

Results:
1. `step_separator`, `admits_of_step`, the lines without levels that a reader accepts.
2. `step_short`, `step_full`, the lines of levels that a reader accepts; `step_cases`, all that an
   accepted line can be.
3. `step_sound`, what a reader always satisfies; `step_error`, what the error of a line that is
   refused tells.
-/

namespace TreeBoard.Script

/-- Whether an error reports an incomplete frame. -/
def reportsIncomplete : Error → Bool
  | .incompleteFrame _ _ _ => true
  | _ => false

namespace Reader

variable {defaults : Defaults} {reader : Reader} {line : Nat} {text : String}

/-! ## Definitions -/

/-- What every reader satisfies: no complete frame waits, and none is begun after an endless
repeat. -/
structure Sound (reader : Reader) : Prop where
  gathering : reader.gathered.Open
  closed : reader.closed = true → reader.gathered.isEmpty = true

/-- What a reader asks of a line without levels, where no frame is begun. -/
structure Admits (defaults : Defaults) (reader : Reader) (text : String) : Prop where
  ended : reader.closed = true → isBlankLine text = true
  fade : begins "fade_to" text = true → reader.started = true ∧ SpeedAllowed text
  known : begins "repeat" text = true → markerOf defaults text ∈ reader.names

/-- What a line without levels does to the animation. -/
def actionsOf (defaults : Defaults) (line : Nat) (text : String) : List Action :=
  match kind text with
  | .fade => [.fade ⟨line, speedOf defaults text⟩]
  | .mark => [.mark (markerOf defaults text)]
  | .again => [.again (markerOf defaults text)]
  | .forever => [.forever (markerOf defaults text)]
  | _ => []

/-- The reader after a line without levels. -/
def after (defaults : Defaults) (reader : Reader) (text : String) : Reader :=
  { reader with
    names :=
      if begins "set_marker" text then markerOf defaults text :: reader.names else reader.names
    closed := reader.closed || begins "repeat_forever" text }

theorem sound_empty : Sound {} :=
  ⟨PartialFrame.open_empty 0, fun _ => rfl⟩

/-! ## Lines without levels -/

theorem step_eq_of_kind (reader : Reader) (line : Nat) (text : String) :
    reader.step defaults line text =
      if reader.closed && decide (kind text ≠ .blank) then .error (.contentAfterEnd line)
      else
        match Line.parse line text with
        | .error error => .error error
        | .ok parsed =>
            if parsed.isDirective && !reader.gathered.isEmpty then
              .error (.directiveInsideFrame line)
            else reader.apply defaults line parsed := by
  have blank : (!Text.isBlankText text.toList) = decide (kind text ≠ .blank) := by
    rw [show Text.isBlankText text.toList = isBlankLine text from rfl, (kind_fits text).blank]
    exact (decide_not).symm
  exact blank ▸ rfl

theorem refer_of_mem {name : String} (known : name ∈ reader.names) (line : Nat)
    (next : Reader × List Action) : reader.refer line name next = .ok next :=
  if_pos (List.contains_iff_mem.2 known)

theorem mem_of_refer {name : String} {next last : Reader × List Action}
    (accepted : reader.refer line name next = .ok last) : name ∈ reader.names := by
  unfold refer at accepted
  split at accepted
  · rename_i known
    exact List.contains_iff_mem.1 known
  · cases accepted

/-- A line without levels that is admitted is accepted for what it does. -/
theorem step_separator (separator : isDataLine text = false)
    (empty : reader.gathered.isEmpty = true) (admitted : reader.Admits defaults text) (line : Nat) :
    reader.step defaults line text =
      .ok (reader.after defaults text, actionsOf defaults line text) := by
  have fits := kind_fits text
  obtain ⟨ended, fade, known⟩ := admitted
  rw [isDataLine_eq] at separator
  rw [fits.blank] at ended
  rw [fits.fade] at fade
  rw [fits.again] at known
  have goesOn : (reader.closed && decide (kind text ≠ .blank)) = false := by
    cases closed : reader.closed with
    | false => rfl
    | true => simpa using ended closed
  rw [step_eq_of_kind, goesOn, parse_eq, empty, after, actionsOf, fits.mark, fits.forever]
  cases is : kind text with
  | blank => simp [apply, PartialFrame.boundary_of_isEmpty empty, gather]
  | data =>
      rw [is] at separator
      cases separator
  | fade =>
      obtain ⟨started, allowed⟩ := fade (by rw [is]; rfl)
      simp [fadeSpeed?_of_allowed line allowed, Except.map, apply, if_pos started, speedOf]
  | mark => simp [apply, markerOf]
  | again =>
      have found := refer_of_mem (known (by rw [is]; rfl)) line
        (reader, [.again (markerOf defaults text)])
      simpa [apply, markerOf] using found
  | forever =>
      have found := refer_of_mem (known (by rw [is]; rfl)) line
        ({ reader with closed := true }, [.forever (markerOf defaults text)])
      simpa [apply, markerOf] using found

theorem step_of_admits (separator : isDataLine text = false)
    (empty : reader.gathered.isEmpty = true) (admitted : reader.Admits defaults text) (line : Nat) :
    ∃ actions, reader.step defaults line text = .ok (reader.after defaults text, actions) ∧
      actions.filterMap Action.frame? = [] := by
  refine ⟨_, step_separator separator empty admitted line, ?_⟩
  unfold actionsOf
  cases kind text <;> rfl

/-- A repeat of a known marker is accepted, and an endless one closes the script. -/
theorem step_repeat (defaults : Defaults) (goesOn : reader.closed = false)
    (empty : reader.gathered.isEmpty = true) (repeats : kind text = .again ∨ kind text = .forever)
    (known : markerOf defaults text ∈ reader.names) (line : Nat) :
    reader.step defaults line text =
      .ok ({ reader with closed := decide (kind text = .forever) },
        actionsOf defaults line text) := by
  have fits := kind_fits text
  have separator : isDataLine text = false := by
    rw [isDataLine_eq]
    rcases repeats with is | is <;> rw [is] <;> rfl
  have admitted : reader.Admits defaults text := by
    refine ⟨fun closed => absurd (closed.symm.trans goesOn) (by decide), fun starts => ?_,
      fun _ => known⟩
    rw [fits.fade] at starts
    rcases repeats with is | is <;> rw [is] at starts <;> cases starts
  rw [step_separator separator empty admitted, after, fits.mark, fits.forever, goesOn]
  rcases repeats with is | is <;> rw [is] <;> rfl

/-- A blank line only asks that no frame is begun. -/
theorem step_boundary (defaults : Defaults) (blank : isBlankLine text = true) (line : Nat) :
    reader.step defaults line text = reader.gather (reader.gathered.boundary line) := by
  have is : kind text = .blank := by
    rw [(kind_fits text).blank, decide_eq_true_eq] at blank
    exact blank
  rw [step_eq_of_kind, parse_eq, is]
  simp [apply, Line.isDirective]

/-- A blank line does nothing where no frame is begun. -/
theorem step_blank (defaults : Defaults) (empty : reader.gathered.isEmpty = true)
    (blank : isBlankLine text = true) (line : Nat) :
    reader.step defaults line text = .ok (reader, []) := by
  rw [step_boundary defaults blank, PartialFrame.boundary_of_isEmpty empty]
  rfl

theorem run_blanks (defaults : Defaults) {blanks : List String}
    (empty : reader.gathered.isEmpty = true)
    (blank : ∀ line ∈ blanks, isBlankLine line = true) (number : Nat) :
    run defaults number blanks reader = .ok (reader, []) := by
  induction blanks generalizing number with
  | nil => rfl
  | cons text later ih =>
      obtain ⟨here, others⟩ := List.forall_mem_cons.1 blank
      exact run_cons_iff.2
        ⟨reader, [], [], step_blank defaults empty here number, ih others (number + 1), rfl⟩

theorem admits_of_step {next : Reader × List Action} (empty : reader.gathered.isEmpty = true)
    (accepted : reader.step defaults line text = .ok next) : reader.Admits defaults text := by
  have fits := kind_fits text
  rw [step_eq_of_kind, parse_eq, empty] at accepted
  constructor
  · intro closed
    rw [fits.blank]
    by_contra filled
    rw [if_pos (by simpa [closed] using filled)] at accepted
    cases accepted
  · intro starts
    rw [fits.fade, decide_eq_true_eq] at starts
    rw [starts] at accepted
    split at accepted
    · cases accepted
    · simp only at accepted
      cases given : fadeSpeed? line (Text.trim text.toList) with
      | error error =>
          rw [given] at accepted
          cases accepted
      | ok speed =>
          refine ⟨?_, (fadeSpeed?_ok_iff.1 given).1⟩
          simp only [given, Except.map, apply] at accepted
          by_contra first
          simp [first, Line.isDirective] at accepted
  · intro starts
    rw [fits.again, decide_eq_true_eq] at starts
    split at accepted
    · cases accepted
    · rcases starts with is | is
      · simp only [is, Line.isDirective, apply] at accepted
        exact mem_of_refer accepted
      · simp only [is, Line.isDirective, apply] at accepted
        exact mem_of_refer accepted

theorem step_of_occupied (defaults : Defaults) (sound : reader.Sound)
    (separator : isDataLine text = false) (occupied : reader.gathered.isEmpty = false) (line : Nat) :
    ∃ error, reader.step defaults line text = .error error := by
  rw [isDataLine_eq] at separator
  rw [step_eq_of_kind, parse_eq, occupied]
  split
  · exact ⟨_, rfl⟩
  · cases is : kind text with
    | blank =>
        simp [apply, Line.isDirective, gather,
          PartialFrame.boundary_of_occupied sound.gathering occupied]
    | data =>
        rw [is] at separator
        cases separator
    | fade =>
        cases given : fadeSpeed? line (Text.trim text.toList) with
        | error error => exact ⟨error, rfl⟩
        | ok speed => exact ⟨.directiveInsideFrame line, rfl⟩
    | mark => exact ⟨.directiveInsideFrame line, rfl⟩
    | again => exact ⟨.directiveInsideFrame line, rfl⟩
    | forever => exact ⟨.directiveInsideFrame line, rfl⟩

/-! ## Lines of levels -/

theorem step_data (defaults : Defaults) (data : isDataLine text = true) (line : Nat) :
    reader.step defaults line text =
      if reader.closed then .error (.contentAfterEnd line)
      else reader.gather (reader.gathered.push line text) := by
  rw [step_eq_of_kind, parse_eq, kind_of_data data]
  cases reader.closed <;> rfl

/-- A line that leaves the frame incomplete. -/
theorem step_short (defaults : Defaults) (goesOn : reader.closed = false)
    (data : isDataLine text = true) (valid : PartialFrame.Valid text.toList) (line : Nat)
    (short : reader.gathered.size + (levelsOf text).length < Board.ledCount) :
    reader.step defaults line text =
      .ok ({ reader with gathered := reader.gathered.collect line (levelsOf text) }, []) := by
  rw [step_data defaults data, if_neg (by rw [goesOn]; decide),
    PartialFrame.push_short line valid short]
  rfl

/-- A line that completes the frame. -/
theorem step_full (defaults : Defaults) (sound : reader.Sound) (goesOn : reader.closed = false)
    (data : isDataLine text = true) (valid : PartialFrame.Valid text.toList) (line : Nat)
    (full : reader.gathered.size + (levelsOf text).length = Board.ledCount) :
    ∃ frame : Frame, frame.levels.toList = reader.gathered.pending ++ levelsOf text ∧
      frame.line = (reader.gathered.collect line (levelsOf text)).startLine ∧
      reader.step defaults line text =
        .ok ({ reader with gathered := ⟨[], frame.line⟩, started := true }, [.addFrame frame]) := by
  obtain ⟨frame, levels, started, pushed⟩ :=
    PartialFrame.push_full sound.gathering line valid full
  refine ⟨frame, levels, started, ?_⟩
  rw [step_data defaults data, if_neg (by rw [goesOn]; decide), pushed, started]
  rfl

theorem valid_of_step {next : Reader × List Action} (sound : reader.Sound)
    (data : isDataLine text = true) (accepted : reader.step defaults line text = .ok next) :
    reader.closed = false ∧ PartialFrame.Valid text.toList ∧
      reader.gathered.size + (levelsOf text).length ≤ Board.ledCount := by
  rw [step_data defaults data] at accepted
  cases goesOn : reader.closed with
  | true =>
      rw [goesOn] at accepted
      cases accepted
  | false =>
      rw [goesOn] at accepted
      cases pushed : reader.gathered.push line text with
      | mk gathered outcome =>
          cases outcome with
          | error error =>
              rw [pushed] at accepted
              cases accepted
          | ok sealed => exact ⟨rfl, PartialFrame.valid_of_push sound.gathering pushed⟩

/-! ## What an accepted line is -/

/-- Everything that an accepted line can be, with what it does. -/
inductive Stepped (defaults : Defaults) (reader : Reader) (line : Nat) (text : String) :
    Reader → List Action → Prop where
  /-- Levels that leave the frame incomplete. -/
  | short (data : isDataLine text = true) (goesOn : reader.closed = false)
      (valid : PartialFrame.Valid text.toList)
      (short : reader.gathered.size + (levelsOf text).length < Board.ledCount) :
      Stepped defaults reader line text
        { reader with gathered := reader.gathered.collect line (levelsOf text) } []
  /-- Levels that complete the frame. -/
  | full (data : isDataLine text = true) (goesOn : reader.closed = false)
      (valid : PartialFrame.Valid text.toList)
      (full : reader.gathered.size + (levelsOf text).length = Board.ledCount) (frame : Frame) :
      Stepped defaults reader line text
        { reader with gathered := ⟨[], frame.line⟩, started := true } [.addFrame frame]
  /-- A line without levels, where no frame is begun. -/
  | separator (separator : isDataLine text = false) (empty : reader.gathered.isEmpty = true)
      (admitted : reader.Admits defaults text) (actions : List Action) :
      Stepped defaults reader line text (reader.after defaults text) actions

theorem step_cases {next : Reader} {actions : List Action} (sound : reader.Sound)
    (accepted : reader.step defaults line text = .ok (next, actions)) :
    Stepped defaults reader line text next actions := by
  cases data : isDataLine text with
  | true =>
      obtain ⟨goesOn, valid, fits⟩ := valid_of_step sound data accepted
      rcases Nat.lt_or_eq_of_le fits with short | full
      · rw [step_short defaults goesOn data valid line short] at accepted
        cases accepted
        exact .short data goesOn valid short
      · obtain ⟨frame, -, -, stepped⟩ := step_full defaults sound goesOn data valid line full
        rw [stepped] at accepted
        cases accepted
        exact .full data goesOn valid full frame
  | false =>
      cases empty : reader.gathered.isEmpty with
      | true =>
          have admitted := admits_of_step empty accepted
          obtain ⟨actions, stepped, -⟩ := step_of_admits data empty admitted line
          rw [stepped] at accepted
          cases accepted
          exact .separator data empty admitted actions
      | false =>
          obtain ⟨error, refused⟩ := step_of_occupied defaults sound data empty line
          rw [refused] at accepted
          cases accepted

theorem step_sound {next : Reader} {actions : List Action} (sound : reader.Sound)
    (accepted : reader.step defaults line text = .ok (next, actions)) : next.Sound := by
  cases step_cases sound accepted with
  | short data goesOn valid short =>
      refine ⟨⟨?_, PartialFrame.low_collect sound.gathering.low line text.toList⟩, fun closed => ?_⟩
      · rw [PartialFrame.size_collect]
        exact short
      · exact absurd (closed.symm.trans goesOn) (by decide)
  | full data goesOn valid full frame =>
      exact ⟨PartialFrame.open_empty frame.line, fun _ => rfl⟩
  | separator separator empty admitted => exact ⟨sound.gathering, fun _ => empty⟩

/-- Only an endless repeat closes a script. Frames are only added, and none by such a repeat or
after it. -/
theorem step_flags {next : Reader} {actions : List Action} (sound : reader.Sound)
    (accepted : reader.step defaults line text = .ok (next, actions)) :
    next.closed = (reader.closed || begins "repeat_forever" text) ∧
      (reader.started = true → next.started = true) ∧
      (next.closed = true → next.started = reader.started) := by
  cases step_cases sound accepted with
  | short data =>
      rw [begins_eq_false_of_data data (.inr (.inr (.inl rfl))), Bool.or_false]
      exact ⟨rfl, id, fun _ => rfl⟩
  | full data goesOn =>
      rw [begins_eq_false_of_data data (.inr (.inr (.inl rfl))), Bool.or_false]
      exact ⟨rfl, fun _ => rfl, fun closed => absurd (closed.symm.trans goesOn) (by decide)⟩
  | separator => exact ⟨rfl, id, fun _ => rfl⟩

/-! ## Refused lines -/

theorem gather_error {outcome : PartialFrame × Except Error (Option Frame)} {error : Error}
    (failed : reader.gather outcome = .error error) : outcome.2 = .error error := by
  obtain ⟨gathered, refused | ⟨_ | frame⟩⟩ := outcome <;> cases failed
  rfl

/-- What an error at a line tells: it names the line, and a frame is incomplete only where the
line is blank. -/
structure PointsAt (line : Nat) (text : String) (error : Error) : Prop where
  line : error.line? = some line
  blank : reportsIncomplete error = true → isBlankLine text = true

theorem pointsAt_of_other {error : Error} (names : error.line? = some line)
    (other : reportsIncomplete error = false) : PointsAt line text error :=
  ⟨names, fun incomplete => absurd (other.symm.trans incomplete) (by decide)⟩

theorem gather_push_error {error : Error} (sound : reader.Sound)
    (failed : reader.gather (reader.gathered.push line text) = .error error) :
    PointsAt line text error := by
  obtain ⟨place, rfl | ⟨c, rfl⟩⟩ :=
    PartialFrame.push_error sound.gathering (Prod.ext rfl (gather_error failed))
  · exact pointsAt_of_other rfl rfl
  · exact pointsAt_of_other rfl rfl

theorem refer_error {name : String} {next : Reader × List Action} {error : Error}
    (failed : reader.refer line name next = .error error) : PointsAt line text error := by
  unfold refer at failed
  split at failed <;> cases failed
  exact pointsAt_of_other rfl rfl

/-- The errors of a step. -/
theorem step_error {error : Error} (sound : reader.Sound)
    (failed : reader.step defaults line text = .error error) : PointsAt line text error := by
  have directive (parsed : Line) (given : (if parsed.isDirective && !reader.gathered.isEmpty then
      .error (.directiveInsideFrame line) else reader.apply defaults line parsed) = .error error)
      (refused : reader.apply defaults line parsed = .error error → PointsAt line text error) :
      PointsAt line text error := by
    split at given
    · cases given
      exact pointsAt_of_other rfl rfl
    · exact refused given
  rw [step_eq_of_kind, parse_eq] at failed
  split at failed
  · cases failed
    exact pointsAt_of_other rfl rfl
  · cases is : kind text with
    | blank =>
        rw [is] at failed
        refine directive .blank failed fun refused => ?_
        have blank : isBlankLine text = true := by
          rw [(kind_fits text).blank, is]
          rfl
        refine ⟨?_, fun _ => blank⟩
        cases empty : reader.gathered.isEmpty with
        | true =>
            simp only [apply, PartialFrame.boundary_of_isEmpty empty] at refused
            cases refused
        | false =>
            simp only [apply, PartialFrame.boundary_of_occupied sound.gathering empty] at refused
            cases refused
            rfl
    | data =>
        rw [is] at failed
        exact directive (.frameData text) failed (gather_push_error sound)
    | fade =>
        rw [is] at failed
        simp only at failed
        cases given : fadeSpeed? line (Text.trim text.toList) with
        | error wrong =>
            rw [given] at failed
            cases failed
            obtain ⟨argument, -, -, rfl⟩ := fadeSpeed?_error_iff.1 given
            exact pointsAt_of_other rfl rfl
        | ok speed =>
            rw [given] at failed
            refine directive (.fadeTo speed) failed fun refused => ?_
            simp only [apply] at refused
            split at refused <;> cases refused
            exact pointsAt_of_other rfl rfl
    | mark =>
        rw [is] at failed
        exact directive (.setMarker _) failed fun refused => by cases refused
    | again =>
        rw [is] at failed
        exact directive (.repeatOnce _) failed refer_error
    | forever =>
        rw [is] at failed
        exact directive (.repeatForever _) failed refer_error

end Reader

end TreeBoard.Script
