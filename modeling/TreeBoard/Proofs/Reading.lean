import TreeBoard.Proofs.Operations

/-!
# Reading a script before performing it

Whether a line is accepted depends on little: on the levels that wait for the rest of their frame,
on whether there is a frame already, on the names of the markers, and on whether the script is
closed. A `Reader` keeps these four and turns the lines of a script into actions. What the frames
are, how many of them are kept and what is noticed only depends on the actions.

Results:
1. `State.step_eq`, a step of the compiler reads its line and performs the action found there.
2. `Invariant.performAll`, what every action preserves holds after all of them.
3. `compile_eq`, a script is compiled by reading it to its end and performing all actions.
-/

namespace TreeBoard.Script

/-! ## Definitions -/

/-- What a line does to the animation. -/
inductive Action where
  /-- A frame is complete. -/
  | addFrame (frame : Frame)
  /-- The next frame ends a fade. -/
  | fade (fade : PendingFade)
  /-- A marker is set. -/
  | mark (name : String)
  /-- Everything from a marker on is repeated. -/
  | again (name : String)
  /-- Everything from a marker on is repeated as often as it fits. -/
  | forever (name : String)
deriving DecidableEq, Repr

/-- The frame that an action completes. -/
def Action.frame? : Action → Option Frame
  | .addFrame frame => some frame
  | _ => none

/-- What decides whether a line is accepted. -/
structure Reader where
  gathered : PartialFrame := {}
  /-- Whether a frame has been completed. -/
  started : Bool := false
  /-- The names of the markers, the latest first. -/
  names : List String := []
  /-- Whether an endless repeat has closed the script. -/
  closed : Bool := false
deriving DecidableEq, Repr

namespace Reader

/-- Takes over what became of the partial frame on a line. -/
def gather (reader : Reader) :
    PartialFrame × Except Error (Option Frame) → Except Error (Reader × List Action)
  | (_, .error error) => .error error
  | (gathered, .ok none) => .ok ({ reader with gathered }, [])
  | (gathered, .ok (some frame)) =>
      .ok ({ reader with gathered, started := true }, [.addFrame frame])

/-- What a line comes to that refers to a marker, which must be known. -/
def refer (reader : Reader) (line : Nat) (name : String) (next : Reader × List Action) :
    Except Error (Reader × List Action) :=
  if reader.names.contains name then .ok next else .error (.unknownMarker line name)

/-- Reads a line of a known kind. -/
def apply (defaults : Defaults) (line : Nat) (reader : Reader) :
    Line → Except Error (Reader × List Action)
  | .blank => reader.gather (reader.gathered.boundary line)
  | .frameData text => reader.gather (reader.gathered.push line text)
  | .fadeTo speed =>
      if reader.started then .ok (reader, [.fade ⟨line, speed.getD defaults.fadeSpeed⟩])
      else .error (.fadeWithoutStart line)
  | .setMarker name =>
      let name := name.getD defaults.marker
      .ok ({ reader with names := name :: reader.names }, [.mark name])
  | .repeatOnce name =>
      let name := name.getD defaults.marker
      reader.refer line name (reader, [.again name])
  | .repeatForever name =>
      let name := name.getD defaults.marker
      reader.refer line name ({ reader with closed := true }, [.forever name])

/-- Reads a line. -/
def step (defaults : Defaults) (line : Nat) (text : String) (reader : Reader) :
    Except Error (Reader × List Action) :=
  if reader.closed && !Text.isBlankText text.toList then .error (.contentAfterEnd line)
  else
    match Line.parse line text with
    | .error error => .error error
    | .ok parsed =>
        if parsed.isDirective && !reader.gathered.isEmpty then .error (.directiveInsideFrame line)
        else reader.apply defaults line parsed

/-- Reads lines of which the first has the given number. -/
def run (defaults : Defaults) : Nat → List String → Reader → Except Error (Reader × List Action)
  | _, [], reader => .ok (reader, [])
  | line, text :: later, reader =>
      match reader.step defaults line text with
      | .error error => .error error
      | .ok (next, actions) =>
          match run defaults (line + 1) later next with
          | .error error => .error error
          | .ok (last, others) => .ok (last, actions ++ others)

/-- Checks that a script may end after the given line. -/
def finish (reader : Reader) (lastLine : Nat) : Except Error Unit :=
  if reader.started then reader.gathered.finish lastLine else .error .emptyAnimation

end Reader

/-- The actions of a script. -/
def read (defaults : Defaults) (lines : List String) : Except Error (List Action) :=
  match Reader.run defaults 1 lines {} with
  | .error error => .error error
  | .ok (reader, actions) =>
      match reader.finish lines.length with
      | .error error => .error error
      | .ok () => .ok actions

namespace State

/-- What a state means to a reader. -/
def reader (state : State) : Reader :=
  ⟨state.gathered, !state.frames.isEmpty, state.markers.map Prod.fst, state.closed⟩

/-- Performs an action. -/
def perform (state : State) : Action → State
  | .addFrame frame => state.addFrame frame
  | .fade fade => { state with pendingFade := some fade }
  | .mark name => state.setMarker name
  | .again name =>
      match state.markers.lookup name with
      | some first => state.repeatFrom name first 1
      | none => state
  | .forever name =>
      match state.markers.lookup name with
      | some first =>
          { state.repeatFrom name first (state.copiesThatFit first) with closed := true }
      | none => state

/-- Performs actions one after another. -/
def performAll (state : State) (actions : List Action) : State :=
  actions.foldl perform state

/-- Goes over to what a reader has found. -/
def advance (state : State) (next : Reader × List Action) : State :=
  { state.performAll next.2 with gathered := next.1.gathered }

/-- The animation when the script is at its end. -/
def ending (state : State) : Except Error Animation := do
  let ended := match state.pendingFade with
    | some fade => state.notify (.danglingFade fade.line)
    | none => state
  let (frames, fit) ← Memory.fit ended.frames ended.authored
  return ⟨frames, (ended.notify (.fitted fit)).notices, ended.authored⟩

end State

/-! ## A step -/

theorem contains_names (markers : List (String × Nat)) (name : String) :
    (markers.map Prod.fst).contains name = (markers.lookup name).isSome := by
  induction markers with
  | nil => rfl
  | cons marker others ih =>
      obtain ⟨known, index⟩ := marker
      simp only [List.map_cons, List.contains_cons, List.lookup_cons, ih]
      cases name == known <;> rfl

/-- Lists of markers with the same names have frames for the same names. -/
theorem lookup_both {markers markers' : List (String × Nat)}
    (names : markers.map Prod.fst = markers'.map Prod.fst) (name : String) :
    (markers.lookup name = none ∧ markers'.lookup name = none) ∨
      ∃ first first', markers.lookup name = some first ∧ markers'.lookup name = some first' := by
  have known : (markers.lookup name).isSome = (markers'.lookup name).isSome := by
    rw [← contains_names, ← contains_names, names]
  cases here : markers.lookup name with
  | none =>
      rw [here] at known
      exact .inl ⟨rfl, Option.not_isSome_iff_eq_none.1 (by rw [← known]; decide)⟩
  | some first =>
      rw [here] at known
      obtain ⟨first', there⟩ := Option.isSome_iff_exists.1 known.symm
      exact .inr ⟨first, first', rfl, there⟩

namespace State

theorem addFrame_gathered (state : State) (gathered : PartialFrame) (frame : Frame) :
    ({ state with gathered } : State).addFrame frame = { state.addFrame frame with gathered } := by
  unfold addFrame
  cases state.pendingFade with
  | none => rfl
  | some fade =>
      cases state.frames.getLast? with
      | none => rfl
      | some start =>
          simp only
          cases Fade.between start frame fade.speed <;> rfl

theorem gather_eq (state : State) (outcome : PartialFrame × Except Error (Option Frame)) :
    state.gather outcome = (state.reader.gather outcome).map state.advance := by
  obtain ⟨gathered, result⟩ := outcome
  cases result with
  | error error => rfl
  | ok sealed =>
      cases sealed with
      | none => rfl
      | some frame =>
          show Except.ok _ = Except.ok _
          exact congrArg Except.ok (addFrame_gathered state gathered frame)

theorem reader_names_contains (state : State) (name : String) :
    state.reader.names.contains name = (state.markers.lookup name).isSome :=
  contains_names state.markers name

/-- A reader knows the names of the markers that have a frame. -/
theorem mem_reader_names_iff {state : State} {name : String} :
    name ∈ state.reader.names ↔ ∃ first, state.markers.lookup name = some first := by
  rw [← List.contains_iff_mem, reader_names_contains, Option.isSome_iff_exists]

theorem refer_eq (state : State) (line : Nat) (name : String) (next : Reader × List Action)
    (act : Nat → State) (agrees : ∀ first, state.markers.lookup name = some first →
      act first = state.advance next) :
    (state.marker line name).map act =
      (state.reader.refer line name next).map state.advance := by
  unfold marker Reader.refer
  rw [reader_names_contains]
  cases found : state.markers.lookup name with
  | none => rfl
  | some first => exact congrArg Except.ok (agrees first found)

theorem apply_eq (defaults : Defaults) (line : Nat) (state : State) (parsed : Line) :
    state.apply defaults line parsed =
      (state.reader.apply defaults line parsed).map state.advance := by
  cases parsed with
  | blank => exact gather_eq state _
  | frameData text => exact gather_eq state _
  | fadeTo speed =>
      simp only [apply, Reader.apply, show state.reader.started = !state.frames.isEmpty from rfl]
      cases state.frames.isEmpty <;> rfl
  | setMarker name => rfl
  | repeatOnce name =>
      refine (map_eq_pure_bind _ _).symm.trans (refer_eq state line _ _ _ ?_)
      intro first found
      simp only [advance, performAll, List.foldl, perform, found]
      rfl
  | repeatForever name =>
      refine (map_eq_pure_bind _ _).symm.trans (refer_eq state line _ _ _ ?_)
      intro first found
      simp only [advance, performAll, List.foldl, perform, found]
      rfl

/-- A step of the compiler reads its line and performs the action found there. -/
theorem step_eq (defaults : Defaults) (line : Nat) (text : String) (state : State) :
    state.step defaults line text =
      (state.reader.step defaults line text).map state.advance := by
  unfold step Reader.step
  simp only [show state.reader.closed = state.closed from rfl,
    show state.reader.gathered = state.gathered from rfl]
  split
  · rfl
  · cases Line.parse line text with
    | error error => rfl
    | ok parsed =>
        simp only [bind, Except.bind]
        split
        · rfl
        · exact apply_eq defaults line state parsed

end State

/-! ## A run -/

namespace State

theorem addFrame_reader (state : State) (frame : Frame) :
    (state.addFrame frame).reader = { state.reader with started := true } := by
  unfold addFrame
  cases state.pendingFade with
  | none => simp [reader]
  | some fade =>
      cases state.frames.getLast? with
      | none => simp [reader]
      | some start =>
          simp only
          cases Fade.between start frame fade.speed <;> simp [reader, notify]

theorem repeatFrom_reader (state : State) (name : String) (first copies : Nat) :
    (state.repeatFrom name first copies).reader = state.reader := by
  simp only [repeatFrom, notify, reader, Reader.mk.injEq, true_and, and_true]
  cases state.frames <;> simp

theorem gather_reader {state : State} {outcome : PartialFrame × Except Error (Option Frame)}
    {next : Reader × List Action} (accepted : state.reader.gather outcome = .ok next) :
    (state.advance next).reader = next.1 := by
  obtain ⟨gathered, error | ⟨_ | frame⟩⟩ := outcome
  · cases accepted
  · cases accepted
    rfl
  · cases accepted
    exact congrArg (fun reader => { reader with gathered }) (addFrame_reader state frame)

theorem apply_reader {defaults : Defaults} {line : Nat} {state : State} {parsed : Line}
    {next : Reader × List Action}
    (accepted : state.reader.apply defaults line parsed = .ok next) :
    (state.advance next).reader = next.1 := by
  cases parsed with
  | blank => exact gather_reader accepted
  | frameData text => exact gather_reader accepted
  | fadeTo speed =>
      simp only [Reader.apply] at accepted
      split at accepted <;> cases accepted
      rfl
  | setMarker name =>
      cases accepted
      rfl
  | repeatOnce name =>
      simp only [Reader.apply, Reader.refer, reader_names_contains] at accepted
      split at accepted <;> cases accepted
      rename_i known
      obtain ⟨first, found⟩ := Option.isSome_iff_exists.1 known
      simp only [advance, performAll, List.foldl, perform, found]
      exact repeatFrom_reader state _ first 1
  | repeatForever name =>
      simp only [Reader.apply, Reader.refer, reader_names_contains] at accepted
      split at accepted <;> cases accepted
      rename_i known
      obtain ⟨first, found⟩ := Option.isSome_iff_exists.1 known
      simp only [advance, performAll, List.foldl, perform, found]
      exact congrArg (fun reader : Reader => { reader with closed := true })
        (repeatFrom_reader state (name.getD defaults.marker) first (state.copiesThatFit first))

/-- After a step the compiler means to a reader what the reader itself has become. -/
theorem step_reader {defaults : Defaults} {line : Nat} {text : String} {state : State}
    {next : Reader × List Action}
    (accepted : state.reader.step defaults line text = .ok next) :
    (state.advance next).reader = next.1 := by
  unfold Reader.step at accepted
  split at accepted
  · cases accepted
  · split at accepted
    · cases accepted
    · split at accepted
      · cases accepted
      · exact apply_reader accepted

theorem performAll_gathered (state : State) (gathered : PartialFrame) (actions : List Action) :
    ({ state with gathered } : State).performAll actions =
      { state.performAll actions with gathered } := by
  induction actions generalizing state with
  | nil => rfl
  | cons action later ih =>
      have one : ({ state with gathered } : State).perform action =
          { state.perform action with gathered } := by
        cases action with
        | addFrame frame => exact addFrame_gathered state gathered frame
        | fade fade => rfl
        | mark name => rfl
        | again name =>
            simp only [perform]
            cases state.markers.lookup name <;> rfl
        | forever name =>
            simp only [perform]
            cases state.markers.lookup name <;> rfl
      simp only [performAll, List.foldl_cons, one] at ih ⊢
      exact ih (state.perform action)

theorem performAll_append (state : State) (earlier later : List Action) :
    state.performAll (earlier ++ later) = (state.performAll earlier).performAll later :=
  List.foldl_append

theorem advance_advance (state : State) (next last : Reader × List Action) :
    (state.advance next).advance last = state.advance (last.1, next.2 ++ last.2) := by
  simp only [advance, performAll_gathered, performAll_append]

end State

/-- A run of the compiler reads its lines and performs all actions found there. -/
theorem run_eq (defaults : Defaults) (line : Nat) (lines : List String) (state : State) :
    (run defaults line lines state).mapError Failure.error =
      (Reader.run defaults line lines state.reader).map state.advance := by
  induction lines generalizing line state with
  | nil => rfl
  | cons text later ih =>
      unfold run Reader.run
      rw [State.step_eq]
      cases accepted : state.reader.step defaults line text with
      | error error => rfl
      | ok next =>
          simp only [Except.map]
          rw [ih, State.step_reader accepted]
          cases Reader.run defaults (line + 1) later next.1 with
          | error error => rfl
          | ok last => exact congrArg Except.ok (State.advance_advance state next last)

/-- A run is a step and a run from there. -/
theorem run_cons_iff {defaults : Defaults} {line : Nat} {text : String} {later : List String}
    {reader last : Reader} {actions : List Action} :
    Reader.run defaults line (text :: later) reader = .ok (last, actions) ↔
      ∃ next first others, reader.step defaults line text = .ok (next, first) ∧
        Reader.run defaults (line + 1) later next = .ok (last, others) ∧
        actions = first ++ others := by
  rw [Reader.run]
  constructor
  · intro accepted
    split at accepted
    · cases accepted
    · rename_i next first stepped
      split at accepted <;> cases accepted
      rename_i others rest
      exact ⟨next, first, others, stepped, rest, rfl⟩
  · rintro ⟨next, first, others, stepped, rest, rfl⟩
    simp only [stepped, rest]

theorem run_reader {defaults : Defaults} {line : Nat} {lines : List String} {state : State}
    {last : Reader × List Action}
    (accepted : Reader.run defaults line lines state.reader = .ok last) :
    (state.advance last).reader = last.1 := by
  induction lines generalizing line state last with
  | nil =>
      cases accepted
      rfl
  | cons text later ih =>
      obtain ⟨next, actions, others, found, rest, all⟩ := run_cons_iff.1 accepted
      have reached : (state.advance (next, actions)).reader = next := State.step_reader found
      rw [← reached] at rest
      have whole := State.advance_advance state (next, actions) (last.1, others)
      rw [show last = (last.1, actions ++ others) from Prod.ext rfl all, ← whole]
      exact ih rest

/-! ## What all actions preserve -/

/-- A property of states that every action preserves, provided that the frames which are completed
are of some kind. -/
structure Invariant (holds : State → Prop) (kind : Frame → Prop) : Prop where
  addFrame : ∀ {state : State} {frame : Frame}, holds state → kind frame →
    holds (state.addFrame frame)
  fade : ∀ {state : State} (fade : PendingFade), holds state →
    holds { state with pendingFade := some fade }
  setMarker : ∀ {state : State} (name : String), holds state → holds (state.setMarker name)
  repeatFrom : ∀ {state : State} {name : String} {first : Nat} (copies : Nat), holds state →
    state.markers.lookup name = some first → holds (state.repeatFrom name first copies)
  close : ∀ {state : State}, holds state → holds { state with closed := true }

/-- The frames that actions complete are of some kind. -/
def Complete (kind : Frame → Prop) (actions : List Action) : Prop :=
  ∀ action ∈ actions, ∀ frame, action.frame? = some frame → kind frame

namespace Invariant

variable {holds : State → Prop} {kind : Frame → Prop}

theorem perform (invariant : Invariant holds kind) {state : State} {action : Action}
    (before : holds state) (completes : ∀ frame, action.frame? = some frame → kind frame) :
    holds (state.perform action) := by
  cases action with
  | addFrame frame => exact invariant.addFrame before (completes frame rfl)
  | fade fade => exact invariant.fade fade before
  | mark name => exact invariant.setMarker name before
  | again name =>
      simp only [State.perform]
      cases known : state.markers.lookup name with
      | none => exact before
      | some first => exact invariant.repeatFrom 1 before known
  | forever name =>
      simp only [State.perform]
      cases known : state.markers.lookup name with
      | none => exact before
      | some first =>
          exact invariant.close (invariant.repeatFrom (state.copiesThatFit first) before known)

theorem performAll (invariant : Invariant holds kind) {state : State} {actions : List Action}
    (before : holds state) (complete : Complete kind actions) :
    holds (state.performAll actions) := by
  induction actions generalizing state with
  | nil => exact before
  | cons action later ih =>
      obtain ⟨here, others⟩ := List.forall_mem_cons.1 complete
      exact ih (invariant.perform before here) others

end Invariant

namespace State

theorem ending_advance (state : State) (last : Reader × List Action) :
    (state.advance last).ending = (state.performAll last.2).ending := by
  unfold ending advance
  cases (state.performAll last.2).pendingFade <;> rfl

/-- The end of a script, provided that the length is counted exactly before the memory is full and
counts as full afterwards. -/
theorem ending_eq {state : State} {last : Frame} (ends : state.frames.getLast? = some last)
    (inside : state.frames.length < Board.slotCount → state.authored = state.frames.length)
    (beyond : Board.slotCount ≤ state.frames.length → Board.slotCount ≤ state.authored) :
    state.ending = .ok {
      frames := Memory.filled state.frames last
      notices := state.notices ++ danglingNotices state.pendingFade ++
        [.fitted (Fit.ofLength (max state.authored state.frames.length))]
      authored := state.authored } := by
  have fitted := Memory.fit_eq ends inside beyond
  unfold ending
  cases state.pendingFade with
  | none => simp [bind, Except.bind, pure, Except.pure, fitted, notify, danglingNotices]
  | some fade => simp [bind, Except.bind, pure, Except.pure, fitted, notify, danglingNotices]

theorem ending_of_nil {state : State} (empty : state.frames = []) :
    state.ending = .error .emptyAnimation := by
  unfold ending
  cases state.pendingFade <;> simp [Memory.fit_nil, notify, empty, bind, Except.bind]

theorem finish_eq (state : State) (lastLine : Nat) :
    state.finish lastLine = (state.reader.finish lastLine).bind fun () => state.ending := by
  unfold finish Reader.finish ending
  simp only [show state.reader.started = !state.frames.isEmpty from rfl,
    show state.reader.gathered = state.gathered from rfl]
  cases state.frames.isEmpty <;> rfl

end State

/-- A script is compiled by reading it to its end and performing all actions. -/
theorem compile_eq (defaults : Defaults) (lines : List String) :
    compile defaults lines =
      (read defaults lines).bind fun actions => (({} : State).performAll actions).ending := by
  have unread := run_eq defaults 1 lines {}
  unfold compile compileReporting read
  rw [show ({} : State).reader = {} from rfl] at unread
  cases accepted : Reader.run defaults 1 lines {} with
  | error error =>
      rw [accepted] at unread
      cases compiled : run defaults 1 lines {} with
      | error failure =>
          rw [compiled] at unread
          cases unread
          rfl
      | ok state =>
          rw [compiled] at unread
          cases unread
  | ok last =>
      rw [accepted] at unread
      cases compiled : run defaults 1 lines {} with
      | error failure =>
          rw [compiled] at unread
          cases unread
      | ok state =>
          rw [compiled] at unread
          cases unread
          have reached : (({} : State).advance last).reader = last.1 := run_reader accepted
          simp only [State.finish_eq, State.ending_advance, reached]
          cases last.1.finish lines.length with
          | error error => rfl
          | ok checked =>
              simp only [Except.bind]
              cases (({} : State).performAll last.2).ending <;> rfl

theorem exists_of_isOk {defaults : Defaults} {lines : List String}
    (succeeds : (compile defaults lines).isOk = true) :
    ∃ animation, compile defaults lines = .ok animation := by
  cases compiled : compile defaults lines with
  | error error =>
      rw [compiled] at succeeds
      cases succeeds
  | ok animation => exact ⟨animation, rfl⟩

/-- A script is read by reading all its lines, if there is a frame and none is begun at the end. -/
theorem read_iff {defaults : Defaults} {lines : List String} {actions : List Action} :
    read defaults lines = .ok actions ↔
      ∃ last : Reader, Reader.run defaults 1 lines {} = .ok (last, actions) ∧
        last.started = true ∧ last.gathered.isEmpty = true := by
  unfold read
  constructor
  · intro accepted
    split at accepted
    · cases accepted
    · rename_i last found run
      split at accepted <;> cases accepted
      rename_i checked
      refine ⟨last, run, ?_⟩
      unfold Reader.finish PartialFrame.finish at checked
      split at checked
      · rename_i started
        split at checked
        · rename_i empty
          exact ⟨started, empty⟩
        · cases checked
      · cases checked
  · rintro ⟨last, run, started, empty⟩
    simp only [run, Reader.finish, PartialFrame.finish, if_pos started, if_pos empty]

/-- A script that can be read has a frame. -/
theorem read_started {defaults : Defaults} {lines : List String} {actions : List Action}
    (accepted : read defaults lines = .ok actions) :
    (({} : State).performAll actions).frames ≠ [] := by
  obtain ⟨last, run, started, -⟩ := read_iff.1 accepted
  have reached : (({} : State).advance (last, actions)).reader = last := run_reader run
  intro empty
  rw [← reached] at started
  simp [State.reader, State.advance, empty] at started

end TreeBoard.Script
