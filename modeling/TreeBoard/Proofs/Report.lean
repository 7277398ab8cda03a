import TreeBoard.Proofs.Unbounded

/-!
# What is reported of an animation

The report of a compilation is the length of the animation, how it was fitted into memory, and
what was noticed. It should be the one of the reference compiler, which keeps every frame of every
repeat. It is not always: once a repeat has been cut off at the end of the memory, a fade starts
from the last frame that was kept instead of the last frame of the animation, and its notice
counts kept frames only.

Results:
1. `Parallel.performAll`, the notices agree exactly if every fade is shown.
2. `report_eq_iff`, the report is the one of the reference compiler exactly if every fade is shown.
3. `report_ne_of_overflowingFade`, a script with a fade that is not shown.
-/

namespace TreeBoard

/-- What is reported of an animation: its length, how it was fitted into memory, and the notices. -/
def Animation.report (animation : Animation) : Nat × Option Fit × List Script.Notice :=
  (animation.authored, animation.fit?, animation.notices)

/-- The report with one of its notices only. -/
def Animation.extract (index : Nat) (animation : Animation) :
    Nat × Option Fit × Option Script.Notice :=
  (animation.authored, animation.fit?, animation.notices[index]?)

/-- The length of an animation that was fitted in a given way. -/
def Fit.length : Fit → Nat
  | .exact => Board.slotCount
  | .truncated dropped => Board.slotCount + dropped
  | .padded added => Board.slotCount - added

theorem Fit.length_ofLength (length : Nat) : (ofLength length).length = length := by
  unfold ofLength
  split
  · rename_i exact
    exact exact.symm
  · split
    · simp only [Fit.length]
      omega
    · simp only [Fit.length]
      omega

namespace Script

/-! ## Definitions -/

/-- The fade that a frame ends is shown: all frames before it are kept, or there are no frames in
the fade, neither from the last frame that is kept nor from the last frame of the animation. -/
def FadeShown (state : State) (whole : Whole) : Action → Prop
  | .addFrame frame =>
      state.frames.length = whole.frames.length ∨
        fadeSteps (state.endFade frame) = [] ∧ fadeSteps (whole.endFade .reference frame) = []
  | _ => True

/-- Every fade that the actions end is shown. -/
def FadesShown (state : State) (whole : Whole) : List Action → Prop
  | [] => True
  | action :: later =>
      FadeShown state whole action ∧
        FadesShown (state.perform action) (whole.perform .reference action) later

/-- What is kept tells the truth about the animation. Unless every frame is kept, the memory is
full. -/
structure Tells (state : State) (whole : Whole) : Prop where
  authored : state.authored = saturate whole.frames.length
  markers : state.markers = whole.markers
  complete : state.frames.length = whole.frames.length → state.frames = whole.frames
  cut : state.frames.length ≠ whole.frames.length →
    Board.slotCount ≤ state.frames.length ∧ state.frames.length < whole.frames.length

/-- The bounded compiler and the reference compiler after the same actions. -/
structure Parallel (state : State) (whole : Whole) : Prop where
  pendingFade : state.pendingFade = whole.pendingFade
  names : state.markers.map Prod.fst = whole.markers.map Prod.fst
  started : state.frames = [] ↔ whole.frames = []
  noticed : state.notices.length = whole.notices.length
  tells : state.notices = whole.notices → Tells state whole

/-! ## Actions that agree -/

/-- A length that has reached the limit stays there, however much is repeated. -/
theorem saturate_repeat (length first copies : Nat) :
    saturate (saturate length + (saturate length - first) * copies) =
      saturate (length + (length - first) * copies) := by
  by_cases small : length ≤ UInt64.size - 1
  · have exact : saturate length = length := Nat.min_eq_left small
    rw [exact]
  · have limit : saturate length = UInt64.size - 1 := Nat.min_eq_right (by omega)
    rw [limit]
    unfold saturate
    omega

namespace Tells

variable {state : State} {whole : Whole}

theorem close (tells : Tells state whole) : Tells { state with closed := true } whole :=
  ⟨tells.authored, tells.markers, tells.complete, tells.cut⟩

theorem fade (tells : Tells state whole) (fade : PendingFade) :
    Tells { state with pendingFade := some fade } { whole with pendingFade := some fade } :=
  ⟨tells.authored, tells.markers, tells.complete, tells.cut⟩

theorem setMarker (tells : Tells state whole) (name : String) :
    Tells (state.setMarker name) (whole.setMarker .reference name) where
  authored := tells.authored
  markers := by
    show (name, state.authored - 1) :: state.markers = (name, saturate _ - 1) :: whole.markers
    rw [tells.authored, tells.markers]
  complete := tells.complete
  cut := tells.cut

theorem addFrame (tells : Tells state whole) (pending : state.pendingFade = whole.pendingFade)
    {frame : Frame} (shown : FadeShown state whole (.addFrame frame)) :
    Tells (state.addFrame frame) (whole.addFrame .reference frame) := by
  have steps : fadeSteps (state.endFade frame) = fadeSteps (whole.endFade .reference frame) := by
    rcases shown with all | ⟨here, there⟩
    · rw [State.endFade, pending, tells.complete all]
      rfl
    · rw [here, there]
  rw [State.addFrame_eq, steps]
  constructor
  · simp only [Whole.addFrame, List.length_append, List.length_singleton, tells.authored,
      Nat.add_assoc, saturate_saturate_add]
    congr 1
    omega
  · exact tells.markers
  · intro lengths
    simp only [Whole.addFrame, List.length_append, List.length_singleton] at lengths ⊢
    rw [tells.complete (by omega)]
  · intro lengths
    simp only [Whole.addFrame, List.length_append, List.length_singleton] at lengths ⊢
    have cut := tells.cut (by omega)
    omega

theorem repeatFrom (tells : Tells state whole) (name : String) (first copies : Nat) :
    Tells (state.repeatFrom name first copies)
      (whole.repeatFrom .reference name first copies) := by
  constructor
  · have appended : ((List.replicate copies (whole.frames.drop first)).flatten).length =
        (whole.frames.length - first) * copies := by
      simp [Nat.mul_comm]
    simp only [State.repeatFrom, State.notify, Whole.repeatFrom, List.length_append, appended,
      tells.authored]
    exact saturate_repeat _ _ _
  · exact tells.markers
  -- If frames are left out already, the memory is full and no more are kept.
  · intro lengths
    by_cases all : state.frames.length = whole.frames.length
    · have kept := tells.complete all
      simp only [State.repeatFrom, State.notify, Whole.repeatFrom, kept, List.length_append]
        at lengths ⊢
      rw [(List.take_sublist _ _).eq_of_length (by omega)]
    · have cut := tells.cut all
      simp only [State.repeatFrom, State.notify, Whole.repeatFrom, List.length_append,
        List.length_take] at lengths
      omega
  · intro lengths
    by_cases all : state.frames.length = whole.frames.length
    · have kept := tells.complete all
      simp only [State.repeatFrom, State.notify, Whole.repeatFrom, kept, List.length_append,
        List.length_take] at lengths ⊢
      omega
    · have cut := tells.cut all
      simp only [State.repeatFrom, State.notify, Whole.repeatFrom, List.length_append,
        List.length_take] at lengths ⊢
      omega

end Tells

/-! ## Notices of ended fades -/

variable {ended ended' : Option (PendingFade × List Frame)}

theorem fadeNotices_length (same : ended.map Prod.fst = ended'.map Prod.fst)
    (length length' : Nat) :
    (fadeNotices length ended).length = (fadeNotices length' ended').length := by
  obtain _ | ⟨pending, _ | ⟨step, others⟩⟩ := ended <;>
    obtain _ | ⟨pending', _ | ⟨step', others'⟩⟩ := ended' <;>
    first | rfl | cases same

/-- The notice of a fade with frames shows how many frames stand before it. -/
theorem shown_of_fadeNotices_eq {length length' : Nat}
    (same : ended.map Prod.fst = ended'.map Prod.fst)
    (noticed : fadeNotices length ended = fadeNotices length' ended') :
    length = length' ∨ fadeSteps ended = [] ∧ fadeSteps ended' = [] := by
  obtain _ | ⟨pending, _ | ⟨step, others⟩⟩ := ended <;>
    obtain _ | ⟨pending', _ | ⟨step', others'⟩⟩ := ended'
  · exact .inr ⟨rfl, rfl⟩
  · cases same
  · cases same
  · cases same
  · exact .inr ⟨rfl, rfl⟩
  · cases noticed
  · cases same
  · cases noticed
  · simp only [fadeNotices, List.cons.injEq, Notice.faded.injEq] at noticed
    exact .inl (by omega)

/-- A flat fade is noticed in the same way wherever it stands. -/
theorem fadeNotices_of_flat (same : ended.map Prod.fst = ended'.map Prod.fst)
    (here : fadeSteps ended = []) (there : fadeSteps ended' = []) (length length' : Nat) :
    fadeNotices length ended = fadeNotices length' ended' := by
  obtain _ | ⟨pending, steps⟩ := ended <;> obtain _ | ⟨pending', steps'⟩ := ended'
  · rfl
  · cases same
  · cases same
  · cases here
    cases there
    cases same
    rfl

/-! ## Both compilers side by side -/

namespace Parallel

variable {state : State} {whole : Whole}

theorem endFade_pending (parallel : Parallel state whole) (frame : Frame) :
    (state.endFade frame).map Prod.fst = (whole.endFade .reference frame).map Prod.fst := by
  unfold State.endFade Whole.endFade endFade
  rw [parallel.pendingFade]
  cases whole.pendingFade with
  | none => rfl
  | some pending =>
      cases here : state.frames.getLast? with
      | none =>
          rw [parallel.started.1 (List.getLast?_eq_none_iff.1 here)]
          rfl
      | some start =>
          cases there : whole.frames.getLast? with
          | none =>
              rw [parallel.started.2 (List.getLast?_eq_none_iff.1 there)] at here
              cases here
          | some start' => rfl

theorem first_eq (parallel : Parallel state whole) {name : String} {first first' : Nat}
    (here : state.markers.lookup name = some first)
    (there : whole.markers.lookup name = some first')
    (noticed : state.notices = whole.notices) : first = first' := by
  rw [(parallel.tells noticed).markers, there] at here
  exact (Option.some.inj here).symm

theorem addFrame (parallel : Parallel state whole) (frame : Frame) :
    Parallel (state.addFrame frame) (whole.addFrame .reference frame) ∧
      ((state.addFrame frame).notices = (whole.addFrame .reference frame).notices ↔
        state.notices = whole.notices ∧ FadeShown state whole (.addFrame frame)) := by
  have same := parallel.endFade_pending frame
  have notices : (state.addFrame frame).notices =
      state.notices ++ fadeNotices state.frames.length (state.endFade frame) := by
    rw [State.addFrame_eq]
  -- Both lists grow by as many notices, so they agree exactly if the old and the new ones do.
  have agree : (state.addFrame frame).notices = (whole.addFrame .reference frame).notices ↔
      state.notices = whole.notices ∧ FadeShown state whole (.addFrame frame) := by
    rw [notices]
    constructor
    · intro appended
      obtain ⟨before, ended⟩ := List.append_inj appended parallel.noticed
      exact ⟨before, shown_of_fadeNotices_eq same ended⟩
    · rintro ⟨before, all | ⟨here, there⟩⟩
      · have ended : state.endFade frame = whole.endFade .reference frame := by
          rw [State.endFade, parallel.pendingFade, (parallel.tells before).complete all]
          rfl
        rw [before, all, ended]
        rfl
      · rw [before, fadeNotices_of_flat same here there _ whole.frames.length]
        rfl
  refine ⟨⟨?_, ?_, ?_, ?_, ?_⟩, agree⟩
  · rw [State.addFrame_eq]
    rfl
  · rw [State.addFrame_eq]
    exact parallel.names
  · rw [State.addFrame_eq]
    simp [Whole.addFrame]
  · rw [notices]
    simp only [Whole.addFrame, List.length_append, parallel.noticed,
      fadeNotices_length same _ whole.frames.length]
  · intro noticed
    obtain ⟨before, shown⟩ := agree.1 noticed
    exact (parallel.tells before).addFrame parallel.pendingFade shown

theorem setMarker (parallel : Parallel state whole) (name : String) :
    Parallel (state.setMarker name) (whole.setMarker .reference name) ∧
      ((state.setMarker name).notices = (whole.setMarker .reference name).notices ↔
        state.notices = whole.notices) := by
  have agree : (state.setMarker name).notices = (whole.setMarker .reference name).notices ↔
      state.notices = whole.notices := by
    constructor
    · exact fun appended => (List.append_inj appended parallel.noticed).1
    · intro before
      simp only [State.setMarker, State.notify, Whole.setMarker, before,
        (parallel.tells before).authored]
      rfl
  refine ⟨⟨parallel.pendingFade, congrArg (name :: ·) parallel.names, parallel.started, ?_, ?_⟩,
    agree⟩
  · simp only [State.setMarker, State.notify, Whole.setMarker, List.length_append,
      parallel.noticed, List.length_singleton]
  · exact fun noticed => (parallel.tells (agree.1 noticed)).setMarker name

theorem repeatFrom (parallel : Parallel state whole) (name : String)
    {first first' copies copies' : Nat}
    (same : state.notices = whole.notices → first = first' ∧ copies = copies') :
    Parallel (state.repeatFrom name first copies)
        (whole.repeatFrom .reference name first' copies') ∧
      ((state.repeatFrom name first copies).notices =
          (whole.repeatFrom .reference name first' copies').notices ↔
        state.notices = whole.notices) := by
  have agree : (state.repeatFrom name first copies).notices =
      (whole.repeatFrom .reference name first' copies').notices ↔
      state.notices = whole.notices := by
    constructor
    · exact fun appended => (List.append_inj appended parallel.noticed).1
    · intro before
      obtain ⟨rfl, rfl⟩ := same before
      simp only [State.repeatFrom, State.notify, Whole.repeatFrom, before,
        (parallel.tells before).authored]
      rfl
  refine ⟨⟨parallel.pendingFade, parallel.names, ?_, ?_, ?_⟩, agree⟩
  · have started := parallel.started
    simp only [State.repeatFrom, State.notify, Whole.repeatFrom, List.append_eq_nil_iff]
    constructor
    · rintro ⟨empty, _⟩
      exact ⟨started.1 empty, by simp [started.1 empty]⟩
    · rintro ⟨empty, _⟩
      exact ⟨started.2 empty, by simp [started.2 empty]⟩
  · simp only [State.repeatFrom, State.notify, Whole.repeatFrom, List.length_append,
      parallel.noticed, List.length_singleton]
  · intro noticed
    obtain ⟨rfl, rfl⟩ := same (agree.1 noticed)
    exact (parallel.tells (agree.1 noticed)).repeatFrom name first copies

/-- An action keeps the compilers side by side, and their notices agree afterwards exactly if they
agreed before and the action ends no fade that is not shown. -/
theorem perform (parallel : Parallel state whole) (action : Action) :
    Parallel (state.perform action) (whole.perform .reference action) ∧
      ((state.perform action).notices = (whole.perform .reference action).notices ↔
        state.notices = whole.notices ∧ FadeShown state whole action) := by
  cases action with
  | addFrame frame => exact parallel.addFrame frame
  | fade fade =>
      exact ⟨⟨rfl, parallel.names, parallel.started, parallel.noticed,
        fun noticed => (parallel.tells noticed).fade fade⟩, (and_iff_left trivial).symm⟩
  | mark name =>
      obtain ⟨kept, agree⟩ := parallel.setMarker name
      exact ⟨kept, agree.trans (and_iff_left trivial).symm⟩
  | again name =>
      rcases lookup_both parallel.names name with ⟨here, there⟩ | ⟨first, first', here, there⟩
      · simp only [State.perform, Whole.perform, here, there]
        exact ⟨parallel, (and_iff_left trivial).symm⟩
      · simp only [State.perform, Whole.perform, here, there]
        obtain ⟨kept, agree⟩ := parallel.repeatFrom name fun noticed =>
          ⟨parallel.first_eq here there noticed, rfl⟩
        exact ⟨kept, agree.trans (and_iff_left trivial).symm⟩
  | forever name =>
      rcases lookup_both parallel.names name with ⟨here, there⟩ | ⟨first, first', here, there⟩
      · simp only [State.perform, Whole.perform, here, there]
        exact ⟨parallel, (and_iff_left trivial).symm⟩
      · simp only [State.perform, Whole.perform, here, there]
        have copies : state.notices = whole.notices →
            state.copiesThatFit first = whole.copiesThatFit .reference first' := by
          intro noticed
          unfold State.copiesThatFit Whole.copiesThatFit
          rw [parallel.first_eq here there noticed, (parallel.tells noticed).authored]
          rfl
        obtain ⟨kept, agree⟩ := parallel.repeatFrom name fun noticed =>
          ⟨parallel.first_eq here there noticed, copies noticed⟩
        exact ⟨⟨kept.pendingFade, kept.names, kept.started, kept.noticed,
          fun noticed => (kept.tells noticed).close⟩, agree.trans (and_iff_left trivial).symm⟩

theorem performAll (parallel : Parallel state whole) (actions : List Action) :
    Parallel (state.performAll actions) (whole.performAll .reference actions) ∧
      ((state.performAll actions).notices = (whole.performAll .reference actions).notices ↔
        state.notices = whole.notices ∧ FadesShown state whole actions) := by
  induction actions generalizing state whole with
  | nil => exact ⟨parallel, (and_iff_left trivial).symm⟩
  | cons action later ih =>
      obtain ⟨kept, agree⟩ := parallel.perform action
      obtain ⟨last, noticed⟩ := ih kept
      refine ⟨last, noticed.trans ?_⟩
      rw [agree, and_assoc]
      rfl

theorem start : Parallel {} {} :=
  ⟨rfl, rfl, Iff.rfl, rfl, fun _ =>
    ⟨rfl, rfl, fun _ => rfl, fun different => absurd rfl different⟩⟩

end Parallel

/-! ## The report -/

/-- The report of the bounded compiler on actions is the one of the reference compiler exactly if
every fade is shown and the limit of counting is not exceeded by what is kept. -/
theorem ending_report_iff {actions : List Action}
    (started : (({} : State).performAll actions).frames ≠ []) :
    (({} : State).performAll actions).ending.map Animation.report =
        ((({} : Whole).performAll .reference actions).ending .reference).map Animation.report ↔
      FadesShown {} {} actions ∧
        (({} : State).performAll actions).frames.length ≤ UInt64.size - 1 := by
  obtain ⟨parallel, noticed⟩ := Parallel.start.performAll actions
  have inside := performAll_inside actions
  have beyond := (Shows.start.performAll actions).beyond
  generalize ({} : State).performAll actions = state at *
  generalize ({} : Whole).performAll .reference actions = whole at *
  have here := List.getLast?_eq_some_getLast started
  have there := List.getLast?_eq_some_getLast (mt parallel.started.2 started)
  unfold Whole.ending
  rw [State.ending_eq here inside beyond, there]
  simp only [Except.map, Except.ok.injEq, Animation.report, Animation.fit?, Prod.mk.injEq]
  constructor
  · rintro ⟨-, -, notices⟩
    rw [parallel.pendingFade] at notices
    -- The last notice carries the length, and no length is reported that is below what is kept.
    obtain ⟨front, fitted⟩ := List.append_inj' notices rfl
    refine ⟨(noticed.1 (List.append_cancel_right front)).2, ?_⟩
    have fits := congrArg Fit.length (Notice.fitted.inj (List.singleton_inj.1 fitted))
    rw [Fit.length_ofLength, Fit.length_ofLength] at fits
    calc state.frames.length
        ≤ max state.authored state.frames.length := Nat.le_max_right _ _
      _ = saturate whole.frames.length := fits
      _ ≤ UInt64.size - 1 := Nat.min_le_right _ _
  · rintro ⟨shown, small⟩
    have same := noticed.2 ⟨rfl, shown⟩
    have tells := parallel.tells same
    have kept : state.frames.length ≤ whole.frames.length := by
      by_cases all : state.frames.length = whole.frames.length
      · exact Nat.le_of_eq all
      · exact Nat.le_of_lt (tells.cut all).2
    have counted : max state.authored state.frames.length = whole.length .reference := by
      rw [tells.authored]
      exact Nat.max_eq_left (Nat.le_min.2 ⟨kept, small⟩)
    rw [counted, same, parallel.pendingFade]
    exact ⟨tells.authored, rfl, rfl⟩

/-- **When the report is true.** For every script the report of the compiler is the one of the
reference compiler, or both fail with the same error, exactly if every fade that the script ends
is shown and the frames that are kept can be counted. -/
theorem report_eq_iff (defaults : Defaults) (lines : List String) :
    (compile defaults lines).map Animation.report =
        (Unbounded.reference.compile defaults lines).map Animation.report ↔
      ∀ actions, read defaults lines = .ok actions →
        FadesShown {} {} actions ∧
          (({} : State).performAll actions).frames.length ≤ UInt64.size - 1 := by
  rw [compile_eq]
  unfold Unbounded.compile
  cases accepted : read defaults lines with
  | error error => exact iff_of_true rfl fun actions impossible => nomatch impossible
  | ok actions =>
      refine (ending_report_iff (read_started accepted)).trans ?_
      exact ⟨fun shown _ same => Except.ok.inj same ▸ shown, fun shown => shown actions rfl⟩

theorem extract_of_report {one other : Except Error Animation}
    (same : one.map Animation.report = other.map Animation.report) (index : Nat) :
    one.toOption.map (Animation.extract index) = other.toOption.map (Animation.extract index) := by
  have whole := congrArg (fun report => report.toOption.map fun (authored, fit, notices) =>
    (authored, fit, notices[index]?)) same
  cases one <;> cases other <;> exact whole

/-- Three frames whose repeats overflow the memory, and a fade between two equal frames behind
them. -/
def overflowingFade : List String :=
  ["set_marker", "000000000000000000000000", "300000000000000000000000",
      "700000000000000000000000"] ++
    List.replicate 7 "repeat" ++ ["fade_to", "700000000000000000000000"]

/-- A fade that starts from the last frame in memory is not the fade that the animation has: here
the compiler reports six frames between two equal ones. -/
theorem extract_overflowingFade :
    (compile {} overflowingFade).toOption.map (Animation.extract 8) =
        some (391, some (.truncated 135), some (.faded 255 262 6)) ∧
      (Unbounded.reference.compile {} overflowingFade).toOption.map (Animation.extract 8) =
        some (385, some (.truncated 129), some (.flatFade 12)) := by
  decide +kernel

theorem report_ne_of_overflowingFade :
    (compile {} overflowingFade).map Animation.report ≠
      (Unbounded.reference.compile {} overflowingFade).map Animation.report := by
  intro same
  have both := extract_of_report same 8
  rw [extract_overflowingFade.1, extract_overflowingFade.2] at both
  revert both
  decide

end Script

end TreeBoard
