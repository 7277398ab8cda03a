import Mathlib.Algebra.Order.Ring.Nat
import Mathlib.Data.List.Induction
import TreeBoard.Proofs.Continuation
import TreeBoard.Proofs.Grammar

/-!
# The ledger of an animation

The length of an animation is accounted for by the frames that are written in the script, by those
that fades are noticed to insert and by those that repeats are noticed to append. One kind of line
breaks the balance: a repeat before the first frame appends nothing, and yet it is noticed as one
copy of frame 0.

Results:
1. `Balanced.perform`, `Balanced.performAll`, how actions keep the ledger.
2. `copied_performAll`, the frames that a repeat is noticed to append are there.
3. `idleCopies_of_run`, the repeats that find no frame, by the lines of the script.
4. `accounted_of_compile`, the ledger of an animation; `not_balanced_idleRepeat`, a script for which
   it does not balance.
-/

namespace TreeBoard.Script

/-! ## Definitions -/

/-- How many frames a notice says a fade has inserted. -/
def Notice.inserted : Notice → Nat
  | .faded _ _ inserted => inserted
  | _ => 0

/-- How many frames a notice says a repeat has appended: all of a range, a number of times. -/
def Notice.appended : Notice → Nat
  | .repeated _ first last copies => copies * (last - first + 1)
  | _ => 0

/-- The indices and counts of a notice fit each other. -/
def Notice.Coherent : Notice → Prop
  | .faded first last inserted => last = first + inserted + 1
  | .repeated _ first last _ => first ≤ last
  | _ => True

/-- What a repeat is noticed to append stands behind its range, as far as the memory reaches: the
frames of the range in their order, over and over. -/
def Notice.Shown (frames : List Frame) : Notice → Prop
  | .repeated _ first last copies =>
      ∀ place < copies * (last - first + 1), last + 1 + place < Board.slotCount →
        ∃ frame, frames[first + place % (last - first + 1)]? = some frame ∧
          frames[last + 1 + place]? = some frame
  | _ => True

/-- The frames that a number of written frames and some notices account for. -/
def ledger (written : Nat) (notices : List Notice) : Nat :=
  written + (notices.map Notice.inserted).sum + (notices.map Notice.appended).sum

/-- The number of frames that are written in a script: 24 levels make a frame. -/
def writtenFrames (lines : List String) : Nat :=
  ((lines.filter isDataLine).flatMap levelsOf).length / Board.ledCount

/-- Whether a line repeats frames once. -/
def repeatsOnce (text : String) : Bool :=
  begins "repeat" text && !begins "repeat_forever" text

/-- The number of repeats that stand before the first line of levels. -/
def idleRepeats (lines : List String) : Nat :=
  (lines.takeWhile fun text => !isDataLine text).countP repeatsOnce

/-- What the notices of an animation account for. -/
structure Accounted (lines : List String) (animation : Animation) : Prop where
  idle_le : idleRepeats lines ≤ ledger (writtenFrames lines) animation.notices
  length : animation.authored =
    min (ledger (writtenFrames lines) animation.notices - idleRepeats lines) (2 ^ 64 - 1)
  coherent : ∀ notice ∈ animation.notices, notice.Coherent
  /-- Only the notice of an idle repeat may show frames that have not been appended. -/
  shown : ∀ notice ∈ animation.notices, notice.Shown animation.frames ∨
    0 < idleRepeats lines ∧ ∃ name, notice = .repeated name 0 0 1
  /-- Besides idle repeats only the limit of counting plays a part. -/
  balanced_iff :
    animation.authored = min (ledger (writtenFrames lines) animation.notices) (2 ^ 64 - 1) ↔
      idleRepeats lines = 0 ∨ animation.authored = 2 ^ 64 - 1

/-! ## Repeats of nothing -/

section

variable {state : State} (empty : state.authored = 0)
include empty

theorem authored_repeatFrom_of_empty (name : String) (first copies : Nat) :
    (state.repeatFrom name first copies).authored = 0 := by
  simp [State.repeatFrom, State.notify, empty, saturate]

theorem copiesThatFit_of_empty (first : Nat) : state.copiesThatFit first = 0 := by
  simp [State.copiesThatFit, empty]

end

/-! ## Entries of the ledger -/

theorem ledger_append (written more : Nat) (notices others : List Notice) :
    ledger (written + more) (notices ++ others) = ledger written notices + ledger more others := by
  simp only [ledger, List.map_append, List.sum_append]
  omega

theorem ledger_fadeNotices (length : Nat) (ended : Option (PendingFade × List Frame)) :
    ledger 1 (fadeNotices length ended) = 1 + (fadeSteps ended).length := by
  obtain _ | ⟨pending, _ | ⟨step, others⟩⟩ := ended <;> rfl

theorem ledger_danglingNotices (pending : Option PendingFade) (fit : Fit) :
    ledger 0 (danglingNotices pending ++ [.fitted fit]) = 0 := by
  cases pending <;> rfl

/-- The ledger after some actions, with the numbers of frames that were written and of copies that
were noticed without a frame to copy. No marker lies behind the last frame. -/
structure Balanced (state : State) (written idle : Nat) : Prop where
  authored : state.authored = saturate (ledger written state.notices - idle)
  idle_le : idle ≤ ledger written state.notices
  markers : ∀ marker ∈ state.markers, marker.2 ≤ state.authored - 1
  coherent : ∀ notice ∈ state.notices, notice.Coherent

/-- How many copies an action is noticed to append to an animation without frames. -/
def idleCopy (state : State) : Action → Nat
  | .again name => if state.authored = 0 ∧ (state.markers.lookup name).isSome then 1 else 0
  | _ => 0

/-- How many copies actions are noticed to append to an animation without frames. -/
def idleCopies (state : State) : List Action → Nat
  | [] => 0
  | action :: later => idleCopy state action + idleCopies (state.perform action) later

namespace Balanced

variable {state : State} {written idle : Nat}

theorem start : Balanced {} 0 0 :=
  ⟨rfl, Nat.le_refl 0, List.forall_mem_nil _, List.forall_mem_nil _⟩

theorem counted (balanced : Balanced state written idle) : state.authored ≤ UInt64.size - 1 := by
  rw [balanced.authored]
  exact Nat.min_le_right _ _

theorem first_le (balanced : Balanced state written idle) {name : String} {first : Nat}
    (known : state.markers.lookup name = some first) : first ≤ state.authored - 1 := by
  obtain ⟨before, after, split, -⟩ := List.lookup_eq_some_iff.1 known
  refine balanced.markers (name, first) ?_
  rw [split]
  exact List.mem_append_right _ List.mem_cons_self

/-- The ledger stays balanced if the length grows by what is written and noticed. -/
theorem grow (balanced : Balanced state written idle) (more : Nat) {next : State}
    {notices : List Notice} (noticed : next.notices = state.notices ++ notices)
    (coherent : ∀ notice ∈ notices, notice.Coherent)
    (length : next.authored = saturate (state.authored + ledger more notices))
    (marked : ∀ marker ∈ next.markers, marker ∈ state.markers ∨ marker.2 = state.authored - 1) :
    Balanced next (written + more) idle := by
  have idle_le := balanced.idle_le
  constructor
  · rw [length, noticed, ledger_append, balanced.authored, saturate_saturate_add,
      Nat.sub_add_comm idle_le]
  · rw [noticed, ledger_append]
    exact Nat.le_add_right_of_le idle_le
  · intro marker member
    have bound : marker.2 ≤ state.authored - 1 :=
      (marked marker member).elim (balanced.markers marker) Nat.le_of_eq
    rw [length]
    exact Nat.le_trans bound (Nat.sub_le_sub_right (le_saturate_add balanced.counted _) 1)
  · rw [noticed]
    exact List.forall_mem_append.2 ⟨balanced.coherent, coherent⟩

theorem addFrame (balanced : Balanced state written idle) (frame : Frame) :
    Balanced (state.addFrame frame) (written + 1) idle := by
  rw [State.addFrame_eq]
  refine balanced.grow 1 rfl ?_ ?_ fun _ => .inl
  · intro notice member
    rcases of_mem_fadeNotices member with ⟨line, rfl⟩ | ⟨some, rfl⟩
    · trivial
    · have started := List.length_pos_iff.2 (ne_nil_of_fadeSteps some)
      simp only [Notice.Coherent]
      omega
  · rw [ledger_fadeNotices, ← Nat.add_assoc]

theorem setMarker (balanced : Balanced state written idle) (name : String) :
    Balanced (state.setMarker name) written idle := by
  refine balanced.grow 0 rfl (List.forall_mem_singleton.2 trivial) ?_ ?_
  · exact (Nat.min_eq_left balanced.counted).symm
  · exact List.forall_mem_cons.2 ⟨.inr rfl, fun _ => .inl⟩

/-- A repeat of frames that are there. -/
theorem repeatFrom (balanced : Balanced state written idle) (started : state.authored ≠ 0)
    {name : String} {first : Nat} (known : state.markers.lookup name = some first)
    (copies : Nat) : Balanced (state.repeatFrom name first copies) written idle := by
  have before := balanced.first_le known
  refine balanced.grow 0 rfl (List.forall_mem_singleton.2 before) ?_ fun _ => .inl
  have span : state.authored - 1 - first + 1 = state.authored - first := by omega
  simp [State.repeatFrom, State.notify, ledger, Notice.inserted, Notice.appended, span,
    Nat.mul_comm]

/-- A repeat in an animation without frames is noticed as copies of frame 0. -/
theorem repeatFrom_of_empty (balanced : Balanced state written idle) (empty : state.authored = 0)
    {name : String} {first : Nat} (known : state.markers.lookup name = some first)
    (copies : Nat) : Balanced (state.repeatFrom name first copies) written (idle + copies) := by
  have before := balanced.first_le known
  rw [empty] at before
  obtain rfl := Nat.le_zero.1 before
  have entry : ledger written (state.repeatFrom name 0 copies).notices =
      ledger written state.notices + copies := by
    refine (ledger_append written 0 state.notices _).trans ?_
    simp [ledger, Notice.inserted, Notice.appended, empty]
  have still := authored_repeatFrom_of_empty empty name 0 copies
  constructor
  · rw [entry, still, Nat.add_sub_add_right, ← balanced.authored, empty]
  · rw [entry]
    exact Nat.add_le_add_right balanced.idle_le copies
  · rw [still, ← empty]
    exact balanced.markers
  · refine List.forall_mem_append.2 ⟨balanced.coherent, List.forall_mem_singleton.2 ?_⟩
    exact Nat.zero_le _

theorem close (balanced : Balanced state written idle) :
    Balanced { state with closed := true } written idle :=
  ⟨balanced.authored, balanced.idle_le, balanced.markers, balanced.coherent⟩

theorem fade (balanced : Balanced state written idle) (fade : PendingFade) :
    Balanced { state with pendingFade := some fade } written idle :=
  ⟨balanced.authored, balanced.idle_le, balanced.markers, balanced.coherent⟩

/-- What an action adds to the ledger. -/
theorem perform (balanced : Balanced state written idle) (action : Action) :
    Balanced (state.perform action) (written + action.frame?.toList.length)
      (idle + idleCopy state action) := by
  cases action with
  | addFrame frame => exact balanced.addFrame frame
  | fade fade => exact balanced.fade fade
  | mark name => exact balanced.setMarker name
  | again name =>
      cases known : state.markers.lookup name with
      | none =>
          simp only [State.perform, idleCopy, known, Option.isSome_none]
          simpa [Action.frame?] using balanced
      | some first =>
          simp only [State.perform, idleCopy, known, Option.isSome_some, and_true]
          by_cases empty : state.authored = 0
          · rw [if_pos empty]
            exact balanced.repeatFrom_of_empty empty known 1
          · rw [if_neg empty]
            exact balanced.repeatFrom empty known 1
  | forever name =>
      cases known : state.markers.lookup name with
      | none =>
          simp only [State.perform, known]
          exact balanced
      | some first =>
          simp only [State.perform, known]
          by_cases empty : state.authored = 0
          -- No copy of an empty range fits, so none is noticed either.
          · rw [copiesThatFit_of_empty empty]
            exact (balanced.repeatFrom_of_empty empty known 0).close
          · exact (balanced.repeatFrom empty known _).close

/-- What actions add to the ledger. -/
theorem performAll (balanced : Balanced state written idle) (actions : List Action) :
    Balanced (state.performAll actions)
      (written + (actions.filterMap Action.frame?).length)
      (idle + idleCopies state actions) := by
  induction actions generalizing state written idle with
  | nil => exact balanced
  | cons action later ih =>
      have whole := ih (balanced.perform action)
      have frames : (action.frame?.toList.length + (later.filterMap Action.frame?).length) =
          ((action :: later).filterMap Action.frame?).length := by
        cases action <;> simp [List.filterMap_cons, Action.frame?, Nat.add_comm]
      rwa [Nat.add_assoc, Nat.add_assoc, frames] at whole

end Balanced

/-! ## Copies in memory -/

theorem getElem?_flatten_replicate {α : Type} {list : List α} {copies place : Nat}
    (inside : place < copies * list.length) :
    (List.replicate copies list).flatten[place]? = list[place % list.length]? := by
  induction copies generalizing place with
  | zero =>
      rw [Nat.zero_mul] at inside
      exact absurd inside (Nat.not_lt_zero place)
  | succ copies ih =>
      rw [List.replicate_succ, List.flatten_cons]
      rcases Nat.lt_or_ge place list.length with first | behind
      · rw [List.getElem?_append_left first, Nat.mod_eq_of_lt first]
      · rw [Nat.succ_mul] at inside
        rw [List.getElem?_append_right behind, ih (by omega), ← Nat.mod_eq_sub_mod behind]

/-- What is shown stays so if no frame in memory is lost. -/
theorem Notice.Shown.mono {notice : Notice} {frames others : List Frame}
    (shown : notice.Shown frames) (coherent : notice.Coherent)
    (kept : ∀ slot < Board.slotCount, ∀ frame, frames[slot]? = some frame →
      others[slot]? = some frame) : notice.Shown others := by
  cases notice with
  | repeated name first last copies =>
      have ordered : first ≤ last := coherent
      intro place inside inMemory
      obtain ⟨frame, here, there⟩ := shown place inside inMemory
      refine ⟨frame, kept _ ?_ frame here, kept _ inMemory frame there⟩
      have inRange : place % (last - first + 1) < last - first + 1 :=
        Nat.mod_lt place (Nat.zero_lt_succ _)
      omega
  | _ => trivial

/-- What repeats are noticed to append is there, except for copies without a frame to copy. -/
def State.Copied (state : State) (idle : Nat) : Prop :=
  ∀ notice ∈ state.notices, notice.Shown state.frames ∨
    0 < idle ∧ ∃ name, notice = .repeated name 0 0 1

namespace State.Copied

variable {state next : State} {written idle more : Nat}

/-- What is shown stays so in a state that extends this one. -/
theorem append (copied : state.Copied idle) (balanced : Balanced state written idle)
    (extended : Extends state next) {notices : List Notice}
    (noticed : next.notices = state.notices ++ notices)
    (shown : ∀ notice ∈ notices, notice.Shown next.frames ∨
      0 < idle + more ∧ ∃ name, notice = .repeated name 0 0 1) : next.Copied (idle + more) := by
  unfold Copied
  rw [noticed]
  refine List.forall_mem_append.2 ⟨fun notice member => ?_, shown⟩
  refine (copied notice member).imp (fun shown => ?_) (And.imp_left (Nat.lt_add_right more))
  refine shown.mono (balanced.coherent notice member) fun slot _ frame found => ?_
  obtain ⟨inside, rfl⟩ := List.getElem?_eq_some_iff.1 found
  exact List.prefix_iff_getElem?.1 extended.frames slot inside

/-- The copies of frames that are there. -/
theorem shown_repeatFrom (inside : state.frames.length < Board.slotCount →
      state.authored = state.frames.length)
    (beyond : Board.slotCount ≤ state.frames.length → Board.slotCount ≤ state.authored)
    (started : state.authored ≠ 0) {first : Nat} (before : first ≤ state.authored - 1)
    (name : String) (copies : Nat) :
    (Notice.repeated name first (state.authored - 1) copies).Shown
      (state.repeatFrom name first copies).frames := by
  intro place inCopies inMemory
  have ended : state.authored - 1 + 1 = state.authored := Nat.succ_pred_eq_of_ne_zero started
  rw [ended] at inMemory
  have room : state.frames.length < Board.slotCount := by
    by_contra full
    exact absurd (beyond (Nat.le_of_not_lt full)) (by omega)
  have length := inside room
  have span : state.authored - 1 - first + 1 = (state.frames.drop first).length := by
    rw [List.length_drop, ← length]
    omega
  rw [span] at inCopies ⊢
  have source := Nat.mod_lt place (Nat.pos_of_lt_mul_left inCopies)
  refine ⟨(state.frames.drop first)[place % (state.frames.drop first).length], ?_, ?_⟩
  · rw [List.getElem_drop]
    rw [List.length_drop] at source
    exact (List.getElem?_append_left (by omega)).trans (List.getElem?_eq_getElem _)
  · rw [ended, length]
    refine (List.getElem?_append_right (Nat.le_add_right _ _)).trans ?_
    rw [Nat.add_sub_cancel_left, List.getElem?_take_of_lt (by omega),
      getElem?_flatten_replicate inCopies, List.getElem?_eq_getElem source]

theorem perform (copied : state.Copied idle) (balanced : Balanced state written idle)
    (inside : state.frames.length < Board.slotCount → state.authored = state.frames.length)
    (beyond : Board.slotCount ≤ state.frames.length → Board.slotCount ≤ state.authored)
    (action : Action) : (state.perform action).Copied (idle + idleCopy state action) := by
  have extended : Extends state (state.perform action) :=
    (Extends.invariant state).perform (Extends.refl balanced.counted) fun _ _ => trivial
  cases action with
  | addFrame frame =>
      refine copied.append balanced extended (congrArg State.notices (state.addFrame_eq frame)) ?_
      intro notice member
      rcases of_mem_fadeNotices member with ⟨line, rfl⟩ | ⟨-, speed, rfl⟩
      · exact .inl trivial
      · exact .inl trivial
  | fade fade => exact copied
  | mark name => exact copied.append balanced extended rfl (by simp [Notice.Shown])
  | again name =>
      cases known : state.markers.lookup name with
      | none =>
          simp only [State.perform, idleCopy, known, Option.isSome_none]
          simpa using copied
      | some first =>
          simp only [State.perform, known] at extended ⊢
          refine copied.append balanced extended rfl (List.forall_mem_singleton.2 ?_)
          have before := balanced.first_le known
          by_cases empty : state.authored = 0
          · rw [empty] at before ⊢
            obtain rfl := Nat.le_zero.1 before
            exact .inr ⟨by simp [idleCopy, empty, known], name, rfl⟩
          · exact .inl (shown_repeatFrom inside beyond empty before name 1)
  | forever name =>
      cases known : state.markers.lookup name with
      | none =>
          simp only [State.perform, known]
          exact copied
      | some first =>
          simp only [State.perform, known] at extended ⊢
          refine copied.append balanced extended rfl (List.forall_mem_singleton.2 (.inl ?_))
          by_cases empty : state.authored = 0
          · rw [copiesThatFit_of_empty empty]
            intro place inside
            rw [Nat.zero_mul] at inside
            cases inside
          · exact shown_repeatFrom inside beyond empty (balanced.first_le known) name _

end State.Copied

theorem idleCopies_append (state : State) (actions others : List Action) :
    idleCopies state (actions ++ others) =
      idleCopies state actions + idleCopies (state.performAll actions) others := by
  induction actions generalizing state with
  | nil => exact (Nat.zero_add _).symm
  | cons action later ih =>
      rw [List.cons_append, idleCopies, idleCopies, ih, Nat.add_assoc]
      rfl

/-- What repeats are noticed to append is there after all actions. -/
theorem copied_performAll (actions : List Action) :
    (({} : State).performAll actions).Copied (idleCopies {} actions) := by
  induction actions using List.reverseRecOn with
  | nil => exact List.forall_mem_nil _
  | append_singleton actions action ih =>
      have balanced := Balanced.start.performAll actions
      rw [Nat.zero_add, Nat.zero_add] at balanced
      rw [idleCopies_append, State.performAll_append]
      exact ih.perform balanced (performAll_inside actions)
        (Shows.start.performAll actions).beyond action

/-! ## Idle repeats -/

theorem idleCopies_gathered (state : State) (gathered : PartialFrame) (actions : List Action) :
    idleCopies { state with gathered } actions = idleCopies state actions := by
  induction actions generalizing state with
  | nil => rfl
  | cons action later ih =>
      have one : ({ state with gathered } : State).perform action =
          { state.perform action with gathered } := state.performAll_gathered gathered [action]
      have same : idleCopy { state with gathered } action = idleCopy state action := by
        cases action <;> rfl
      rw [idleCopies, idleCopies, one, ih, same]

/-- Nothing is idle once there is a frame. -/
theorem idleCopies_of_started {state : State} (started : state.authored ≠ 0)
    (counted : state.authored ≤ UInt64.size - 1) (actions : List Action) :
    idleCopies state actions = 0 := by
  induction actions generalizing state with
  | nil => rfl
  | cons action later ih =>
      have extended : Extends state (state.perform action) :=
        (Extends.invariant state).perform (Extends.refl counted) fun _ _ => trivial
      have here : idleCopy state action = 0 := by
        cases action with
        | again name => exact if_neg fun both => started both.1
        | _ => rfl
      have goesOn : (state.perform action).authored ≠ 0 := fun empty =>
        started (Nat.le_zero.1 (empty ▸ extended.authored))
      rw [idleCopies, here, ih goesOn extended.counted]

theorem repeatsOnce_eq (text : String) : repeatsOnce text = decide (kind text = .again) := by
  have fits := kind_fits text
  rw [repeatsOnce, fits.again, fits.forever]
  cases kind text <;> rfl

/-- A line without levels is idle if it repeats once what is not there. -/
theorem idleCopies_of_separator {defaults : Defaults} {line : Nat} {text : String} {state : State}
    {next : Reader} {actions : List Action} (empty : state.authored = 0)
    (separator : isDataLine text = false) (between : state.reader.gathered.isEmpty = true)
    (stepped : state.reader.step defaults line text = .ok (next, actions)) :
    idleCopies state actions = if repeatsOnce text then 1 else 0 := by
  have admitted := Reader.admits_of_step between stepped
  rw [Reader.step_separator separator between admitted] at stepped
  cases stepped
  rw [repeatsOnce_eq, Reader.actionsOf]
  cases is : kind text with
  | again =>
      obtain ⟨first, known⟩ := State.mem_reader_names_iff.1
        (admitted.known (by rw [(kind_fits text).again, is]; rfl))
      simp [idleCopies, idleCopy, empty, known]
  | _ => rfl

/-- Actions without frames leave an animation without frames. -/
theorem authored_of_frameless {state : State} (empty : state.authored = 0) {actions : List Action}
    (frameless : actions.filterMap Action.frame? = []) :
    (state.performAll actions).authored = 0 := by
  induction actions generalizing state with
  | nil => exact empty
  | cons action later ih =>
      cases action with
      | addFrame frame => cases frameless
      | fade fade => exact ih empty frameless
      | mark name => exact ih empty frameless
      | again name =>
          refine ih ?_ frameless
          simp only [State.perform]
          cases state.markers.lookup name with
          | none => exact empty
          | some first => exact authored_repeatFrom_of_empty empty name first _
      | forever name =>
          refine ih ?_ frameless
          simp only [State.perform]
          cases state.markers.lookup name with
          | none => exact empty
          | some first => exact authored_repeatFrom_of_empty empty name first _

/-- A frame that is begun is completed before anything else is done. -/
theorem exists_frame_of_run {defaults : Defaults} {line : Nat} {lines : List String}
    {reader last : Reader} {actions : List Action} (sound : reader.Sound)
    (begun : reader.gathered.isEmpty = false ∨ ∃ text ∈ lines.head?, isDataLine text = true)
    (run : Reader.run defaults line lines reader = .ok (last, actions))
    (ended : last.gathered.isEmpty = true) :
    ∃ frame others, actions = .addFrame frame :: others := by
  induction lines generalizing line reader actions with
  | nil =>
      cases run
      rcases begun with occupied | ⟨text, none, -⟩
      · rw [occupied] at ended
        cases ended
      · cases none
  | cons text later ih =>
      obtain ⟨next, first, others, stepped, rest, rfl⟩ := run_cons_iff.1 run
      cases Reader.step_cases sound stepped with
      | short data goesOn valid =>
          refine ih (Reader.step_sound sound stepped) (.inl ?_) rest
          rw [PartialFrame.isEmpty, PartialFrame.collect_pending]
          exact List.isEmpty_eq_false_iff.2 (List.append_ne_nil_of_right_ne_nil _
            (levelsOf_ne_nil data valid))
      | full data goesOn valid full frame => exact ⟨frame, others, rfl⟩
      | separator separator empty =>
          rcases begun with occupied | ⟨text, head, data⟩
          · rw [occupied] at empty
            cases empty
          · cases head
            rw [data] at separator
            cases separator

/-- The copies that are noticed without a frame to copy are the repeats before the first frame. -/
theorem idleCopies_of_run {defaults : Defaults} {line : Nat} {lines : List String} {state : State}
    {last : Reader} {actions : List Action} (sound : state.reader.Sound)
    (empty : state.authored = 0) (between : state.reader.gathered.isEmpty = true)
    (run : Reader.run defaults line lines state.reader = .ok (last, actions))
    (ended : last.gathered.isEmpty = true) :
    idleCopies state actions = idleRepeats lines := by
  induction lines generalizing line state actions with
  | nil =>
      cases run
      rfl
  | cons text later ih =>
      cases data : isDataLine text with
      | true =>
          obtain ⟨frame, others, rfl⟩ :=
            exists_frame_of_run sound (.inr ⟨text, rfl, data⟩) run ended
          have extended : Extends state (state.addFrame frame) :=
            (Extends.refl (empty ▸ Nat.zero_le _)).addFrame frame
          have started : (state.addFrame frame).authored ≠ 0 := by
            rw [State.addFrame_eq, empty]
            exact Nat.ne_of_gt (Nat.lt_min.2 ⟨by omega, by decide⟩)
          have none : idleRepeats (text :: later) = 0 := by
            simp [idleRepeats, data]
          rw [none]
          exact (Nat.zero_add _).trans (idleCopies_of_started started extended.counted others)
      | false =>
          obtain ⟨next, first, others, stepped, rest, rfl⟩ := run_cons_iff.1 run
          obtain ⟨actions, again, frameless⟩ := Reader.step_of_admits data between
            (Reader.admits_of_step between stepped) line
          obtain ⟨rfl, rfl⟩ := Prod.mk.inj (Except.ok.inj (again.symm.trans stepped))
          have reached : (state.advance (_, actions)).reader = state.reader.after defaults text :=
            State.step_reader stepped
          have goesOn := Reader.step_sound sound stepped
          rw [← reached] at rest goesOn
          have behind := ih goesOn (authored_of_frameless empty frameless)
            (reached ▸ between) rest
          have here := idleCopies_of_separator empty data between stepped
          rw [State.advance, idleCopies_gathered] at behind
          rw [idleCopies_append, here, behind]
          simp [idleRepeats, data, List.countP_cons, Nat.add_comm]

/-! ## Written frames -/

theorem length_groupLevels_flatten {groups : List (List (String × Nat))}
    (complete : ∀ group ∈ groups, (groupLevels group).length = Board.ledCount) :
    (groupLevels groups.flatten).length = groups.length * Board.ledCount := by
  induction groups with
  | nil => rfl
  | cons group others ih =>
      obtain ⟨here, there⟩ := List.forall_mem_cons.1 complete
      rw [List.flatten_cons, groupLevels_append, List.length_append, here, ih there,
        List.length_cons, Nat.succ_mul, Nat.add_comm]

/-- The actions of a script complete the frames that are written in it. -/
theorem writtenFrames_of_read {defaults : Defaults} {lines : List String} {actions : List Action}
    (accepted : read defaults lines = .ok actions) :
    (actions.filterMap Action.frame?).length = writtenFrames lines := by
  obtain ⟨groups, grammatical⟩ := grammatical_of_read accepted
  obtain ⟨same, again, shapes⟩ := read_of_grammatical grammatical
  cases accepted.symm.trans again
  have written : groupLevels groups.flatten = (lines.filter isDataLine).flatMap levelsOf := by
    have texts : lines = (numbered lines).map Prod.fst := (List.zipIdx_map_fst 1 lines).symm
    rw [flatten_of_grouping grammatical.grouped, groupLevels]
    conv => rhs; rw [texts, List.filter_map, List.flatMap_map]
    rfl
  rw [writtenFrames, ← written, length_groupLevels_flatten grammatical.grouped.complete,
    Nat.mul_div_cancel _ (by decide : 0 < Board.ledCount), shapes.length_eq]

/-! ## Animations -/

/-- What is noticed at the end of a script accounts for nothing. -/
theorem accounted_of_balanced {lines : List String} {state : State}
    (balanced : Balanced state (writtenFrames lines) (idleRepeats lines))
    (copied : state.Copied (idleRepeats lines)) (last : Frame) (fit : Fit) :
    Accounted lines {
      frames := Memory.filled state.frames last
      notices := state.notices ++ danglingNotices state.pendingFade ++ [.fitted fit]
      authored := state.authored } := by
  have whole : ledger (writtenFrames lines)
      (state.notices ++ danglingNotices state.pendingFade ++ [.fitted fit]) =
        ledger (writtenFrames lines) state.notices := by
    have split := ledger_append (writtenFrames lines) 0 state.notices
      (danglingNotices state.pendingFade ++ [.fitted fit])
    rwa [ledger_danglingNotices, Nat.add_zero, Nat.add_zero, ← List.append_assoc] at split
  have ofEnd : ∀ notice ∈ danglingNotices state.pendingFade ++ [.fitted fit],
      notice.Coherent ∧ ∀ frames, notice.Shown frames := by
    cases state.pendingFade <;> simp [danglingNotices, Notice.Coherent, Notice.Shown]
  obtain ⟨length, idle_le, -, coherent⟩ := balanced
  rw [← whole] at length idle_le
  refine ⟨idle_le, length, ?_, ?_, ?_⟩
  · rw [List.append_assoc]
    exact List.forall_mem_append.2 ⟨coherent, fun notice member => (ofEnd notice member).1⟩
  · rw [List.append_assoc]
    refine List.forall_mem_append.2 ⟨fun notice member => ?_, fun notice member =>
      .inl ((ofEnd notice member).2 _)⟩
    refine (copied notice member).imp_left fun shown => ?_
    refine shown.mono (coherent notice member) fun slot inMemory frame found => ?_
    rw [filled_getElem? last inMemory (List.getElem?_eq_some_iff.1 found).1]
    exact found
  · simp only [saturate_eq] at length ⊢
    omega

/-- **The notices are the ledger of the animation.** Every animation has as many frames as are
written in its script, noticed as inserted by fades and noticed as appended by repeats, less one for
each repeat before the first frame. The indices of a fade fit its count, and what a repeat of
frames is noticed to append is there. -/
theorem accounted_of_compile {defaults : Defaults} {lines : List String} {animation : Animation}
    (compiled : compile defaults lines = .ok animation) : Accounted lines animation := by
  obtain ⟨actions, last, accepted, -, rfl⟩ := exists_ending_of_compile compiled
  obtain ⟨reader, run, -, ended⟩ := read_iff.1 accepted
  have balanced := Balanced.start.performAll actions
  have copied := copied_performAll actions
  have idle : idleCopies {} actions = idleRepeats lines :=
    idleCopies_of_run Reader.sound_empty rfl rfl run ended
  rw [Nat.zero_add, Nat.zero_add, idle, writtenFrames_of_read accepted] at balanced
  rw [idle] at copied
  exact accounted_of_balanced balanced copied last _

/-- A fade and repeats of it, behind a repeat of nothing. -/
def repeatedFade : List String :=
  ["set_marker: dawn", "repeat: dawn", "000000000000000000000000", "fade_to: 3",
    "777777777777", "777777777777", "repeat: dawn", "repeat_forever: dawn"]

theorem accounted_repeatedFade :
    ∃ animation, compile {} repeatedFade = .ok animation ∧ idleRepeats repeatedFade = 1 ∧
      writtenFrames repeatedFade = 2 ∧ Accounted repeatedFade animation := by
  obtain ⟨animation, compiled⟩ := exists_of_isOk
    (show (compile {} repeatedFade).isOk = true by decide +kernel)
  exact ⟨animation, compiled, by decide +kernel, by decide +kernel, accounted_of_compile compiled⟩

/-- A script that repeats before its first frame. -/
def idleRepeat : List String :=
  ["set_marker", "repeat", "000000000000000000000000"]

theorem report_idleRepeat :
    (compile {} idleRepeat).toOption.map (fun animation =>
        (animation.authored, animation.notices)) =
      some (1, [.markerSet "default" 0, .repeated "default" 0 0 1, .fitted (.padded 255)]) := by
  decide +kernel

/-- The repeat of an animation without frames is noticed as one copy of frame 0, and nothing is
appended. -/
theorem not_balanced_idleRepeat :
    ∃ animation, compile {} idleRepeat = .ok animation ∧
      .repeated "default" 0 0 1 ∈ animation.notices ∧
      animation.authored ≠
        min (ledger (writtenFrames idleRepeat) animation.notices) (2 ^ 64 - 1) := by
  obtain ⟨animation, compiled⟩ := exists_of_isOk
    (show (compile {} idleRepeat).isOk = true by decide +kernel)
  have written : writtenFrames idleRepeat = 1 := by decide +kernel
  have report := report_idleRepeat
  rw [compiled] at report
  obtain ⟨authored, notices⟩ := Prod.mk.inj (Option.some.inj report)
  refine ⟨animation, compiled, ?_⟩
  rw [authored, notices, written]
  decide

end TreeBoard.Script
