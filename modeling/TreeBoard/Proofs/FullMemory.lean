import Mathlib.Algebra.Order.Ring.Nat
import TreeBoard.Proofs.Unbounded

/-!
# A full memory that is described truly

An animation says how long it was before it was fitted into memory, and its last notice says how it
was fitted. Both are right however frames, fades and repeats were mixed, because no action lets the
kept frames outgrow the length.

Results:
1. `Counted.invariant`, no action lets the kept frames outgrow the length.
2. `described_of_compile`, a compiled animation fills the memory and is described truly.
-/

namespace TreeBoard

/-- Whether a notice tells how the animation was fitted into memory. -/
def Script.Notice.isFit : Script.Notice → Bool
  | .fitted _ => true
  | _ => false

/-- An animation fills the memory, and what it says about its length is true. -/
structure Animation.Described (animation : Animation) : Prop where
  started : 1 ≤ animation.authored
  full : animation.frames.length = Board.slotCount
  /-- The last notice, and no other, tells how the animation was fitted. -/
  last : ∃ earlier fit, animation.notices = earlier ++ [.fitted fit] ∧
    (∀ notice ∈ earlier, notice.isFit = false) ∧ animation.fit? = some fit
  exact_iff : animation.fit? = some .exact ↔ animation.authored = Board.slotCount
  truncated_iff (dropped : Nat) : animation.fit? = some (.truncated dropped) ↔
    Board.slotCount < animation.authored ∧ dropped = animation.authored - Board.slotCount
  padded_iff (added : Nat) : animation.fit? = some (.padded added) ↔
    animation.authored < Board.slotCount ∧ added = Board.slotCount - animation.authored
  /-- The slots behind the end of the animation hold its last frame. -/
  padding : ∀ slot, animation.authored ≤ slot → slot < Board.slotCount →
    animation.frames[slot]? = animation.frames[animation.authored - 1]?

namespace Script

/-! ## What is kept is counted -/

/-- The length reaches the number of kept frames, as far as it can count, and no notice speaks of
the memory yet. -/
structure Counted (state : State) : Prop where
  kept : saturate state.frames.length ≤ state.authored
  unfitted : ∀ notice ∈ state.notices, notice.isFit = false

theorem isFit_of_mem_fadeNotices {length : Nat} {ended : Option (PendingFade × List Frame)}
    {notice : Notice} (member : notice ∈ fadeNotices length ended) : notice.isFit = false := by
  obtain _ | ⟨pending, _ | ⟨step, others⟩⟩ := ended
  · cases member
  · rw [List.mem_singleton.1 member]
    rfl
  · rw [List.mem_singleton.1 member]
    rfl

theorem isFit_of_mem_danglingNotices {pending : Option PendingFade} {notice : Notice}
    (member : notice ∈ danglingNotices pending) : notice.isFit = false := by
  obtain ⟨fade, -, rfl⟩ := List.mem_map.1 member
  rfl

/-- What is repeated of the kept frames is at most what is counted. -/
theorem saturate_repeat_le {kept authored first copies appended : Nat}
    (counted : saturate kept ≤ authored) (cut : appended ≤ (kept - first) * copies)
    (room : appended ≤ Board.slotCount - kept) :
    saturate (kept + appended) ≤ saturate (authored + (authored - first) * copies) := by
  have limit : Board.slotCount ≤ UInt64.size - 1 := by decide
  unfold saturate at counted ⊢
  by_cases small : kept ≤ UInt64.size - 1
  · have fewer : kept ≤ authored := by omega
    have copied : (kept - first) * copies ≤ (authored - first) * copies :=
      Nat.mul_le_mul_right copies (Nat.sub_le_sub_right fewer first)
    omega
  · omega

namespace Counted

variable {state : State}

theorem notify {notice : Notice} (counted : Counted state) (other : notice.isFit = false) :
    Counted (state.notify notice) where
  kept := counted.kept
  unfitted := by
    intro found member
    rcases List.mem_append.1 member with before | new
    · exact counted.unfitted found before
    · rw [List.mem_singleton.1 new]
      exact other

theorem addFrame (counted : Counted state) (frame : Frame) : Counted (state.addFrame frame) := by
  have kept := counted.kept
  rw [State.addFrame_eq]
  constructor
  · simp only [List.length_append, List.length_singleton]
    unfold saturate at kept ⊢
    omega
  · intro notice member
    rcases List.mem_append.1 member with before | ended
    · exact counted.unfitted notice before
    · exact isFit_of_mem_fadeNotices ended

theorem repeatFrom (counted : Counted state) (name : String) (first copies : Nat) :
    Counted (state.repeatFrom name first copies) := by
  suffices grown : Counted { state with
      frames := state.frames ++ (List.replicate copies (state.frames.drop first)).flatten.take
        (Board.slotCount - state.frames.length)
      authored := saturate (state.authored + (state.authored - first) * copies) } from
    grown.notify rfl
  refine ⟨?_, counted.unfitted⟩
  rw [List.length_append]
  refine saturate_repeat_le counted.kept ?_ (List.length_take_le _ _)
  refine Nat.le_trans (List.length_take_le' _ _) ?_
  simp [Nat.mul_comm]

theorem setMarker (counted : Counted state) (name : String) : Counted (state.setMarker name) := by
  have known : Counted { state with markers := (name, state.authored - 1) :: state.markers } :=
    ⟨counted.kept, counted.unfitted⟩
  exact known.notify rfl

theorem invariant : Invariant Counted fun _ => True where
  addFrame counted _ := counted.addFrame _
  fade _ counted := ⟨counted.kept, counted.unfitted⟩
  setMarker name counted := counted.setMarker name
  repeatFrom copies counted _ := counted.repeatFrom _ _ copies
  close counted := ⟨counted.kept, counted.unfitted⟩

theorem start : Counted {} :=
  ⟨Nat.zero_le _, List.forall_mem_nil _⟩

end Counted

/-! ## The end of a script -/

theorem fit?_eq {earlier : List Notice} (unfitted : ∀ notice ∈ earlier, notice.isFit = false)
    (frames : List Frame) (fit : Fit) (authored : Nat) :
    Animation.fit? ⟨frames, earlier ++ [.fitted fit], authored⟩ = some fit := by
  unfold Animation.fit?
  rw [List.findSome?_append, List.findSome?_eq_none_iff.2]
  · rfl
  · intro notice member
    cases notice with
    | fitted other => cases unfitted _ member
    | _ => rfl

/-- Behind the end of the animation the memory is filled with its last frame. -/
theorem filled_padding {frames : List Frame} {last : Frame} (ends : frames.getLast? = some last)
    {slot : Nat} (behind : frames.length ≤ slot) (inMemory : slot < Board.slotCount) :
    (Memory.filled frames last)[slot]? = (Memory.filled frames last)[frames.length - 1]? := by
  have before : frames.length - 1 < Board.slotCount := by omega
  rw [List.getLast?_eq_getElem?] at ends
  simp only [Memory.filled, List.getElem?_map, List.getElem?_range inMemory,
    List.getElem?_range before, Option.map_some, List.getD_eq_getElem?_getD, ends,
    List.getElem?_eq_none behind]
  rfl

theorem ofLength_exact_iff {length : Nat} :
    Fit.ofLength length = .exact ↔ length = Board.slotCount := by
  unfold Fit.ofLength
  split
  · rename_i exact
    exact iff_of_true rfl exact
  · rename_i other
    split <;> exact iff_of_false (nomatch ·) other

theorem ofLength_truncated_iff {length dropped : Nat} :
    Fit.ofLength length = .truncated dropped ↔
      Board.slotCount < length ∧ dropped = length - Board.slotCount := by
  unfold Fit.ofLength
  split
  · exact iff_of_false (nomatch ·) (by omega)
  · split
    · rw [Fit.truncated.injEq]
      omega
    · exact iff_of_false (nomatch ·) (by omega)

theorem ofLength_padded_iff {length added : Nat} :
    Fit.ofLength length = .padded added ↔
      length < Board.slotCount ∧ added = Board.slotCount - length := by
  unfold Fit.ofLength
  split
  · exact iff_of_false (nomatch ·) (by omega)
  · split
    · exact iff_of_false (nomatch ·) (by omega)
    · rw [Fit.padded.injEq]
      omega

/-- What ends as an animation is described truly, if the kept frames can be counted. -/
theorem described_of_ending {actions : List Action} {animation : Animation}
    (started : (({} : State).performAll actions).frames ≠ [])
    (stored : (({} : State).performAll actions).frames.length < 2 ^ 63)
    (ends : (({} : State).performAll actions).ending = .ok animation) : animation.Described := by
  have counted := Counted.invariant.performAll Counted.start
    (fun _ _ _ _ => trivial : Complete _ actions)
  have inside := performAll_inside actions
  have beyond := (Shows.start.performAll actions).beyond
  generalize ({} : State).performAll actions = state at *
  have here := List.getLast?_eq_some_getLast started
  have nonempty : 0 < state.frames.length := List.length_pos_iff.2 started
  have kept : state.frames.length ≤ state.authored := by
    have limit : 2 ^ 63 ≤ UInt64.size - 1 := by decide
    have reached := counted.kept
    unfold saturate at reached
    omega
  rw [State.ending_eq here inside beyond, Nat.max_eq_left kept] at ends
  cases ends
  have unfitted : ∀ notice ∈ state.notices ++ danglingNotices state.pendingFade,
      notice.isFit = false := by
    intro notice member
    rcases List.mem_append.1 member with before | dangling
    · exact counted.unfitted notice before
    · exact isFit_of_mem_danglingNotices dangling
  have fitted := fit?_eq unfitted (Memory.filled state.frames (state.frames.getLast started))
    (Fit.ofLength state.authored) state.authored
  constructor
  · exact Nat.le_trans nonempty kept
  · simp [Memory.filled]
  · exact ⟨_, _, rfl, unfitted, fitted⟩
  · rw [fitted, Option.some.injEq]
    exact ofLength_exact_iff
  · intro dropped
    rw [fitted, Option.some.injEq]
    exact ofLength_truncated_iff
  · intro added
    rw [fitted, Option.some.injEq]
    exact ofLength_padded_iff
  · intro slot behind inMemory
    have short : state.authored < Board.slotCount := Nat.lt_of_le_of_lt behind inMemory
    have exact := inside (Nat.lt_of_le_of_lt kept short)
    simp only [exact] at behind ⊢
    exact filled_padding here behind inMemory

/-- The frames that a script stores are those that its actions keep. -/
theorem exists_run_of_read {defaults : Defaults} {lines : List String} {actions : List Action}
    (accepted : read defaults lines = .ok actions) :
    ∃ state, run defaults 1 lines {} = .ok state ∧
      state.frames = (({} : State).performAll actions).frames := by
  obtain ⟨last, reading, -, -⟩ := read_iff.1 accepted
  have whole := run_eq defaults 1 lines {}
  rw [show ({} : State).reader = {} from rfl, reading] at whole
  cases reached : run defaults 1 lines {} with
  | error failure =>
      rw [reached] at whole
      cases whole
  | ok state =>
      rw [reached] at whole
      cases whole
      exact ⟨_, rfl, rfl⟩

/-- **A compiled animation fills the memory and describes itself truly.** The frames that a script
stores are held in a list, which has fewer than `2 ^ 63` of them. -/
theorem described_of_compile {defaults : Defaults} {lines : List String} {animation : Animation}
    (compiled : compile defaults lines = .ok animation)
    (stored : ∀ state, run defaults 1 lines {} = .ok state → state.frames.length < 2 ^ 63) :
    animation.Described := by
  obtain ⟨actions, accepted⟩ := read_of_compile compiled
  obtain ⟨state, reached, frames⟩ := exists_run_of_read accepted
  rw [compile_eq, accepted] at compiled
  exact described_of_ending (read_started accepted) (frames ▸ stored state reached) compiled

/-- A slow fade that is repeated until no whole copy fits any more. -/
def fadingLoop : List String :=
  ["set_marker:dusk", "0000 0000 0000 0000 0000 0000", "fade_to:3", "7070 7070 7070",
    "0123 4567 0000", "repeat_forever:dusk", ""]

theorem fadingLoop_stores :
    ((run {} 1 fadingLoop {}).toOption.map fun state => (state.frames.length, state.authored)) =
      some (242, 242) := by
  decide +kernel

theorem described_fadingLoop :
    ∃ animation, compile {} fadingLoop = .ok animation ∧
      (∀ state, run {} 1 fadingLoop {} = .ok state → state.frames.length < 2 ^ 63) ∧
      animation.Described := by
  have stored : ∀ state, run {} 1 fadingLoop {} = .ok state → state.frames.length < 2 ^ 63 := by
    intro state reached
    have found := fadingLoop_stores
    rw [reached] at found
    have length := congrArg Prod.fst (Option.some.inj found)
    rw [show state.frames.length = 242 from length]
    decide
  obtain ⟨animation, compiled⟩ := exists_of_isOk
    (show (compile {} fadingLoop).isOk = true by decide +kernel)
  exact ⟨animation, compiled, stored, described_of_compile compiled stored⟩

end Script

end TreeBoard
