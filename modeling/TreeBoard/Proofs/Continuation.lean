import TreeBoard.Proofs.EarliestError

/-!
# Continued scripts

Lines that are appended to a script add to its animation and change nothing of it. A fade puts its
frames behind all frames that are there, a repeat copies them, and notices are only added. What a
script comes to at its end, which is the padding of the memory and the notices of the end, is not
part of what is continued.

Results:
1. `Extends.invariant`, every action extends what is there.
2. `exists_ending_of_compile`, what the end of a script makes of its actions.
3. `appended_lines_extend`, an animation and the one of a continued script.
-/

namespace TreeBoard.Script

/-! ## Definitions -/

/-- Whether a notice is given only at the end of a script. -/
def Notice.isFinal : Notice → Bool
  | .danglingFade _ => true
  | .fitted _ => true
  | _ => false

/-- The notices of an animation without those of the end: the fit, and the fade before it that no
frame has followed. -/
def withoutEnding (notices : List Notice) : List Notice :=
  match notices.reverse with
  | .fitted _ :: .danglingFade _ :: earlier => earlier.reverse
  | .fitted _ :: earlier => earlier.reverse
  | _ => notices

/-- What is there in a state is the beginning of what is there in a later one. The later length is
one that can be counted. -/
structure Extends (earlier later : State) : Prop where
  frames : earlier.frames <+: later.frames
  notices : earlier.notices <+: later.notices
  authored : earlier.authored ≤ later.authored
  counted : later.authored ≤ UInt64.size - 1

/-- No notice of the end has been given. -/
def State.Unended (state : State) : Prop :=
  ∀ notice ∈ state.notices, notice.isFinal = false

/-! ## Actions only add -/

theorem le_saturate_add {length : Nat} (counted : length ≤ UInt64.size - 1) (more : Nat) :
    length ≤ saturate (length + more) :=
  Nat.le_min.2 ⟨Nat.le_add_right _ _, counted⟩

namespace Extends

variable {earlier state : State}

theorem refl (counted : state.authored ≤ UInt64.size - 1) : Extends state state :=
  ⟨List.prefix_rfl, List.prefix_rfl, Nat.le_refl _, counted⟩

/-- A state extends another one if it appends frames, appends notices and counts further. -/
theorem append (extended : Extends earlier state) {next : State} {frames : List Frame}
    {notices : List Notice} {more : Nat} (appended : next.frames = state.frames ++ frames)
    (noticed : next.notices = state.notices ++ notices)
    (length : next.authored = saturate (state.authored + more)) : Extends earlier next where
  frames := by
    rw [appended]
    exact extended.frames.trans (List.prefix_append _ _)
  notices := by
    rw [noticed]
    exact extended.notices.trans (List.prefix_append _ _)
  authored := by
    rw [length]
    exact Nat.le_trans extended.authored (le_saturate_add extended.counted more)
  counted := by
    rw [length]
    exact Nat.min_le_right _ _

theorem addFrame (extended : Extends earlier state) (frame : Frame) :
    Extends earlier (state.addFrame frame) := by
  rw [State.addFrame_eq]
  exact extended.append (List.append_assoc _ _ _) rfl (congrArg saturate (Nat.add_assoc _ _ _))

theorem setMarker (extended : Extends earlier state) (name : String) :
    Extends earlier (state.setMarker name) :=
  ⟨extended.frames, extended.notices.trans (List.prefix_append _ _), extended.authored,
    extended.counted⟩

theorem repeatFrom (extended : Extends earlier state) (name : String) (first copies : Nat) :
    Extends earlier (state.repeatFrom name first copies) :=
  extended.append rfl rfl rfl

theorem invariant (earlier : State) : Invariant (Extends earlier) fun _ => True where
  addFrame extended _ := extended.addFrame _
  fade _ extended := ⟨extended.frames, extended.notices, extended.authored, extended.counted⟩
  setMarker name extended := extended.setMarker name
  repeatFrom copies extended _ := extended.repeatFrom _ _ copies
  close extended := ⟨extended.frames, extended.notices, extended.authored, extended.counted⟩

/-- Actions extend what other actions have made. -/
theorem performAll_append (actions others : List Action) :
    Extends (({} : State).performAll actions) (({} : State).performAll (actions ++ others)) := by
  have complete (actions : List Action) : Complete (fun _ => True) actions :=
    fun _ _ _ _ => trivial
  have start : Extends {} {} := refl (Nat.zero_le _)
  have before := (invariant {}).performAll start (complete actions)
  rw [State.performAll_append]
  exact (invariant _).performAll (refl before.counted) (complete others)

end Extends

namespace State.Unended

variable {state : State}

theorem append (unended : state.Unended) {notices : List Notice}
    (others : ∀ notice ∈ notices, notice.isFinal = false) :
    ({ state with notices := state.notices ++ notices } : State).Unended :=
  List.forall_mem_append.2 ⟨unended, others⟩

theorem addFrame (unended : state.Unended) (frame : Frame) : (state.addFrame frame).Unended := by
  rw [addFrame_eq]
  refine unended.append fun notice member => ?_
  rcases of_mem_fadeNotices member with ⟨line, rfl⟩ | ⟨-, speed, rfl⟩
  · rfl
  · rfl

theorem invariant : Invariant State.Unended fun _ => True where
  addFrame unended _ := unended.addFrame _
  fade _ unended := unended
  setMarker _ unended := unended.append (List.forall_mem_singleton.2 rfl)
  repeatFrom _ unended _ := unended.append (List.forall_mem_singleton.2 rfl)
  close unended := unended

/-- The notices of the end can be told from those before them. -/
theorem withoutEnding_eq (unended : state.Unended) (pending : Option PendingFade) (fit : Fit) :
    withoutEnding (state.notices ++ danglingNotices pending ++ [.fitted fit]) = state.notices := by
  unfold withoutEnding
  cases pending with
  | some fade => simp [danglingNotices]
  | none =>
      simp only [danglingNotices, Option.toList_none, List.map_nil, List.append_nil,
        List.reverse_append, List.reverse_singleton, List.singleton_append]
      cases reversed : state.notices.reverse with
      | nil => simp_all
      | cons notice others =>
          have ongoing := unended notice (List.mem_reverse.1 (reversed ▸ List.mem_cons_self))
          cases notice with
          | danglingFade line => cases ongoing
          | _ => simp [← reversed]

end State.Unended

/-! ## Animations -/

/-- A slot before the end of the animation holds the frame of its number. -/
theorem filled_getElem? {frames : List Frame} {slot : Nat} (last : Frame)
    (inMemory : slot < Board.slotCount) (inside : slot < frames.length) :
    (Memory.filled frames last)[slot]? = frames[slot]? := by
  rw [Memory.filled, List.getElem?_map, List.getElem?_range inMemory, Option.map_some,
    List.getD_eq_getElem?_getD, List.getElem?_eq_getElem inside]
  rfl

/-- A script that compiles is read, and its animation is what its actions come to at the end. -/
theorem exists_ending_of_compile {defaults : Defaults} {lines : List String}
    {animation : Animation} (compiled : compile defaults lines = .ok animation) :
    ∃ actions last, read defaults lines = .ok actions ∧
      (({} : State).performAll actions).frames.getLast? = some last ∧
      animation = {
        frames := Memory.filled (({} : State).performAll actions).frames last
        notices := (({} : State).performAll actions).notices ++
          danglingNotices (({} : State).performAll actions).pendingFade ++
          [.fitted (Fit.ofLength (max (({} : State).performAll actions).authored
            (({} : State).performAll actions).frames.length))]
        authored := (({} : State).performAll actions).authored } := by
  obtain ⟨actions, accepted⟩ := read_of_compile compiled
  have ends := List.getLast?_eq_some_getLast (read_started accepted)
  rw [compile_eq, accepted] at compiled
  exact ⟨actions, _, accepted, ends, Except.ok.inj (compiled.symm.trans
    (State.ending_eq ends (performAll_inside actions) (Shows.start.performAll actions).beyond))⟩

/-- The actions of a continued script begin with those of the script. -/
theorem exists_actions_of_continued {defaults : Defaults} {lines more : List String}
    {actions whole : List Action} (accepted : read defaults lines = .ok actions)
    (continued : read defaults (lines ++ more) = .ok whole) :
    ∃ others, whole = actions ++ others := by
  obtain ⟨reader, run, -, -⟩ := read_iff.1 accepted
  obtain ⟨last, further, -, -⟩ := read_iff.1 continued
  obtain ⟨mid, first, others, reached, -, rfl⟩ := Reader.run_append_iff.1 further
  rw [run] at reached
  cases reached
  exact ⟨others, rfl⟩

/-- **Appended lines never change what is there.** If a script compiles and also compiles with more
lines behind it, then the animation gets no shorter, keeps every frame that it has in memory, and
keeps what was noticed before the end. -/
theorem appended_lines_extend {defaults : Defaults} {lines more : List String}
    {shorter longer : Animation} (compiled : compile defaults lines = .ok shorter)
    (continued : compile defaults (lines ++ more) = .ok longer) :
    shorter.authored ≤ longer.authored ∧
      (∀ slot < min Board.slotCount shorter.authored, ∃ frame,
        shorter.frames[slot]? = some frame ∧ longer.frames[slot]? = some frame) ∧
      withoutEnding shorter.notices <+: longer.notices := by
  obtain ⟨actions, last, accepted, -, rfl⟩ := exists_ending_of_compile compiled
  obtain ⟨whole, last', accepted', -, rfl⟩ := exists_ending_of_compile continued
  obtain ⟨others, rfl⟩ := exists_actions_of_continued accepted accepted'
  have extended := Extends.performAll_append actions others
  have inside := performAll_inside actions
  have unended : (({} : State).performAll actions).Unended :=
    State.Unended.invariant.performAll (List.forall_mem_nil _) fun _ _ _ _ => trivial
  refine ⟨extended.authored, ?_, ?_⟩
  · intro slot authored
    obtain ⟨inMemory, counted⟩ := Nat.lt_min.1 authored
    have kept : slot < (({} : State).performAll actions).frames.length := by
      by_contra behind
      have short := Nat.lt_of_le_of_lt (Nat.le_of_not_lt behind) inMemory
      rw [inside short] at counted
      exact behind counted
    have keptStill := Nat.lt_of_lt_of_le kept extended.frames.length_le
    refine ⟨_, (filled_getElem? last inMemory kept).trans (List.getElem?_eq_getElem kept), ?_⟩
    rw [filled_getElem? last' inMemory keptStill]
    exact List.prefix_iff_getElem?.1 extended.frames slot kept
  · rw [unended.withoutEnding_eq]
    exact extended.notices.trans (List.append_assoc _ _ _ ▸ List.prefix_append _ _)

/-- A script that ends in a fade, and lines that make use of the fade and repeat the frames. -/
def unfinishedFade : List String × List String :=
  (["set_marker", "777777777777777777777777", "fade_to:9"],
    ["", "000000000000000000000000", "repeat", "repeat_forever"])

theorem appended_lines_extend_unfinishedFade :
    ∃ shorter longer, compile {} unfinishedFade.1 = .ok shorter ∧
      compile {} (unfinishedFade.1 ++ unfinishedFade.2) = .ok longer ∧
      shorter.authored ≤ longer.authored ∧
      (∀ slot < min Board.slotCount shorter.authored, ∃ frame,
        shorter.frames[slot]? = some frame ∧ longer.frames[slot]? = some frame) ∧
      withoutEnding shorter.notices <+: longer.notices := by
  obtain ⟨shorter, compiled⟩ := exists_of_isOk
    (show (compile {} unfinishedFade.1).isOk = true by decide +kernel)
  obtain ⟨longer, continued⟩ := exists_of_isOk
    (show (compile {} (unfinishedFade.1 ++ unfinishedFade.2)).isOk = true by decide +kernel)
  exact ⟨shorter, longer, compiled, continued, appended_lines_extend compiled continued⟩

end TreeBoard.Script
