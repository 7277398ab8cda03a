import TreeBoard.Proofs.EndlessRepeat

/-!
# Chained repeats

A repeat appends what stands between its marker and the end, so a chain of repeats of one marker
doubles that range each time. The length doubles exactly, up to the limit of counting. Of the frames
only those are kept that lie inside the memory, where the last copy may be cut off in the middle; the
next repeat of the kept frames is then not played.

Results:
1. `append_drop_copies`, a repeat of copies doubles them.
2. `Chained.repeatFrom`, `Chained.performAll`, what one repeat and a chain of them make of a state.
3. `doubled_of_compile`, what a chain of repeats makes of an animation.
-/

namespace TreeBoard

/-! ## Definitions -/

/-- An animation in which the frames of another one, from a marker on, have been doubled a number of
times. -/
structure Animation.Doubled (doubled animation : Animation) (marker count : Nat) : Prop where
  full : doubled.frames.length = Board.slotCount
  authored : doubled.authored =
    min (marker + 2 ^ count * (animation.authored - marker)) (2 ^ 64 - 1)
  kept : ∀ slot < min animation.authored Board.slotCount,
    doubled.frames[slot]? = animation.frames[slot]?
  periodic : ∀ slot, marker ≤ slot → slot < min Board.slotCount doubled.authored →
    doubled.frames[slot]? =
      doubled.frames[marker + (slot - marker) % (animation.authored - marker)]?

namespace Script

/-- What a chain of repeats of one marker has made of a state: the length counts the doubled range,
and the memory shows the frames with some copies of the range behind them. -/
structure Chained (first : State) (name : String) (marker count : Nat) (state : State) : Prop where
  known : state.markers.lookup name = some marker
  authored : state.authored = saturate (marker + 2 ^ count * (first.authored - marker))
  frames : state.frames.take Board.slotCount =
    (first.frames ++ (List.replicate (2 ^ count - 1) (first.frames.drop marker)).flatten).take
      Board.slotCount

/-! ## Doubling -/

/-- A repeat of frames with copies behind them doubles the copies, with the frames counted as one. -/
theorem append_drop_copies {α : Type} (frames : List α) (marker copies : Nat) :
    (frames ++ (List.replicate copies (frames.drop marker)).flatten) ++
        (frames ++ (List.replicate copies (frames.drop marker)).flatten).drop marker =
      frames ++ (List.replicate (2 * copies + 1) (frames.drop marker)).flatten := by
  rcases Nat.le_total marker frames.length with inside | behind
  · rw [List.drop_append_of_le_length inside, List.append_assoc, two_mul, Nat.add_assoc,
      List.replicate_add, List.flatten_append, List.replicate_succ, List.flatten_cons]
  · rw [List.drop_of_length_le behind]
    simp [List.drop_of_length_le behind]

/-- The length doubles behind the marker, and stays at the limit once it is there. -/
theorem saturate_double (marker span : Nat) :
    saturate (saturate (marker + span) + (saturate (marker + span) - marker)) =
      saturate (marker + 2 * span) := by
  unfold saturate
  omega

/-- The doubled range consists of the frames and of copies behind them. -/
theorem doubled_length {marker length : Nat} (before : marker < length) (count : Nat) :
    marker + 2 ^ count * (length - marker) = length + (2 ^ count - 1) * (length - marker) := by
  obtain ⟨copies, double⟩ := Nat.exists_eq_add_one.2 (Nat.two_pow_pos count)
  rw [double, Nat.add_sub_cancel, Nat.succ_mul]
  omega

/-- A repeat shows the same of lists that agree as far as the memory reaches. -/
theorem take_repeat_congr {kept whole : List Frame} (marker : Nat)
    (same : kept.take Board.slotCount = whole.take Board.slotCount) :
    (kept ++ kept.drop marker).take Board.slotCount =
      (whole ++ whole.drop marker).take Board.slotCount := by
  have lengths := congrArg List.length same
  rw [List.length_take, List.length_take] at lengths
  rcases Nat.lt_or_ge kept.length Board.slotCount with room | full
  · rw [List.take_of_length_le (Nat.le_of_lt room), List.take_of_length_le (by omega)] at same
    rw [same]
  · rw [List.take_append_of_le_length full, List.take_append_of_le_length (by omega), same]

/-! ## One repeat after another -/

namespace Chained

variable {first state : State} {name : String} {marker count : Nat}

theorem start (known : first.markers.lookup name = some marker)
    (before : marker < first.authored) (counted : first.authored ≤ UInt64.size - 1) :
    Chained first name marker 0 first := by
  refine ⟨known, ?_, by simp⟩
  unfold saturate
  omega

/-- One more repeat. -/
theorem repeatFrom (chained : Chained first name marker count state) :
    Chained first name marker (count + 1) (state.repeatFrom name marker 1) where
  known := chained.known
  authored := by
    show saturate (state.authored + (state.authored - marker) * 1) = _
    rw [chained.authored, Nat.mul_one, saturate_double, Nat.pow_succ', Nat.mul_assoc]
  frames := by
    have once : (List.replicate 1 (state.frames.drop marker)).flatten = state.frames.drop marker := by
      simp
    have double : 2 ^ (count + 1) - 1 = 2 * (2 ^ count - 1) + 1 := by
      have positive : 0 < 2 ^ count := Nat.two_pow_pos count
      omega
    show (state.frames ++ (List.replicate 1 (state.frames.drop marker)).flatten.take
      (Board.slotCount - state.frames.length)).take Board.slotCount = _
    rw [Shows.take_append_take, once, take_repeat_congr marker chained.frames, append_drop_copies,
      double]

/-- A chain of repeats. -/
theorem performAll (known : first.markers.lookup name = some marker)
    (before : marker < first.authored) (counted : first.authored ≤ UInt64.size - 1) (count : Nat) :
    Chained first name marker count (first.performAll (List.replicate count (.again name))) := by
  induction count with
  | zero => exact start known before counted
  | succ count ih =>
      have next := ih.repeatFrom
      rw [List.replicate_succ', State.performAll_append]
      show Chained first name marker (count + 1)
        ((first.performAll (List.replicate count (.again name))).perform (.again name))
      rwa [State.perform, ih.known]

end Chained

/-! ## Reading -/

/-- A chain of repeats changes nothing of what a reader has to know. -/
theorem Reader.run_again (defaults : Defaults) {reader : Reader} (goesOn : reader.closed = false)
    (empty : reader.gathered.isEmpty = true) {text : String} (again : kind text = .again)
    (known : markerOf defaults text ∈ reader.names) (count line : Nat) :
    run defaults line (List.replicate count text) reader =
      .ok (reader, List.replicate count (.again (markerOf defaults text))) := by
  induction count generalizing line with
  | zero => rfl
  | succ count ih =>
      have stepped := step_repeat defaults goesOn empty (.inl again) known line
      rw [again, actionsOf, again] at stepped
      have same : { reader with closed := decide (Kind.again = Kind.forever) } = reader := by
        cases reader
        cases goesOn
        rfl
      rw [same] at stepped
      exact run_cons_iff.2 ⟨reader, _, _, stepped, ih (line + 1), rfl⟩

/-- The actions of a script that ends with a chain of repeats. -/
theorem read_append_again {defaults : Defaults} {lines : List String} {text : String}
    {actions : List Action} {marker : Nat} (accepted : read defaults lines = .ok actions)
    (unclosed : ∀ line ∈ lines, begins "repeat_forever" line = false)
    (again : kind text = .again)
    (known : (({} : State).performAll actions).markers.lookup (markerOf defaults text) =
      some marker) (count : Nat) :
    read defaults (lines ++ List.replicate count text) =
      .ok (actions ++ List.replicate count (.again (markerOf defaults text))) := by
  obtain ⟨last, run, started, empty, goesOn, named⟩ := exists_reader_of_unclosed accepted unclosed
  have further := Reader.run_again defaults goesOn empty again (named _ _ known) count
    (1 + lines.length)
  exact read_iff.2 ⟨last, Reader.run_append_iff.2 ⟨_, _, _, run, further, rfl⟩, started, empty⟩

/-! ## Animations -/

/-- A marker stands before the end where the notices of the animation say. -/
theorem marked_of_read {defaults : Defaults} {lines : List String} {actions : List Action}
    (accepted : read defaults lines = .ok actions) {name : String} {marker : Nat} {fit : Fit}
    (set : lastSet? name ((({} : State).performAll actions).notices ++
      danglingNotices (({} : State).performAll actions).pendingFade ++ [.fitted fit]) =
        some marker) :
    (({} : State).performAll actions).markers.lookup name = some marker ∧
      marker < (({} : State).performAll actions).authored := by
  have tracked := State.Tracked.invariant.performAll State.Tracked.start
    (fun _ _ _ _ => trivial : Complete _ actions)
  have balanced := Balanced.start.performAll actions
  have positive := (length_of_read accepted).1
  have known : (({} : State).performAll actions).markers.lookup name = some marker := by
    rw [tracked name, ← set, List.append_assoc]
    exact (lastSet?_append_of_none _ fun notice member =>
      sets?_of_isFinal (isFinal_of_mem_ending member) name).symm
  exact ⟨known, Nat.lt_of_le_of_lt (balanced.first_le known) (Nat.sub_one_lt_of_lt positive)⟩

/-- Frames that are counted are kept if they lie inside the memory. -/
theorem lt_length_of_counted {actions : List Action} {slot : Nat}
    (counted : slot < (({} : State).performAll actions).authored)
    (inMemory : slot < Board.slotCount) :
    slot < (({} : State).performAll actions).frames.length := by
  by_contra behind
  have inside := performAll_inside actions (Nat.lt_of_le_of_lt (Nat.le_of_not_lt behind) inMemory)
  exact behind (inside ▸ counted)

/-- What a chain of repeats makes of an animation. Where the memory is not full before, the slots
show the frames with copies behind them. -/
theorem doubled_of_chained {actions others : List Action} {name : String} {marker count : Nat}
    (before : marker < (({} : State).performAll actions).authored)
    (counted : (({} : State).performAll actions).authored ≤ UInt64.size - 1)
    (length : (({} : State).performAll actions).authored ≤ Board.slotCount →
      (({} : State).performAll actions).frames.length = (({} : State).performAll actions).authored)
    (chained : Chained (({} : State).performAll actions) name marker count
      (({} : State).performAll others)) (last last' : Frame) (notices notices' : List Notice) :
    Animation.Doubled
      ⟨Memory.filled (({} : State).performAll others).frames last', notices',
        (({} : State).performAll others).authored⟩
      ⟨Memory.filled (({} : State).performAll actions).frames last, notices,
        (({} : State).performAll actions).authored⟩ marker count := by
  have keptFirst {slot : Nat} := @lt_length_of_counted actions slot
  have keptLast {slot : Nat} := @lt_length_of_counted others slot
  obtain ⟨-, authored, frames⟩ := chained
  generalize ({} : State).performAll actions = first at *
  generalize ({} : State).performAll others = state at *
  rw [doubled_length before] at authored
  have longer : first.authored ≤ state.authored := by
    rw [authored]
    exact le_saturate_add counted _
  -- What a slot shows is a frame or a copy of a frame.
  have shown {slot : Nat} (inside : slot < state.authored) (inMemory : slot < Board.slotCount) :
      (Memory.filled state.frames last')[slot]? = (first.frames ++
        (List.replicate (2 ^ count - 1) (first.frames.drop marker)).flatten)[slot]? := by
    rw [filled_getElem? last' inMemory (keptLast inside inMemory)]
    have both := congrArg (fun kept => kept[slot]?) frames
    simpa only [List.getElem?_take_of_lt inMemory] using both
  constructor
  case full => simp [Memory.filled]
  case authored =>
    rw [doubled_length before]
    exact authored
  case kept =>
    intro slot (there : slot < min first.authored Board.slotCount)
    obtain ⟨inside, inMemory⟩ := Nat.lt_min.1 there
    have kept := keptFirst inside inMemory
    rw [shown (Nat.lt_of_lt_of_le inside longer) inMemory, filled_getElem? last inMemory kept,
      List.getElem?_append_left kept]
  case periodic =>
    intro slot behind (there : slot < min Board.slotCount state.authored)
    obtain ⟨inMemory, inside⟩ := Nat.lt_min.1 there
    show _ = (Memory.filled state.frames last')[
      marker + (slot - marker) % (first.authored - marker)]?
    rcases Nat.lt_or_ge Board.slotCount first.authored with beyond | fits
    · rw [Nat.mod_eq_of_lt (by omega), Nat.add_sub_cancel' behind]
    · have source := Nat.mod_lt (slot - marker) (Nat.sub_pos_of_lt before)
      have inFirst : marker + (slot - marker) % (first.authored - marker) < first.authored := by
        omega
      rw [shown (Nat.lt_of_lt_of_le inFirst longer) (by omega), shown inside inMemory]
      rw [authored] at inside
      rw [← length fits] at inFirst before inside ⊢
      rw [List.getElem?_append_left inFirst, getElem?_append_copies before behind]
      exact Nat.lt_of_lt_of_le inside (Nat.min_le_left _ _)

/-- **Chained repeats double the marked range.** A script without endless repeats that compiles also
compiles with any number of repeats of a marker behind it. Each of them doubles the length from the
marker on, up to the limit of counting, no frame before is changed, and inside the memory the frames
of the marker come round again. -/
theorem doubled_of_compile {defaults : Defaults} {lines : List String} {name : String}
    {animation : Animation} {marker : Nat} (compiled : compile defaults lines = .ok animation)
    (unclosed : ∀ line ∈ lines, begins "repeat_forever" line = false) (nameable : Nameable name)
    (set : lastSet? name animation.notices = some marker) (count : Nat) :
    marker < animation.authored ∧ ∃ doubled,
      compile defaults (lines ++ List.replicate count ("repeat:" ++ name)) = .ok doubled ∧
        doubled.Doubled animation marker count := by
  obtain ⟨actions, last, accepted, ends, rfl⟩ := exists_ending_of_compile compiled
  obtain ⟨known, before⟩ := marked_of_read accepted set
  have counted := (Balanced.start.performAll actions).counted
  have length := (length_of_read accepted).2
  have announces : Kind.again.keyword? = some "repeat" := rfl
  have opens : "repeat:" = "repeat" ++ ":" := rfl
  obtain ⟨again, named⟩ := directive_written defaults announces opens nameable
  have readable := read_append_again accepted unclosed again (named ▸ known) count
  obtain ⟨doubled, compiled', -⟩ := compile_of_read readable
  refine ⟨before, doubled, compiled', ?_⟩
  obtain ⟨whole, last', accepted', -, rfl⟩ := exists_ending_of_compile compiled'
  obtain rfl := Except.ok.inj (readable.symm.trans accepted')
  have chained := Chained.performAll known before counted count
  rw [← State.performAll_append, ← named] at chained
  exact doubled_of_chained before counted length chained last last' _ _

/-- Frames behind a marker, of which a fade makes many. -/
def fadedRange : List String :=
  ["1111 1111 1111 1111 1111 1111", "0123 4567 0123 4567 0123 4567", "set_marker: dawn", "fade_to:5",
    "7777 7777 7777", "7777 7777 7777", "", "set_marker:noon", "0000 0000 0000 0000 0000 0000"]

theorem doubled_of_compile_fadedRange :
    ∃ animation, compile {} fadedRange = .ok animation ∧ animation.authored = 38 ∧
      (∀ line ∈ fadedRange, begins "repeat_forever" line = false) ∧ Nameable "dawn" ∧
      lastSet? "dawn" animation.notices = some 1 ∧
      1 < animation.authored ∧ ∃ doubled,
        compile {} (fadedRange ++ List.replicate 70 ("repeat:" ++ "dawn")) = .ok doubled ∧
          doubled.Doubled animation 1 70 := by
  obtain ⟨animation, compiled⟩ := exists_of_isOk
    (show (compile {} fadedRange).isOk = true by decide +kernel)
  have unclosed : ∀ line ∈ fadedRange, begins "repeat_forever" line = false := by decide +kernel
  have nameable : Nameable "dawn" := nameable_iff.2 ⟨by decide, by decide, by decide⟩
  have found : (compile {} fadedRange).toOption.map (fun animation =>
      (animation.authored, lastSet? "dawn" animation.notices)) = some (38, some 1) := by
    decide +kernel
  rw [compiled] at found
  obtain ⟨length, set⟩ := Prod.mk.inj (Option.some.inj found)
  exact ⟨animation, compiled, length, unclosed, nameable, set,
    doubled_of_compile compiled unclosed nameable set 70⟩

end Script

end TreeBoard
