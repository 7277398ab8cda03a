import Mathlib.Order.Bounds.Defs
import TreeBoard.Proofs.Directives
import TreeBoard.Proofs.FullMemory
import TreeBoard.Proofs.Ledger

/-!
# Endless repeats

An endless repeat appends as many whole copies of the frames from a marker on as the memory still
takes. The frames of the marker are counted from the latest notice of its setting, wherever that
stands: before the first frame, before a fade that puts further frames behind the marker, or where
the animation has outgrown the memory.

Results:
1. `Tracked.invariant`, a marker stands where its latest notice says.
2. `directive_repeat`, a name that can be written in a directive is read back from it.
3. `read_append_forever`, the actions of a script that ends with an endless repeat.
4. `isGreatest_copies`, `fills_of_repeat`, the copies that are appended, and the frames they show.
5. `looped_of_compile`, what an endless repeat makes of an animation.
-/

namespace TreeBoard

/-! ## Definitions -/

/-- An animation that is filled up with whole copies of the frames of another one, from a marker
on. -/
structure Animation.Fills (filled animation : Animation) (marker copies : Nat) : Prop where
  /-- One copy more would not go into the memory. The frames that are there count as one. -/
  greatest : IsGreatest
    {count | marker + count * (animation.authored - marker) ≤ Board.slotCount} (copies + 1)
  authored : filled.authored = marker + (copies + 1) * (animation.authored - marker)
  kept : ∀ slot < animation.authored, filled.frames[slot]? = animation.frames[slot]?
  periodic : ∀ slot, marker ≤ slot → slot < filled.authored → filled.frames[slot]? =
    filled.frames[marker + (slot - marker) % (animation.authored - marker)]?
  padding : ∀ slot, filled.authored ≤ slot → slot < Board.slotCount →
    filled.frames[slot]? = filled.frames[animation.authored - 1]?

namespace Script

/-- The frame that a notice tells a marker was set to. -/
def Notice.sets? (name : String) : Notice → Option Nat
  | .markerSet known index => if known = name then some index else none
  | _ => none

/-- The frame that the latest notice tells a marker was set to. -/
def lastSet? (name : String) (notices : List Notice) : Option Nat :=
  notices.reverse.findSome? (Notice.sets? name)

/-- What an endless repeat makes of an animation. -/
structure Looped (animation closed : Animation) (name : String) (marker copies : Nat) : Prop where
  full : closed.frames.length = Board.slotCount
  /-- The repeat is noticed behind all notices that do not belong to the end of the script. -/
  noticed : ∃ ending, closed.notices = withoutEnding animation.notices ++
      .repeated name marker (animation.authored - 1) copies :: ending ∧
    ∀ notice ∈ ending, notice.isFinal = true
  fills : animation.authored ≤ Board.slotCount → closed.Fills animation marker copies
  beyond : Board.slotCount < animation.authored →
    copies = 0 ∧ closed.authored = animation.authored ∧ closed.frames = animation.frames

/-- Each marker stands where the latest notice of its setting says. -/
def State.Tracked (state : State) : Prop :=
  ∀ name, state.markers.lookup name = lastSet? name state.notices

/-! ## Markers and notices -/

theorem lastSet?_append (name : String) (notices others : List Notice) :
    lastSet? name (notices ++ others) = (lastSet? name others).or (lastSet? name notices) := by
  rw [lastSet?, List.reverse_append, List.findSome?_append]
  rfl

/-- Notices of other kinds set no marker. -/
theorem lastSet?_append_of_none {name : String} (notices : List Notice) {others : List Notice}
    (none : ∀ notice ∈ others, notice.sets? name = none) :
    lastSet? name (notices ++ others) = lastSet? name notices := by
  have nothing : lastSet? name others = Option.none :=
    List.findSome?_eq_none_iff.2 fun notice member => none notice (List.mem_reverse.1 member)
  rw [lastSet?_append, nothing, Option.none_or]

theorem isFinal_of_mem_ending {pending : Option PendingFade} {fit : Fit} {notice : Notice}
    (member : notice ∈ danglingNotices pending ++ [.fitted fit]) : notice.isFinal = true := by
  rcases List.mem_append.1 member with dangling | fitted
  · obtain ⟨fade, -, rfl⟩ := List.mem_map.1 dangling
    rfl
  · rw [List.mem_singleton.1 fitted]
    rfl

theorem sets?_of_isFinal {notice : Notice} (final : notice.isFinal = true) (name : String) :
    notice.sets? name = none := by
  cases notice with
  | markerSet known index => cases final
  | _ => rfl

namespace State.Tracked

variable {state : State}

theorem start : Tracked {} :=
  fun _ => rfl

theorem notify (tracked : state.Tracked) {notices : List Notice}
    (none : ∀ notice ∈ notices, ∀ name, notice.sets? name = none) :
    ({ state with notices := state.notices ++ notices } : State).Tracked := by
  intro name
  rw [lastSet?_append_of_none _ fun notice member => none notice member name]
  exact tracked name

theorem addFrame (tracked : state.Tracked) (frame : Frame) : (state.addFrame frame).Tracked := by
  rw [addFrame_eq]
  refine tracked.notify fun notice member name => ?_
  rcases of_mem_fadeNotices member with ⟨line, rfl⟩ | ⟨-, speed, rfl⟩
  · rfl
  · rfl

theorem setMarker (tracked : state.Tracked) (marker : String) :
    (state.setMarker marker).Tracked := by
  intro name
  show List.lookup name ((marker, state.authored - 1) :: state.markers) = lastSet? name (_ ++ _)
  rw [lastSet?_append, ← tracked name]
  by_cases same : marker = name
  · simp [lastSet?, Notice.sets?, same]
  · simp [lastSet?, Notice.sets?, same, List.lookup_cons, beq_false_of_ne (Ne.symm same)]

theorem invariant : Invariant State.Tracked fun _ => True where
  addFrame tracked _ := tracked.addFrame _
  fade _ tracked := tracked
  setMarker name tracked := tracked.setMarker name
  repeatFrom _ tracked _ := tracked.notify (List.forall_mem_singleton.2 fun _ => rfl)
  close tracked := tracked

end State.Tracked

/-! ## Reading -/

/-- An endless repeat of a name is read as such. -/
theorem directive_repeat (defaults : Defaults) {name : String} (nameable : Nameable name) :
    kind ("repeat_forever:" ++ name) = .forever ∧
      markerOf defaults ("repeat_forever:" ++ name) = name :=
  directive_written defaults rfl rfl nameable

/-- Where a script without endless repeats has been read to its end, it can go on, and the markers
that are set are known. -/
theorem exists_reader_of_unclosed {defaults : Defaults} {lines : List String}
    {actions : List Action} (accepted : read defaults lines = .ok actions)
    (unclosed : ∀ line ∈ lines, begins "repeat_forever" line = false) :
    ∃ last : Reader, Reader.run defaults 1 lines {} = .ok (last, actions) ∧
      last.started = true ∧ last.gathered.isEmpty = true ∧ last.closed = false ∧
      ∀ name marker, (({} : State).performAll actions).markers.lookup name = some marker →
        name ∈ last.names := by
  obtain ⟨last, run, started, empty⟩ := read_iff.1 accepted
  refine ⟨last, run, started, empty, ?_, fun name marker known => ?_⟩
  · rw [Bool.eq_false_iff]
    intro closed
    obtain ⟨before, line, after, -, -, rfl, ends, -⟩ :=
      Reader.exists_of_closed Reader.sound_empty rfl run closed
    have not := unclosed line (List.mem_append_right _ List.mem_cons_self)
    rw [ends] at not
    cases not
  · have reached : (({} : State).advance (last, actions)).reader = last := run_reader run
    rw [← reached]
    exact State.mem_reader_names_iff.2 ⟨marker, known⟩

/-- The actions of a script that ends with an endless repeat. -/
theorem read_append_forever {defaults : Defaults} {lines blanks : List String} {text : String}
    {actions : List Action} {marker : Nat} (accepted : read defaults lines = .ok actions)
    (unclosed : ∀ line ∈ lines, begins "repeat_forever" line = false)
    (forever : kind text = .forever)
    (known : (({} : State).performAll actions).markers.lookup (markerOf defaults text) =
      some marker)
    (blank : ∀ line ∈ blanks, isBlankLine line = true) :
    read defaults (lines ++ text :: blanks) =
      .ok (actions ++ [.forever (markerOf defaults text)]) := by
  obtain ⟨last, run, started, empty, goesOn, named⟩ := exists_reader_of_unclosed accepted unclosed
  have stepped := Reader.step_repeat defaults goesOn empty (.inr forever) (named _ _ known)
    (1 + lines.length)
  rw [Reader.actionsOf, forever] at stepped
  have skipped := @Reader.run_blanks { last with closed := true } defaults blanks empty blank
    (1 + lines.length + 1)
  have further := run_cons_iff.2 ⟨_, _, _, stepped, skipped, rfl⟩
  exact read_iff.2 ⟨_, Reader.run_append_iff.2 ⟨_, _, _, run, further, rfl⟩, started, empty⟩

/-! ## Copies -/

/-- One copy more than those that are appended does not go into the memory. -/
theorem isGreatest_copies {marker length : Nat} (before : marker < length)
    (inside : length ≤ Board.slotCount) :
    IsGreatest {count | marker + count * (length - marker) ≤ Board.slotCount}
      ((Board.slotCount - length) / (length - marker) + 1) := by
  have span : 0 < length - marker := Nat.sub_pos_of_lt before
  constructor
  · have room := Nat.div_mul_le_self (Board.slotCount - length) (length - marker)
    rw [Set.mem_ofPred_eq, Nat.succ_mul]
    omega
  · intro count fits
    rw [Set.mem_ofPred_eq] at fits
    cases count with
    | zero => exact Nat.zero_le _
    | succ copies =>
        rw [Nat.succ_mul] at fits
        refine Nat.succ_le_succ ((Nat.le_div_iff_mul_le span).2 ?_)
        omega

/-- Behind a marker the frames of a repeat come round again. -/
theorem getElem?_append_copies {frames : List Frame} {marker copies slot : Nat}
    (before : marker < frames.length) (behind : marker ≤ slot)
    (inside : slot < frames.length + copies * (frames.length - marker)) :
    (frames ++ (List.replicate copies (frames.drop marker)).flatten)[slot]? =
      frames[marker + (slot - marker) % (frames.length - marker)]? := by
  have span : (frames.drop marker).length = frames.length - marker := List.length_drop
  rcases Nat.lt_or_ge slot frames.length with there | copied
  · rw [List.getElem?_append_left there, Nat.mod_eq_of_lt (by omega), Nat.add_sub_cancel' behind]
  · have place : slot - marker = slot - frames.length + (frames.length - marker) := by omega
    rw [List.getElem?_append_right copied, getElem?_flatten_replicate (by rw [span]; omega), span,
      List.getElem?_drop, place, Nat.add_mod_right]

/-- The place in a repeat of the last frame of a copy. -/
theorem last_of_copies {marker length copies : Nat} (before : marker < length) :
    marker + (marker + (copies + 1) * (length - marker) - 1 - marker) % (length - marker) =
      length - 1 := by
  have span : 0 < length - marker := Nat.sub_pos_of_lt before
  have place : marker + (copies + 1) * (length - marker) - 1 - marker =
      length - marker - 1 + copies * (length - marker) := by
    rw [Nat.succ_mul]
    omega
  rw [place, Nat.add_mul_mod_self_right, Nat.mod_eq_of_lt (by omega)]
  omega

section

variable {state : State} (kept : state.frames.length = state.authored)
include kept

/-- Nothing of the copies that fit is cut off. -/
theorem frames_repeatFrom (name : String) (marker : Nat) :
    (state.repeatFrom name marker (state.copiesThatFit marker)).frames =
      state.frames ++
        (List.replicate (state.copiesThatFit marker) (state.frames.drop marker)).flatten := by
  refine congrArg (state.frames ++ ·) (List.take_of_length_le ?_)
  rw [List.length_flatten, List.map_replicate, List.sum_replicate_nat, List.length_drop, kept]
  exact Nat.div_mul_le_self _ _

variable (inside : state.authored ≤ Board.slotCount) (name : String) {marker : Nat}
  (before : marker < state.authored)
include inside before

omit kept in
/-- The length of an animation that is filled up with copies. -/
theorem authored_repeatFrom :
    (state.repeatFrom name marker (state.copiesThatFit marker)).authored =
      marker + (state.copiesThatFit marker + 1) * (state.authored - marker) := by
  have fit : state.copiesThatFit marker * (state.authored - marker) ≤
      Board.slotCount - state.authored := Nat.div_mul_le_self _ _
  have limit : Board.slotCount ≤ UInt64.size - 1 := by decide
  show saturate (state.authored + (state.authored - marker) * state.copiesThatFit marker) = _
  rw [Nat.mul_comm, Nat.succ_mul, saturate]
  omega

theorem length_repeatFrom :
    (state.repeatFrom name marker (state.copiesThatFit marker)).frames.length =
      (state.repeatFrom name marker (state.copiesThatFit marker)).authored := by
  rw [authored_repeatFrom inside name before, frames_repeatFrom kept, List.length_append,
    List.length_flatten, List.map_replicate, List.sum_replicate_nat, List.length_drop, kept,
    Nat.succ_mul]
  omega

/-- An endless repeat fills the memory up with whole copies. -/
theorem fills_of_repeat (last : Frame) {last' : Frame} (notices notices' : List Notice)
    (ends : (state.repeatFrom name marker (state.copiesThatFit marker)).frames.getLast? =
      some last') :
    Animation.Fills
      ⟨Memory.filled (state.repeatFrom name marker (state.copiesThatFit marker)).frames last',
        notices', (state.repeatFrom name marker (state.copiesThatFit marker)).authored⟩
      ⟨Memory.filled state.frames last, notices, state.authored⟩ marker
      (state.copiesThatFit marker) := by
  have greatest := isGreatest_copies before inside
  have length := length_repeatFrom kept inside name before
  have authored := authored_repeatFrom inside name before
  have fits : marker + (state.copiesThatFit marker + 1) * (state.authored - marker) ≤
    Board.slotCount := greatest.1
  have appended := frames_repeatFrom kept name marker
  generalize state.repeatFrom name marker (state.copiesThatFit marker) = next at *
  -- A frame before the end of the first copy is the one that was there.
  have first {slot : Nat} (there : slot < state.authored) :
      (Memory.filled next.frames last')[slot]? = state.frames[slot]? := by
    rw [filled_getElem? last' (Nat.lt_of_lt_of_le there inside), appended,
      List.getElem?_append_left (kept ▸ there)]
    rw [length, authored, Nat.succ_mul]
    omega
  have periodic : ∀ slot, marker ≤ slot → slot < next.authored →
      (Memory.filled next.frames last')[slot]? = (Memory.filled next.frames last')[
        marker + (slot - marker) % (state.authored - marker)]? := by
    intro slot behind there
    have span := Nat.mod_lt (slot - marker) (Nat.sub_pos_of_lt before)
    have round := @first (marker + (slot - marker) % (state.authored - marker)) (by omega)
    rw [round, filled_getElem? last' (by omega) (length ▸ there), appended, ← kept]
    refine getElem?_append_copies (kept ▸ before) behind ?_
    rw [authored, Nat.succ_mul] at there
    rw [kept]
    omega
  constructor
  case greatest => exact greatest
  case authored => exact authored
  case kept =>
    intro slot there
    exact (first there).trans (filled_getElem? last (Nat.lt_of_lt_of_le there inside)
      (kept ▸ there)).symm
  case periodic => exact periodic
  case padding =>
    intro slot behind inMemory
    have end' : marker ≤ next.authored - 1 ∧ next.authored - 1 < next.authored := by
      rw [authored, Nat.succ_mul]
      omega
    refine (filled_padding ends (length ▸ behind) inMemory).trans ?_
    rw [length, periodic _ end'.1 end'.2, authored, last_of_copies before]

end

/-! ## Scripts -/

/-- An animation that is longer than the memory is not repeated. -/
theorem repeatFrom_of_beyond {state : State} (beyond : Board.slotCount < state.authored)
    (counted : state.authored ≤ UInt64.size - 1) (name : String) (marker : Nat) :
    state.copiesThatFit marker = 0 ∧
      (state.repeatFrom name marker (state.copiesThatFit marker)).authored = state.authored ∧
      (state.repeatFrom name marker (state.copiesThatFit marker)).frames = state.frames := by
  have none : state.copiesThatFit marker = 0 := by
    rw [State.copiesThatFit, Nat.sub_eq_zero_of_le (Nat.le_of_lt beyond), Nat.zero_div]
  rw [none]
  refine ⟨rfl, Nat.min_eq_left counted, ?_⟩
  simp [State.repeatFrom, State.notify]

/-- What is known of the length of an animation whose script can be read. -/
theorem length_of_read {defaults : Defaults} {lines : List String} {actions : List Action}
    (accepted : read defaults lines = .ok actions) :
    0 < (({} : State).performAll actions).authored ∧
      ((({} : State).performAll actions).authored ≤ Board.slotCount →
        (({} : State).performAll actions).frames.length =
          (({} : State).performAll actions).authored) := by
  have counted := Counted.invariant.performAll Counted.start
    (fun _ _ _ _ => trivial : Complete _ actions)
  have started := List.length_pos_iff.2 (read_started accepted)
  have inside := performAll_inside actions
  have beyond := (Shows.start.performAll actions).beyond
  generalize ({} : State).performAll actions = state at *
  have limit : Board.slotCount < UInt64.size - 1 := by decide
  have kept := counted.kept
  unfold saturate at kept
  constructor
  · omega
  · intro small
    rcases Nat.lt_or_ge state.frames.length Board.slotCount with room | full
    · exact (inside room).symm
    · have := beyond full
      omega

/-- What an endless repeat makes of the animation of a state. -/
theorem looped_of_repeat {state : State} {last last' : Frame} {name : String} {marker : Nat}
    (unended : state.Unended) (counted : state.authored ≤ UInt64.size - 1)
    (kept : state.authored ≤ Board.slotCount → state.frames.length = state.authored)
    (before : marker < state.authored) (ends : state.frames.getLast? = some last)
    (ends' : (state.repeatFrom name marker (state.copiesThatFit marker)).frames.getLast? =
      some last') (fit fit' : Fit) :
    Looped
      ⟨Memory.filled state.frames last,
        state.notices ++ danglingNotices state.pendingFade ++ [.fitted fit], state.authored⟩
      ⟨Memory.filled (state.repeatFrom name marker (state.copiesThatFit marker)).frames last',
        (state.repeatFrom name marker (state.copiesThatFit marker)).notices ++
          danglingNotices state.pendingFade ++ [.fitted fit'],
        (state.repeatFrom name marker (state.copiesThatFit marker)).authored⟩
      name marker (state.copiesThatFit marker) := by
  constructor
  case full => simp [Memory.filled]
  case noticed =>
    refine ⟨danglingNotices state.pendingFade ++ [.fitted fit'], ?_,
      fun notice => isFinal_of_mem_ending⟩
    rw [unended.withoutEnding_eq]
    simp [State.repeatFrom, State.notify]
  case fills =>
    intro inside
    exact fills_of_repeat (kept inside) inside name before last _ _ ends'
  case beyond =>
    intro beyond
    obtain ⟨none, authored, frames⟩ := repeatFrom_of_beyond beyond counted name marker
    rw [frames, ends, Option.some.injEq] at ends'
    refine ⟨none, authored, ?_⟩
    simp only [frames, ends']

/-- **An endless repeat appends the largest number of whole copies, and nothing else.** A script
without such a repeat that compiles also compiles with one behind it, for each marker that it has
set. An animation that fits into the memory is filled up with copies of its frames from the marker
on, and a longer one stays as it is. -/
theorem looped_of_compile {defaults : Defaults} {lines blanks : List String} {name : String}
    {animation : Animation} {marker : Nat} (compiled : compile defaults lines = .ok animation)
    (unclosed : ∀ line ∈ lines, begins "repeat_forever" line = false) (nameable : Nameable name)
    (set : lastSet? name animation.notices = some marker)
    (blank : ∀ line ∈ blanks, isBlankLine line = true) :
    marker < animation.authored ∧ ∃ closed copies,
      compile defaults (lines ++ ("repeat_forever:" ++ name) :: blanks) = .ok closed ∧
        Looped animation closed name marker copies := by
  obtain ⟨actions, last, accepted, ends, rfl⟩ := exists_ending_of_compile compiled
  have complete : Complete (fun _ => True) actions := fun _ _ _ _ => trivial
  have tracked := State.Tracked.invariant.performAll State.Tracked.start complete
  have unended : (({} : State).performAll actions).Unended :=
    State.Unended.invariant.performAll (List.forall_mem_nil _) complete
  have balanced := Balanced.start.performAll actions
  obtain ⟨positive, kept⟩ := length_of_read accepted
  obtain ⟨forever, named⟩ := directive_repeat defaults nameable
  have known : (({} : State).performAll actions).markers.lookup name = some marker := by
    rw [tracked name, ← set, List.append_assoc]
    exact (lastSet?_append_of_none _ fun notice member =>
      sets?_of_isFinal (isFinal_of_mem_ending member) name).symm
  have before : marker < (({} : State).performAll actions).authored :=
    Nat.lt_of_le_of_lt (balanced.first_le known) (Nat.sub_one_lt_of_lt positive)
  have readable := read_append_forever accepted unclosed forever (named ▸ known) blank
  obtain ⟨closed, compiled', full⟩ := compile_of_read readable
  refine ⟨before, closed, (({} : State).performAll actions).copiesThatFit marker, compiled', ?_⟩
  obtain ⟨whole, last', accepted', ends', rfl⟩ := exists_ending_of_compile compiled'
  obtain rfl := Except.ok.inj (readable.symm.trans accepted')
  have repeats : ({} : State).performAll (actions ++ [.forever name]) =
      { (({} : State).performAll actions).repeatFrom name marker
          ((({} : State).performAll actions).copiesThatFit marker) with closed := true } := by
    rw [State.performAll_append]
    simp only [State.performAll, List.foldl_cons, List.foldl_nil, State.perform] at known ⊢
    rw [known]
  rw [named, repeats] at ends' ⊢
  exact looped_of_repeat unended balanced.counted kept before ends ends' _ _

/-- A marker that is set before the first frame, and again before a fade. -/
def markedTwice : List String :=
  ["set_marker: dusk", "0000 0000 0000 0000 0000 0000", "1111 1111 1111 1111 1111 1111", "",
    "set_marker:dusk", "fade_to:3", "7070 7070 7070", "0123 4567 0000", "fade_to"]

theorem looped_of_compile_markedTwice :
    ∃ animation, compile {} markedTwice = .ok animation ∧
      (∀ line ∈ markedTwice, begins "repeat_forever" line = false) ∧ Nameable "dusk" ∧
      lastSet? "dusk" animation.notices = some 1 ∧
      (∀ line ∈ ["", " \r"], isBlankLine line = true) ∧
      1 < animation.authored ∧ ∃ closed copies,
        compile {} (markedTwice ++ ("repeat_forever:" ++ "dusk") :: ["", " \r"]) = .ok closed ∧
          Looped animation closed "dusk" 1 copies := by
  obtain ⟨animation, compiled⟩ := exists_of_isOk
    (show (compile {} markedTwice).isOk = true by decide +kernel)
  have unclosed : ∀ line ∈ markedTwice, begins "repeat_forever" line = false := by decide +kernel
  have nameable : Nameable "dusk" := ⟨"set_marker: dusk", by decide⟩
  have set : lastSet? "dusk" animation.notices = some 1 := by
    have found : ((compile {} markedTwice).toOption.bind fun animation =>
        lastSet? "dusk" animation.notices) = some 1 := by decide +kernel
    rwa [compiled] at found
  have blank : ∀ line ∈ ["", " \r"], isBlankLine line = true := by decide +kernel
  exact ⟨animation, compiled, unclosed, nameable, set, blank,
    looped_of_compile compiled unclosed nameable set blank⟩

end Script

end TreeBoard
