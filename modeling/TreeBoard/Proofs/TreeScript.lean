import TreeBoard.Proofs.Continuation
import TreeBoard.Proofs.FullMemory
import TreeBoard.Proofs.LineEnds
import TreeBoard.TreeView

/-!
# Tree views as a script

The view of a frame is a script of that frame, because the reader of a script passes over the blanks
that centre a row and does not care over how many lines the levels of a frame are spread. Views one
below the other are the script of an animation, with any blanks between them.

Results:
1. `spells_rows`, the rows of a view are the levels of the frame.
2. `exists_linesOf_gap`, `exists_linesOf_view`, the lines of a script of views.
3. `run_group`, `run_script`, how a reader reads the rows of one view, and all views.
4. `script_replays`, the animation that a script of views compiles to.
-/

namespace TreeBoard

/-! ## Definitions -/

/-- An animation plays the given frames, and the last of them until the memory ends. -/
structure Animation.Replays (animation : Animation) (frames : List Frame) : Prop where
  /-- The length is right as long as it can be counted. -/
  authored : frames.length < UInt64.size → animation.authored = frames.length
  full : animation.frames.length = Board.slotCount
  levels : ∀ slot frame, slot < Board.slotCount → frames[slot]? = some frame →
    animation.frames[slot]?.map Frame.levels = some frame.levels
  padding : ∀ slot, frames.length ≤ slot → slot < Board.slotCount →
    animation.frames[slot]? = animation.frames[frames.length - 1]?

namespace TreeView

/-- Views of frames one below the other, each of them behind a gap, and one more gap at the end. -/
def script (views : List (String × Frame)) (gap : String) : String :=
  String.join (views.map fun view => view.1 ++ render view.2) ++ gap

/-- A text of spaces and digits that are these levels. -/
structure Spells (text : List Char) (levels : List Level) : Prop where
  plain : ∀ c ∈ text, c = ' ' ∨ ('0' ≤ c ∧ c ≤ '7')
  levels : Script.digitLevels text = levels

end TreeView

namespace Script

/-- Lines that a reader takes for these levels, with at least one level in each of them. -/
structure Reads (group : List String) (levels : List Level) : Prop where
  valid : ∀ line ∈ group, PartialFrame.Valid line.toList
  visible : ∀ line ∈ group, levelsOf line ≠ []
  levels : group.flatMap levelsOf = levels

end Script

/-! ## Rows -/

namespace TreeView

theorem level?_levelChar {level : Level} (low : level ≤ Board.fullLevel) :
    Script.PartialFrame.level? (levelChar level) = some level := by
  have small : level.toNat < 8 := Nat.lt_succ_of_le (UInt8.le_iff_toNat_le.1 low)
  have all : ∀ value < 8, Script.PartialFrame.level? (levelChar (UInt8.ofNat value)) =
      some (UInt8.ofNat value) := by decide
  have here := all level.toNat small
  rwa [UInt8.ofNat_toNat] at here

namespace Spells

variable {text other : List Char} {levels others : List Level}

theorem append (spells : Spells text levels) (more : Spells other others) :
    Spells (text ++ other) (levels ++ others) where
  plain := List.forall_mem_append.2 ⟨spells.plain, more.plain⟩
  levels := by rw [Script.digitLevels_append, spells.levels, more.levels]

theorem spaces (count : Nat) : Spells (List.replicate count ' ') [] where
  plain _ member := .inl (List.eq_of_mem_replicate member)
  levels := List.filterMap_replicate_of_none rfl

theorem bulb {first second : Level} (low : first ≤ Board.fullLevel)
    (low' : second ≤ Board.fullLevel) :
    Spells [levelChar first, levelChar second] [first, second] := by
  have one := level?_levelChar low
  have two := level?_levelChar low'
  have digit {c : Char} {level : Level} (found : Script.PartialFrame.level? c = some level) :
      c = ' ' ∨ ('0' ≤ c ∧ c ≤ '7') :=
    .inr (Script.PartialFrame.level?_isSome_iff.1 (Option.isSome_of_eq_some found))
  constructor
  · exact List.forall_mem_cons.2 ⟨digit one, List.forall_mem_singleton.2 (digit two)⟩
  · rw [Script.PartialFrame.digitLevels_cons_of_some _ one,
      Script.PartialFrame.digitLevels_cons_of_some _ two]
    rfl

/-- What spells levels neither ends a line nor is refused. -/
theorem ne_feed (spells : Spells text levels) : ∀ c ∈ text, c ≠ '\n' ∧ c ≠ '\r' := by
  intro c member
  rcases spells.plain c member with rfl | digit
  · decide
  · constructor
    · rintro rfl
      exact absurd digit (by decide)
    · rintro rfl
      exact absurd digit (by decide)

theorem valid (spells : Spells text levels) : Script.PartialFrame.Valid text := by
  intro c member
  refine (spells.plain c member).imp_left ?_
  rintro rfl
  rfl

end Spells

theorem spells_bulbs {levels : List Level} (even : 2 ∣ levels.length)
    (low : ∀ level ∈ levels, level ≤ Board.fullLevel) :
    Spells ([' ', ' '].intercalate (bulbs levels)) levels := by
  induction levels using bulbs.induct with
  | case1 first second later ih =>
      obtain ⟨low₁, lows⟩ := List.forall_mem_cons.1 low
      obtain ⟨low₂, lows⟩ := List.forall_mem_cons.1 lows
      have others := ih (by simpa using even) lows
      have here := Spells.bulb low₁ low₂
      rw [bulbs]
      cases more : bulbs later with
      | nil =>
          rw [more] at others
          rw [List.intercalate_singleton, ← List.append_nil [levelChar first, levelChar second]]
          exact here.append others
      | cons bulb bulbs =>
          rw [more] at others
          rw [List.intercalate_cons_cons]
          exact (here.append (Spells.spaces 2)).append others
  | case2 levels short =>
      cases levels with
      | nil => exact ⟨List.forall_mem_nil _, rfl⟩
      | cons first later =>
          cases later with
          | nil => simp at even
          | cons second later => exact absurd rfl (short first second later)

/-- A row spells its levels, two for each bulb. -/
theorem spells_row {levels : List Level} (even : 2 ∣ levels.length)
    (low : ∀ level ∈ levels, level ≤ Board.fullLevel) : Spells (row levels) levels :=
  (Spells.spaces _).append (spells_bulbs even low)

/-- The rows of a view spell the levels of the frame, with at least one level in each row. -/
theorem spells_rows {widths : List Nat} (positive : ∀ width ∈ widths, 0 < width)
    {levels : List Level} (whole : levels.length = 2 * widths.sum)
    (low : ∀ level ∈ levels, level ≤ Board.fullLevel) :
    (∀ line ∈ rows widths levels, ∃ part, part ≠ [] ∧ Spells line part) ∧
      (rows widths levels).flatMap Script.digitLevels = levels := by
  induction widths generalizing levels with
  | nil =>
      obtain rfl := List.length_eq_zero_iff.1 whole
      exact ⟨List.forall_mem_nil _, rfl⟩
  | cons width later ih =>
      obtain ⟨wide, others⟩ := List.forall_mem_cons.1 positive
      rw [List.sum_cons] at whole
      have length : (levels.take (2 * width)).length = 2 * width := by
        rw [List.length_take]
        omega
      have here : Spells (row (levels.take (2 * width))) (levels.take (2 * width)) :=
        spells_row ⟨width, length⟩
          fun level member => low level (List.mem_of_mem_take member)
      have fewer : (levels.drop (2 * width)).length = 2 * later.sum := by
        rw [List.length_drop]
        omega
      obtain ⟨spell, rest⟩ :=
        ih others fewer fun level member => low level (List.mem_of_mem_drop member)
      have some : levels.take (2 * width) ≠ [] := by
        rw [← List.length_pos_iff, length]
        omega
      refine ⟨List.forall_mem_cons.2 ⟨⟨_, some, here⟩, spell⟩, ?_⟩
      rw [rows, List.flatMap_cons, here.levels, rest, List.take_append_drop]

end TreeView

/-! ## Lines -/

namespace Text

/-- The lines of some blanks and what follows them: blank lines, and some blanks before the rest. -/
theorem exists_linesOf_gap {gap before : List Char} (rest : List Char)
    (blankGap : ∀ c ∈ gap, isBlank c = true) (blankBefore : ∀ c ∈ before, isBlank c = true)
    (noFeed : '\n' ∉ before) :
    ∃ blanks indent, linesOf '\n' '\r' (before ++ (gap ++ rest)) =
        blanks ++ linesOf '\n' '\r' (indent ++ rest) ∧
      (∀ line ∈ blanks, isBlankText line = true) ∧ (∀ c ∈ indent, isBlank c = true) ∧
      '\n' ∉ indent := by
  induction gap generalizing before with
  | nil => exact ⟨[], before, rfl, List.forall_mem_nil _, blankBefore, noFeed⟩
  | cons c later ih =>
      obtain ⟨blank, others⟩ := List.forall_mem_cons.1 blankGap
      by_cases feed : c = '\n'
      · obtain ⟨cut, ended, same⟩ := exists_linesOf_feed '\r' noFeed (later ++ rest)
        obtain ⟨blanks, indent, more, all, last⟩ :=
          @ih [] others (List.forall_mem_nil _) List.not_mem_nil
        have blankCut : isBlankText cut = true := by
          refine List.all_eq_true.2 fun c member => blankBefore c ?_
          rcases same with rfl | rfl
          · exact member
          · exact List.mem_append_left _ member
        refine ⟨cut :: blanks, indent, ?_, List.forall_mem_cons.2 ⟨blankCut, all⟩, last⟩
        rw [feed, List.cons_append, ended, ← List.nil_append (later ++ rest), more]
        rfl
      · have longer := @ih (before ++ [c]) others
          (List.forall_mem_append.2 ⟨blankBefore, List.forall_mem_singleton.2 blank⟩)
          (List.not_mem_append noFeed (by simpa using Ne.symm feed))
        rwa [List.append_assoc] at longer

/-- The lines of some blanks at the end of a text. -/
theorem isBlankText_of_mem_linesOf {gap : List Char} (blankGap : ∀ c ∈ gap, isBlank c = true) :
    ∀ line ∈ linesOf '\n' '\r' gap, isBlankText line = true := by
  obtain ⟨blanks, indent, lines, all, blankIndent, noFeed⟩ :=
    exists_linesOf_gap [] blankGap (List.forall_mem_nil _) List.not_mem_nil
  rw [List.nil_append, List.append_nil, List.append_nil] at lines
  rw [lines]
  refine List.forall_mem_append.2 ⟨all, fun line member => ?_⟩
  cases indent with
  | nil => cases member
  | cons c later =>
      rw [linesOf_last (List.cons_ne_nil c later) noFeed, List.mem_singleton] at member
      rw [member]
      exact List.all_eq_true.2 blankIndent

end Text

namespace TreeView

theorem levelsOf_ofList (line : List Char) : Script.levelsOf (String.ofList line) =
    Script.digitLevels line := by
  rw [Script.levelsOf, String.toList_ofList]

theorem reads_ofList {lines : List (List Char)}
    (each : ∀ line ∈ lines, Script.PartialFrame.Valid line ∧ Script.digitLevels line ≠ []) :
    Script.Reads (lines.map String.ofList) (lines.flatMap Script.digitLevels) where
  valid := by
    refine List.forall_mem_map.2 fun line member => ?_
    rw [String.toList_ofList]
    exact (each line member).1
  visible := by
    refine List.forall_mem_map.2 fun line member => ?_
    rw [levelsOf_ofList]
    exact (each line member).2
  levels := by
    rw [List.flatMap_map]
    simp only [levelsOf_ofList]

/-- Blanks in front of a row and the return at its end say nothing. -/
theorem cut_of_spells {indent text cut : List Char} {levels : List Level}
    (blank : ∀ c ∈ indent, Text.isBlank c = true) (spells : Spells text levels)
    (same : indent ++ text = cut ∨ indent ++ text = cut ++ ['\r']) :
    Script.PartialFrame.Valid cut ∧ Script.digitLevels cut = levels := by
  have nothing : Script.digitLevels indent = [] :=
    List.filterMap_eq_nil_iff.2 fun c member =>
      Script.PartialFrame.level?_of_isBlank (blank c member)
  have valid : Script.PartialFrame.Valid (indent ++ text) :=
    List.forall_mem_append.2 ⟨fun c member => .inl (blank c member), spells.valid⟩
  have whole : Script.digitLevels (indent ++ text) = levels := by
    rw [Script.digitLevels_append, nothing, List.nil_append, spells.levels]
  rcases same with same | same
  · rw [← same]
    exact ⟨valid, whole⟩
  · rw [same] at valid whole
    refine ⟨fun c member => valid c (List.mem_append_left _ member), ?_⟩
    rwa [Script.digitLevels_append, show Script.digitLevels ['\r'] = [] from rfl,
      List.append_nil] at whole

/-- The lines of a view, behind some blanks, read as the levels of the frame. -/
theorem exists_linesOf_view {frame : Frame} (inRange : frame.InRange) {indent : List Char}
    (blank : ∀ c ∈ indent, Text.isBlank c = true) (noFeed : '\n' ∉ indent) (rest : List Char) :
    ∃ group, Text.linesOf '\n' '\r' (indent ++ ((render frame).toList ++ rest)) =
        group ++ Text.linesOf '\n' '\r' rest ∧
      Script.Reads (group.map String.ofList) frame.levels.toList := by
  have whole : frame.levels.toList.length = 2 * Board.rowWidths.sum := by
    rw [Vector.length_toList]
    rfl
  obtain ⟨spell, levels⟩ := spells_rows (by decide) whole inRange
  have some : rows Board.rowWidths frame.levels.toList ≠ [] := List.cons_ne_nil _ _
  rw [render, String.toList_ofList]
  generalize rows Board.rowWidths frame.levels.toList = lines at spell levels some ⊢
  obtain ⟨first, later, rfl⟩ := List.exists_cons_of_ne_nil some
  obtain ⟨⟨part, visible, spells⟩, others⟩ := List.forall_mem_cons.1 spell
  have noFeedFirst : '\n' ∉ indent ++ first :=
    List.not_mem_append noFeed fun member => (spells.ne_feed _ member).1 rfl
  obtain ⟨cut, ended, same⟩ := Text.exists_linesOf_feed '\r' noFeedFirst
    (later.flatMap (· ++ ['\n']) ++ rest)
  obtain ⟨valid, same⟩ := cut_of_spells blank spells same
  refine ⟨cut :: later, ?_, ?_⟩
  · rw [Text.linesOf_flatMap_feed] at ended
    · simpa using ended
    · intro line member
      obtain ⟨part, -, spells⟩ := others line member
      exact spells.ne_feed
  · rw [List.flatMap_cons, spells.levels, ← same, ← List.flatMap_cons] at levels
    rw [← levels]
    refine reads_ofList (List.forall_mem_cons.2 ⟨⟨valid, same ▸ visible⟩, fun line member => ?_⟩)
    obtain ⟨part, visible, spells⟩ := others line member
    exact ⟨spells.valid, spells.levels ▸ visible⟩

end TreeView

/-! ## Reading -/

namespace Script

namespace Reader

variable {reader : Reader}

/-- A group of lines completes one frame, and nothing else. -/
theorem run_group (defaults : Defaults) {group : List String} {levels : List Level}
    (sound : reader.Sound) (goesOn : reader.closed = false) (some : group ≠ [])
    (reads : Reads group levels)
    (full : reader.gathered.size + levels.length = Board.ledCount) (number : Nat) :
    ∃ frame : Frame, frame.levels.toList = reader.gathered.pending ++ levels ∧
      run defaults number group reader =
        .ok ({ reader with gathered := ⟨[], frame.line⟩, started := true }, [.addFrame frame]) := by
  -- The levels that wait and those of the lines to come are 24 all the time.
  induction group generalizing reader levels number with
  | nil => exact absurd rfl some
  | cons text later ih =>
      obtain ⟨valid, valids⟩ := List.forall_mem_cons.1 reads.valid
      obtain ⟨visible, visibles⟩ := List.forall_mem_cons.1 reads.visible
      have whole := reads.levels
      rw [List.flatMap_cons] at whole
      have data := isDataLine_of_valid valid visible
      rw [← whole, List.length_append, ← Nat.add_assoc] at full
      by_cases last : later = []
      · rw [last, List.flatMap_nil, List.append_nil] at whole
        rw [last, List.flatMap_nil, List.length_nil, Nat.add_zero] at full
        obtain ⟨frame, shown, -, stepped⟩ := step_full defaults sound goesOn data valid number full
        exact ⟨frame, whole ▸ shown, run_cons_iff.2 ⟨_, _, [], stepped, last ▸ rfl, rfl⟩⟩
      · obtain ⟨next, others, rfl⟩ := List.exists_cons_of_ne_nil last
        have more : (levelsOf next).length ≠ 0 :=
          mt List.length_eq_zero_iff.1 (visibles next List.mem_cons_self)
        have short : reader.gathered.size + (levelsOf text).length < Board.ledCount := by
          rw [List.flatMap_cons, List.length_append] at full
          omega
        have stepped := step_short defaults goesOn data valid number short
        have size := PartialFrame.size_collect reader.gathered number (levelsOf text)
        obtain ⟨frame, shown, run⟩ := ih (step_sound sound stepped) goesOn last
          ⟨valids, visibles, rfl⟩ (size ▸ full) (number + 1)
        refine ⟨frame, ?_, run_cons_iff.2 ⟨_, [], [.addFrame frame], stepped, run, rfl⟩⟩
        rw [shown, PartialFrame.collect_pending, List.append_assoc, whole]

end Reader

/-- Frames that are completed without a fade are appended, and nothing is noticed. -/
theorem performAll_addFrame {state : State} (noFade : state.pendingFade = none)
    (counted : state.authored ≤ UInt64.size - 1) (frames : List Frame) :
    state.performAll (frames.map .addFrame) = { state with
      frames := state.frames ++ frames
      authored := saturate (state.authored + frames.length) } := by
  induction frames generalizing state with
  | nil =>
      rw [List.append_nil, List.length_nil, Nat.add_zero, saturate, Nat.min_eq_left counted]
      rfl
  | cons frame later ih =>
      have added : state.addFrame frame = { state with
          frames := state.frames ++ [frame]
          authored := saturate (state.authored + 1) } := by
        simp only [State.addFrame, noFade]
      have rest := @ih (state.addFrame frame) (by rw [added]; exact noFade)
        (by rw [added]; exact Nat.min_le_right _ _)
      rw [List.map_cons, State.performAll, List.foldl_cons, ← State.performAll, State.perform, rest,
        added]
      simp [saturate_saturate_add, Nat.add_assoc, Nat.add_comm 1]

end Script

/-! ## Scripts of views -/

namespace TreeView

open Script

variable {defaults : Defaults} {views : List (String × Frame)} {gap : String}

/-- The lines of a script of views begin with those of its first view. -/
theorem exists_lines_of_cons {view : String × Frame} {later : List (String × Frame)}
    (blank : Text.isBlankText view.1.toList = true) (inRange : view.2.InRange) (gap : String) :
    ∃ blanks group, Text.lines (script (view :: later) gap) =
        blanks ++ (group ++ Text.lines (script later gap)) ∧
      (∀ line ∈ blanks, isBlankLine line = true) ∧ Reads group view.2.levels.toList := by
  have text : (script (view :: later) gap).toList =
      view.1.toList ++ ((render view.2).toList ++ (script later gap).toList) := by
    simp [script, String.join_cons, String.append_assoc]
  obtain ⟨blanks, indent, lines, all, blankIndent, noFeed⟩ := Text.exists_linesOf_gap
    ((render view.2).toList ++ (script later gap).toList) (List.all_eq_true.1 blank)
    (List.forall_mem_nil _) List.not_mem_nil
  obtain ⟨group, more, reads⟩ :=
    exists_linesOf_view inRange blankIndent noFeed (script later gap).toList
  refine ⟨blanks.map String.ofList, group.map String.ofList, ?_, ?_, reads⟩
  · rw [List.nil_append, more] at lines
    rw [Text.lines, text, lines, List.map_append, List.map_append]
    rfl
  · refine List.forall_mem_map.2 fun line member => ?_
    rw [isBlankLine, String.toList_ofList]
    exact all line member

/-- A reader completes one frame for each view of a script, and does nothing else. -/
theorem run_script {reader : Reader} (sound : reader.Sound) (goesOn : reader.closed = false)
    (empty : reader.gathered.isEmpty = true)
    (blankGaps : ∀ view ∈ views, Text.isBlankText view.1.toList = true)
    (inRange : ∀ view ∈ views, view.2.InRange) (blankGap : Text.isBlankText gap.toList = true)
    (number : Nat) :
    ∃ (last : Reader) (written : List Frame),
      Reader.run defaults number (Text.lines (script views gap)) reader =
        .ok (last, written.map .addFrame) ∧
      written.map Frame.levels = (views.map Prod.snd).map Frame.levels ∧
      last.gathered.isEmpty = true ∧
      (reader.started = true ∨ views ≠ [] → last.started = true) := by
  induction views generalizing reader number with
  | nil =>
      have blank : ∀ line ∈ Text.lines (script [] gap), isBlankLine line = true := by
        refine List.forall_mem_map.2 fun line member => ?_
        rw [script, List.map_nil, String.join_nil, String.empty_append] at member
        rw [isBlankLine, String.toList_ofList]
        exact Text.isBlankText_of_mem_linesOf (List.all_eq_true.1 blankGap) line member
      exact ⟨reader, [], Reader.run_blanks defaults empty blank number, rfl, empty,
        fun started => started.resolve_right (absurd rfl)⟩
  | cons view later ih =>
      obtain ⟨blankHere, blankLater⟩ := List.forall_mem_cons.1 blankGaps
      obtain ⟨inRangeHere, inRangeLater⟩ := List.forall_mem_cons.1 inRange
      obtain ⟨blanks, group, lines, blank, reads⟩ :=
        @exists_lines_of_cons view later blankHere inRangeHere gap
      have pending := List.isEmpty_iff.1 empty
      have full : reader.gathered.size + view.2.levels.toList.length = Board.ledCount := by
        rw [PartialFrame.size, pending, Vector.length_toList]
        rfl
      have some : group ≠ [] := by
        rintro rfl
        rw [← reads.levels, PartialFrame.size, pending] at full
        cases full
      have skipped := Reader.run_blanks defaults empty blank number
      obtain ⟨frame, shown, completed⟩ :=
        Reader.run_group defaults sound goesOn some reads full (number + blanks.length)
      obtain ⟨last, written, run, levels, ended, started⟩ := ih
        (Reader.run_sound sound completed) goesOn rfl blankLater inRangeLater
        (number + blanks.length + group.length)
      refine ⟨last, frame :: written, ?_, ?_, ended, fun _ => started (.inl rfl)⟩
      · rw [lines]
        refine Reader.run_append_iff.2 ⟨_, [], _, skipped, ?_, rfl⟩
        exact Reader.run_append_iff.2 ⟨_, _, _, completed, run, rfl⟩
      · rw [List.map_cons, List.map_cons, List.map_cons, levels]
        rw [pending, List.nil_append] at shown
        rw [Vector.toList_inj.1 shown]

/-- **The tree view is a script.** The views of any frames, one below the other and with any blanks
between them, compile to an animation that plays these frames. -/
theorem script_replays (defaults : Defaults) (some : views ≠ [])
    (blankGaps : ∀ view ∈ views, Text.isBlankText view.1.toList = true)
    (inRange : ∀ view ∈ views, view.2.InRange) (blankGap : Text.isBlankText gap.toList = true) :
    ∃ animation, compileText defaults (script views gap) = .ok animation ∧
      animation.Replays (views.map Prod.snd) := by
  obtain ⟨last, written, run, levels, empty, started⟩ :=
    @run_script defaults views gap {} Reader.sound_empty rfl rfl blankGaps inRange blankGap 1
  have accepted := read_iff.2 ⟨last, run, started (.inr some), empty⟩
  obtain ⟨animation, compiled, -⟩ := compile_of_read accepted
  refine ⟨animation, compiled, ?_⟩
  obtain ⟨actions, final, accepted', ends, rfl⟩ := exists_ending_of_compile compiled
  obtain rfl := Except.ok.inj (accepted.symm.trans accepted')
  rw [@performAll_addFrame {} rfl (Nat.zero_le _) written] at ends ⊢
  have length : written.length = (views.map Prod.snd).length := by
    simpa using congrArg List.length levels
  simp only [List.nil_append, Nat.zero_add] at ends ⊢
  constructor
  case authored =>
    intro few
    rw [saturate, length]
    exact Nat.min_eq_left (Nat.le_sub_one_of_lt few)
  case full => simp [Memory.filled]
  case levels =>
    intro slot frame inMemory found
    have inside : slot < written.length := length ▸ (List.getElem?_eq_some_iff.1 found).1
    rw [filled_getElem? final inMemory inside, ← List.getElem?_map, levels, List.getElem?_map,
      found]
    rfl
  case padding =>
    intro slot behind inMemory
    rw [← length] at behind ⊢
    exact filled_padding ends behind inMemory

/-- Two views behind different gaps. -/
def ramps : List (String × Frame) :=
  [("\r\n", ⟨Vector.ofFn fun led => UInt8.ofNat (led % 8), 0⟩),
    ("\n \t\n  ", ⟨Vector.replicate Board.ledCount 7, 4⟩)]

theorem script_replays_ramps :
    ramps ≠ [] ∧ (∀ view ∈ ramps, Text.isBlankText view.1.toList = true) ∧
      (∀ view ∈ ramps, view.2.InRange) ∧ Text.isBlankText "\n ".toList = true ∧
      ∃ animation, compileText {} (script ramps "\n ") = .ok animation ∧
        animation.Replays (ramps.map Prod.snd) := by
  have some : ramps ≠ [] := List.cons_ne_nil _ _
  have blankGaps : ∀ view ∈ ramps, Text.isBlankText view.1.toList = true := by decide +kernel
  have inRange : ∀ view ∈ ramps, view.2.InRange := by decide +kernel
  have blankGap : Text.isBlankText "\n ".toList = true := by decide
  exact ⟨some, blankGaps, inRange, blankGap, script_replays {} some blankGaps inRange blankGap⟩

end TreeView

end TreeBoard
