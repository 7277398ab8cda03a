import Mathlib.Data.List.Forall2
import TreeBoard.Proofs.Grouping
import TreeBoard.Proofs.Steps
import TreeBoard.Proofs.Unbounded

/-!
# The grammar of scripts

Which scripts compile can be said without the compiler: line by line, by what stands before a
line, and by how the lines of levels are grouped. A reader that has read a part of a script
accepts the rest exactly if the rest `Continues` it, where `carry` are the lines of the frame that
is begun.

Results:
1. `continues_separator_iff`, `continues_short`, `continues_full`, what one line changes.
2. `run_of_continues`, `continues_of_run`, what all lines that follow are.
3. `compiles_iff_grammatical`, the scripts that compile, and the frames that they are made of.
-/

namespace TreeBoard.Script

/-! ## Definitions -/

/-- A line with this property stands before the given line. -/
def Preceded (script : List (String × Nat)) (line : String × Nat) (property : String → Prop) :
    Prop :=
  ∃ earlier ∈ script, earlier.2 < line.2 ∧ property earlier.1

/-- A line sets the marker that another one means. -/
def Marks (defaults : Defaults) (text earlier : String) : Prop :=
  begins "set_marker" earlier = true ∧ markerOf defaults earlier = markerOf defaults text

/-- A script that obeys the rules, with its lines of levels in groups of one frame each. -/
structure Grammatical (defaults : Defaults) (script : List (String × Nat))
    (groups : List (List (String × Nat))) : Prop where
  /-- Lines of levels hold nothing but blanks and digits. -/
  digits : ∀ line ∈ script, isDataLine line.1 = true → PartialFrame.Valid line.1.toList
  /-- Each run of such lines consists of whole frames. -/
  grouped : Grouping script groups
  /-- A frame stands before each fade, and the speed is a positive number. -/
  fades : ∀ line ∈ script, begins "fade_to" line.1 = true →
    (∃ group ∈ groups, ∀ earlier ∈ group, earlier.2 < line.2) ∧ SpeedAllowed line.1
  /-- The marker of each repeat is set before it. -/
  repeats : ∀ line ∈ script, begins "repeat" line.1 = true →
    Preceded script line (Marks defaults line.1)
  /-- Only blank lines follow an endless repeat. -/
  closing : ∀ line ∈ script, Preceded script line (begins "repeat_forever" · = true) →
    isBlankLine line.1 = true
  /-- There are levels at all. -/
  content : ∃ line ∈ script, isDataLine line.1 = true

/-- A frame consists of the levels of a group and bears the number of its first line. -/
def Shapes (frame : Frame) (group : List (String × Nat)) : Prop :=
  frame.levels.toList = groupLevels group ∧ group.head?.map Prod.snd = some frame.line

/-- What a reader asks of all lines that follow, apart from how they are grouped. -/
structure Follows (defaults : Defaults) (reader : Reader) (script : List (String × Nat)) :
    Prop where
  digits : ∀ line ∈ script, isDataLine line.1 = true → PartialFrame.Valid line.1.toList
  speeds : ∀ line ∈ script, begins "fade_to" line.1 = true → SpeedAllowed line.1
  repeats : ∀ line ∈ script, begins "repeat" line.1 = true →
    markerOf defaults line.1 ∈ reader.names ∨ Preceded script line (Marks defaults line.1)
  closing : ∀ line ∈ script,
    reader.closed = true ∨ Preceded script line (begins "repeat_forever" · = true) →
      isBlankLine line.1 = true

/-- Each fade has a frame to start from. -/
def Fadable (started : Bool) (script : List (String × Nat)) (groups : List (List (String × Nat))) :
    Prop :=
  ∀ line ∈ script, begins "fade_to" line.1 = true →
    started = true ∨ ∃ group ∈ groups, ∀ earlier ∈ group, earlier.2 < line.2

/-- All that a reader asks of the lines that follow. -/
structure Continues (defaults : Defaults) (reader : Reader) (carry script : List (String × Nat))
    (groups : List (List (String × Nat))) : Prop where
  follows : Follows defaults reader script
  grouped : Grouping (carry ++ script) groups
  fadable : Fadable reader.started script groups
  content : reader.started = true ∨ groups ≠ []

variable {defaults : Defaults} {reader : Reader} {line : String × Nat}
  {script rest carry group : List (String × Nat)} {groups : List (List (String × Nat))}

/-! ## What stands before a line -/

theorem not_preceded_first {property : String → Prop}
    (sorted : ∀ later ∈ rest, line.2 < later.2) : ¬ Preceded (line :: rest) line property := by
  rintro ⟨earlier, member, before, -⟩
  rcases List.mem_cons.1 member with rfl | inRest
  · exact Nat.lt_irrefl _ before
  · exact Nat.lt_asymm before (sorted earlier inRest)

theorem preceded_cons_iff {property : String → Prop} {target : String × Nat}
    (before : line.2 < target.2) :
    Preceded (line :: rest) target property ↔ property line.1 ∨ Preceded rest target property := by
  constructor
  · rintro ⟨earlier, member, smaller, holds⟩
    rcases List.mem_cons.1 member with rfl | inRest
    · exact .inl holds
    · exact .inr ⟨earlier, inRest, smaller, holds⟩
  · rintro (holds | ⟨earlier, member, smaller, holds⟩)
    · exact ⟨line, List.mem_cons_self, before, holds⟩
    · exact ⟨earlier, List.mem_cons_of_mem _ member, smaller, holds⟩

/-- What a reader asks of the next line, apart from the levels and frames before it. -/
structure Asks (defaults : Defaults) (reader : Reader) (text : String) : Prop where
  digits : isDataLine text = true → PartialFrame.Valid text.toList
  speed : begins "fade_to" text = true → SpeedAllowed text
  known : begins "repeat" text = true → markerOf defaults text ∈ reader.names
  ended : reader.closed = true → isBlankLine text = true

theorem mem_after_names {text : String} {name : String} :
    name ∈ (reader.after defaults text).names ↔
      (begins "set_marker" text = true ∧ markerOf defaults text = name) ∨ name ∈ reader.names := by
  unfold Reader.after
  cases begins "set_marker" text with
  | true => simp [eq_comm]
  | false => simp

theorem after_closed {text : String} :
    (reader.after defaults text).closed = true ↔
      reader.closed = true ∨ begins "repeat_forever" text = true := by
  simp [Reader.after]

/-- What is asked of lines is asked of one after another. -/
theorem follows_cons_iff (sorted : ∀ later ∈ rest, line.2 < later.2) :
    Follows defaults reader (line :: rest) ↔
      Asks defaults reader line.1 ∧ Follows defaults (reader.after defaults line.1) rest := by
  constructor
  · rintro ⟨digits, speeds, repeats, closing⟩
    obtain ⟨digit, digits⟩ := List.forall_mem_cons.1 digits
    obtain ⟨speed, speeds⟩ := List.forall_mem_cons.1 speeds
    obtain ⟨known, repeats⟩ := List.forall_mem_cons.1 repeats
    obtain ⟨ended, closing⟩ := List.forall_mem_cons.1 closing
    refine ⟨⟨digit, speed, ?_, fun closed => ended (.inl closed)⟩, digits, speeds, ?_, ?_⟩
    · intro starts
      exact (known starts).resolve_right (not_preceded_first sorted)
    · intro target member starts
      rw [mem_after_names, or_comm (a := _ ∧ _), or_assoc]
      exact (repeats target member starts).imp_right
        (preceded_cons_iff (sorted target member)).1
    · intro target member before
      refine closing target member ?_
      rw [after_closed, or_assoc] at before
      exact before.imp_right (preceded_cons_iff (sorted target member)).2
  · rintro ⟨⟨digit, speed, known, ended⟩, digits, speeds, repeats, closing⟩
    refine ⟨List.forall_mem_cons.2 ⟨digit, digits⟩, List.forall_mem_cons.2 ⟨speed, speeds⟩,
      List.forall_mem_cons.2 ⟨fun starts => .inl (known starts), ?_⟩,
      List.forall_mem_cons.2 ⟨?_, ?_⟩⟩
    · intro target member starts
      have before := repeats target member starts
      rw [mem_after_names, or_comm (a := _ ∧ _), or_assoc] at before
      exact before.imp_right (preceded_cons_iff (sorted target member)).2
    · rintro (closed | before)
      · exact ended closed
      · exact absurd before (not_preceded_first sorted)
    · intro target member before
      refine closing target member ?_
      rw [after_closed, or_assoc]
      exact before.imp_right (preceded_cons_iff (sorted target member)).1

/-! ## One line -/

theorem after_of_data {text : String} (data : isDataLine text = true) :
    reader.after defaults text = reader := by
  rw [Reader.after, begins_eq_false_of_data data (.inr (.inl rfl)),
    begins_eq_false_of_data data (.inr (.inr (.inl rfl))), Bool.or_false]
  rfl

/-- A line without levels, where no frame is begun. -/
theorem continues_separator_iff (separator : isDataLine line.1 = false)
    (sorted : ∀ later ∈ rest, line.2 < later.2) :
    Continues defaults reader [] (line :: rest) groups ↔
      reader.Admits defaults line.1 ∧
        Continues defaults (reader.after defaults line.1) [] rest groups := by
  constructor
  · rintro ⟨follows, grouped, fadable, content⟩
    obtain ⟨⟨-, speed, known, ended⟩, follows⟩ := (follows_cons_iff sorted).1 follows
    have grouped : Grouping rest groups := (grouping_separator_iff separator).1 grouped
    obtain ⟨first, fadable⟩ := List.forall_mem_cons.1 fadable
    refine ⟨⟨ended, fun starts => ⟨?_, speed starts⟩, known⟩, follows, grouped, fadable, content⟩
    -- All groups lie behind this line, so none of them can be the frame that the fade starts from.
    refine (first starts).resolve_right ?_
    rintro ⟨group, member, before⟩
    obtain ⟨earlier, others, rfl⟩ :=
      List.exists_cons_of_ne_nil (ne_nil_of_complete (grouped.complete group member))
    have behind := sorted earlier (mem_of_grouping grouped member List.mem_cons_self).1
    exact Nat.lt_asymm behind (before earlier List.mem_cons_self)
  · rintro ⟨⟨ended, fade, known⟩, follows, grouped, fadable, content⟩
    refine ⟨(follows_cons_iff sorted).2
        ⟨⟨?_, fun starts => (fade starts).2, known, ended⟩, follows⟩,
      (grouping_separator_iff separator).2 grouped,
      List.forall_mem_cons.2 ⟨fun starts => .inl (fade starts).1, fadable⟩, content⟩
    intro data
    rw [separator] at data
    cases data

theorem follows_data_iff (data : isDataLine line.1 = true)
    (sorted : ∀ later ∈ rest, line.2 < later.2) :
    Follows defaults reader (line :: rest) ↔
      (reader.closed = false ∧ PartialFrame.Valid line.1.toList) ∧
        Follows defaults reader rest := by
  rw [follows_cons_iff sorted, after_of_data data]
  have fits := kind_fits line.1
  rw [kind_of_data data] at fits
  refine and_congr_left fun _ => ⟨fun asks => ⟨?_, asks.digits data⟩, ?_⟩
  · rw [Bool.eq_false_iff]
    intro closed
    have blank := asks.ended closed
    rw [fits.blank] at blank
    cases blank
  · rintro ⟨goesOn, valid⟩
    refine ⟨fun _ => valid, ?_, ?_, ?_⟩
    · intro starts
      rw [fits.fade] at starts
      cases starts
    · intro starts
      rw [fits.again] at starts
      cases starts
    · intro closed
      rw [goesOn] at closed
      cases closed

theorem fadable_data_iff {started : Bool} (data : isDataLine line.1 = true) :
    Fadable started (line :: rest) groups ↔ Fadable started rest groups := by
  unfold Fadable
  rw [List.forall_mem_cons, and_iff_right]
  intro starts
  rw [begins_eq_false_of_data data (.inl rfl)] at starts
  cases starts

/-- A line of levels that leaves the frame incomplete. -/
theorem continues_short (data : isDataLine line.1 = true)
    (sorted : ∀ later ∈ rest, line.2 < later.2) (gathered : PartialFrame) :
    Continues defaults reader carry (line :: rest) groups ↔
      (reader.closed = false ∧ PartialFrame.Valid line.1.toList) ∧
        Continues defaults { reader with gathered } (carry ++ [line]) rest groups := by
  have together : carry ++ line :: rest = (carry ++ [line]) ++ rest := by simp
  constructor
  · rintro ⟨follows, grouped, fadable, content⟩
    obtain ⟨fits, ⟨digits, speeds, repeats, closing⟩⟩ := (follows_data_iff data sorted).1 follows
    exact ⟨fits, ⟨digits, speeds, repeats, closing⟩, together ▸ grouped,
      (fadable_data_iff data).1 fadable, content⟩
  · rintro ⟨fits, ⟨digits, speeds, repeats, closing⟩, grouped, fadable, content⟩
    exact ⟨(follows_data_iff data sorted).2 ⟨fits, ⟨digits, speeds, repeats, closing⟩⟩,
      together ▸ grouped, (fadable_data_iff data).2 fadable, content⟩

/-- A line of levels that completes a frame. -/
theorem continues_full (data : isDataLine line.1 = true)
    (sorted : ∀ later ∈ rest, line.2 < later.2)
    (before : ∀ earlier ∈ carry ++ [line], ∀ later ∈ rest, earlier.2 < later.2)
    (closes : Grouping (carry ++ line :: rest) ((carry ++ [line]) :: groups) ↔ Grouping rest groups)
    (gathered : PartialFrame) :
    Continues defaults reader carry (line :: rest) ((carry ++ [line]) :: groups) ↔
      (reader.closed = false ∧ PartialFrame.Valid line.1.toList) ∧
        Continues defaults { reader with gathered, started := true } [] rest groups := by
  constructor
  · rintro ⟨follows, grouped, fadable, content⟩
    obtain ⟨fits, ⟨digits, speeds, repeats, closing⟩⟩ := (follows_data_iff data sorted).1 follows
    exact ⟨fits, ⟨digits, speeds, repeats, closing⟩, closes.1 grouped, fun _ _ _ => .inl rfl,
      .inl rfl⟩
  · rintro ⟨fits, ⟨digits, speeds, repeats, closing⟩, grouped, -, -⟩
    refine ⟨(follows_data_iff data sorted).2 ⟨fits, ⟨digits, speeds, repeats, closing⟩⟩,
      closes.2 grouped, (fadable_data_iff data).2 ?_, .inr (List.cons_ne_nil _ _)⟩
    intro later member starts
    exact .inr ⟨_, List.mem_cons_self, fun earlier inGroup => before earlier inGroup later member⟩

/-! ## All lines that follow -/

/-- The lines of the frame that is begun, before the line with the given number. -/
structure Carried (reader : Reader) (carry : List (String × Nat)) (number : Nat) : Prop where
  begun : Begun carry
  levels : groupLevels carry = reader.gathered.pending
  first : ∀ earlier ∈ carry.head?, earlier.2 = reader.gathered.startLine
  before : ∀ earlier ∈ carry, earlier.2 < number

variable {number : Nat} {text : String}

theorem carried_nil (empty : reader.gathered.isEmpty = true) (number : Nat) :
    Carried reader [] number :=
  ⟨begun_nil, (List.isEmpty_iff.1 empty).symm, fun _ => (nomatch ·), List.forall_mem_nil _⟩

theorem groupLevels_carried (carried : Carried reader carry number) (text : String) :
    (groupLevels (carry ++ [(text, number)])).length =
      reader.gathered.size + (levelsOf text).length := by
  rw [groupLevels_append, List.length_append, carried.levels, groupLevels_singleton]
  rfl

theorem carried_eq_nil (carried : Carried reader carry number)
    (empty : reader.gathered.isEmpty = true) : carry = [] :=
  eq_nil_of_groupLevels carried.begun.visible (carried.levels.trans (List.isEmpty_iff.1 empty))

theorem isEmpty_carried (carried : Carried reader carry number) (occupied : carry ≠ []) :
    reader.gathered.isEmpty = false := by
  rw [Bool.eq_false_iff]
  exact mt (carried_eq_nil carried) occupied

/-- The number of the first line of a frame, when one more line is read. -/
theorem head_carried (carried : Carried reader carry number) (text : String)
    {levels : List Level} (visible : levels ≠ []) : (carry ++ [(text, number)]).head?.map Prod.snd =
      some (reader.gathered.collect number levels).startLine := by
  unfold PartialFrame.collect
  rw [if_neg (mt List.isEmpty_iff.1 visible)]
  cases carry with
  | nil =>
      have empty : reader.gathered.isEmpty = true := List.isEmpty_iff.2 carried.levels.symm
      rw [if_pos empty]
      rfl
  | cons first others =>
      rw [if_neg (by rw [isEmpty_carried carried (List.cons_ne_nil _ _)]; decide)]
      exact congrArg some (carried.first first rfl)

theorem carried_short (carried : Carried reader carry number) (data : isDataLine text = true)
    (valid : PartialFrame.Valid text.toList)
    (short : reader.gathered.size + (levelsOf text).length < Board.ledCount) :
    Carried { reader with gathered := reader.gathered.collect number (levelsOf text) }
      (carry ++ [(text, number)]) (number + 1) := by
  have visible := levelsOf_ne_nil data valid
  refine ⟨⟨?_, ?_, ?_⟩, ?_, ?_, ?_⟩
  · exact List.forall_mem_append.2 ⟨carried.begun.data, List.forall_mem_singleton.2 data⟩
  · exact List.forall_mem_append.2 ⟨carried.begun.visible, List.forall_mem_singleton.2 visible⟩
  · rw [groupLevels_carried carried]
    exact short
  · rw [PartialFrame.collect_pending, groupLevels_append, carried.levels, groupLevels_singleton]
  · intro earlier head
    have named := head_carried carried text visible
    rw [show _ = some earlier from head] at named
    exact Option.some.inj named
  · refine List.forall_mem_append.2 ⟨fun earlier member => ?_, List.forall_mem_singleton.2 ?_⟩
    · exact Nat.lt_succ_of_lt (carried.before earlier member)
    · exact Nat.lt_succ_self number

theorem lt_of_mem_zipIdx {lines : List String} :
    ∀ later ∈ lines.zipIdx (number + 1), number < later.2 :=
  fun _ member => List.le_snd_of_mem_zipIdx member

/-- What is begun and the line that completes it stand before all lines that follow. -/
theorem before_of_carried (carried : Carried reader carry number) {lines : List String} :
    ∀ earlier ∈ carry ++ [(text, number)], ∀ later ∈ lines.zipIdx (number + 1),
      earlier.2 < later.2 := by
  intro earlier member later behind
  have after := lt_of_mem_zipIdx later behind
  rcases List.mem_append.1 member with carriedOn | last
  · exact Nat.lt_trans (carried.before earlier carriedOn) after
  · rw [List.mem_singleton.1 last]
    exact after

/-- A group closes with the line that completes it. -/
theorem closes_of_full (carried : Carried reader carry number) (data : isDataLine text = true)
    (visible : ∀ line ∈ rest, isDataLine line.1 = true → levelsOf line.1 ≠ [])
    (full : reader.gathered.size + (levelsOf text).length = Board.ledCount) :
    Grouping (carry ++ (text, number) :: rest) ((carry ++ [(text, number)]) :: groups) ↔
      Grouping rest groups := by
  have complete := (groupLevels_carried carried text).trans full
  have line : isDataLine (text, number).1 = true := data
  constructor
  · intro grouped
    obtain ⟨-, closes⟩ :=
      grouping_line carried.begun line visible grouped
    obtain ⟨others, same, more⟩ := closes complete
    rw [(List.cons.inj same).2]
    exact more
  · intro grouped
    have whole := grouping_group (List.forall_mem_append.2
      ⟨carried.begun.data, List.forall_mem_singleton.2 line⟩) complete grouped
    rwa [List.append_assoc] at whole

theorem visible_of_follows (follows : Follows defaults reader script) :
    ∀ line ∈ script, isDataLine line.1 = true → levelsOf line.1 ≠ [] :=
  fun line member data => levelsOf_ne_nil data (follows.digits line member data)

/-- A reader reads all lines that continue what it has read, and completes a frame for each group.
-/
theorem run_of_continues {lines : List String} (sound : reader.Sound)
    (carried : Carried reader carry number)
    (continues : Continues defaults reader carry (lines.zipIdx number) groups) :
    ∃ last actions, Reader.run defaults number lines reader = .ok (last, actions) ∧
      last.started = true ∧ last.gathered.isEmpty = true ∧
      List.Forall₂ Shapes (actions.filterMap Action.frame?) groups := by
  -- The lines of the frame that is begun are carried along, until the line that completes it.
  induction lines generalizing number reader carry groups with
  | nil =>
      obtain rfl := eq_nil_of_grouping carried.begun continues.grouped fun _ => (nomatch ·)
      obtain rfl := grouping_nil_iff.1 continues.grouped
      exact ⟨reader, [], rfl, continues.content.resolve_right (absurd rfl),
        List.isEmpty_iff.2 carried.levels.symm, .nil⟩
  | cons text later ih =>
      rw [List.zipIdx_cons] at continues
      cases data : isDataLine text with
      | true =>
          have line : isDataLine (text, number).1 = true := data
          obtain ⟨⟨goesOn, valid⟩, follows⟩ :=
            (follows_data_iff line lt_of_mem_zipIdx).1 continues.follows
          have visible := visible_of_follows follows
          obtain ⟨room, closes⟩ := grouping_line carried.begun line visible continues.grouped
          rw [groupLevels_carried carried] at room closes
          rcases Nat.lt_or_eq_of_le room with short | full
          · have stepped := Reader.step_short defaults goesOn data valid number short
            obtain ⟨-, others⟩ := (continues_short line lt_of_mem_zipIdx _).1 continues
            obtain ⟨last, actions, run, ended⟩ := ih (Reader.step_sound sound stepped)
              (carried_short carried data valid short) others
            exact ⟨last, actions, run_cons_iff.2 ⟨_, [], actions, stepped, run, rfl⟩, ended⟩
          · obtain ⟨frame, levels, named, stepped⟩ :=
              Reader.step_full defaults sound goesOn data valid number full
            obtain ⟨groups, rfl, -⟩ := closes full
            obtain ⟨-, others⟩ := (continues_full line lt_of_mem_zipIdx
              (before_of_carried carried) (closes_of_full carried data visible full) _).1 continues
            obtain ⟨last, actions, run, started, empty, shapes⟩ :=
              ih (Reader.step_sound sound stepped) (carried_nil rfl (number + 1)) others
            refine ⟨last, .addFrame frame :: actions,
              run_cons_iff.2 ⟨_, [.addFrame frame], actions, stepped, run, rfl⟩, started, empty,
              .cons ⟨?_, ?_⟩ shapes⟩
            · rw [levels, groupLevels_append, carried.levels, groupLevels_singleton]
            · rw [named]
              exact head_carried carried text (levelsOf_ne_nil data valid)
      | false =>
          have line : isDataLine (text, number).1 = false := data
          obtain rfl := eq_nil_of_grouping carried.begun continues.grouped fun first head => by
            cases head
            exact line
          have empty : reader.gathered.isEmpty = true := List.isEmpty_iff.2 carried.levels.symm
          have unchanged : (reader.after defaults text).gathered.isEmpty = true := empty
          obtain ⟨admitted, others⟩ :=
            (continues_separator_iff line lt_of_mem_zipIdx).1 continues
          obtain ⟨first, stepped, frameless⟩ := Reader.step_of_admits data empty admitted number
          obtain ⟨last, actions, run, started, ended, shapes⟩ :=
            ih (Reader.step_sound sound stepped) (carried_nil unchanged (number + 1)) others
          refine ⟨last, first ++ actions, run_cons_iff.2 ⟨_, first, actions, stepped, run, rfl⟩,
            started, ended, ?_⟩
          rw [List.filterMap_append, frameless]
          exact shapes

/-- All lines that a reader reads to the end of a frame continue what it has read. -/
theorem continues_of_run {lines : List String} {last : Reader} {actions : List Action}
    (sound : reader.Sound) (carried : Carried reader carry number)
    (accepted : Reader.run defaults number lines reader = .ok (last, actions))
    (started : last.started = true) (ended : last.gathered.isEmpty = true) :
    ∃ groups, Continues defaults reader carry (lines.zipIdx number) groups := by
  induction lines generalizing number reader carry actions with
  | nil =>
      cases accepted
      obtain rfl := carried_eq_nil carried ended
      exact ⟨[], ⟨List.forall_mem_nil _, List.forall_mem_nil _, List.forall_mem_nil _,
        List.forall_mem_nil _⟩, grouping_nil_iff.2 rfl, List.forall_mem_nil _, .inl started⟩
  | cons text later ih =>
      rw [List.zipIdx_cons]
      obtain ⟨next, first, others, stepped, rest, -⟩ := run_cons_iff.1 accepted
      have preserved := Reader.step_sound sound stepped
      cases Reader.step_cases sound stepped with
      | short data goesOn valid short =>
          have line : isDataLine (text, number).1 = true := data
          obtain ⟨groups, continues⟩ := ih preserved (carried_short carried data valid short) rest
          exact ⟨groups, (continues_short line lt_of_mem_zipIdx _).2 ⟨⟨goesOn, valid⟩, continues⟩⟩
      | full data goesOn valid full frame =>
          have line : isDataLine (text, number).1 = true := data
          obtain ⟨groups, continues⟩ := ih preserved (carried_nil rfl (number + 1)) rest
          have closes : Grouping (carry ++ _) (_ :: groups) ↔ Grouping _ groups :=
            closes_of_full carried data (visible_of_follows continues.follows) full
          exact ⟨(carry ++ [(text, number)]) :: groups,
            (continues_full line lt_of_mem_zipIdx (before_of_carried carried) closes _).2
              ⟨⟨goesOn, valid⟩, continues⟩⟩
      | separator separator empty admitted =>
          have line : isDataLine (text, number).1 = false := separator
          have unchanged : (reader.after defaults text).gathered.isEmpty = true := empty
          obtain rfl := carried_eq_nil carried empty
          obtain ⟨groups, continues⟩ := ih preserved (carried_nil unchanged (number + 1)) rest
          exact ⟨groups, (continues_separator_iff line lt_of_mem_zipIdx).2 ⟨admitted, continues⟩⟩

/-! ## Scripts -/

/-- What continues an empty script is a script. -/
theorem continues_empty_iff :
    Continues defaults {} [] script groups ↔ Grammatical defaults script groups := by
  constructor
  · rintro ⟨⟨digits, speeds, repeats, closing⟩, grouped, fadable, content⟩
    refine ⟨digits, grouped, fun line member starts => ⟨?_, speeds line member starts⟩, ?_, ?_, ?_⟩
    · exact (fadable line member starts).resolve_left Bool.false_ne_true
    · exact fun line member starts => (repeats line member starts).resolve_left List.not_mem_nil
    · exact fun line member before => closing line member (.inr before)
    · obtain ⟨group, others, rfl⟩ :=
        List.exists_cons_of_ne_nil (content.resolve_left Bool.false_ne_true)
      have complete := grouped.complete group List.mem_cons_self
      obtain ⟨line, later, rfl⟩ := List.exists_cons_of_ne_nil (ne_nil_of_complete complete)
      exact ⟨line, mem_of_grouping grouped List.mem_cons_self List.mem_cons_self⟩
  · rintro ⟨digits, grouped, fades, repeats, closing, content⟩
    refine ⟨⟨digits, fun line member starts => (fades line member starts).2, ?_, ?_⟩, grouped,
      ?_, ?_⟩
    · exact fun line member starts => .inr (repeats line member starts)
    · exact fun line member before => closing line member (before.resolve_left Bool.false_ne_true)
    · exact fun line member starts => .inr (fades line member starts).1
    · refine .inr ?_
      rintro rfl
      obtain ⟨line, member, data⟩ := content
      have inGroups : line ∈ ([] : List (List (String × Nat))).flatten := by
        rw [flatten_of_grouping grouped]
        exact List.mem_filter.2 ⟨member, data⟩
      cases inGroups

theorem read_of_grammatical {lines : List String}
    (grammatical : Grammatical defaults (numbered lines) groups) :
    ∃ actions, read defaults lines = .ok actions ∧
      List.Forall₂ Shapes (actions.filterMap Action.frame?) groups := by
  obtain ⟨last, actions, run, started, empty, shapes⟩ :=
    run_of_continues Reader.sound_empty (carried_nil rfl 1) (continues_empty_iff.2 grammatical)
  exact ⟨actions, read_iff.2 ⟨last, run, started, empty⟩, shapes⟩

theorem grammatical_of_read {lines : List String} {actions : List Action}
    (accepted : read defaults lines = .ok actions) :
    ∃ groups, Grammatical defaults (numbered lines) groups := by
  obtain ⟨last, run, started, empty⟩ := read_iff.1 accepted
  obtain ⟨groups, continues⟩ :=
    continues_of_run Reader.sound_empty (carried_nil rfl 1) run started empty
  exact ⟨groups, continues_empty_iff.1 continues⟩

/-- **The compiler accepts exactly the grammar.** A script compiles if and only if it is
grammatical. The animation is then made by actions that complete one frame for each group of
lines, in their order. -/
theorem compiles_iff_grammatical (defaults : Defaults) (lines : List String) :
    ((∃ animation, compile defaults lines = .ok animation) ↔
        ∃ groups, Grammatical defaults (numbered lines) groups) ∧
      ∀ groups, Grammatical defaults (numbered lines) groups →
        ∃ actions, read defaults lines = .ok actions ∧
          compile defaults lines = (({} : State).performAll actions).ending ∧
          List.Forall₂ Shapes (actions.filterMap Action.frame?) groups := by
  refine ⟨⟨?_, ?_⟩, ?_⟩
  · rintro ⟨animation, compiled⟩
    obtain ⟨actions, accepted⟩ := read_of_compile compiled
    exact grammatical_of_read accepted
  · rintro ⟨groups, grammatical⟩
    obtain ⟨actions, accepted, -⟩ := read_of_grammatical grammatical
    obtain ⟨animation, compiled, -⟩ := compile_of_read accepted
    exact ⟨animation, compiled⟩
  · intro groups grammatical
    obtain ⟨actions, accepted, shapes⟩ := read_of_grammatical grammatical
    refine ⟨actions, accepted, ?_, shapes⟩
    rw [compile_eq, accepted]
    rfl

end TreeBoard.Script
