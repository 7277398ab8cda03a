import TreeBoard.Proofs.Steps
import TreeBoard.Proofs.Unbounded

/-!
# Errors at the earliest line

An error that names a line is found as early as it can be. The lines before the one that it names
can still become a script that compiles, and nothing that follows the line can avert the error.
Two cases stand apart: a frame that is cut off by the end of the script can be completed by
further lines, and no lines can help where an endless repeat was performed before there was a
frame.

Results:
1. `Reader.run_append`, `Reader.exists_of_run_error`, a run of a reader and the line where it stops.
2. `Reader.run_completion`, a reader can be led to the end of a frame.
3. `error_at_earliest_line`, where errors are found.
-/

namespace TreeBoard.Script

/-! ## Definitions -/

/-- Some lines can follow that make a script that compiles. -/
def Continuable (defaults : Defaults) (lines : List String) : Prop :=
  ∃ more animation, compile defaults (lines ++ more) = .ok animation

/-- Among these lines stands an endless repeat before which there is no frame. -/
def EndsEmpty (defaults : Defaults) (lines : List String) : Prop :=
  ∃ before text after state, lines = before ++ text :: after ∧
    begins "repeat_forever" text = true ∧ run defaults 1 before {} = .ok state ∧ state.frames = []

/-- A line of dark levels. -/
def darkLine (count : Nat) : String :=
  String.ofList (List.replicate count '0')

/-! ## Runs of a reader -/

namespace Reader

variable {defaults : Defaults} {reader last : Reader} {line : Nat} {lines : List String}
  {actions : List Action}

theorem run_append (defaults : Defaults) (line : Nat) (front rest : List String) (reader : Reader) :
    run defaults line (front ++ rest) reader =
      (run defaults line front reader).bind fun mid =>
        (run defaults (line + front.length) rest mid.1).map fun last =>
          (last.1, mid.2 ++ last.2) := by
  induction front generalizing line reader with
  | nil =>
      show run defaults line rest reader =
        (run defaults line rest reader).map fun last => (last.1, last.2)
      cases run defaults line rest reader <;> rfl
  | cons text later ih =>
      rw [List.cons_append, run, run]
      cases reader.step defaults line text with
      | error error => rfl
      | ok next =>
          simp only
          rw [ih, List.length_cons, Nat.add_assoc, Nat.add_comm 1]
          cases run defaults (line + 1) later next.1 with
          | error error => rfl
          | ok mid =>
              simp only [Except.bind]
              cases run defaults (line + (later.length + 1)) rest mid.1 with
              | error error => rfl
              | ok last => simp [Except.map]

/-- A run over two parts is a run over the first and a run from there. -/
theorem run_append_iff {front rest : List String} :
    run defaults line (front ++ rest) reader = .ok (last, actions) ↔
      ∃ mid first others, run defaults line front reader = .ok (mid, first) ∧
        run defaults (line + front.length) rest mid = .ok (last, others) ∧
        actions = first ++ others := by
  rw [run_append]
  constructor
  · intro accepted
    cases reached : run defaults line front reader with
    | error error =>
        rw [reached] at accepted
        cases accepted
    | ok mid =>
        rw [reached] at accepted
        simp only [Except.bind] at accepted
        cases further : run defaults (line + front.length) rest mid.1 with
        | error error =>
            rw [further] at accepted
            cases accepted
        | ok final =>
            rw [further] at accepted
            cases accepted
            exact ⟨mid.1, mid.2, final.2, rfl, further, rfl⟩
  · rintro ⟨mid, first, others, reached, further, rfl⟩
    rw [reached]
    simp only [Except.bind, further, Except.map]

/-- A run stops at the first line that is refused. -/
theorem exists_of_run_error {error : Error}
    (failed : run defaults line lines reader = .error error) :
    ∃ before text after mid actions, lines = before ++ text :: after ∧
      run defaults line before reader = .ok (mid, actions) ∧
      mid.step defaults (line + before.length) text = .error error := by
  induction lines generalizing line reader with
  | nil => cases failed
  | cons text later ih =>
      cases stepped : reader.step defaults line text with
      | error wrong =>
          rw [run, stepped] at failed
          cases failed
          exact ⟨[], text, later, reader, [], rfl, rfl, stepped⟩
      | ok next =>
          have further : run defaults (line + 1) later next.1 = .error error := by
            rw [run, stepped] at failed
            simp only at failed
            split at failed <;> cases failed
            assumption
          obtain ⟨before, wrong, after, mid, others, rfl, reached, refused⟩ := ih further
          refine ⟨text :: before, wrong, after, mid, next.2 ++ others, rfl,
            run_cons_iff.2 ⟨next.1, next.2, others, stepped, reached, rfl⟩, ?_⟩
          rw [List.length_cons, Nat.add_comm before.length, ← Nat.add_assoc]
          exact refused

theorem run_sound (sound : reader.Sound)
    (accepted : run defaults line lines reader = .ok (last, actions)) : last.Sound := by
  induction lines generalizing line reader actions with
  | nil =>
      cases accepted
      exact sound
  | cons text later ih =>
      obtain ⟨next, first, others, stepped, rest, -⟩ := run_cons_iff.1 accepted
      exact ih (step_sound sound stepped) rest

theorem run_started (sound : reader.Sound)
    (accepted : run defaults line lines reader = .ok (last, actions))
    (started : reader.started = true) : last.started = true := by
  induction lines generalizing line reader actions with
  | nil =>
      cases accepted
      exact started
  | cons text later ih =>
      obtain ⟨next, first, others, stepped, rest, -⟩ := run_cons_iff.1 accepted
      exact ih (step_sound sound stepped) rest ((step_flags sound stepped).2.1 started)

/-- Once a script is closed, no frame is added. -/
theorem run_closed (sound : reader.Sound)
    (accepted : run defaults line lines reader = .ok (last, actions))
    (closed : reader.closed = true) :
    last.closed = true ∧ last.started = reader.started := by
  induction lines generalizing line reader actions with
  | nil =>
      cases accepted
      exact ⟨closed, rfl⟩
  | cons text later ih =>
      obtain ⟨next, first, others, stepped, rest, -⟩ := run_cons_iff.1 accepted
      obtain ⟨closes, -, same⟩ := step_flags sound stepped
      rw [closed, Bool.true_or] at closes
      rw [← same closes]
      exact ih (step_sound sound stepped) rest closes

/-- The line that has closed a script. -/
theorem exists_of_closed (sound : reader.Sound) (goesOn : reader.closed = false)
    (accepted : run defaults line lines reader = .ok (last, actions))
    (closed : last.closed = true) :
    ∃ before text after mid first, lines = before ++ text :: after ∧
      begins "repeat_forever" text = true ∧
      run defaults line before reader = .ok (mid, first) ∧
      (mid.started = true → last.started = true) := by
  induction lines generalizing line reader actions with
  | nil =>
      cases accepted
      rw [goesOn] at closed
      cases closed
  | cons text later ih =>
      obtain ⟨next, first, others, stepped, rest, -⟩ := run_cons_iff.1 accepted
      have preserved := step_sound sound stepped
      obtain ⟨closes, starts, -⟩ := step_flags sound stepped
      rw [goesOn, Bool.false_or] at closes
      cases ends : begins "repeat_forever" text with
      | true =>
          exact ⟨[], text, later, reader, [], rfl, ends, rfl,
            fun started => run_started preserved rest (starts started)⟩
      | false =>
          obtain ⟨before, wrong, after, mid, second, rfl, forever, reached, kept⟩ :=
            ih preserved (closes.trans ends) rest
          exact ⟨text :: before, wrong, after, mid, first ++ second, rfl, forever,
            run_cons_iff.2 ⟨next, first, second, stepped, reached, rfl⟩, kept⟩

end Reader

/-! ## Completing a frame -/

theorem darkLine_toList (count : Nat) : (darkLine count).toList = List.replicate count '0' :=
  String.toList_ofList

theorem valid_darkLine (count : Nat) : PartialFrame.Valid (darkLine count).toList := by
  intro c member
  rw [darkLine_toList] at member
  rw [List.eq_of_mem_replicate member]
  exact .inr (by decide)

theorem length_levelsOf_darkLine (count : Nat) : (levelsOf (darkLine count)).length = count := by
  simp [levelsOf, darkLine_toList, digitLevels]

theorem isDataLine_darkLine {count : Nat} (some : count ≠ 0) :
    isDataLine (darkLine count) = true := by
  refine isDataLine_of_valid (valid_darkLine count) fun nothing => some ?_
  rw [← length_levelsOf_darkLine count, nothing]
  rfl

/-- A reader can be led to the end of a frame, unless it is closed without one. -/
theorem Reader.run_completion (defaults : Defaults) {reader : Reader} (sound : reader.Sound)
    (line : Nat) (open' : reader.closed = true → reader.started = true) :
    ∃ more last actions, Reader.run defaults line more reader = .ok (last, actions) ∧
      last.started = true ∧ last.gathered.isEmpty = true := by
  cases goesOn : reader.closed with
  | true => exact ⟨[], reader, [], rfl, open' goesOn, sound.closed goesOn⟩
  | false =>
      have short := sound.gathering.short
      have lacking : Board.ledCount - reader.gathered.size ≠ 0 := Nat.sub_ne_zero_of_lt short
      have full : reader.gathered.size +
          (levelsOf (darkLine (Board.ledCount - reader.gathered.size))).length =
            Board.ledCount := by
        rw [length_levelsOf_darkLine]
        exact Nat.add_sub_cancel' (Nat.le_of_lt short)
      obtain ⟨frame, -, -, stepped⟩ := step_full defaults sound goesOn
        (isDataLine_darkLine lacking) (valid_darkLine _) line full
      exact ⟨[_], _, _, run_cons_iff.2 ⟨_, _, [], stepped, rfl, rfl⟩, rfl, rfl⟩

/-! ## What can follow some lines -/

section

variable {defaults : Defaults} {lines : List String} {reader : Reader} {actions : List Action}

/-- Lines can be continued, unless they are closed without a frame. -/
theorem continuable_iff (accepted : Reader.run defaults 1 lines {} = .ok (reader, actions)) :
    Continuable defaults lines ↔ (reader.closed = true → reader.started = true) := by
  have sound := Reader.run_sound Reader.sound_empty accepted
  constructor
  · rintro ⟨more, animation, compiled⟩ closed
    obtain ⟨others, readable⟩ := read_of_compile compiled
    obtain ⟨last, run, started, -⟩ := read_iff.1 readable
    obtain ⟨mid, first, second, reached, rest, -⟩ := Reader.run_append_iff.1 run
    rw [accepted] at reached
    cases reached
    rw [← (Reader.run_closed sound rest closed).2]
    exact started
  · intro open'
    obtain ⟨more, last, others, run, started, empty⟩ :=
      Reader.run_completion defaults sound (1 + lines.length) open'
    have whole : Reader.run defaults 1 (lines ++ more) {} = .ok (last, actions ++ others) :=
      Reader.run_append_iff.2 ⟨reader, actions, others, accepted, run, rfl⟩
    obtain ⟨animation, compiled, -⟩ := compile_of_read (read_iff.2 ⟨last, whole, started, empty⟩)
    exact ⟨more, animation, compiled⟩

/-- The compiler goes where a reader has gone. -/
theorem run_of_read (accepted : Reader.run defaults 1 lines {} = .ok (reader, actions)) :
    run defaults 1 lines {} = .ok (({} : State).advance (reader, actions)) := by
  have same := run_eq defaults 1 lines {}
  rw [show ({} : State).reader = {} from rfl, accepted] at same
  cases compiled : run defaults 1 lines {} with
  | error failure =>
      rw [compiled] at same
      cases same
  | ok state =>
      rw [compiled] at same
      exact congrArg Except.ok (Except.ok.inj same)

theorem exists_state (accepted : Reader.run defaults 1 lines {} = .ok (reader, actions)) :
    ∃ state, run defaults 1 lines {} = .ok state ∧ state.reader = reader :=
  ⟨_, run_of_read accepted, run_reader accepted⟩

theorem exists_reader {state : State} (accepted : run defaults 1 lines {} = .ok state) :
    ∃ actions, Reader.run defaults 1 lines {} = .ok (state.reader, actions) := by
  have same := run_eq defaults 1 lines {}
  rw [show ({} : State).reader = {} from rfl, accepted] at same
  cases readable : Reader.run defaults 1 lines {} with
  | error error =>
      rw [readable] at same
      cases same
  | ok last =>
      rw [readable] at same
      cases same
      exact ⟨last.2, by rw [run_reader readable]⟩

theorem started_iff {state : State} : state.reader.started = false ↔ state.frames = [] := by
  simp [State.reader]

theorem endsEmpty_iff (accepted : Reader.run defaults 1 lines {} = .ok (reader, actions)) :
    EndsEmpty defaults lines ↔ reader.closed = true ∧ reader.started = false := by
  constructor
  · rintro ⟨before, text, after, state, rfl, forever, compiled, empty⟩
    obtain ⟨first, reached⟩ := exists_reader compiled
    obtain ⟨mid, _, _, again, rest, -⟩ := Reader.run_append_iff.1 accepted
    rw [reached] at again
    cases again
    obtain ⟨next, second, others, stepped, further, -⟩ := run_cons_iff.1 rest
    have sound := Reader.run_sound Reader.sound_empty reached
    obtain ⟨closes, -, unstarted⟩ := Reader.step_flags sound stepped
    rw [forever, Bool.or_true] at closes
    obtain ⟨closed, same⟩ := Reader.run_closed (Reader.step_sound sound stepped) further closes
    exact ⟨closed, (same.trans (unstarted closes)).trans (started_iff.2 empty)⟩
  · rintro ⟨closed, unstarted⟩
    obtain ⟨before, text, after, mid, first, rfl, forever, reached, kept⟩ :=
      Reader.exists_of_closed Reader.sound_empty rfl accepted closed
    obtain ⟨state, compiled, rfl⟩ := exists_state reached
    refine ⟨before, text, after, state, rfl, forever, compiled, started_iff.1 ?_⟩
    rw [Bool.eq_false_iff]
    intro started
    rw [kept started] at unstarted
    cases unstarted

/-! ## Errors -/

theorem compile_of_read_error {error : Error} (failed : read defaults lines = .error error) :
    compile defaults lines = .error error := by
  rw [compile_eq, failed]
  rfl

theorem read_of_compile_error {error : Error} (failed : compile defaults lines = .error error) :
    read defaults lines = .error error := by
  cases readable : read defaults lines with
  | error other =>
      rw [compile_of_read_error readable] at failed
      cases failed
      rfl
  | ok actions =>
      obtain ⟨animation, compiled, -⟩ := compile_of_read readable
      rw [compiled] at failed
      cases failed

/-- Nothing that follows averts an error at a line. -/
theorem compile_of_step_error {before : List String} {text : String} {error : Error}
    (reached : Reader.run defaults 1 before {} = .ok (reader, actions))
    (refused : reader.step defaults (1 + before.length) text = .error error)
    (after : List String) : compile defaults (before ++ text :: after) = .error error := by
  have failed : Reader.run defaults 1 (before ++ text :: after) {} = .error error := by
    rw [Reader.run_append, reached]
    simp only [Except.bind, Reader.run, refused, Except.map]
  refine compile_of_read_error ?_
  unfold read
  rw [failed]

/-- A frame is begun at the end only by a line of levels. -/
theorem exists_of_occupied (accepted : Reader.run defaults 1 lines {} = .ok (reader, actions))
    (occupied : reader.gathered.isEmpty = false) :
    ∃ before text, lines = before ++ [text] ∧ isDataLine text = true := by
  rcases List.eq_nil_or_concat lines with rfl | ⟨before, text, rfl⟩
  · cases accepted
    cases occupied
  · rw [List.concat_eq_append] at accepted ⊢
    refine ⟨before, text, rfl, ?_⟩
    obtain ⟨mid, _, _, reached, rest, -⟩ := Reader.run_append_iff.1 accepted
    obtain ⟨next, first, others, stepped, further, -⟩ := run_cons_iff.1 rest
    cases further
    cases Reader.step_cases (Reader.run_sound Reader.sound_empty reached) stepped with
    | short data => exact data
    | full data => exact data
    | separator separator empty =>
        have unchanged : (mid.after defaults text).gathered.isEmpty = true := empty
        rw [unchanged] at occupied
        cases occupied

/-- What is wrong at the end of a script that is read to its end. -/
theorem finish_error {error : Error} {number : Nat}
    (failed : reader.finish lines.length = .error error) (located : error.line? = some number) :
    reportsIncomplete error = true ∧ number = lines.length ∧ reader.started = true ∧
      reader.gathered.isEmpty = false := by
  unfold Reader.finish PartialFrame.finish at failed
  split at failed
  · rename_i started
    split at failed <;> cases failed
    rename_i occupied
    cases located
    exact ⟨rfl, rfl, started, Bool.eq_false_iff.2 occupied⟩
  · cases failed
    cases located

/-- **Errors are found at the earliest line.** An error that names a line is an incomplete frame
at the end of the script, which further lines can complete, or it is found there whatever follows,
and only there: the lines before it can be continued, unless they end an animation without frames.
-/
theorem error_at_earliest_line {error : Error} {number : Nat}
    (failed : compile defaults lines = .error error) (located : error.line? = some number) :
    ∃ text, lines[number - 1]? = some text ∧ 1 ≤ number ∧
      if reportsIncomplete error = true ∧ isBlankLine text = false then
        number = lines.length ∧ Continuable defaults lines
      else
        (∀ more, compile defaults (lines.take number ++ more) = .error error) ∧
          (Continuable defaults (lines.take (number - 1)) ↔
            ¬ EndsEmpty defaults (lines.take (number - 1))) := by
  have unread := read_of_compile_error failed
  unfold read at unread
  cases run : Reader.run defaults 1 lines {} with
  -- A line is refused: the same happens whatever follows, and the lines before it were accepted.
  | error wrong =>
      rw [run] at unread
      cases unread
      obtain ⟨before, text, after, mid, actions, rfl, reached, refused⟩ :=
        Reader.exists_of_run_error run
      have sound := Reader.run_sound Reader.sound_empty reached
      obtain ⟨named, blank⟩ := Reader.step_error sound refused
      obtain rfl : 1 + before.length = number := Option.some.inj (named.symm.trans located)
      refine ⟨text, by simp, Nat.le_add_right .., ?_⟩
      rw [if_neg]
      · rw [Nat.add_sub_cancel_left, List.take_left, continuable_iff reached,
          endsEmpty_iff reached, Nat.add_comm, List.take_length_add_append]
        refine ⟨fun more => ?_, ?_⟩
        · have wrong := compile_of_step_error reached refused more
          rwa [List.append_cons] at wrong
        · cases mid.closed <;> cases mid.started <;> decide
      · rintro ⟨incomplete, filled⟩
        rw [blank incomplete] at filled
        cases filled
  -- All lines are read, so the script ends inside a frame.
  | ok final =>
      obtain ⟨last, actions⟩ := final
      rw [run] at unread
      have unfinished : last.finish lines.length = .error error := by
        simp only at unread
        split at unread <;> cases unread
        assumption
      obtain ⟨incomplete, rfl, started, occupied⟩ := finish_error unfinished located
      obtain ⟨before, text, rfl, data⟩ := exists_of_occupied run occupied
      have filled : isBlankLine text = false := by
        rw [isDataLine_eq, decide_eq_true_eq] at data
        rw [(kind_fits text).blank, data]
        rfl
      refine ⟨text, by simp, by simp, ?_⟩
      rw [if_pos ⟨incomplete, filled⟩]
      exact ⟨rfl, (continuable_iff run).2 fun _ => started⟩

end

/-- A blank line inside a frame is an error whatever follows it, but without it the frame can be
completed. -/
theorem gap_at_earliest_line :
    compile {} ["07", "", "x"] = .error (.incompleteFrame 1 2 2) ∧
      (∀ more, compile {} (["07", ""] ++ more) = .error (.incompleteFrame 1 2 2)) ∧
      Continuable {} ["07"] := by
  have failed : compile {} ["07", "", "x"] = .error (.incompleteFrame 1 2 2) := by rfl
  obtain ⟨text, found, -, outcome⟩ := error_at_earliest_line failed rfl
  obtain rfl : "" = text := Option.some.inj found
  rw [if_neg (by decide)] at outcome
  refine ⟨failed, outcome.1, outcome.2.2 ?_⟩
  rintro ⟨before, text, after, state, split, forever, -⟩
  cases before with
  | nil =>
      cases split
      revert forever
      decide
  | cons first others =>
      cases others <;> cases split

end TreeBoard.Script
