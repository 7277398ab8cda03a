import Mathlib.Data.List.Induction
import TreeBoard.Proofs.EarliestError
import TreeBoard.Proofs.Grouping

/-!
# Frames that are begun

Of a script that can be read, 24 levels after another make a frame. So the levels behind the last whole
frame are those that wait, and the lines on which they stand are known without reading the script.

Results:
1. `begunLines_separator`, `begunLines_short`, `begunLines_full`, what one more line does to the frame
   that is begun.
2. `gathers_of_run`, a reader keeps the levels of that frame and the line of the first of them.
-/

namespace TreeBoard.Script

/-! ## Definitions -/

/-- The line of each level of a script, in the order in which the levels are read. -/
def levelLines (lines : List String) : List Nat :=
  ((numbered lines).filter (isDataLine ·.1)).flatMap fun line =>
    List.replicate (levelsOf line.1).length line.2

/-- The line of each level behind the last whole frame. -/
def begunLines (lines : List String) : List Nat :=
  (levelLines lines).drop (Board.ledCount * ((levelLines lines).length / Board.ledCount))

/-- The levels of a partial frame stand on these lines. -/
structure PartialFrame.Gathers (gathered : PartialFrame) (begun : List Nat) : Prop where
  size : gathered.size = begun.length
  startLine : ∀ start ∈ begun.head?, gathered.startLine = start

/-! ## Numbered lines -/

variable {lines : List String} {text : String}

theorem numbered_concat (lines : List String) (text : String) :
    numbered (lines ++ [text]) = numbered lines ++ [(text, lines.length + 1)] := by
  rw [numbered, numbered, List.zipIdx_append, Nat.add_comm 1]
  rfl

/-- A line with its number divides the script. -/
theorem exists_of_mem_numbered {number : Nat} (member : (text, number) ∈ numbered lines) :
    ∃ before later, lines = before ++ text :: later ∧ number = before.length + 1 := by
  obtain ⟨low, found⟩ := List.mk_mem_zipIdx_iff_le_and_getElem?_sub.1 member
  obtain ⟨inside, rfl⟩ := List.getElem?_eq_some_iff.1 found
  refine ⟨lines.take (number - 1), lines.drop (number - 1 + 1), ?_, ?_⟩
  · rw [← List.drop_eq_getElem_cons inside, List.take_append_drop]
  · rw [List.length_take]
    omega

/-! ## One more line -/

theorem levelLines_separator (separator : isDataLine text = false) :
    levelLines (lines ++ [text]) = levelLines lines := by
  simp [levelLines, numbered_concat, separator]

theorem levelLines_data (data : isDataLine text = true) :
    levelLines (lines ++ [text]) =
      levelLines lines ++ List.replicate (levelsOf text).length (lines.length + 1) := by
  simp [levelLines, numbered_concat, data]

theorem length_begunLines (lines : List String) :
    (begunLines lines).length = (levelLines lines).length % Board.ledCount := by
  rw [begunLines, List.length_drop, Nat.mod_eq_sub]

theorem begunLines_separator (separator : isDataLine text = false) :
    begunLines (lines ++ [text]) = begunLines lines := by
  rw [begunLines, levelLines_separator separator, begunLines]

/-- Levels that leave the frame incomplete. -/
theorem begunLines_short (data : isDataLine text = true)
    (short : (begunLines lines).length + (levelsOf text).length < Board.ledCount) :
    begunLines (lines ++ [text]) =
      begunLines lines ++ List.replicate (levelsOf text).length (lines.length + 1) := by
  have length : (levelLines (lines ++ [text])).length / Board.ledCount =
      (levelLines lines).length / Board.ledCount := by
    rw [length_begunLines] at short
    rw [levelLines_data data, List.length_append, List.length_replicate]
    unfold Board.ledCount at short ⊢
    omega
  rw [begunLines, length, levelLines_data data,
    List.drop_append_of_le_length (Nat.mul_div_le _ _), begunLines]

/-- Levels that complete the frame. -/
theorem begunLines_full (data : isDataLine text = true)
    (full : (begunLines lines).length + (levelsOf text).length = Board.ledCount) :
    begunLines (lines ++ [text]) = [] := by
  rw [length_begunLines] at full
  rw [← List.length_eq_zero_iff, length_begunLines, levelLines_data data, List.length_append,
    List.length_replicate]
  unfold Board.ledCount at full ⊢
  omega

/-! ## Readers -/

theorem PartialFrame.Gathers.isEmpty_iff {gathered : PartialFrame} {begun : List Nat}
    (gathers : gathered.Gathers begun) : gathered.isEmpty = true ↔ begun = [] := by
  rw [← List.length_eq_zero_iff, ← gathers.size, PartialFrame.size, List.length_eq_zero_iff]
  exact List.isEmpty_iff

theorem PartialFrame.Gathers.occupied {gathered : PartialFrame} {start : Nat} {others : List Nat}
    (gathers : gathered.Gathers (start :: others)) : gathered.isEmpty = false :=
  Bool.eq_false_iff.2 fun empty => List.cons_ne_nil start others (gathers.isEmpty_iff.1 empty)

/-- A line of levels begins a frame or goes on with it. -/
theorem PartialFrame.Gathers.collect {gathered : PartialFrame} {begun : List Nat}
    (gathers : gathered.Gathers begun) (line : Nat) (levels : List Level) :
    (gathered.collect line levels).Gathers (begun ++ List.replicate levels.length line) := by
  refine ⟨by simp [size_collect, gathers.size], ?_⟩
  have startLine := gathers.startLine
  cases levels with
  | nil => simpa [PartialFrame.collect] using startLine
  | cons level others =>
      cases begun with
      | nil =>
          have empty := gathers.isEmpty_iff.2 rfl
          simp [PartialFrame.collect, empty, List.replicate_succ]
      | cons start rest => simpa [PartialFrame.collect, gathers.occupied] using startLine

/-- A reader keeps the levels of the frame that is begun. -/
theorem gathers_of_run {defaults : Defaults} {reader : Reader} {actions : List Action}
    (accepted : Reader.run defaults 1 lines {} = .ok (reader, actions)) :
    reader.gathered.Gathers (begunLines lines) := by
  induction lines using List.reverseRecOn generalizing reader actions with
  | nil =>
      cases accepted
      exact ⟨rfl, fun start member => nomatch member⟩
  | append_singleton before text ih =>
      obtain ⟨mid, first, others, reached, rest, -⟩ := Reader.run_append_iff.1 accepted
      obtain ⟨next, second, third, stepped, done, -⟩ := run_cons_iff.1 rest
      cases done
      have gathers := ih reached
      have sound := Reader.run_sound Reader.sound_empty reached
      cases Reader.step_cases sound stepped with
      | short data goesOn valid short =>
          rw [gathers.size] at short
          rw [begunLines_short data short, Nat.add_comm]
          exact gathers.collect _ _
      | full data goesOn valid full =>
          rw [gathers.size] at full
          rw [begunLines_full data full]
          exact ⟨rfl, fun start member => nomatch member⟩
      | separator separator =>
          rw [begunLines_separator separator]
          exact gathers

end TreeBoard.Script
