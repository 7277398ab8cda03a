import TreeBoard.PatternFile
import TreeBoard.Proofs.LevelRange
import TreeBoard.Proofs.RecordForms
import TreeBoard.Proofs.Trimming

/-!
# Animations in pattern files

A compiled animation is saved as a pattern file. Packing a frame cuts off what a level has above its
three bits, but there is nothing to cut off, so the file gives the levels back.

Results:
1. `lines_render`, `read_render`, the text of records is read as these records.
2. `holds_render`, frames whose levels are in range can be saved.
3. `holds_of_compile`, a compiled animation can be saved.
-/

namespace TreeBoard

namespace PatternFile

/-- A text is a pattern file that holds frames: it has a line of 18 lowercase hexadecimal digits for
each of them, and the records that are read from it have their levels. -/
structure Holds (text : String) (frames : List Frame) : Prop where
  rows : ∃ rows : List (List Char), rows.length = frames.length ∧
    text.toList = rows.flatMap (fun row => row ++ ['\n']) ∧
    ∀ row ∈ rows, row.length = 18 ∧ ∀ c ∈ row, c ∈ "0123456789abcdef".toList
  levels : ∃ records, read (Text.encode text) = .ok records ∧
    records.map (fun record => record.toFrame.levels) = frames.map Frame.levels

/-! ## Lines -/

/-- A hexadecimal digit is neither blank nor part of a line's end. -/
theorem plain_of_mem_hexChars {record : Record} {c : Char} (member : c ∈ record.hexChars) :
    Text.isBlank c = false ∧ c ≠ '\n' ∧ c ≠ '\r' := by
  obtain ⟨digit, among, rfl⟩ := List.mem_map.1 member
  have table : ∀ d : Fin 16, Text.isBlank (Text.hexDigit d.val) = false ∧
      Text.hexDigit d.val ≠ '\n' ∧ Text.hexDigit d.val ≠ '\r' := by
    decide
  exact table ⟨digit, record.hexChars_bounded digit (List.mem_reverse.1 among)⟩

/-- The lines of a pattern file are the texts of its records. -/
theorem lines_render (records : List Record) :
    Text.lines (render records) = records.map Record.toHex := by
  unfold Text.lines render
  rw [String.toList_ofList]
  induction records with
  | nil => rfl
  | cons record later ih =>
      rw [List.flatMap_cons, List.append_assoc, List.singleton_append,
        Text.linesOf_line _ fun c member => (plain_of_mem_hexChars member).2, List.map_cons, ih]
      rfl

/-! ## Reading -/

/-- The text of a record on a line is read as this record. -/
theorem readLine_toHex (line : Nat) (record : Record) :
    readLine line (Text.encode record.toHex) = .ok (some record) := by
  have trimmed : Text.trim record.toHex.toList = record.hexChars := by
    rw [Record.toHex, String.toList_ofList]
    exact Text.trim_of_plain fun c member => (plain_of_mem_hexChars member).1
  have read := record.ofHex?_toHex
  have length := record.length_hexChars
  unfold readLine
  rw [Text.decode?_encode]
  simp only [trimmed]
  unfold Record.toHex at read
  cases digits : record.hexChars with
  | nil =>
      rw [digits] at length
      cases length
  | cons c later =>
      rw [digits] at read
      simp only [read]

theorem readLines_toHex (line : Nat) (records : List Record) :
    readLines line (records.map fun record => Text.encode record.toHex) = .ok records := by
  induction records generalizing line with
  | nil => rfl
  | cons record later ih =>
      rw [List.map_cons, readLines, readLine_toHex, ih]
      rfl

/-- The text of records is read as these records. -/
theorem read_render (records : List Record) :
    read (Text.encode (render records)) = .ok records := by
  unfold read
  rw [Text.byteLines_encode, lines_render, List.map_map]
  exact readLines_toHex 1 records

/-! ## Frames -/

/-- Frames whose levels are in range can be saved. -/
theorem holds_render {frames : List Frame} (inRange : ∀ frame ∈ frames, frame.InRange) :
    Holds (render (frames.map Record.ofFrame)) frames where
  rows := by
    refine ⟨(frames.map Record.ofFrame).map Record.hexChars, by simp, ?_, ?_⟩
    · rw [render, String.toList_ofList]
      exact (List.flatMap_map Record.hexChars (fun row => row ++ ['\n']) _).symm
    · intro row member
      obtain ⟨record, -, rfl⟩ := List.mem_map.1 member
      exact ⟨record.length_hexChars, fun c => Record.mem_hexChars⟩
  levels := by
    refine ⟨_, read_render _, ?_⟩
    rw [List.map_map]
    exact List.map_congr_left fun frame member => Record.toFrame_ofFrame (inRange frame member)

end PatternFile

namespace Script

/-- **Nothing of an animation is lost when it is saved.** A compiled animation fills the memory with
frames whose levels are in range, and its pattern file holds these frames. -/
theorem holds_of_compile {defaults : Defaults} {lines : List String} {animation : Animation}
    (compiled : compile defaults lines = .ok animation) :
    animation.frames.length = Board.slotCount ∧ (∀ frame ∈ animation.frames, frame.InRange) ∧
      PatternFile.Holds (PatternFile.render animation.records) animation.frames := by
  obtain ⟨full, inRange⟩ := inRange_of_compile compiled
  exact ⟨full, inRange, PatternFile.holds_render inRange⟩

/-- A fade over as many frames as there can be, in the middle of a script. -/
def slowDawn : List String :=
  ["000000000000", "000000000000", "", "fade_to", "777777777777 012345670123", "set_marker:day",
    "777777777777777777777777", "repeat:day"]

theorem holds_slowDawn :
    ∃ animation, compile ⟨"dawn", 4294967295⟩ slowDawn = .ok animation ∧
      animation.frames.length = Board.slotCount ∧ (∀ frame ∈ animation.frames, frame.InRange) ∧
      PatternFile.Holds (PatternFile.render animation.records) animation.frames := by
  obtain ⟨animation, compiled⟩ := exists_of_isOk
    (show (compile ⟨"dawn", 4294967295⟩ slowDawn).isOk = true by decide +kernel)
  exact ⟨animation, compiled, holds_of_compile compiled⟩

end Script

end TreeBoard
