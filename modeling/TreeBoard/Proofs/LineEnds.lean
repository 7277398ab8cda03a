import TreeBoard.Positional.Lemmas
import TreeBoard.Proofs.Steps
import TreeBoard.Proofs.TextLines
import TreeBoard.Proofs.Trimming

/-!
# Ends of lines

A script can be given as lines, as one text and as bytes. It does not matter which, nor how its lines
end: of the end of a line at most a carriage return stays with the line, and blanks at the end of a
line mean nothing.

Results:
1. `step_strip`, `compile_strip`, blanks at the end of a line mean nothing.
2. `map_trimEnd_linesOf_flatMap`, `map_trimEnd_linesOf_intercalate`, the lines of a text that is
   put together from lines.
3. `mapM_decode?_byteLines`, bytes are valid if the bytes of each line are.
4. `entries_agree`, every way of giving a script comes to the same.
-/

namespace TreeBoard

namespace Text

/-! ## Blanks at the end of a line -/

/-- A line without the blanks at its end. -/
def strip (line : String) : String :=
  String.ofList (trimEnd line.toList)

theorem trim_strip (line : String) : trim (strip line).toList = trim line.toList := by
  obtain ⟨blanks, whole, allBlank⟩ := exists_blanks line.toList
  rw [strip, String.toList_ofList]
  conv => rhs; rw [← whole]
  exact (trim_append allBlank).symm

end Text

namespace Script

/-- Blanks at the end of a line bring no levels and no errors. -/
theorem PartialFrame.pushChars_append (gathered : PartialFrame) (line column : Nat)
    (text : List Char) {blanks : List Char} (allBlank : ∀ c ∈ blanks, Text.isBlank c = true) :
    gathered.pushChars line column (text ++ blanks) = gathered.pushChars line column text := by
  induction text generalizing gathered column with
  | nil =>
      induction blanks generalizing column with
      | nil => rfl
      | cons c later ih =>
          obtain ⟨blank, others⟩ := List.forall_mem_cons.1 allBlank
          exact (if_pos blank).trans (ih others (column + 1))
  | cons c later ih =>
      rw [List.cons_append, pushChars, pushChars]
      simp only [ih]

theorem PartialFrame.push_strip (gathered : PartialFrame) (line : Nat) (text : String) :
    gathered.push line (Text.strip text) = gathered.push line text := by
  obtain ⟨blanks, whole, allBlank⟩ := Text.exists_blanks text.toList
  have same := gathered.pushChars_append line 1 (Text.trimEnd text.toList) allBlank
  rw [whole] at same
  rw [push, push, same, Text.strip, String.toList_ofList]

theorem kind_strip (text : String) : kind (Text.strip text) = kind text := by
  unfold kind isBlankLine begins
  simp only [← trim_isEmpty, Text.trim_strip]

theorem argumentOf_strip (text : String) : argumentOf (Text.strip text) = argumentOf text := by
  rw [argumentOf, argumentOf, Text.trim_strip]

/-- Blanks at the end of a line mean nothing. -/
theorem Reader.step_strip (defaults : Defaults) (line : Nat) (text : String) (reader : Reader) :
    reader.step defaults line (Text.strip text) = reader.step defaults line text := by
  rw [step_eq_of_kind, step_eq_of_kind, parse_eq, parse_eq, kind_strip, Text.trim_strip,
    argumentOf_strip]
  cases kind text with
  | data => simp only [apply, PartialFrame.push_strip]; rfl
  | _ => rfl

theorem Reader.run_strip (defaults : Defaults) (line : Nat) (lines : List String)
    (reader : Reader) :
    run defaults line (lines.map Text.strip) reader = run defaults line lines reader := by
  induction lines generalizing line reader with
  | nil => rfl
  | cons text later ih =>
      rw [List.map_cons, run, run, step_strip]
      simp only [ih]

theorem compile_strip (defaults : Defaults) (lines : List String) :
    compile defaults (lines.map Text.strip) = compile defaults lines := by
  rw [compile_eq, compile_eq, read, read, Reader.run_strip, List.length_map]

/-- Lines that differ in nothing but blanks at their ends are the same script. -/
theorem compile_congr (defaults : Defaults) {lines lines' : List String}
    (same : lines.map Text.strip = lines'.map Text.strip) :
    compile defaults lines = compile defaults lines' := by
  rw [← compile_strip defaults lines, same, compile_strip]

end Script

namespace Text

/-! ## Lines that are put together -/

section

variable {α : Type} [DecidableEq α] {feed ret : α}

/-- A text consists of its lines, and behind each of them nothing but feeds and returns. -/
theorem exists_pieces (feed ret : α) (text : List α) :
    ∃ pieces : List (List α × List α), pieces.map Prod.fst = linesOf feed ret text ∧
      pieces.flatMap (fun piece => piece.1 ++ piece.2) = text ∧
      ∀ piece ∈ pieces, ∀ x ∈ piece.2, x = feed ∨ x = ret := by
  induction text with
  | nil => exact ⟨[], rfl, rfl, List.forall_mem_nil _⟩
  | cons x rest ih =>
      obtain ⟨pieces, lines, whole, ends⟩ := ih
      by_cases isFeed : x = feed
      · refine ⟨([], [x]) :: pieces, ?_, ?_, List.forall_mem_cons.2 ⟨?_, ends⟩⟩
        · rw [isFeed, linesOf_feed, List.map_cons, lines]
        · rw [List.flatMap_cons, whole]
          rfl
        · exact List.forall_mem_singleton.2 (.inl isFeed)
      by_cases isReturn : x = ret ∧ rest.head? = some feed
      -- The return goes to the end of the empty line that the feed behind it ends.
      · obtain ⟨others, rfl⟩ := List.head?_eq_some_iff.1 isReturn.2
        rw [linesOf_feed] at lines
        obtain ⟨⟨line, lineEnd⟩, later, rfl, empty, -⟩ := List.map_eq_cons_iff.1 lines
        obtain rfl : line = [] := empty
        obtain ⟨first, ends⟩ := List.forall_mem_cons.1 ends
        refine ⟨([], x :: lineEnd) :: later, ?_, ?_, List.forall_mem_cons.2 ⟨?_, ends⟩⟩
        · rw [linesOf, if_neg isFeed, if_pos isReturn, linesOf_feed, ← lines]
          rfl
        · rw [← whole]
          rfl
        · exact List.forall_mem_cons.2 ⟨.inr isReturn.1, first⟩
      · rw [linesOf_cons isFeed isReturn, ← lines]
        cases pieces with
        | nil =>
            obtain rfl : [] = rest := whole
            exact ⟨[([x], [])], rfl, rfl, List.forall_mem_singleton.2 (List.forall_mem_nil _)⟩
        | cons piece later =>
            refine ⟨(x :: piece.1, piece.2) :: later, rfl, ?_, ?_⟩
            · rw [← whole]
              rfl
            · obtain ⟨first, ends⟩ := List.forall_mem_cons.1 ends
              exact List.forall_mem_cons.2 ⟨first, ends⟩

end

section

variable {mid : List Char} (allBlank : ∀ c ∈ mid, isBlank c = true) (noFeed : '\n' ∉ mid)
include allBlank noFeed

/-- Of the end of a line only blanks stay with the line. -/
theorem exists_linesOf_end {line : List Char} (plain : '\n' ∉ line) (rest : List Char) :
    ∃ cut, linesOf '\n' '\r' (line ++ (mid ++ ['\n']) ++ rest) = cut :: linesOf '\n' '\r' rest ∧
      trimEnd cut = trimEnd line := by
  have plainMid : '\n' ∉ line ++ mid := List.not_mem_append plain noFeed
  obtain ⟨cut, ended, same⟩ := exists_linesOf_feed '\r' plainMid rest
  have stripped : trimEnd (line ++ mid) = trimEnd line := trimEnd_append allBlank
  refine ⟨cut, ?_, ?_⟩
  · rw [← ended]
    simp
  · rw [← stripped]
    rcases same with same | same
    · rw [same]
    · rw [same]
      exact (trimEnd_append (List.forall_mem_singleton.2 rfl)).symm

/-- The lines of a text in which every line has an end. -/
theorem map_trimEnd_linesOf_flatMap {lines : List (List Char)}
    (plain : ∀ line ∈ lines, '\n' ∉ line) :
    (linesOf '\n' '\r' (lines.flatMap (· ++ (mid ++ ['\n'])))).map trimEnd =
      lines.map trimEnd := by
  induction lines with
  | nil => rfl
  | cons line later ih =>
      obtain ⟨here, others⟩ := List.forall_mem_cons.1 plain
      obtain ⟨cut, ended, same⟩ := exists_linesOf_end allBlank noFeed here
        (later.flatMap (· ++ (mid ++ ['\n'])))
      rw [List.flatMap_cons, ended, List.map_cons, List.map_cons, same, ih others]

/-- The lines of a text in which the last line has no end. An empty last line would not be seen. -/
theorem map_trimEnd_linesOf_intercalate {lines : List (List Char)}
    (plain : ∀ line ∈ lines, '\n' ∉ line) (filled : lines.getLast? ≠ some []) :
    (linesOf '\n' '\r' ((mid ++ ['\n']).intercalate lines)).map trimEnd = lines.map trimEnd := by
  induction lines with
  | nil => rfl
  | cons line later ih =>
      obtain ⟨here, others⟩ := List.forall_mem_cons.1 plain
      cases later with
      | nil =>
          rw [List.intercalate_singleton, linesOf_last _ here]
          rintro rfl
          exact filled rfl
      | cons next more =>
          obtain ⟨cut, ended, same⟩ := exists_linesOf_end allBlank noFeed here
            ((mid ++ ['\n']).intercalate (next :: more))
          rw [List.intercalate_cons_cons, ended, List.map_cons, List.map_cons, same, ih others]
          rwa [List.getLast?_cons_cons] at filled

end

/-! ## Bytes of lines -/

/-- Bytes that are the characters of some text. -/
def IsEncoded (bytes : List UInt8) : Prop :=
  ∃ chars : List Char, chars.flatMap String.utf8EncodeChar = bytes

theorem IsEncoded.append {first second : List UInt8} (one : IsEncoded first)
    (other : IsEncoded second) : IsEncoded (first ++ second) := by
  obtain ⟨chars, rfl⟩ := one
  obtain ⟨more, rfl⟩ := other
  exact ⟨chars ++ more, List.flatMap_append⟩

theorem isEncoded_flatMap {α : Type} {pieces : List α} {bytes : α → List UInt8}
    (each : ∀ piece ∈ pieces, IsEncoded (bytes piece)) : IsEncoded (pieces.flatMap bytes) := by
  induction pieces with
  | nil => exact ⟨[], rfl⟩
  | cons piece later ih =>
      obtain ⟨here, others⟩ := List.forall_mem_cons.1 each
      exact here.append (ih others)

theorem encode_of_decode? {bytes : List UInt8} {text : String}
    (decoded : decode? bytes = some text) : encode text = bytes := by
  unfold decode? String.fromUTF8? at decoded
  split at decoded
  · cases decoded
    rfl
  · cases decoded

theorem isEncoded_iff {bytes : List UInt8} :
    IsEncoded bytes ↔ ∃ text, decode? bytes = some text := by
  constructor
  · rintro ⟨chars, rfl⟩
    refine ⟨String.ofList chars, ?_⟩
    conv => lhs; rw [← String.toList_ofList (l := chars), ← encode_eq]
    exact decode?_encode _
  · rintro ⟨text, decoded⟩
    exact ⟨text.toList, (encode_eq text).symm.trans (encode_of_decode? decoded)⟩

/-- Bytes are valid if the bytes of each line are. -/
theorem isEncoded_of_byteLines {bytes : List UInt8}
    (each : ∀ line ∈ byteLines bytes, IsEncoded line) : IsEncoded bytes := by
  obtain ⟨pieces, lines, rfl, ends⟩ := exists_pieces 0x0A 0x0D bytes
  refine isEncoded_flatMap fun piece member => ?_
  refine (each piece.1 ?_).append ?_
  · rw [byteLines, ← lines]
    exact List.mem_map_of_mem member
  · rw [← List.flatMap_singleton' piece.2]
    refine isEncoded_flatMap fun byte inEnd => ?_
    rcases ends piece member byte inEnd with rfl | rfl
    · exact ⟨['\n'], rfl⟩
    · exact ⟨['\r'], rfl⟩

/-- Decoding each line of some bytes is decoding the bytes and cutting the text into lines. -/
theorem mapM_decode?_byteLines (bytes : List UInt8) :
    (byteLines bytes).mapM decode? = (decode? bytes).map lines := by
  cases decoded : decode? bytes with
  | some text =>
      rw [← encode_of_decode? decoded, byteLines_encode, List.mapM_map,
        show decode? ∘ encode = fun line => pure (id line) from funext decode?_encode,
        List.mapM_pure, List.map_id]
      rfl
  | none =>
      cases found : (byteLines bytes).mapM decode? with
      | none => rfl
      | some texts =>
          obtain ⟨text, some⟩ := isEncoded_iff.1 (isEncoded_of_byteLines fun line member =>
            isEncoded_iff.2 (Positional.exists_of_mapM found line member))
          rw [decoded] at some
          cases some

end Text

namespace Script

/-! ## Scripts -/

/-- A text whose lines are those of a script, up to blanks at their ends, is this script. -/
theorem compileText_of_linesOf (defaults : Defaults) {text : String} {lines : List String}
    (same : (Text.linesOf '\n' '\r' text.toList).map Text.trimEnd =
      (lines.map String.toList).map Text.trimEnd) :
    compileText defaults text = compile defaults lines := by
  refine compile_congr defaults ?_
  have stripped (chars : List (List Char)) :
      (chars.map String.ofList).map Text.strip = (chars.map Text.trimEnd).map String.ofList := by
    rw [List.map_map, List.map_map]
    refine List.map_congr_left fun line _ => ?_
    rw [Function.comp_apply, Text.strip, String.toList_ofList]
    rfl
  have whole : (lines.map String.toList).map String.ofList = lines := by
    rw [List.map_map, show String.ofList ∘ String.toList = id from funext fun _ =>
      String.ofList_toList, List.map_id]
  rw [Text.lines, stripped, same, ← stripped, whole]

/-- A script in bytes is the text that the bytes encode, if they encode one. -/
theorem compileBytes_eq (defaults : Defaults) (bytes : List UInt8) :
    compileBytes defaults bytes =
      match Text.decode? bytes with
      | some text => compileText defaults text
      | none => .error (.stream .notUnicode) := by
  rw [compileBytes, readLines, Text.mapM_decode?_byteLines]
  cases Text.decode? bytes <;> rfl

/-- **It does not matter how a script is given, nor how its lines end.** A text and its bytes are the
same script, and bytes that are no text are refused whatever stands before the fault. Lines are the
same script as the text in which each of them has an end, of either kind, and the last line needs no
end unless it is empty. -/
theorem entries_agree (defaults : Defaults) :
    (∀ text, compileBytes defaults (Text.encode text) = compileText defaults text) ∧
      (∀ bytes, Text.decode? bytes = none →
        compileBytes defaults bytes = .error (.stream .notUnicode)) ∧
      ∀ lines : List String, (∀ line ∈ lines, '\n' ∉ line.toList) →
        ∀ lineEnd ∈ ["\n", "\r\n"],
          compileText defaults (String.join (lines.map (· ++ lineEnd))) =
              compile defaults lines ∧
            (lines.getLast? ≠ some "" →
              compileText defaults (lineEnd.intercalate lines) = compile defaults lines) := by
  refine ⟨fun text => ?_, fun bytes invalid => ?_, fun lines plain lineEnd among => ?_⟩
  · rw [compileBytes_eq, Text.decode?_encode]
  · rw [compileBytes_eq, invalid]
  · have plainChars : ∀ line ∈ lines.map String.toList, '\n' ∉ line :=
      List.forall_mem_map.2 plain
    obtain ⟨mid, ends, allBlank, noFeed⟩ : ∃ mid, lineEnd.toList = mid ++ ['\n'] ∧
        (∀ c ∈ mid, Text.isBlank c = true) ∧ '\n' ∉ mid := by
      rcases List.mem_pair.1 among with rfl | rfl
      · exact ⟨[], rfl, List.forall_mem_nil _, List.not_mem_nil⟩
      · exact ⟨['\r'], rfl, List.forall_mem_singleton.2 rfl, by decide⟩
    refine ⟨compileText_of_linesOf defaults ?_, fun filled => compileText_of_linesOf defaults ?_⟩
    · rw [← Text.map_trimEnd_linesOf_flatMap allBlank noFeed plainChars, String.toList_join,
        List.flatMap_map, List.flatMap_map]
      simp only [String.toList_append, ends]
    · rw [String.toList_intercalate, ends]
      refine Text.map_trimEnd_linesOf_intercalate allBlank noFeed plainChars fun empty => ?_
      rw [List.getLast?_map] at empty
      obtain ⟨last, is, nothing⟩ := Option.map_eq_some_iff.1 empty
      exact filled (String.toList_eq_nil_iff.1 nothing ▸ is)

/-- Lines with returns at places where no end of a line is. -/
def strayReturns : List String :=
  ["set_marker:dusk\r", "\r0000 0000\r 0000", "0000 0000 0123\r\r", "\r", "fade_to:\r2",
    "7777 7777 7777 7777 7777 7777", "repeat:dusk\r"]

/-- A frame, and a byte that begins no character. -/
def tornBytes : List UInt8 :=
  Text.encode "000000000000000000000000\n" ++ [0xFF]

theorem entries_agree_strayReturns :
    (∀ line ∈ strayReturns, '\n' ∉ line.toList) ∧ strayReturns.getLast? ≠ some "" ∧
      compileText {} ("\r\n".intercalate strayReturns) = compile {} strayReturns ∧
      Text.decode? tornBytes = none ∧
      compileBytes {} tornBytes = .error (.stream .notUnicode) := by
  obtain ⟨-, invalid, ends⟩ := entries_agree {}
  have plain : ∀ line ∈ strayReturns, '\n' ∉ line.toList := by decide
  have filled : strayReturns.getLast? ≠ some "" := by decide
  have torn : Text.decode? tornBytes = none := by decide +kernel
  exact ⟨plain, filled, (ends _ plain "\r\n" (by decide)).2 filled, torn, invalid _ torn⟩

end Script

end TreeBoard
