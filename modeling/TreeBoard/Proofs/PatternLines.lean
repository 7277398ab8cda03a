import Mathlib.Data.List.Forall2
import Mathlib.Data.List.ReduceOption
import TreeBoard.Proofs.LineEnds
import TreeBoard.Proofs.PatternText

/-!
# Lines of pattern files

A pattern file is read if each of its lines holds blanks only, or a record with blanks around it.
The records come out in the order of their lines. A file with other lines is refused for the first
of them, and the fault carries the number of that line among all lines.

Results:
1. `row_none_iff`, `row_some_iff`, what a line holds, told from its trimmed text.
2. `readLine_ok_iff`, `readLine_error_iff`, when a line is read and when it is refused.
3. `readLines_ok_iff`, `readLines_error_iff`, the same for all lines: the first fault counts.
4. `read_by_rows`, pattern files, with the way back through the text of the records.
-/

namespace TreeBoard.PatternFile

/-! ## Definitions -/

/-- What a line of a pattern file holds: blanks only, or the digits of a record and blanks around
them. -/
inductive Row : List Char → Option Record → Prop
  | blank {text : List Char} (blank : ∀ c ∈ text, Text.isBlank c = true) : Row text none
  | record {front digits back : List Char} {record : Record}
      (frontBlank : ∀ c ∈ front, Text.isBlank c = true)
      (backBlank : ∀ c ∈ back, Text.isBlank c = true)
      (isHex : Record.IsHexText (String.ofList digits))
      (number : numeral? 16 Text.hexValue? digits = some record.toNat) :
      Row (front ++ digits ++ back) (some record)

/-- The bytes of a line encode a text that holds a record or blanks. -/
def IsRow (bytes : List UInt8) (found : Option Record) : Prop :=
  ∃ text : String, Text.encode text = bytes ∧ Row text.toList found

/-- The fault of a text that is no record. A wrong length, counted in bytes, is reported before a
wrong character. -/
def faultOf (text : String) : RecordFault :=
  if (Text.encode text).length = 18 then .notHexadecimal text
  else .length (Text.encode text).length

/-- How a line with the given number is refused: its bytes encode no text, or the text holds neither
a record nor blanks. -/
inductive Refused (line : Nat) : List UInt8 → Error → Prop
  | notUnicode {bytes : List UInt8} (noText : ∀ text, Text.encode text ≠ bytes) :
      Refused line bytes (.stream .notUnicode)
  | notRow {text : String} (other : ∀ found, ¬ Row text.toList found) :
      Refused line (Text.encode text)
        (.invalidRecord line (faultOf (String.ofList (Text.trim text.toList))))

/-! ## What a line holds -/

theorem row_none_iff {text : List Char} : Row text none ↔ Text.trim text = [] := by
  rw [Script.trim_eq_nil_iff]
  constructor
  · rintro ⟨blank⟩
    exact blank
  · exact .blank

/-- A line holds a record if its trimmed text is one. -/
theorem row_some_iff {text : List Char} {record : Record} :
    Row text (some record) ↔ Record.ofHex? (String.ofList (Text.trim text)) = .ok record := by
  constructor
  · rintro ⟨⟩
    rename_i front digits back frontBlank backBlank isHex number
    have plain : ∀ c ∈ digits, Text.isBlank c = false := by
      have hex := isHex.2
      rw [String.toList_ofList] at hex
      exact fun c member => Text.isBlank_of_isHexDigit (hex c member)
    obtain ⟨found, read, -, value⟩ := Record.ofHex?_of_isHexText isHex
    rw [String.toList_ofList, number, Option.some.injEq] at value
    rw [Text.trim_around frontBlank backBlank, Text.trim_of_plain plain, read,
      Record.toNat_inj value]
  · intro read
    obtain ⟨front, back, whole, frontBlank, backBlank⟩ := Text.exists_around text
    have isHex := Record.isHexText_of_ofHex? read
    obtain ⟨found, again, -, value⟩ := Record.ofHex?_of_isHexText isHex
    rw [read] at again
    cases again
    rw [String.toList_ofList] at value
    rw [whole]
    exact .record frontBlank backBlank isHex value

theorem ofHex?_error {text : String} {fault : RecordFault}
    (failed : Record.ofHex? text = .error fault) : fault = faultOf text := by
  have size : text.utf8ByteSize = (Text.encode text).length := rfl
  unfold Record.ofHex? at failed
  rw [size] at failed
  unfold faultOf
  split at failed
  · rename_i other
    cases failed
    exact (if_neg other).symm
  · rename_i same
    split at failed
    · cases failed
    · cases failed
      exact (if_pos (not_not.1 same)).symm

/-! ## One line -/

theorem encode_inj {text other : String} (same : Text.encode text = Text.encode other) :
    text = other := by
  have decoded := Text.decode?_encode text
  rw [same, Text.decode?_encode, Option.some.injEq] at decoded
  exact decoded.symm

theorem isRow_encode_iff {text : String} {found : Option Record} :
    IsRow (Text.encode text) found ↔ Row text.toList found := by
  constructor
  · rintro ⟨other, same, row⟩
    rwa [encode_inj same] at row
  · exact fun row => ⟨text, rfl, row⟩

theorem readLine_encode (line : Nat) (text : String) :
    readLine line (Text.encode text) =
      if Text.trim text.toList = [] then .ok none
      else ((Record.ofHex? (String.ofList (Text.trim text.toList))).map some).mapError
        (.invalidRecord line) := by
  unfold readLine
  rw [Text.decode?_encode]
  cases trimmed : Text.trim text.toList with
  | nil => simp only [trimmed, if_true]
  | cons c later =>
      simp only [trimmed, List.cons_ne_nil, if_false]
      cases Record.ofHex? (String.ofList (c :: later)) <;> rfl

/-- A line is read as what it holds. -/
theorem readLine_ok_iff {line : Nat} {bytes : List UInt8} {found : Option Record} :
    readLine line bytes = .ok found ↔ IsRow bytes found := by
  cases decoded : Text.decode? bytes with
  | none =>
      have refused : readLine line bytes = .error (.stream .notUnicode) := by
        rw [readLine, decoded]
      refine iff_of_false (by rw [refused]; nofun) ?_
      rintro ⟨text, rfl, -⟩
      rw [Text.decode?_encode] at decoded
      cases decoded
  | some text =>
      rw [← Text.encode_of_decode? decoded, isRow_encode_iff, readLine_encode]
      cases found with
      | none =>
          rw [row_none_iff]
          split
          · rename_i empty
            exact iff_of_true rfl empty
          · rename_i visible
            refine iff_of_false ?_ visible
            cases Record.ofHex? (String.ofList (Text.trim text.toList)) <;> nofun
      | some record =>
          rw [row_some_iff]
          split
          · rename_i empty
            rw [empty]
            exact iff_of_false nofun nofun
          · cases Record.ofHex? (String.ofList (Text.trim text.toList)) with
            | error fault => exact iff_of_false nofun nofun
            | ok other => simp [Except.map, Except.mapError]

/-- A line that is not read is refused for what it holds. -/
theorem readLine_error_iff {line : Nat} {bytes : List UInt8} {error : Error} :
    readLine line bytes = .error error ↔ Refused line bytes error := by
  constructor
  · intro failed
    cases decoded : Text.decode? bytes with
    | none =>
        rw [readLine, decoded] at failed
        cases failed
        refine .notUnicode fun text => ?_
        rintro rfl
        rw [Text.decode?_encode] at decoded
        cases decoded
    | some text =>
        have encoded := Text.encode_of_decode? decoded
        have other : ∀ found, ¬ Row text.toList found := by
          intro found row
          rw [readLine_ok_iff.2 ⟨text, encoded, row⟩] at failed
          cases failed
        rw [← encoded, readLine_encode] at failed
        split at failed
        · cases failed
        · cases read : Record.ofHex? (String.ofList (Text.trim text.toList)) with
          | ok record =>
              rw [read] at failed
              cases failed
          | error fault =>
              rw [read] at failed
              cases failed
              rw [ofHex?_error read, ← encoded]
              exact .notRow other
  · rintro (noText | @⟨text, other⟩)
    · cases decoded : Text.decode? bytes with
      | none => rw [readLine, decoded]
      | some text => exact absurd (Text.encode_of_decode? decoded) (noText text)
    · rw [readLine_encode, if_neg (mt row_none_iff.2 (other none))]
      cases read : Record.ofHex? (String.ofList (Text.trim text.toList)) with
      | ok record => exact absurd (row_some_iff.2 read) (other (some record))
      | error fault =>
          rw [ofHex?_error read]
          rfl

/-! ## All lines -/

theorem readLines_cons (line : Nat) (bytes : List UInt8) (later : List (List UInt8)) :
    readLines line (bytes :: later) =
      match readLine line bytes with
      | .error error => .error error
      | .ok found => (readLines (line + 1) later).map (found.toList ++ ·) := by
  rw [readLines]
  cases readLine line bytes with
  | error error => rfl
  | ok found => cases readLines (line + 1) later <;> rfl

theorem reduceOption_cons (found : Option Record) (rows : List (Option Record)) :
    (found :: rows).reduceOption = found.toList ++ rows.reduceOption := by
  cases found <;> rfl

/-- Lines are read if each of them is a row. -/
theorem readLines_ok_iff {line : Nat} {lines : List (List UInt8)} {records : List Record} :
    readLines line lines = .ok records ↔
      ∃ rows, List.Forall₂ IsRow lines rows ∧ rows.reduceOption = records := by
  induction lines generalizing line records with
  | nil => simp [readLines]
  | cons bytes later ih =>
      rw [readLines_cons]
      cases here : readLine line bytes with
      | error error =>
          refine iff_of_false (by rintro ⟨⟩) ?_
          rintro ⟨rows, each, -⟩
          cases each with
          | cons row others =>
              rw [readLine_ok_iff.2 row] at here
              cases here
      | ok found =>
          have row := readLine_ok_iff.1 here
          constructor
          · intro read
            cases rest : readLines (line + 1) later with
            | error error =>
                rw [rest] at read
                cases read
            | ok others =>
                rw [rest] at read
                cases read
                obtain ⟨rows, each, reduced⟩ := ih.1 rest
                exact ⟨found :: rows, .cons row each, by rw [reduceOption_cons, reduced]⟩
          · rintro ⟨rows, each, rfl⟩
            cases each with
            | @cons _ other _ rows isRow others =>
                rw [readLine_ok_iff.2 isRow] at here
                cases here
                rw [reduceOption_cons]
                simp only [ih.2 ⟨rows, others, rfl⟩]
                rfl

/-- Lines are refused for the first that is no row. -/
theorem readLines_error_iff {line : Nat} {lines : List (List UInt8)} {error : Error} :
    readLines line lines = .error error ↔
      ∃ before bytes after, lines = before ++ bytes :: after ∧
        (∀ earlier ∈ before, ∃ found, IsRow earlier found) ∧
        Refused (line + before.length) bytes error := by
  induction lines generalizing line with
  | nil =>
      refine iff_of_false nofun ?_
      rintro ⟨before, bytes, after, whole, -⟩
      cases before <;> cases whole
  | cons bytes later ih =>
      rw [readLines_cons]
      constructor
      · intro failed
        cases here : readLine line bytes with
        | error fault =>
            rw [here] at failed
            cases failed
            exact ⟨[], bytes, later, rfl, List.forall_mem_nil _, readLine_error_iff.1 here⟩
        | ok found =>
            cases rest : readLines (line + 1) later with
            | ok records =>
                simp only [here, rest] at failed
                cases failed
            | error fault =>
                simp only [here, rest] at failed
                cases failed
                obtain ⟨before, bad, after, rfl, rows, refused⟩ := ih.1 rest
                refine ⟨bytes :: before, bad, after, rfl, ?_, ?_⟩
                · exact List.forall_mem_cons.2 ⟨⟨found, readLine_ok_iff.1 here⟩, rows⟩
                · rwa [List.length_cons, Nat.add_comm before.length, ← Nat.add_assoc]
      · rintro ⟨before, bad, after, whole, rows, refused⟩
        cases before with
        | nil =>
            cases whole
            rw [show line + [].length = line from rfl] at refused
            rw [readLine_error_iff.2 refused]
        | cons first before =>
            cases whole
            obtain ⟨⟨found, row⟩, others⟩ := List.forall_mem_cons.1 rows
            rw [List.length_cons, Nat.add_comm before.length, ← Nat.add_assoc] at refused
            rw [readLine_ok_iff.2 row]
            simp only [ih.2 ⟨before, bad, after, rfl, others, refused⟩]
            rfl

/-! ## Pattern files -/

/-- **A pattern file is read if every line of it is blank or a record.** It then gives the records
of its lines in their order. Otherwise the first other line decides how reading fails. Records come
back from their text, so what was read once is read again from the text that is written for it, and
that text is written again for what is read from it. -/
theorem read_by_rows (bytes : List UInt8) :
    (∀ records, read bytes = .ok records ↔
      ∃ rows, List.Forall₂ IsRow (Text.cutLines 0x0A 0x0D bytes) rows ∧
        rows.reduceOption = records) ∧
    (∀ error, read bytes = .error error ↔
      ∃ before line after, Text.cutLines 0x0A 0x0D bytes = before ++ line :: after ∧
        (∀ earlier ∈ before, ∃ found, IsRow earlier found) ∧
        Refused (before.length + 1) line error) ∧
    (∀ records, read (Text.encode (render records)) = .ok records) ∧
    ((read bytes >>= fun records => read (Text.encode (render records))) = read bytes) ∧
    ∀ records, (read (Text.encode (render records))).map render = .ok (render records) := by
  have lines : read bytes = readLines 1 (Text.cutLines 0x0A 0x0D bytes) := by
    rw [read, Text.byteLines, Text.linesOf_eq]
  refine ⟨fun records => ?_, fun error => ?_, read_render, ?_, fun records => ?_⟩
  · rw [lines]
    exact readLines_ok_iff
  · rw [lines, readLines_error_iff]
    simp only [Nat.add_comm 1]
  · cases read bytes with
    | error error => rfl
    | ok records => exact read_render records
  · rw [read_render]
    rfl

example :
    (read (Text.encode "\n\u3000 0000000000000000aB\r\n\n")).map (·.map Record.toHex) =
      .ok ["0000000000000000ab"] := by
  decide +kernel

end TreeBoard.PatternFile
