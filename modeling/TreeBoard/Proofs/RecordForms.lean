import TreeBoard.LevelBits
import TreeBoard.Proofs.TextLines
import TreeBoard.Record.Hex
import TreeBoard.Record.Lemmas

/-!
# The forms of a record

A record can be had as a frame, as a number below `2 ^ 72`, as nine bytes, as 18 hexadecimal digits
and as 24 groups of three bits. All of them are digits of the one number, grouped in different ways.

Results:
1. `toFrame_ofFrame`, `ofFrame_toFrame`, frames with levels in range and records determine each
   other.
2. `toBytes_ofBytes`, `bytesOfHex?_hexChars`, the bytes of a record are the pairs of its digits.
3. `ofHex?_toHex`, `ofHex?_of_isHexText`, `isHexText_of_ofHex?`, the texts that are read as records.
4. `forms_agree`, all forms of a record at once.
-/

namespace TreeBoard

/-! ## Definitions -/

/-- The number that a text writes whose characters are digits with the given values, the most
significant one first. -/
def numeral? (base : Nat) (value? : Char → Option Nat) (text : List Char) : Option Nat :=
  (text.mapM value?).map fun digits => digits.foldl (fun value digit => base * value + digit) 0

namespace Record

/-- The bytes that a text of hexadecimal digits writes, with two digits for each byte. -/
def bytesOfHex? : List Char → Option (List UInt8)
  | [] => some []
  | [_] => none
  | high :: low :: later => do
      let first ← Text.hexValue? high
      let second ← Text.hexValue? low
      let bytes ← bytesOfHex? later
      return UInt8.ofNat (16 * first + second) :: bytes

/-- Whether a text consists of as many hexadecimal digits as a record has, in either case. -/
def IsHexText (text : String) : Prop :=
  text.toList.length = 18 ∧ ∀ c ∈ text.toList, c.isHexDigit = true

/-- A frame and its record determine each other, and the number of the record is written by the bits
of the levels from the last LED to the first. -/
structure Packs (frame : Frame) (record : Record) : Prop where
  bits : ∃ bits, frame.levels.toList.reverse.mapM LevelBits.toBits? = .ok bits ∧
    numeral? 2 LevelBits.bitValue? (bits.flatMap String.toList) = some record.toNat
  small : record.toNat < 2 ^ 72
  levels : record.toFrame.levels = frame.levels

/-- Every form of a record gives the record back. -/
structure Agrees (record : Record) : Prop where
  small : record.toNat < 2 ^ 72
  inRange : record.toFrame.InRange
  frame : ofFrame record.toFrame = record
  bytes : ofBytes record.toBytes = record
  digits : record.toHex.toList.length = 18 ∧
    ∀ c ∈ record.toHex.toList, c ∈ "0123456789abcdef".toList
  number : numeral? 16 Text.hexValue? record.toHex.toList = some record.toNat
  text : ofHex? record.toHex = .ok record
  pairs : bytesOfHex? record.toHex.toList = some record.toBytes.toList

end Record

/-! ## Digits as characters -/

/-- Written digits are read with their values. -/
theorem mapM_digits {base : Nat} {write : Nat → Char} {value? : Char → Option Nat}
    (reads : ∀ digit < base, value? (write digit) = some digit) {ds : List Nat}
    (bounded : ∀ digit ∈ ds, digit < base) : (ds.map write).mapM value? = some ds := by
  have each : ∀ digit ∈ ds, (value? ∘ write) digit = pure (id digit) :=
    fun digit member => reads digit (bounded digit member)
  rw [List.mapM_map, Positional.mapM_eq_pure id each, List.map_id]
  rfl

/-- Digits that are written with the most significant one first are read as their number. -/
theorem numeral?_reverse {base : Nat} {write : Nat → Char} {value? : Char → Option Nat}
    (reads : ∀ digit < base, value? (write digit) = some digit) {ds : List Nat}
    (bounded : ∀ digit ∈ ds, digit < base) :
    numeral? base value? (ds.reverse.map write) = some (Positional.ofDigits base ds) := by
  unfold numeral?
  rw [mapM_digits reads fun digit member => bounded digit (List.mem_reverse.1 member),
    Option.map_some, Positional.foldl_eq_ofDigits, List.reverse_reverse]

/-! ## Bytes as digits -/

theorem lt_of_mem_map_toNat (bytes : List UInt8) :
    ∀ digit ∈ bytes.map UInt8.toNat, digit < 256 := by
  intro digit member
  obtain ⟨byte, -, rfl⟩ := List.mem_map.1 member
  exact byte.toNat_lt

theorem map_ofNat_toNat (bytes : List UInt8) : (bytes.map UInt8.toNat).map UInt8.ofNat = bytes := by
  rw [List.map_map]
  exact (List.map_congr_left fun byte _ => UInt8.ofNat_toNat).trans (List.map_id _)

theorem map_toNat_ofNat {ds : List Nat} (bounded : ∀ digit ∈ ds, digit < 256) :
    (ds.map UInt8.ofNat).map UInt8.toNat = ds := by
  rw [List.map_map]
  have each : ∀ digit ∈ ds, (UInt8.toNat ∘ UInt8.ofNat) digit = id digit :=
    fun digit member => UInt8.toNat_ofNat_of_lt' (bounded digit member)
  exact (List.map_congr_left each).trans (List.map_id _)

namespace Record

/-! ## Numbers -/

theorem toNat_lt (record : Record) : record.toNat < 2 ^ 72 :=
  record.bits.isLt

theorem ofNat_toNat (record : Record) : ofNat record.toNat = record := by
  simp [ofNat, toNat]

theorem toNat_ofNat {value : Nat} (small : value < 2 ^ 72) : (ofNat value).toNat = value :=
  (BitVec.toNat_ofNat _ _).trans (Nat.mod_eq_of_lt small)

theorem toNat_inj {one other : Record} (same : one.toNat = other.toNat) : one = other := by
  rw [← ofNat_toNat one, same, ofNat_toNat]

/-! ## Frames -/

theorem levels_lt {frame : Frame} (inRange : frame.InRange) :
    ∀ digit ∈ frame.levels.toList.map UInt8.toNat, digit < 8 := by
  intro digit member
  obtain ⟨level, among, rfl⟩ := List.mem_map.1 member
  exact Nat.lt_succ_of_le (UInt8.le_iff_toNat_le.1 (inRange level among))

/-- Of levels in range nothing is cut off. -/
theorem toNat_ofFrame {frame : Frame} (inRange : frame.InRange) :
    (ofFrame frame).toNat = Positional.ofDigits 8 (frame.levels.toList.map UInt8.toNat) := by
  have bounded := levels_lt inRange
  have whole : frame.levels.toList.map (fun level => level.toNat % 8) =
      frame.levels.toList.map UInt8.toNat :=
    List.map_congr_left fun level member =>
      Nat.mod_eq_of_lt (bounded level.toNat (List.mem_map_of_mem member))
  have small := Positional.ofDigits_lt bounded
  rw [List.length_map, Vector.length_toList] at small
  rw [ofFrame, whole]
  exact toNat_ofNat small

theorem levels_toFrame (record : Record) : record.toFrame.levels.toList =
    (Positional.digits 8 Board.ledCount record.toNat).map UInt8.ofNat :=
  rfl

theorem digits_lt (record : Record) :
    ∀ digit ∈ Positional.digits 8 Board.ledCount record.toNat, digit < 8 :=
  Positional.digits_lt (by decide) _ _

theorem inRange_toFrame (record : Record) : record.toFrame.InRange := by
  intro level member
  rw [levels_toFrame] at member
  obtain ⟨digit, among, rfl⟩ := List.mem_map.1 member
  have low := digits_lt record digit among
  rw [UInt8.le_iff_toNat_le, UInt8.toNat_ofNat_of_lt' (Nat.lt_trans low (by decide))]
  exact Nat.le_of_lt_succ low

/-- A frame with levels in range comes back from its record. -/
theorem toFrame_ofFrame {frame : Frame} (inRange : frame.InRange) :
    (ofFrame frame).toFrame.levels = frame.levels := by
  have written := Positional.digits_ofDigits (levels_lt inRange)
  rw [List.length_map, Vector.length_toList] at written
  apply Vector.toList_inj.1
  rw [levels_toFrame, toNat_ofFrame inRange, written, map_ofNat_toNat]

/-- A record comes back from its frame. -/
theorem ofFrame_toFrame (record : Record) : ofFrame record.toFrame = record := by
  apply toNat_inj
  rw [toNat_ofFrame record.inRange_toFrame, levels_toFrame, map_toNat_ofNat,
    Positional.ofDigits_digits]
  · exact Nat.mod_eq_of_lt record.toNat_lt
  · exact fun digit member => Nat.lt_trans (digits_lt record digit member) (by decide)

/-! ## Bits -/

/-- The bits of a level are its digits in base 2. -/
theorem toBits?_eq {level : Level} (low : level ≤ Board.fullLevel) :
    LevelBits.toBits? level = .ok (String.ofList
      ((Positional.digits 2 LevelBits.width level.toNat).reverse.map Text.hexDigit)) := by
  unfold LevelBits.toBits?
  rw [if_neg (UInt8.not_lt.2 low)]

theorem bitValue?_hexDigit {bit : Nat} (small : bit < 2) :
    LevelBits.bitValue? (Text.hexDigit bit) = some bit := by
  have table : ∀ b : Fin 2, LevelBits.bitValue? (Text.hexDigit b.val) = some b.val := by decide
  exact table ⟨bit, small⟩

/-- The text of the bits of a level. -/
def bitText (level : Level) : String :=
  String.ofList ((Positional.digits 2 LevelBits.width level.toNat).reverse.map Text.hexDigit)

theorem flatMap_bitText (levels : List Level) :
    (levels.reverse.map bitText).flatMap String.toList =
      ((levels.map UInt8.toNat).flatMap (Positional.digits 2 LevelBits.width)).reverse.map
        Text.hexDigit := by
  rw [List.flatMap_map, List.reverse_flatMap, List.map_flatMap, ← List.map_reverse,
    List.flatMap_map]
  simp only [bitText, String.toList_ofList, Function.comp_apply]

/-- The bits of the levels, from the last LED to the first, write the number of the record. -/
theorem numeral?_levelBits {frame : Frame} (inRange : frame.InRange) :
    ∃ bits, frame.levels.toList.reverse.mapM LevelBits.toBits? = .ok bits ∧
      numeral? 2 LevelBits.bitValue? (bits.flatMap String.toList) = some (ofFrame frame).toNat := by
  have each : ∀ level ∈ frame.levels.toList.reverse,
      LevelBits.toBits? level = pure (bitText level) :=
    fun level member => toBits?_eq (inRange level (List.mem_reverse.1 member))
  have bounded : ∀ bit ∈ (frame.levels.toList.map UInt8.toNat).flatMap
      (Positional.digits 2 LevelBits.width), bit < 2 := by
    intro bit member
    obtain ⟨level, -, among⟩ := List.mem_flatMap.1 member
    exact Positional.digits_lt (by decide) _ _ bit among
  refine ⟨_, Positional.mapM_eq_pure bitText each, ?_⟩
  rw [flatMap_bitText, numeral?_reverse (fun bit => bitValue?_hexDigit) bounded,
    toNat_ofFrame inRange]
  exact congrArg some (Positional.ofDigits_flatMap (levels_lt inRange))

/-! ## Hexadecimal digits -/

theorem hexChars_bounded (record : Record) :
    ∀ digit ∈ Positional.digits 16 hexLength record.toNat, digit < 16 :=
  Positional.digits_lt (by decide) _ _

theorem length_hexChars (record : Record) : record.hexChars.length = hexLength := by
  simp [hexChars, Text.hexDigits]

/-- The characters of a record are lowercase hexadecimal digits. -/
theorem mem_hexChars {record : Record} {c : Char} (member : c ∈ record.hexChars) :
    c ∈ "0123456789abcdef".toList := by
  obtain ⟨digit, among, rfl⟩ := List.mem_map.1 member
  have table : ∀ d : Fin 16, Text.hexDigit d.val ∈ "0123456789abcdef".toList := by decide
  exact table ⟨digit, hexChars_bounded record digit (List.mem_reverse.1 among)⟩

theorem ofDigits_hex (record : Record) :
    Positional.ofDigits 16 (Positional.digits 16 hexLength record.toNat) = record.toNat := by
  rw [Positional.ofDigits_digits]
  exact Nat.mod_eq_of_lt record.toNat_lt

theorem mapM_hexChars (record : Record) : record.hexChars.mapM Text.hexValue? =
    some (Positional.digits 16 hexLength record.toNat).reverse :=
  mapM_digits (fun _ => Text.hexValue?_hexDigit) fun digit member =>
    hexChars_bounded record digit (List.mem_reverse.1 member)

theorem numeral?_hexChars (record : Record) :
    numeral? 16 Text.hexValue? record.hexChars = some record.toNat := by
  have read := numeral?_reverse (fun _ => Text.hexValue?_hexDigit) (hexChars_bounded record)
  rwa [ofDigits_hex] at read

/-! ## Texts that are records -/

/-- A hexadecimal digit has a value, its lowercase form is the digit of that value, and it takes one
byte. -/
theorem exists_hexValue? {c : Char} (digit : c.isHexDigit = true) :
    ∃ value < 16, Text.hexValue? c = some value ∧ Text.hexDigit value = c.toLower ∧
      c.utf8Size = 1 := by
  have table : ∀ code : Fin 128, (Char.ofNat code).isHexDigit = true →
      ∃ value < 16, Text.hexValue? (Char.ofNat code) = some value ∧
        Text.hexDigit value = (Char.ofNat code).toLower ∧ (Char.ofNat code).utf8Size = 1 := by
    decide +kernel
  have small : c.toNat < 128 := by
    simp only [Char.isHexDigit, Char.isDigit, Bool.or_eq_true, Bool.and_eq_true,
      decide_eq_true_eq, ge_iff_le, UInt32.le_iff_toNat_le] at digit
    rcases digit with (⟨-, high⟩ | ⟨-, high⟩) | ⟨-, high⟩ <;>
      exact Nat.lt_of_le_of_lt high (by decide)
  have found := table ⟨c.toNat, small⟩
  rw [Char.ofNat_toNat] at found
  exact found digit

theorem isHexDigit_of_hexValue? {c : Char} {value : Nat}
    (found : Text.hexValue? c = some value) : c.isHexDigit = true := by
  unfold Text.hexValue? at found
  simp only [Char.isHexDigit, Char.isDigit, Bool.or_eq_true, Bool.and_eq_true, decide_eq_true_eq]
  split at found
  · rename_i range
    exact .inl (.inl range)
  · split at found
    · rename_i range
      exact .inl (.inr range)
    · split at found
      · rename_i range
        exact .inr range
      · cases found

/-- Hexadecimal digits have values, and their lowercase forms are the digits of these. -/
theorem exists_values {text : List Char} (digits : ∀ c ∈ text, c.isHexDigit = true) :
    ∃ values, text.mapM Text.hexValue? = some values ∧ (∀ value ∈ values, value < 16) ∧
      values.map Text.hexDigit = text.map Char.toLower ∧
      (text.map Char.utf8Size).sum = text.length := by
  induction text with
  | nil => exact ⟨[], rfl, List.forall_mem_nil _, rfl, rfl⟩
  | cons c later ih =>
      obtain ⟨here, others⟩ := List.forall_mem_cons.1 digits
      obtain ⟨value, small, found, lower, one⟩ := exists_hexValue? here
      obtain ⟨values, read, bounded, lowers, size⟩ := ih others
      refine ⟨value :: values, ?_, List.forall_mem_cons.2 ⟨small, bounded⟩, ?_, ?_⟩
      · rw [List.mapM_cons, found, read]
        rfl
      · rw [List.map_cons, List.map_cons, lower, lowers]
      · rw [List.map_cons, List.sum_cons, one, size, List.length_cons, Nat.add_comm]

theorem isHexDigit_of_mapM {text : List Char} {values : List Nat}
    (read : text.mapM Text.hexValue? = some values) : ∀ c ∈ text, c.isHexDigit = true := by
  intro c member
  obtain ⟨value, found⟩ := Positional.exists_of_mapM read c member
  exact isHexDigit_of_hexValue? found

/-- A text of 18 hexadecimal digits is read as the record whose text is its lowercase form. -/
theorem ofHex?_of_isHexText {text : String} (isHex : IsHexText text) :
    ∃ record, ofHex? text = .ok record ∧ record.toHex = text.toLower ∧
      numeral? 16 Text.hexValue? text.toList = some record.toNat := by
  obtain ⟨length, digits⟩ := isHex
  obtain ⟨values, read, bounded, lowers, size⟩ := exists_values digits
  have count : values.length = hexLength := by
    have lengths := congrArg List.length lowers
    rw [List.length_map, List.length_map] at lengths
    exact lengths.trans length
  have small : ∀ value ∈ values.reverse, value < 16 :=
    fun value member => bounded value (List.mem_reverse.1 member)
  have number : (ofNat (Positional.ofDigits 16 values.reverse)).toNat =
      Positional.ofDigits 16 values.reverse := by
    refine toNat_ofNat (Nat.lt_of_lt_of_eq (Positional.ofDigits_lt small) ?_)
    rw [List.length_reverse, count]
    decide
  refine ⟨ofNat (Positional.ofDigits 16 values.reverse), ?_, ?_, ?_⟩
  · unfold ofHex?
    rw [Text.utf8ByteSize_eq, size, length, read]
    rfl
  · have written := Positional.digits_ofDigits small
    rw [List.length_reverse, count] at written
    rw [toHex, hexChars, Text.hexDigits, number, written, List.reverse_reverse, lowers]
    apply String.toList_inj.1
    rw [show text.toLower = text.map Char.toLower from rfl, String.toList_map,
      String.toList_ofList]
  · rw [numeral?, read, number, Option.map_some, Positional.foldl_eq_ofDigits]

/-- Only texts of 18 hexadecimal digits are read. -/
theorem isHexText_of_ofHex? {text : String} {record : Record}
    (read : ofHex? text = .ok record) : IsHexText text := by
  unfold ofHex? at read
  split at read
  · cases read
  · rename_i size
    rw [not_not, Text.utf8ByteSize_eq] at size
    split at read
    · rename_i values found
      have digits := isHexDigit_of_mapM found
      obtain ⟨-, -, -, -, length⟩ := exists_values digits
      exact ⟨length.symm.trans size, digits⟩
    · cases read

/-- The text of a record is read as this record. -/
theorem ofHex?_toHex (record : Record) : ofHex? record.toHex = .ok record := by
  have isHex : IsHexText record.toHex := by
    rw [IsHexText, toHex, String.toList_ofList]
    exact ⟨record.length_hexChars, isHexDigit_of_mapM record.mapM_hexChars⟩
  obtain ⟨found, read, -, number⟩ := ofHex?_of_isHexText isHex
  rw [toHex, String.toList_ofList, numeral?_hexChars, Option.some.injEq] at number
  rw [read, toNat_inj number]

/-! ## Bytes -/

/-- Of nine bytes nothing is cut off. -/
theorem toNat_ofBytes (bytes : Vector UInt8 byteCount) :
    (ofBytes bytes).toNat = Positional.ofDigits 256 (bytes.toList.reverse.map UInt8.toNat) := by
  have small := Positional.ofDigits_lt (lt_of_mem_map_toNat bytes.toList.reverse)
  rw [List.length_map, List.length_reverse, Vector.length_toList] at small
  exact toNat_ofNat small

theorem toList_toBytes (record : Record) : record.toBytes.toList =
    (Positional.digits 256 byteCount record.toNat).reverse.map UInt8.ofNat :=
  rfl

/-- Nine bytes come back from the record that they make. -/
theorem toBytes_ofBytes (bytes : Vector UInt8 byteCount) : (ofBytes bytes).toBytes = bytes := by
  have written := Positional.digits_ofDigits (lt_of_mem_map_toNat bytes.toList.reverse)
  rw [List.length_map, List.length_reverse, Vector.length_toList] at written
  apply Vector.toList_inj.1
  rw [toList_toBytes, toNat_ofBytes, written, List.map_reverse, map_ofNat_toNat,
    List.reverse_reverse]

/-- Each byte of a record is a pair of its hexadecimal digits. -/
theorem hexChars_eq (record : Record) : record.hexChars =
    (Positional.digits 256 byteCount record.toNat).reverse.flatMap (Text.hexDigits 2) := by
  have grouped := Positional.flatMap_digits 16 2 byteCount record.toNat
  rw [hexChars, Text.hexDigits, show hexLength = 2 * byteCount from rfl, ← grouped,
    List.reverse_flatMap, List.map_flatMap]
  rfl

theorem bytesOfHex?_flatMap {ds : List Nat} (bounded : ∀ digit ∈ ds, digit < 256) :
    bytesOfHex? (ds.flatMap (Text.hexDigits 2)) = some (ds.map UInt8.ofNat) := by
  induction ds with
  | nil => rfl
  | cons byte later ih =>
      obtain ⟨here, others⟩ := List.forall_mem_cons.1 bounded
      have high : Text.hexValue? (Text.hexDigit (byte / 16 % 16)) = some (byte / 16 % 16) :=
        Text.hexValue?_hexDigit (Nat.mod_lt _ (by decide))
      have low : Text.hexValue? (Text.hexDigit (byte % 16)) = some (byte % 16) :=
        Text.hexValue?_hexDigit (Nat.mod_lt _ (by decide))
      have whole : 16 * (byte / 16 % 16) + byte % 16 = byte := by omega
      rw [List.flatMap_cons, List.map_cons,
        show Text.hexDigits 2 byte = [Text.hexDigit (byte / 16 % 16), Text.hexDigit (byte % 16)]
          from rfl]
      simp only [List.cons_append, List.nil_append, bytesOfHex?, high, low, ih others, whole,
        bind, Option.bind, pure]

theorem bytesOfHex?_hexChars (record : Record) :
    bytesOfHex? record.hexChars = some record.toBytes.toList := by
  rw [hexChars_eq, toList_toBytes]
  refine bytesOfHex?_flatMap fun byte member => ?_
  exact Positional.digits_lt (by decide) _ _ byte (List.mem_reverse.1 member)

/-! ## All forms -/

theorem packs_ofFrame {frame : Frame} (inRange : frame.InRange) : Packs frame (ofFrame frame) where
  bits := numeral?_levelBits inRange
  small := toNat_lt _
  levels := toFrame_ofFrame inRange

theorem agrees (record : Record) : Agrees record where
  small := record.toNat_lt
  inRange := record.inRange_toFrame
  frame := record.ofFrame_toFrame
  bytes := record.ofBytes_toBytes
  digits := by
    rw [toHex, String.toList_ofList]
    exact ⟨record.length_hexChars, fun c => mem_hexChars⟩
  number := by
    rw [toHex, String.toList_ofList]
    exact record.numeral?_hexChars
  text := record.ofHex?_toHex
  pairs := by
    rw [toHex, String.toList_ofList]
    exact record.bytesOfHex?_hexChars

/-- **All forms of a record agree.** Frames with levels in range, numbers below `2 ^ 72`, nine bytes
and texts of 18 hexadecimal digits are in bijection, up to the case of the digits. -/
theorem forms_agree :
    (∀ frame : Frame, frame.InRange → Packs frame (ofFrame frame)) ∧
      (∀ record : Record, Agrees record) ∧
      (∀ bytes : Vector UInt8 byteCount, (ofBytes bytes).toBytes = bytes ∧
        (bytes.toList.map UInt8.toNat).foldl (fun value byte => 256 * value + byte) 0 =
          (ofBytes bytes).toNat) ∧
      ∀ text : String, ((∃ record, ofHex? text = .ok record) ↔ IsHexText text) ∧
        ∀ record, ofHex? text = .ok record → record.toHex = text.toLower ∧
          numeral? 16 Text.hexValue? text.toList = some record.toNat := by
  refine ⟨fun frame => packs_ofFrame, agrees, fun bytes => ⟨toBytes_ofBytes bytes, ?_⟩,
    fun text => ⟨⟨?_, ?_⟩, ?_⟩⟩
  · rw [toNat_ofBytes, Positional.foldl_eq_ofDigits, List.map_reverse]
  · rintro ⟨record, read⟩
    exact isHexText_of_ofHex? read
  · intro isHex
    obtain ⟨record, read, -⟩ := ofHex?_of_isHexText isHex
    exact ⟨record, read⟩
  · intro record read
    obtain ⟨found, again, lower, number⟩ := ofHex?_of_isHexText (isHexText_of_ofHex? read)
    rw [read] at again
    cases again
    exact ⟨lower, number⟩

/-- The levels rise from LED 0 on, and start again after full brightness. -/
def ramp : Frame :=
  ⟨Vector.ofFn fun led => UInt8.ofNat (led.val % 8), 1⟩

theorem forms_agree_ramp :
    ramp.InRange ∧ Packs ramp (ofFrame ramp) ∧
      ofHex? "FAC688fac688FaC688" = .ok (ofFrame ramp) ∧
      (ofFrame ramp).toHex = "FAC688fac688FaC688".toLower := by
  have inRange : ramp.InRange := by decide +kernel
  have read : ofHex? "FAC688fac688FaC688" = .ok (ofFrame ramp) := by decide +kernel
  exact ⟨inRange, forms_agree.1 ramp inRange, read, ((forms_agree.2.2.2 _).2 _ read).1⟩

end Record

end TreeBoard
