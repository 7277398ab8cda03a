import TreeBoard.Record

/-!
# Records in hexadecimal

The text of a record is its 18 hexadecimal digits, most significant first and in lower case. Either
case is read.
-/

namespace TreeBoard.Record

/-- Number of hexadecimal digits of a record. -/
def hexLength : Nat := 18

/-- The hexadecimal digits of a record. -/
def hexChars (record : Record) : List Char :=
  Text.hexDigits hexLength record.toNat

/-- The text of a record. -/
def toHex (record : Record) : String :=
  String.ofList record.hexChars

/-- The record with the given text. A wrong length, counted in UTF-8 bytes, is reported before a
wrong character. -/
def ofHex? (text : String) : Except RecordFault Record :=
  if text.utf8ByteSize ≠ hexLength then .error (.length text.utf8ByteSize)
  else
    match text.toList.mapM Text.hexValue? with
    | some values => .ok (ofNat (Positional.ofDigits 16 values.reverse))
    | none => .error (.notHexadecimal text)

end TreeBoard.Record
