import TreeBoard.Error

/-!
# Levels as bits

A level takes three bits of a record. Its bits are written with the most significant one first.
-/

namespace TreeBoard.LevelBits

/-- Number of bits that a level takes. -/
def width : Nat := 3

/-- The three bits of a level, most significant first. -/
def toBits? (level : Level) : Except Error String :=
  if Board.fullLevel < level then .error (.levelOutOfRange level)
  else .ok (String.ofList ((Positional.digits 2 width level.toNat).reverse.map Text.hexDigit))

/-- The value of a binary digit. -/
def bitValue? (c : Char) : Option Nat :=
  if c = '0' then some 0 else if c = '1' then some 1 else none

/-- The level with the given three bits, most significant first. -/
def ofBits? (bits : String) : Except Error Level :=
  match bits.toList.mapM bitValue? with
  | some values =>
      if values.length = width then .ok (UInt8.ofNat (Positional.ofDigits 2 values.reverse))
      else .error (.invalidLevelBits bits)
  | none => .error (.invalidLevelBits bits)

end TreeBoard.LevelBits
