import TreeBoard.Positional

/-!
# Numerals

Decimal literals as scripts and settings write them, and the hexadecimal digits of records and bytes.

Results: `hexValue?_hexDigit`, a written hexadecimal digit reads back.
-/

namespace TreeBoard.Text

/-- The value of an ASCII decimal digit. Digits of other scripts have none. -/
def decimalValue? (c : Char) : Option Nat :=
  if '0' ≤ c ∧ c ≤ '9' then some (c.toNat - '0'.toNat) else none

/-- The number written by a non-empty sequence of decimal digits, leading zeros allowed. -/
def decimal? (digits : List Char) : Option Nat :=
  if digits.isEmpty then none
  else (digits.mapM decimalValue?).map fun values => Positional.ofDigits 10 values.reverse

/-- The number that an unsigned literal denotes: decimal digits after at most one plus sign, with a
value below `2 ^ 32`. -/
def word32? (literal : List Char) : Option UInt32 :=
  let digits := match literal with
    | '+' :: rest => rest
    | _ => literal
  match decimal? digits with
  | some value => if value < UInt32.size then some (UInt32.ofNat value) else none
  | none => none

/-- The lowercase hexadecimal digit of a value below 16. -/
def hexDigit (value : Nat) : Char :=
  if value < 10 then Char.ofNat ('0'.toNat + value) else Char.ofNat ('a'.toNat + (value - 10))

/-- The value of a hexadecimal digit in either case. -/
def hexValue? (c : Char) : Option Nat :=
  if '0' ≤ c ∧ c ≤ '9' then some (c.toNat - '0'.toNat)
  else if 'a' ≤ c ∧ c ≤ 'f' then some (c.toNat - 'a'.toNat + 10)
  else if 'A' ≤ c ∧ c ≤ 'F' then some (c.toNat - 'A'.toNat + 10)
  else none

/-- The `width` lowest hexadecimal digits of a number, most significant first. -/
def hexDigits (width n : Nat) : List Char :=
  (Positional.digits 16 width n).reverse.map hexDigit

/-- The two hexadecimal digits of a byte. -/
def byteHex (byte : UInt8) : String :=
  String.ofList (hexDigits 2 byte.toNat)

theorem hexValue?_hexDigit {value : Nat} (small : value < 16) :
    hexValue? (hexDigit value) = some value := by
  have table : ∀ v : Fin 16, hexValue? (hexDigit v.val) = some v.val := by decide
  exact table ⟨value, small⟩

end TreeBoard.Text
