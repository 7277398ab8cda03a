/-!
# Blank characters

The characters of the Unicode property `White_Space` separate digits, surround arguments and make up
blank lines. The format characters that only look empty (the zero-width space, the word joiner, the
byte order mark) and the information separators U+001C to U+001F do not belong to it.

Results: `isBlank_of_isHexDigit`, a digit is not blank.
-/

namespace TreeBoard.Text

/-- Whether a character has the Unicode property `White_Space`. -/
def isBlank (c : Char) : Bool :=
  let code := c.toNat
  (0x09 ≤ code && code ≤ 0x0D) || code == 0x20 || code == 0x85 || code == 0xA0 || code == 0x1680 ||
    (0x2000 ≤ code && code ≤ 0x200A) || code == 0x2028 || code == 0x2029 || code == 0x202F ||
    code == 0x205F || code == 0x3000

/-- A text without the blanks at its start. -/
def trimStart (text : List Char) : List Char :=
  text.dropWhile isBlank

/-- A text without the blanks at its end. -/
def trimEnd (text : List Char) : List Char :=
  (text.reverse.dropWhile isBlank).reverse

/-- A text without the blanks around it. -/
def trim (text : List Char) : List Char :=
  trimEnd (trimStart text)

/-- Whether a text consists of blanks only. -/
def isBlankText (text : List Char) : Bool :=
  text.all isBlank

/-- A hexadecimal digit is not blank. -/
theorem isBlank_of_isHexDigit {c : Char} (digit : c.isHexDigit = true) : isBlank c = false := by
  simp only [Char.isHexDigit, Char.isDigit, Bool.or_eq_true, Bool.and_eq_true,
    decide_eq_true_eq] at digit
  have code : (48 ≤ c.toNat ∧ c.toNat ≤ 57) ∨ (97 ≤ c.toNat ∧ c.toNat ≤ 102) ∨
      (65 ≤ c.toNat ∧ c.toNat ≤ 70) := or_assoc.1 digit
  simp [isBlank]
  omega

theorem isBlank_of_isDigit {c : Char} (digit : c.isDigit = true) : isBlank c = false := by
  refine isBlank_of_isHexDigit ?_
  rw [Char.isHexDigit, digit, Bool.true_or, Bool.true_or]

end TreeBoard.Text
