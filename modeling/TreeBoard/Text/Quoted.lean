import TreeBoard.Text.Numeral
import TreeBoard.Text.Printable

/-!
# Quoted text

Messages quote the text that they complain about. Texts and paths stand between double quotation
marks, a single character between single ones. Inside, a backslash goes before the mark at hand and
before a backslash, and printable characters stand for themselves. Tab, line feed, carriage return
and NUL have short forms, and any other character is written as its code point in braces.
-/

namespace TreeBoard.Text

/-- The hexadecimal digits of a code point, without leading zeros. -/
def codePointHex (c : Char) : List Char :=
  match (hexDigits 6 c.toNat).dropWhile (· == '0') with
  | [] => ['0']
  | digits => digits

/-- A character as its code point in braces. -/
def codePointForm (c : Char) : List Char :=
  ['\\', 'u', '\x7b'] ++ codePointHex c ++ ['\x7d']

/-- A character between quotation marks. -/
def quotedForm (mark c : Char) : List Char :=
  if c == '\x00' then ['\\', '0']
  else if c == '\t' then ['\\', 't']
  else if c == '\r' then ['\\', 'r']
  else if c == '\n' then ['\\', 'n']
  else if c == '\\' || c == mark then ['\\', c]
  else if isPrintable c then [c]
  else codePointForm c

/-- A text between quotation marks. -/
def quoteBetween (mark : Char) (text : List Char) : String :=
  String.ofList (mark :: text.flatMap (quotedForm mark) ++ [mark])

/-- A quoted text or path, as in `"fast"`. -/
def quoteText (text : String) : String :=
  quoteBetween '"' text.toList

/-- A quoted character, as in `'8'`. -/
def quoteChar (c : Char) : String :=
  quoteBetween '\x27' [c]

end TreeBoard.Text
