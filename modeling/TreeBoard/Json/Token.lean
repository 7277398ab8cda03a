import TreeBoard.Text.Numeral

/-!
# Tokens of JSON

A JSON text is a sequence of punctuation marks, words, numbers and quoted texts with white space
between them. White space is the space, the tab, the line feed and the carriage return.

Only what settings need is kept of a token. A number without sign, fraction and exponent has a value;
any other number is merely a number. A quoted text has no value when an escape in it names half of a
surrogate pair.
-/

namespace TreeBoard.Json

/-- A token of a JSON text. -/
inductive Token where
  | objectStart
  | objectEnd
  | listStart
  | listEnd
  | colon
  | comma
  | null
  | bool (value : Bool)
  | number (value : Option Nat)
  | text (value : Option String)
deriving DecidableEq, Repr

/-! ## Words and numbers -/

/-- The token that a word stands for. -/
def wordToken? (word : List Char) : Option Token :=
  if word = "null".toList then some .null
  else if word = "true".toList then some (.bool true)
  else if word = "false".toList then some (.bool false)
  else none

/-- Whether a character can stand in a number. -/
def isNumberChar (c : Char) : Bool :=
  c.isDigit || c == '+' || c == '-' || c == '.' || c == 'e' || c == 'E'

/-- Whether a text is a sequence of at least one digit. -/
def isDigits (text : List Char) : Bool :=
  !text.isEmpty && text.all Char.isDigit

/-- Whether a text is an exponent, or nothing. -/
def isExponent : List Char → Bool
  | [] => true
  | mark :: later =>
      (mark == 'e' || mark == 'E') &&
        match later with
        | '+' :: digits => isDigits digits
        | '-' :: digits => isDigits digits
        | digits => isDigits digits

/-- Whether a text is a fraction and an exponent, each of which may be missing. -/
def isFractionAndExponent : List Char → Bool
  | '.' :: later => isDigits (later.takeWhile Char.isDigit) && isExponent (later.dropWhile Char.isDigit)
  | later => isExponent later

/-- Whether digits are written without needless zeros in front. -/
def isWholePart (digits : List Char) : Bool :=
  match digits with
  | [] => false
  | [_] => true
  | first :: _ => first != '0'

/-- The token of a number. -/
def numberToken? (text : List Char) : Option Token :=
  let unsigned := match text with
    | '-' :: later => later
    | _ => text
  let whole := unsigned.takeWhile Char.isDigit
  if isWholePart whole && isFractionAndExponent (unsigned.dropWhile Char.isDigit) then
    some (.number (if whole = text then Text.decimal? text else none))
  else none

/-! ## Quoted texts -/

/-- A character of a quoted text, or half of a surrogate pair. -/
inductive TextUnit where
  | char (c : Char)
  | half (code : Nat)
deriving DecidableEq, Repr

/-- The unit that an escape with four hexadecimal digits stands for. -/
def hexUnit? (digits : List Char) : Option TextUnit := do
  let values ← digits.mapM Text.hexValue?
  let code := Positional.ofDigits 16 values.reverse
  return if 0xD800 ≤ code ∧ code < 0xE000 then .half code else .char (Char.ofNat code)

/-- The character that a backslash and the given letter stand for. -/
def shortEscape? (letter : Char) : Option Char :=
  match letter with
  | '"' => some '"'
  | '\\' => some '\\'
  | '/' => some '/'
  | 'b' => some '\x08'
  | 'f' => some '\x0c'
  | 'n' => some '\n'
  | 'r' => some '\r'
  | 't' => some '\t'
  | _ => none

/-- The units of what stands between quotation marks. Control characters must be escaped. -/
def units? : List Char → Option (List TextUnit)
  | [] => some []
  | '\\' :: 'u' :: a :: b :: c :: d :: later => do
      let unit ← hexUnit? [a, b, c, d]
      return unit :: (← units? later)
  | '\\' :: letter :: later => do
      let c ← shortEscape? letter
      return .char c :: (← units? later)
  | c :: later => do
      if c.toNat < 0x20 ∨ c = '\\' then none
      else return .char c :: (← units? later)

/-- The text of units in which every high half is followed by a low one, and there is no other. -/
def joinUnits? : List TextUnit → Option (List Char)
  | [] => some []
  | .char c :: later => return c :: (← joinUnits? later)
  | .half high :: .half low :: later =>
      if high < 0xDC00 ∧ 0xDC00 ≤ low then
        return Char.ofNat (0x10000 + (high - 0xD800) * 0x400 + (low - 0xDC00)) ::
          (← joinUnits? later)
      else none
  | .half _ :: _ => none

/-- The token of a quoted text. -/
def textToken? (content : List Char) : Option Token := do
  let units ← units? content
  return .text ((joinUnits? units).map String.ofList)

/-! ## Scanning -/

/-- What the characters read last belong to. Characters are collected in reverse. -/
inductive Scan where
  /-- Nothing yet. -/
  | between
  /-- A word. -/
  | word (letters : List Char)
  /-- A number. -/
  | number (chars : List Char)
  /-- A quoted text, and whether a backslash protects the next character. -/
  | quoted (chars : List Char) (escaped : Bool)

/-- The token of a single punctuation mark. -/
def markToken? (c : Char) : Option Token :=
  match c with
  | '\x7b' => some .objectStart
  | '\x7d' => some .objectEnd
  | '[' => some .listStart
  | ']' => some .listEnd
  | ':' => some .colon
  | ',' => some .comma
  | _ => none

/-- Reads a character that begins something new. -/
def startToken? (c : Char) : Option (List Token × Scan) :=
  if c == ' ' || c == '\t' || c == '\n' || c == '\r' then some ([], .between)
  else if c == '"' then some ([], .quoted [] false)
  else if c.isDigit || c == '-' then some ([], .number [c])
  else if c.isLower then some ([], .word [c])
  else (markToken? c).map fun token => ([token], .between)

/-- Reads one character; gives the tokens that end with it. -/
def scanChar? (c : Char) : Scan → Option (List Token × Scan)
  | .between => startToken? c
  | .word letters =>
      if c.isLower then some ([], .word (c :: letters))
      else do
        let token ← wordToken? letters.reverse
        let (tokens, next) ← startToken? c
        return (token :: tokens, next)
  | .number chars =>
      if isNumberChar c then some ([], .number (c :: chars))
      else do
        let token ← numberToken? chars.reverse
        let (tokens, next) ← startToken? c
        return (token :: tokens, next)
  | .quoted chars true => some ([], .quoted (c :: chars) false)
  | .quoted chars false =>
      if c == '"' then (textToken? chars.reverse).map fun token => ([token], .between)
      else some ([], .quoted (c :: chars) (c == '\\'))

/-- The token that the end of the text completes. -/
def scanEnd? : Scan → Option (List Token)
  | .between => some []
  | .word letters => (wordToken? letters.reverse).map ([·])
  | .number chars => (numberToken? chars.reverse).map ([·])
  | .quoted _ _ => none

/-- Reads one more character after some tokens, which are kept in reverse. -/
def scanNext? (state : List Token × Scan) (c : Char) : Option (List Token × Scan) := do
  let (tokens, next) ← scanChar? c state.2
  return (tokens.reverse ++ state.1, next)

/-- The tokens of a JSON text. -/
def tokens? (text : List Char) : Option (List Token) := do
  let (tokens, scan) ← text.foldlM scanNext? ([], .between)
  let last ← scanEnd? scan
  return tokens.reverse ++ last

end TreeBoard.Json
