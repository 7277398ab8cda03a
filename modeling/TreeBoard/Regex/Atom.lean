import TreeBoard.Regex.Mode
import TreeBoard.Text.Numeral

/-!
# Atoms of regular expressions

The smallest parts of an expression that begin with a backslash: characters, written as themselves or
by their code, classes with a letter as their name, and assertions about the place in the text.

The property classes `\p` and `\P` need tables of characters, so they are never known.
-/

namespace TreeBoard.Regex

/-- An atom. -/
inductive Atom where
  /-- A character, which may be written by the two digits of a byte. -/
  | literal (c : Char) (asByte : Bool)
  /-- A class with a letter as its name. -/
  | shorthand
  /-- An assertion about the place in the text. -/
  | assertion
deriving DecidableEq, Repr

/-- Reads the given number of hexadecimal digits behind those that were read before. -/
def readHex (mode : Mode) : Nat → Nat → List Char → Option (Nat × List Char)
  | 0, value, text => some (value, text)
  | _ + 1, _, [] => none
  | count + 1, value, c :: later => do
      let digit ← Text.hexValue? c
      readHex mode count (16 * value + digit) (mode.skip later)

/-- Reads a character by its code of the given number of digits. -/
def readCode (mode : Mode) (digits : Nat) (text : List Char) : Option (Atom × List Char) := do
  let (code, later) ← readHex mode digits 0 (mode.skip text)
  if code.isValidChar then return (.literal (Char.ofNat code) (digits == 2), later) else none

/-- The control characters that are written as a letter. -/
def controlOfLetter? : Char → Option Char
  | 'a' => some '\x07'
  | 'f' => some '\x0c'
  | 't' => some '\t'
  | 'n' => some '\n'
  | 'r' => some '\r'
  | 'v' => some '\x0b'
  | _ => none

/-- Whether a character stands for itself behind a backslash. -/
def standsForItself (c : Char) : Bool :=
  c.toNat < 0x80 && !c.isAlphanum && c != '<' && c != '>'

/-- Reads what follows a backslash. Word boundaries and classes are known in byte mode only, and
there a class cannot be negated, as it would match bytes that are not ASCII. -/
def readEscape (mode : Mode) : List Char → Option (Atom × List Char)
  | [] => none
  | 'x' :: later => readCode mode 2 later
  | 'u' :: later => readCode mode 4 later
  | 'U' :: later => readCode mode 8 later
  | c :: later =>
      if standsForItself c then some (.literal c false, later)
      else
        match controlOfLetter? c with
        | some control => some (.literal control false, later)
        | none =>
            if c == 'A' || c == 'z' then some (.assertion, later)
            else if mode.unicode then none
            else if ['b', 'B', '<', '>'].contains c then some (.assertion, later)
            else if ['d', 's', 'w'].contains c then some (.shorthand, later)
            else none

/-- Whether a literal can be matched in a mode. -/
def Mode.allows (mode : Mode) (c : Char) (asByte : Bool) : Bool :=
  if mode.unicode then !mode.foldCase else !asByte || c.toNat < 0x80

end TreeBoard.Regex
