import TreeBoard.Text.Blank

/-!
# Modes of regular expressions

Flags inside a regular expression change how the rest of a group is read. Letters may stand for both
of their cases, an expression may match bytes instead of characters, and blanks and comments may stand
between its parts.

Expressions know the properties of ASCII characters only. So there is no folding of case among
characters, and there are no classes of digits, blanks and word characters, except in byte mode. What
is matched is always a text, so in byte mode nothing may match a byte that is not ASCII.
-/

namespace TreeBoard.Regex

/-- How an expression is read. -/
structure Mode where
  /-- Letters stand for both of their cases. -/
  foldCase : Bool := false
  /-- The expression matches characters; otherwise, bytes. -/
  unicode : Bool := true
  /-- Blanks and comments are skipped. -/
  spaced : Bool := false
deriving DecidableEq, Repr

/-- The text behind blanks and comments. A comment begins with a number sign and ends with its
line. -/
def skipSpace (inComment : Bool) : List Char → List Char
  | [] => []
  | c :: later =>
      if inComment then skipSpace (c != '\n') later
      else if Text.isBlank c then skipSpace false later
      else if c == '#' then skipSpace true later
      else c :: later

namespace Mode

/-- The text from the place where reading goes on. -/
def skip (mode : Mode) (text : List Char) : List Char :=
  if mode.spaced then skipSpace false text else text

/-- The next character of a text. In spaced mode blanks do not count, nor does one number sign between
them. -/
def peek? (mode : Mode) (text : List Char) : Option Char :=
  if mode.spaced then
    match Text.trimStart text with
    | '#' :: later => (Text.trimStart later).head?
    | later => later.head?
  else text.head?

/-- The letters that are flags. The flags for lines and greed have no influence on what can be
read. -/
def flagLetters : List Char := ['i', 'm', 's', 'U', 'u', 'R', 'x']

/-- The mode after flags: those before a dash are set and those behind it are cleared. No flag may
occur twice, and a dash needs a flag behind it. -/
def change? (mode : Mode) (flags : List Char) : Option Mode :=
  let known := flags.all fun c => c == '-' || flagLetters.contains c
  if known && flags.eraseDups == flags && flags.getLast? != some '-' then
    let set := flags.takeWhile (· != '-')
    let cleared := flags.drop set.length
    let value (old : Bool) (flag : Char) := (old || set.contains flag) && !cleared.contains flag
    some
      { foldCase := value mode.foldCase 'i'
        unicode := value mode.unicode 'u'
        spaced := value mode.spaced 'x' }
  else none

end Mode

end TreeBoard.Regex
