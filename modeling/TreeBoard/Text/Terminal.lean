import TreeBoard.Text.Quoted

/-!
# Text on a terminal

A terminal takes some control characters as commands: bell, backspace, form feed, escape, delete and
the controls from U+0080 to U+009F. A text that is made for a terminal holds their codes instead. It
keeps every other character, also line feeds and tabs.
-/

namespace TreeBoard.Text

/-- Whether a terminal takes a character as a command. -/
def isCommand (c : Char) : Bool :=
  c == '\x07' || c == '\x08' || c == '\x0c' || c == '\x1b' || (0x7F ≤ c.toNat && c.toNat ≤ 0x9F)

/-- A character as a terminal may have it. A command is written with its code, in ASCII with two
digits. -/
def terminalForm (c : Char) : List Char :=
  if !isCommand c then [c]
  else if c.toNat < 0x80 then ['\\', 'x'] ++ hexDigits 2 c.toNat
  else codePointForm c

/-- A text without commands to a terminal. -/
def forTerminal (text : String) : String :=
  String.ofList (text.toList.flatMap terminalForm)

end TreeBoard.Text
