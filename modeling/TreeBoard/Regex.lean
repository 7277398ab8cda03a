import TreeBoard.Regex.Set
import TreeBoard.Text.Alphanumeric

/-!
# Regular expressions

A filter may hold regular expressions, and one that cannot be compiled makes it unreadable. An
expression is a choice between branches of atoms, sets, groups and repetitions. Here it is only
recognized, not matched.

A closing brace ends an expression in a filter. So nothing that needs one can be complete, and an
opening brace outside a set is always wrong.
-/

namespace TreeBoard.Regex

/-- What stands around an open group. -/
structure Group where
  /-- The mode to return to. -/
  mode : Mode
  /-- The finished branches around the group. -/
  branches : Row
  /-- The parts before the group in its branch. -/
  row : Row
deriving DecidableEq, Repr

/-- How far an expression was read. -/
structure State where
  mode : Mode := {}
  /-- The open groups, innermost first. -/
  groups : List Group := []
  /-- The finished branches of the innermost group. -/
  branches : Row := {}
  /-- The parts of the branch that is being read. -/
  row : Row := {}
  /-- The depth of the last part, if it can be repeated. -/
  last : Option Nat := none
  /-- The names of groups. -/
  names : List (List Char) := []
deriving DecidableEq, Repr

/-- The greatest depth of an expression. -/
def depthLimit : Nat := 250

namespace State

/-- The state with a further part in its branch. -/
def add (state : State) (depth : Nat) : State :=
  { state with row := state.row.add depth, last := some depth }

/-- The state with a literal, if the mode allows it. -/
def addLiteral (state : State) (c : Char) (asByte : Bool) : Option State :=
  if state.mode.allows c asByte then some (state.add 0) else none

/-- The depth of the innermost group. -/
def depth (state : State) : Nat :=
  (state.branches.add state.row.depth).depth

/-- The state inside a new group. -/
def openGroup (state : State) (mode : Mode) : State :=
  { mode
    groups := ⟨state.mode, state.branches, state.row⟩ :: state.groups
    names := state.names }

/-- The state behind the innermost group. -/
def closeGroup (state : State) : Option State :=
  match state.groups with
  | [] => none
  | group :: groups =>
      some (add { mode := group.mode, groups, branches := group.branches, row := group.row,
                  names := state.names } (state.depth + 1))

/-- The state at the begin of the next branch. -/
def nextBranch (state : State) : State :=
  { state with branches := state.branches.add state.row.depth, row := {}, last := none }

/-- The state behind a repetition of the last part. -/
def repeatLast (state : State) : Option State :=
  state.last.map fun depth =>
    { state with
      row := { state.row with deepest := max state.row.deepest (depth + 1) }
      last := some (depth + 1) }

end State

/-- Whether a character may stand in the name of a group, at its begin or further on. -/
def isNameChar (first : Bool) (c : Char) : Bool :=
  if first then c == '_' || Text.isAlphabetic c
  else c == '_' || c == '.' || c == '[' || c == ']' || Text.isAlphanumeric c

/-- Reads the name of a group, up to the angle bracket that ends it. Names do not occur twice. -/
def readName (state : State) (text : List Char) : Option (State × List Char) :=
  let name := text.takeWhile (· != '>')
  match name, text.drop name.length with
  | first :: more, _ :: rest =>
      if isNameChar true first && more.all (isNameChar false) && !state.names.contains name then
        some ({ state.openGroup state.mode with names := name :: state.names }, rest)
      else none
  | _, _ => none

/-- Reads flags. They hold inside a group of their own, or up to the end of the group around them. -/
def readFlags (state : State) (text : List Char) : Option (State × List Char) := do
  let flags := text.takeWhile fun c => c != ':' && c != ')'
  let mode ← state.mode.change? flags
  match text.drop flags.length with
  | ':' :: rest => return (state.openGroup mode, rest)
  | _ :: rest =>
      if flags.isEmpty then none
      else return ({ state.add 0 with mode, last := none }, rest)
  | [] => none

/-- Reads what follows an opening parenthesis. There are no assertions about the text around a
place. -/
def readGroup (state : State) (text : List Char) : Option (State × List Char) :=
  match state.mode.skip text with
  | '?' :: 'P' :: '<' :: rest => readName state rest
  | '?' :: '<' :: rest => readName state rest
  | '?' :: rest => readFlags state rest
  | rest => some (state.openGroup state.mode, rest)

/-- Reads the next part of an expression. -/
def State.step (state : State) (c : Char) (later : List Char) : Option (State × List Char) :=
  match c with
  | '(' => readGroup state later
  | ')' => state.closeGroup.map fun next => (next, later)
  | '|' => some (state.nextBranch, later)
  | '[' => do
      let text ← readOpening state.mode later
      let (depth, rest) ← readSet state.mode {} text
      return (state.add depth, rest)
  | '\\' => do
      match ← readEscape state.mode later with
      | (.literal c asByte, rest) => return (← state.addLiteral c asByte, rest)
      | (_, rest) => return (state.add 0, rest)
  | '\x7b' => none
  | '.' => if state.mode.unicode then some (state.add 0, later) else none
  | _ =>
      if c == '?' || c == '*' || c == '+' then
        state.repeatLast.map fun next => (next, if later.head? == some '?' then later.drop 1 else later)
      else if c == '^' || c == '$' then some (state.add 0, later)
      else (state.addLiteral c false).map fun next => (next, later)

/-- Whether an expression is complete. -/
def State.isComplete (state : State) : Bool :=
  state.groups.isEmpty && state.depth ≤ depthLimit

/-- Whether the rest of an expression completes it. Every step uses up some of the text. -/
def State.accepts (state : State) (text : List Char) : Bool :=
  match state.mode.skip text with
  | [] => state.isComplete
  | c :: later =>
      match state.step c later with
      | none => false
      | some (next, rest) => if rest.length < text.length then next.accepts rest else false
termination_by text.length

/-- Whether a text is a regular expression. -/
def isValid (text : List Char) : Bool :=
  ({} : State).accepts text

end TreeBoard.Regex
