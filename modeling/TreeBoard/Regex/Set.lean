import TreeBoard.Regex.Atom
import TreeBoard.Regex.Row

/-!
# Sets of characters

Brackets hold a set of characters: characters, ranges, named classes of ASCII and further sets, all of
which are joined, with operators between such unions. A caret behind the bracket negates the set.
Dashes directly behind the bracket are characters, and so is a closing bracket there.

A set that folds case holds no characters, since the cases of characters are not known. In byte mode a
set holds ASCII only and is not negated.
-/

namespace TreeBoard.Regex

/-- The named classes of ASCII. -/
def asciiClasses : List String :=
  ["alnum", "alpha", "ascii", "blank", "cntrl", "digit", "graph", "lower", "print", "punct", "space",
    "upper", "word", "xdigit"]

/-- Reads a named class behind its opening bracket: whether it is negated, and what follows it. -/
def readAsciiClass : List Char → Option (Bool × List Char)
  | ':' :: later =>
      let negated := later.head? == some '^'
      let text := if negated then later.drop 1 else later
      let name := text.takeWhile (· != ':')
      match text.drop name.length with
      | ':' :: ']' :: rest =>
          if asciiClasses.contains (String.ofList name) then some (negated, rest) else none
      | _ => none
  | _ => none

/-- Whether a character may be in a set. -/
def Mode.allowsInSet (mode : Mode) (c : Char) : Bool :=
  if mode.unicode then !mode.foldCase else c.toNat < 0x80

/-- Whether a named class may be in a set. -/
def Mode.allowsClass (mode : Mode) (negated : Bool) : Bool :=
  if mode.unicode then !mode.foldCase else !negated

/-- The sets whose brackets are open. -/
structure SetState where
  /-- For each bracket around the innermost one: the depth of its left operand and its union. -/
  outer : List (Option Nat × Row) := []
  /-- The depth of what stands before the last operator. -/
  left : Option Nat := none
  /-- The union that is being read. -/
  union : Row := {}
  /-- Whether nothing but dashes follows the bracket. -/
  fresh : Bool := true
deriving DecidableEq, Repr

namespace SetState

/-- The state with a character or a class in its union. -/
def add (state : SetState) : SetState :=
  { state with union := state.union.add 0, fresh := false }

/-- The depth of what was read since the bracket. -/
def depth (state : SetState) : Nat :=
  match state.left with
  | some left => max left state.union.depth + 1
  | none => state.union.depth

/-- The state behind an operator. -/
def operate (state : SetState) : SetState :=
  { state with left := some state.depth, union := {}, fresh := false }

/-- Opens a further bracket. -/
def openInner (state : SetState) : SetState :=
  { outer := (state.left, state.union) :: state.outer }

end SetState

/-- The text behind an opening bracket and a caret. -/
def readOpening (mode : Mode) (text : List Char) : Option (List Char) :=
  match mode.skip text with
  | '^' :: later => if mode.unicode then some later else none
  | later => some later

/-- Reads one character or class of a set. -/
def readSetAtom (mode : Mode) : List Char → Option (Atom × List Char)
  | [] => none
  | '\\' :: later => readEscape mode later
  | c :: later => some (.literal c false, later)

/-- Whether an atom may be in a set. -/
def Mode.allowsAtom (mode : Mode) : Atom → Bool
  | .literal c _ => mode.allowsInSet c
  | .shorthand => true
  | .assertion => false

/-- Reads a member of a set: an atom, or a range from one character up to another. -/
def readMember (mode : Mode) (text : List Char) : Option (List Char) := do
  let (first, later) ← readSetAtom mode text
  let single := if mode.allowsAtom first then some later else none
  match mode.skip later with
  | '-' :: rest =>
      if mode.peek? rest == some ']' || mode.peek? rest == some '-' then single
      else
        let (last, behind) ← readSetAtom mode (mode.skip rest)
        match first, last with
        | .literal low _, .literal high _ =>
            if low ≤ high && mode.allowsInSet low && mode.allowsInSet high then some behind else none
        | _, _ => none
  | _ => single

/-- A step of reading sets: the next state, or the depth of the outermost set, and what follows. -/
def SetState.step (mode : Mode) (state : SetState) :
    List Char → Option ((SetState ⊕ Nat) × List Char)
  | [] => none
  | '[' :: later =>
      match readAsciiClass later with
      | some (negated, rest) =>
          if mode.allowsClass negated then some (.inl state.add, rest) else none
      | none => (readOpening mode later).map fun rest => (.inl state.openInner, rest)
  | ']' :: later =>
      if state.fresh && state.union.size == 0 then
        if mode.allowsInSet ']' then some (.inl state.add, later) else none
      else
        let depth := state.depth + 1
        match state.outer with
        | [] => some (.inr depth, later)
        | (left, union) :: outer =>
            some (.inl { outer, left, union := union.add depth, fresh := false }, later)
  | '-' :: later =>
      if state.fresh then
        if mode.allowsInSet '-' then some (.inl { state.add with fresh := true }, later) else none
      else
        match later with
        | '-' :: rest => some (.inl state.operate, rest)
        | _ => (readMember mode ('-' :: later)).map fun rest => (.inl state.add, rest)
  | '&' :: '&' :: later => some (.inl state.operate, later)
  | '~' :: '~' :: later => some (.inl state.operate, later)
  | text => (readMember mode text).map fun rest => (.inl state.add, rest)

/-- Reads sets up to the end of the outermost one: its depth, and what follows. Every step uses up
some of the text. -/
def readSet (mode : Mode) (state : SetState) (text : List Char) : Option (Nat × List Char) :=
  match state.step mode (mode.skip text) with
  | none => none
  | some (.inr depth, rest) => some (depth, rest)
  | some (.inl next, rest) =>
      if rest.length < text.length then readSet mode next rest else none
termination_by text.length

end TreeBoard.Regex
