/-!
# Depths

A regular expression may not be nested too deeply. The depth of a character is 0. What is made of
several parts in a row is one deeper than the deepest of them, and a single part is a row of its own
depth.
-/

namespace TreeBoard.Regex

/-- A row of parts: how many they are, and the depth of the deepest. -/
structure Row where
  size : Nat := 0
  deepest : Nat := 0
deriving DecidableEq, Repr

namespace Row

/-- The row with a further part of the given depth. -/
def add (row : Row) (depth : Nat) : Row :=
  ⟨row.size + 1, max row.deepest depth⟩

/-- The depth of a row. -/
def depth (row : Row) : Nat :=
  if row.size ≤ 1 then row.deepest else row.deepest + 1

end Row

end TreeBoard.Regex
