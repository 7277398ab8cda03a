import TreeBoard.Frame

/-!
# The tree view

A frame can be shown in the shape of the tree: a line for each row of bulbs, each bulb as the levels
of its two LEDs, and the rows centred below each other.
-/

namespace TreeBoard.TreeView

/-- Width of the widest row, four bulbs of two digits with two spaces between them. -/
def width : Nat := 14

/-- The character that shows a level. -/
def levelChar (level : Level) : Char :=
  Char.ofNat ('0'.toNat + level.toNat)

/-- The bulbs that consecutive LEDs form. -/
def bulbs : List Level → List (List Char)
  | first :: second :: later => [levelChar first, levelChar second] :: bulbs later
  | _ => []

/-- A row of bulbs, centred. -/
def row (levels : List Level) : List Char :=
  let content := [' ', ' '].intercalate (bulbs levels)
  List.replicate ((width - content.length) / 2) ' ' ++ content

/-- The rows of the given widths, filled with levels from the top down. -/
def rows : List Nat → List Level → List (List Char)
  | [], _ => []
  | bulbCount :: later, levels =>
      row (levels.take (2 * bulbCount)) :: rows later (levels.drop (2 * bulbCount))

/-- The view of a frame, with a line feed after each row. -/
def render (frame : Frame) : String :=
  String.ofList ((rows Board.rowWidths frame.levels.toList).flatMap (· ++ ['\n']))

end TreeBoard.TreeView
