/-!
# Cuts at byte positions

A text can be cut at a position that is counted in UTF-8 bytes, unless the position lies within a
character or behind the end.
-/

namespace TreeBoard.Text

/-- Number of UTF-8 bytes of a text. -/
def byteCount : List Char → Nat
  | [] => 0
  | c :: later => c.utf8Size + byteCount later

/-- The parts of a text before and behind a byte position. -/
def cut? : Nat → List Char → Option (List Char × List Char)
  | 0, text => some ([], text)
  | _ + 1, [] => none
  | position + 1, c :: later =>
      if c.utf8Size ≤ position + 1 then
        (cut? (position + 1 - c.utf8Size) later).map fun (front, back) => (c :: front, back)
      else none

/-- The part of a text from one byte position up to another. -/
def slice? (text : List Char) (first last : Nat) : Option (List Char) := do
  let (front, _) ← cut? last text
  let (_, part) ← cut? first front
  return part

end TreeBoard.Text
