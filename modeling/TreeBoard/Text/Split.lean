/-!
# Pieces of a text

A separator divides a text into pieces. Separators next to each other, or at an end of the text, have
an empty piece beside them, so there is always one piece more than there are separators.
-/

namespace TreeBoard.Text

/-- The pieces between separators. -/
def pieces (separator : Char) : List Char → List (List Char)
  | [] => [[]]
  | c :: later =>
      if c = separator then [] :: pieces separator later
      else
        match pieces separator later with
        | [] => [[c]]
        | piece :: others => (c :: piece) :: others

/-- The pieces of a text between separators. -/
def split (separator : Char) (text : String) : List String :=
  (pieces separator text.toList).map String.ofList

end TreeBoard.Text
