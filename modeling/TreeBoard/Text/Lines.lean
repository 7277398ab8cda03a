/-!
# Lines

A line feed ends a line, and a carriage return directly before it belongs to the line's end. A last
line may lack its feed; it then keeps a carriage return at its end. After a final feed no further
line begins, so the empty text has no lines. The rule is the same for characters and for bytes.

Results: `decode?_encode`, the bytes of a text decode to it.
-/

namespace TreeBoard.Text

/-- The lines of a text over any alphabet with the given line feed and carriage return. -/
def linesOf {α : Type} [DecidableEq α] (feed ret : α) : List α → List (List α)
  | [] => []
  | x :: rest =>
      if x = feed then [] :: linesOf feed ret rest
      else if x = ret ∧ rest.head? = some feed then linesOf feed ret rest
      else
        match linesOf feed ret rest with
        | [] => [[x]]
        | line :: later => (x :: line) :: later

/-- The lines of a text. -/
def lines (text : String) : List String :=
  (linesOf '\n' '\r' text.toList).map String.ofList

/-- The lines of a byte sequence. -/
def byteLines (bytes : List UInt8) : List (List UInt8) :=
  linesOf 0x0A 0x0D bytes

/-- The text with the given UTF-8 bytes, when they are valid UTF-8. -/
def decode? (bytes : List UInt8) : Option String :=
  String.fromUTF8? ⟨bytes.toArray⟩

/-- The UTF-8 bytes of a text. -/
def encode (text : String) : List UInt8 :=
  text.toUTF8.data.toList

theorem decode?_encode (text : String) : decode? (encode text) = some text := by
  simp only [decode?, encode, Array.toArray_toList]
  unfold String.fromUTF8?
  rw [String.toUTF8_eq_toByteArray, dif_pos text.isValidUTF8]
  rfl

end TreeBoard.Text
