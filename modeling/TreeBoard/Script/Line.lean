import TreeBoard.Error
import TreeBoard.Text.Blank

/-!
# Lines of a script

A line is blank, holds levels of a frame, or is a directive. A directive is recognised by the keyword
at the start of the line; its argument is what stands between the first and the second colon, without
the blanks around it. An argument of blanks only counts as left out.
-/

namespace TreeBoard.Script

/-- What a line of a script says. -/
inductive Line where
  /-- Only blanks. -/
  | blank
  /-- Levels of a frame, as the text of the whole line. -/
  | frameData (text : String)
  /-- `fade_to`: fade from the frame before to the frame that follows. -/
  | fadeTo (speed : Option UInt32)
  /-- `set_marker`: remember the last frame. -/
  | setMarker (name : Option String)
  /-- `repeat`: play everything from the marker again. -/
  | repeatOnce (name : Option String)
  /-- `repeat_forever`: fill the memory with whole copies of everything from the marker. -/
  | repeatForever (name : Option String)
deriving DecidableEq, Repr

/-- Whether a line is a directive. -/
def Line.isDirective : Line → Bool
  | .blank => false
  | .frameData _ => false
  | _ => true

/-- The argument of a directive, as it stands between its first two colons. -/
def argument? (directive : List Char) : Option (List Char) :=
  match directive.dropWhile (· ≠ ':') with
  | [] => none
  | _ :: later =>
      match Text.trim (later.takeWhile (· ≠ ':')) with
      | [] => none
      | argument => some argument

/-- The argument of a directive that takes the name of a marker. -/
def markerName? (directive : List Char) : Option String :=
  (argument? directive).map String.ofList

/-- The argument of a fade: a number from 1 to `2 ^ 32 - 1`. -/
def fadeSpeed? (line : Nat) (directive : List Char) : Except Error (Option UInt32) :=
  match argument? directive with
  | none => .ok none
  | some argument =>
      match Text.word32? argument with
      | some speed =>
          if 1 ≤ speed then .ok (some speed)
          else .error (.invalidFadeSpeed line (String.ofList argument))
      | none => .error (.invalidFadeSpeed line (String.ofList argument))

/-- Reads a line with the given number. The keyword `repeat` also begins `repeat_forever`, so the
longer one is tried first. -/
def Line.parse (line : Nat) (text : String) : Except Error Line :=
  let trimmed := Text.trim text.toList
  if trimmed.isEmpty then .ok .blank
  else if "fade_to".toList.isPrefixOf trimmed then (fadeSpeed? line trimmed).map .fadeTo
  else if "set_marker".toList.isPrefixOf trimmed then .ok (.setMarker (markerName? trimmed))
  else if "repeat_forever".toList.isPrefixOf trimmed then .ok (.repeatForever (markerName? trimmed))
  else if "repeat".toList.isPrefixOf trimmed then .ok (.repeatOnce (markerName? trimmed))
  else .ok (.frameData text)

end TreeBoard.Script
