import TreeBoard.Script.State
import TreeBoard.Text.Lines

/-!
# Settings

The settings of the program stand in a file. Its text is parsed, and the values in it are checked.
-/

namespace TreeBoard

/-- The settings of the program. -/
structure Settings where
  /-- What directives mean that leave out their argument. -/
  defaults : Script.Defaults := {}
  /-- Whether compiled frames are shown in the shape of the tree. -/
  pretty : Bool := false
  /-- The display mode that is set before an upload. Mode 1 plays the pattern memory. -/
  mode : UInt8 := 1
deriving DecidableEq, Repr

namespace Settings

/-- Checks the values that well-formed settings may still not have. -/
def validate (settings : Settings) : Except Error Settings :=
  if settings.defaults.fadeSpeed = 0 then .error (.settings .zeroFadeSpeed)
  else if Text.isBlankText settings.defaults.marker.toList then .error (.settings .blankMarker)
  else .ok settings

/-- The settings in a file with the given content, of which `parse?` reads the text. -/
def load (parse? : String → Option Settings) (bytes : List UInt8) : Except Error Settings :=
  match Text.decode? bytes with
  | none => .error (.stream .notUnicode)
  | some text =>
      match parse? text with
      | none => .error .malformedSettings
      | some settings => settings.validate

end Settings

end TreeBoard
