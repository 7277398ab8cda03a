import TreeBoard.Json.Value
import TreeBoard.Settings

/-!
# Settings as JSON

A settings file is a JSON text with three sections: the defaults of directives, whether compiled
frames are shown, and the display mode for uploading. The file and each section name their fields, as
an object does, or give them in order, as a list does. What is left out keeps its default, and fields
of other names do not matter.
-/

namespace TreeBoard.Settings

/-- The value of a field in an object. No field may be given twice. -/
def member? (members : List (Option String × Json.Value)) (name : String) :
    Option (Option Json.Value) :=
  match members.filter fun member => member.1 == some name with
  | [] => some none
  | [(_, value)] => some (some value)
  | _ => none

/-- The fields of the given names, in that order; a field that is left out is `none`. -/
def fields? (names : List String) : Json.Value → Option (List (Option Json.Value))
  | .object members =>
      if members.all fun member => member.1.isSome then names.mapM (member? members) else none
  | .list items =>
      if items.length ≤ names.length then
        some (items.map some ++ List.replicate (names.length - items.length) none)
      else none
  | _ => none

/-- Reads a field with the given reader, or takes the default. -/
def fieldOr {α : Type} (default : α) (read : Json.Value → Option α) : Option Json.Value → Option α
  | none => some default
  | some value => read value

/-- Reads a text. -/
def text? : Json.Value → Option String
  | .text value => value
  | _ => none

/-- Reads a truth value. -/
def bool? : Json.Value → Option Bool
  | .bool value => some value
  | _ => none

/-- Reads a number below a bound. -/
def number? (bound : Nat) : Json.Value → Option Nat
  | .number (some value) => if value < bound then some value else none
  | _ => none

/-- Reads the section `compiler`. -/
def defaults? (value : Json.Value) : Option Script.Defaults := do
  let plain : Script.Defaults := {}
  match ← fields? ["default_marker", "default_fade_speed"] value with
  | [marker, speed] =>
      let marker ← fieldOr plain.marker text? marker
      let speed ← fieldOr plain.fadeSpeed.toNat (number? UInt32.size) speed
      return { marker, fadeSpeed := UInt32.ofNat speed }
  | _ => none

/-- Reads the section `output`. -/
def pretty? (value : Json.Value) : Option Bool := do
  match ← fields? ["pretty"] value with
  | [pretty] => fieldOr false bool? pretty
  | _ => none

/-- Reads the section `upload`. -/
def mode? (value : Json.Value) : Option UInt8 := do
  match ← fields? ["mode"] value with
  | [mode] => return UInt8.ofNat (← fieldOr 1 (number? UInt8.size) mode)
  | _ => none

/-- Reads all sections. -/
def ofValue? (value : Json.Value) : Option Settings := do
  match ← fields? ["compiler", "output", "upload"] value with
  | [compiler, output, upload] =>
      return {
        defaults := ← fieldOr {} defaults? compiler
        pretty := ← fieldOr false pretty? output
        mode := ← fieldOr 1 mode? upload }
  | _ => none

/-- The settings in a JSON text. -/
def ofJson? (text : String) : Option Settings :=
  (Json.parse? text.toList).bind ofValue?

end TreeBoard.Settings
