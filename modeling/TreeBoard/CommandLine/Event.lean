import TreeBoard.Link.Programmer
import TreeBoard.Pattern
import TreeBoard.Record.Hex
import TreeBoard.Script.Compile
import TreeBoard.TreeView

/-!
# Events

A command tells what it does as a sequence of events. An event that is worth telling has a severity,
a target that names its origin, and a message with fields behind it.
-/

namespace TreeBoard.CommandLine

/-- How much an event matters, from errors down. -/
inductive Severity where
  | error
  | warn
  | info
  | debug
  | trace
deriving DecidableEq, Repr

/-- The name under which a severity is shown. -/
def Severity.name : Severity → String
  | error => "ERROR"
  | warn => "WARN"
  | info => "INFO"
  | debug => "DEBUG"
  | trace => "TRACE"

/-- The place of a severity, counted from the gravest. -/
def Severity.rank : Severity → Nat
  | error => 1
  | warn => 2
  | info => 3
  | debug => 4
  | trace => 5

/-- Something that a command does. -/
inductive Event where
  | readingSettings (path : String)
  | compiling (input output : String)
  | noticed (notice : Script.Notice)
  | faded (first inserted : Nat) (speed : UInt32)
  | compiled (length : Nat)
  | fitted (total : Nat) (fit : Fit)
  | showingFrame (index : Nat) (frame : Frame)
  | showingRecord (slot : Nat) (record : Record)
  | saved (path : String)
  | generated (pattern : Pattern) (count : Nat)
  | uploading (device : String) (count : Nat)
  | echoed (mismatch : Link.EchoMismatch)
  | uploaded (count : Nat)
  | failed (error : Error)
deriving DecidableEq, Repr

/-- An event in words. -/
structure Entry where
  severity : Severity
  /-- The origin of the entry. -/
  target : String
  message : String
  /-- Names and values. -/
  fields : List (String × String) := []
deriving DecidableEq, Repr

/-- The name of a pattern in messages. -/
def patternName : Pattern → String
  | .waterfall => "Waterfall"
  | .sweep => "Sweep"
  | .both => "Both"

/-- A notice in words. Fades with frames, and how an animation was fitted, are told apart from the
notices. -/
def noticeEntry? : Script.Notice → Option Entry
  | .faded _ _ _ => none
  | .flatFade line =>
      some ⟨.info, "treelights_core::compiler", "fade endpoints too similar, no frames added",
        [("line", toString line)]⟩
  | .danglingFade line =>
      some ⟨.warn, "treelights_core::compiler", "fade_to is not followed by a frame, ignoring",
        [("line", toString line)]⟩
  | .markerSet name index =>
      some ⟨.info, "treelights_core::compiler", "setting marker",
        [("marker", name), ("index", toString index)]⟩
  | .repeated name first last copies =>
      some ⟨.info, "treelights_core::compiler", "repeating frames",
        [("marker", name), ("from", toString first), ("to", toString last),
          ("copies", toString copies)]⟩
  | .fitted _ => none

/-- The fitting of an animation in words. A perfect fit needs none. -/
def fitEntry? (total : Nat) : Fit → Option Entry
  | .exact => none
  | .truncated dropped =>
      some ⟨.warn, "treelights_core::finalize",
        s!"animation exceeds pattern memory, {dropped} frames dropped",
        [("total", toString total), ("dropped", toString dropped)]⟩
  | .padded added =>
      some ⟨.info, "treelights_core::finalize", "repeating last frame to fill pattern memory",
        [("total", toString total), ("added", toString added)]⟩

/-- An event in words, if it is worth telling. -/
def Event.entry? : Event → Option Entry
  | readingSettings path =>
      some ⟨.debug, "treelights", "loading configuration", [("path", Text.quoteText path)]⟩
  | compiling input output =>
      some ⟨.info, "treelights", "compiling animation",
        [("input", Text.quoteText input), ("output", Text.quoteText output)]⟩
  | noticed notice => noticeEntry? notice
  | faded first inserted speed =>
      some ⟨.debug, "treelights_core::compiler", "fading frames",
        [("from", toString first), ("to", toString (first + 1)), ("inserted", toString inserted),
          ("speed", toString speed)]⟩
  | compiled length =>
      some ⟨.info, "treelights_core::compiler", "compiled animation frames",
        [("frames", toString length)]⟩
  | fitted total fit => fitEntry? total fit
  | showingFrame index frame =>
      some ⟨.info, "treelights", "\n" ++ TreeView.render frame, [("frame", toString index)]⟩
  | showingRecord slot record =>
      some ⟨.info, "treelights", "\n" ++ TreeView.render record.toFrame,
        [("slot", toString slot), ("record", record.toHex)]⟩
  | saved path =>
      some ⟨.info, "treelights", "wrote pattern memory", [("output", Text.quoteText path)]⟩
  | generated pattern count =>
      some ⟨.info, "treelights", "generated pattern",
        [("pattern", patternName pattern), ("frames", toString count)]⟩
  | uploading device count =>
      some ⟨.info, "treelights", "uploading pattern",
        [("device", Text.quoteText device), ("records", toString count)]⟩
  | echoed mismatch =>
      some ⟨.warn, "treelights_core::upload", "record byte echoed differently",
        [("slot", toString mismatch.slot), ("byte", toString mismatch.byte),
          ("sent", toString mismatch.sent), ("got", toString mismatch.got)]⟩
  | uploaded count =>
      some ⟨.info, "treelights_core::upload", "pattern uploaded", [("records", toString count)]⟩
  | failed error => some ⟨.error, "treelights", error.message, []⟩

end TreeBoard.CommandLine
