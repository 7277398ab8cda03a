import TreeBoard.Board
import TreeBoard.Text.Quoted

/-!
# Causes of failure

Each way in which a script, a pattern file, the settings, the link to the board or a file can be at
fault is one constructor with the facts that its message needs. Lines and columns count from 1 and
refer to the text as it was given.
-/

namespace TreeBoard

/-- Faults of a text that should hold one record. -/
inductive RecordFault where
  /-- The text has another number of UTF-8 bytes than a record has digits. -/
  | length (found : Nat)
  /-- The text has the right length, but not all of it is hexadecimal. -/
  | notHexadecimal (text : String)
deriving DecidableEq, Repr

/-- Replies of the board that break the handshake. -/
inductive ReplyFault where
  /-- The board answered another display mode than the one it was given. -/
  | modeEcho (mode echoed : UInt8)
  /-- The board did not acknowledge a record. -/
  | notAcknowledged (slot got : UInt8)
  /-- The board acknowledged another slot. -/
  | slotEcho (slot confirmed : UInt8)
  /-- The board did not say that the record is written. -/
  | notDone (slot got : UInt8)
deriving DecidableEq, Repr

/-- Faults of files and byte streams. -/
inductive StreamFault where
  /-- The bytes are not UTF-8. -/
  | notUnicode
  /-- The receiver takes no more bytes. -/
  | writeRefused
  /-- The sender has no more bytes. -/
  | endOfStream
  /-- The receiver could not pass on what it took. -/
  | flushRefused
  /-- There is no file of that name. -/
  | missing
  /-- The name belongs to a directory. -/
  | isDirectory
  /-- A component of the name that should be a directory is none. -/
  | notDirectory
  /-- The name, or a component of it, is longer than a name can be. -/
  | nameTooLong
  /-- Any other fault, in the words of the system. -/
  | other (text : String)
deriving DecidableEq, Repr

/-- Values that the settings may not take. -/
inductive SettingsFault where
  /-- The default speed of fades is zero. -/
  | zeroFadeSpeed
  /-- The default marker has a blank name. -/
  | blankMarker
deriving DecidableEq, Repr

/-- Everything that can go wrong. -/
inductive Error where
  /-- A character of frame data is neither blank nor a digit from 0 to 7. -/
  | invalidDigit (line column : Nat) (found : Char)
  /-- A frame has more than 24 levels. -/
  | frameOverflow (line column : Nat)
  /-- A blank line or the end of the script interrupts a frame. -/
  | incompleteFrame (startLine endLine count : Nat)
  /-- A directive interrupts a frame. -/
  | directiveInsideFrame (line : Nat)
  /-- A fade has no frame to start from. -/
  | fadeWithoutStart (line : Nat)
  /-- The speed of a fade is not a positive 32-bit number. -/
  | invalidFadeSpeed (line : Nat) (found : String)
  /-- A repeat names a marker that was not set before. -/
  | unknownMarker (line : Nat) (name : String)
  /-- The script holds no frame. -/
  | emptyAnimation
  /-- Something other than blank lines follows an endless repeat. -/
  | contentAfterEnd (line : Nat)
  /-- A level is above full brightness. -/
  | levelOutOfRange (level : Level)
  /-- A line of a pattern file is not a record. -/
  | invalidRecord (line : Nat) (fault : RecordFault)
  /-- A text is not the three bits of a level. -/
  | invalidLevelBits (found : String)
  /-- A pattern has more records than the memory has slots. -/
  | tooManyRecords (count : Nat)
  /-- The board broke the handshake. -/
  | reply (fault : ReplyFault)
  /-- The settings are not well-formed. -/
  | malformedSettings
  /-- The settings are well-formed, but a value is not allowed. -/
  | settings (fault : SettingsFault)
  /-- A file or byte stream failed. -/
  | stream (fault : StreamFault)
  /-- A condition without a cause of its own, in free words. -/
  | custom (text : String)
deriving DecidableEq, Repr

/-- The fault in words. -/
def RecordFault.message : RecordFault → String
  | .length found => s!"expected 18 hex characters, found {found}"
  | .notHexadecimal text => Text.quoteText text ++ " is not hexadecimal"

/-- The fault in words. -/
def ReplyFault.message : ReplyFault → String
  | .modeEcho mode echoed => s!"mode {mode} echoed back as {echoed}"
  | .notAcknowledged slot got => s!"slot {slot}: expected ack, got 0x" ++ Text.byteHex got
  | .slotEcho slot confirmed => s!"slot {slot}: board confirmed slot {confirmed}"
  | .notDone slot got => s!"slot {slot}: expected done, got 0x" ++ Text.byteHex got

/-- The fault in words. -/
def StreamFault.message : StreamFault → String
  | .notUnicode => "stream did not contain valid UTF-8"
  | .writeRefused => "failed to write whole buffer"
  | .endOfStream => "failed to fill whole buffer"
  | .flushRefused => "flush failed"
  | .missing => "No such file or directory (os error 2)"
  | .isDirectory => "Is a directory (os error 21)"
  | .notDirectory => "Not a directory (os error 20)"
  | .nameTooLong => "File name too long (os error 36)"
  | .other text => text

/-- The fault in words. -/
def SettingsFault.message : SettingsFault → String
  | .zeroFadeSpeed => "compiler.default_fade_speed must be at least 1"
  | .blankMarker => "compiler.default_marker must not be empty"

namespace Error

/-- The message that is shown for an error. -/
def message : Error → String
  | invalidDigit line column found =>
      s!"line {line}, character {column}: invalid brightness " ++ Text.quoteChar found ++
        ", expected a digit between 0 and 7"
  | frameOverflow line column =>
      s!"line {line}, character {column}: too many LEDs for the current frame, " ++
        "there must be exactly 24"
  | incompleteFrame startLine endLine count =>
      s!"lines {startLine}-{endLine}: only {count} LEDs found, a frame needs exactly 24"
  | directiveInsideFrame line => s!"line {line}: directive is in the middle of a frame"
  | fadeWithoutStart line => s!"line {line}: fade_to must come after a complete frame"
  | invalidFadeSpeed line found =>
      s!"line {line}: invalid fade speed " ++ Text.quoteText found ++
        ", expected an integer of at least 1"
  | unknownMarker line name => s!"line {line}: repeat refers to unknown marker `{name}`"
  | emptyAnimation => "no animation frames found in input"
  | contentAfterEnd line =>
      s!"line {line}: content after repeat_forever, which must be the last entry"
  | levelOutOfRange level => s!"brightness {level} is out of range 0..=7"
  | invalidRecord line fault => s!"record line {line}: " ++ fault.message
  | invalidLevelBits found => "brightness needs 3 bits, got " ++ Text.quoteText found
  | tooManyRecords count => s!"{count} records do not fit in 256 memory slots"
  | reply fault => "upload protocol error: " ++ fault.message
  | malformedSettings => "invalid configuration"
  | settings fault => fault.message
  | stream fault => fault.message
  | custom text => text

/-- The line of the input that an error points at, if it points at one. -/
def line? : Error → Option Nat
  | invalidDigit line _ _ => some line
  | frameOverflow line _ => some line
  | incompleteFrame _ endLine _ => some endLine
  | directiveInsideFrame line => some line
  | fadeWithoutStart line => some line
  | invalidFadeSpeed line _ => some line
  | unknownMarker line _ => some line
  | contentAfterEnd line => some line
  | invalidRecord line _ => some line
  | _ => none

end Error

end TreeBoard
