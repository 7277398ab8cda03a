import TreeBoard.Link.Channel
import TreeBoard.Record

/-!
# Programming the board

The host and the board exchange bytes:

```text
host:  m mode                  board:  mode
host:  w slot (9 bytes)        board:  o slot (9 bytes) d
```

An upload sets the display mode and then writes a record into each slot from slot 0 on. The nine
bytes that the board confirms need not be those that were sent; a difference is only reported.
-/

namespace TreeBoard.Link

/-- The byte `m`, which sets the display mode. -/
def modeCommand : UInt8 := 0x6D

/-- The byte `w`, which writes a record. -/
def writeCommand : UInt8 := 0x77

/-- The byte `o`, with which the board acknowledges a record. -/
def acknowledgement : UInt8 := 0x6F

/-- The byte `d`, with which the board says that a record is written. -/
def completion : UInt8 := 0x64

/-- The bytes that set the display mode. -/
def modePacket (mode : UInt8) : List UInt8 :=
  [modeCommand, mode]

/-- The bytes that write a record into a slot. -/
def recordPacket (slot : UInt8) (record : Record) : List UInt8 :=
  writeCommand :: slot :: record.toBytes.toList

/-- The places, counted from the given one, at which the confirmed bytes differ from those sent. -/
def mismatches (slot : UInt8) : Nat → List UInt8 → List UInt8 → List EchoMismatch
  | byte, sent :: laterSent, got :: laterGot =>
      let later := mismatches slot (byte + 1) laterSent laterGot
      if sent = got then later else ⟨slot, byte, sent, got⟩ :: later
  | _, _, _ => []

variable {m : Type → Type} [Monad m] [Channel m]

/-- Reports bytes that came back changed. -/
def reportAll : List EchoMismatch → ExceptT Error m Unit
  | [] => pure ()
  | mismatch :: later => do
      ExceptT.lift (Channel.report mismatch)
      reportAll later

/-- Sets the display mode. -/
def setMode (mode : UInt8) : ExceptT Error m Unit := do
  send (modePacket mode)
  flush
  let echoed ← receiveByte
  if echoed ≠ mode then throw (.reply (.modeEcho mode echoed))

/-- Writes a record into a slot. -/
def writeRecord (slot : UInt8) (record : Record) : ExceptT Error m Unit := do
  send (recordPacket slot record)
  flush
  let answer ← receiveByte
  if answer ≠ acknowledgement then throw (.reply (.notAcknowledged slot answer))
  let confirmed ← receiveByte
  if confirmed ≠ slot then throw (.reply (.slotEcho slot confirmed))
  let echo ← receive Record.byteCount
  reportAll (mismatches slot 0 record.toBytes.toList echo)
  let finished ← receiveByte
  if finished ≠ completion then throw (.reply (.notDone slot finished))

/-- Writes records into consecutive slots from the given one on. -/
def writeRecords : Nat → List Record → ExceptT Error m Unit
  | _, [] => pure ()
  | slot, record :: later => do
      writeRecord (UInt8.ofNat slot) record
      writeRecords (slot + 1) later

/-- Sets the display mode and writes all records from slot 0 on, if the memory can hold them. -/
def upload (mode : UInt8) (records : List Record) : ExceptT Error m Unit := do
  if Board.slotCount < records.length then throw (.tooManyRecords records.length)
  setMode mode
  writeRecords 0 records

end TreeBoard.Link
