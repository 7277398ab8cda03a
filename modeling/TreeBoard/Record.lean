import TreeBoard.Frame

/-!
# Records

A record is a frame packed into the 72 bits of one memory slot, three bits for each LED. LED 23 takes
the most significant bits and LED 0 the least significant ones. The board receives the nine bytes of
a record with the most significant one first.
-/

namespace TreeBoard

/-- The content of one slot of the pattern memory. -/
structure Record where
  bits : BitVec 72
deriving DecidableEq, Repr

namespace Record

/-- Number of bytes in which a record is sent. -/
abbrev byteCount : Nat := 9

/-- The record whose value is the lowest 72 bits of a number. -/
def ofNat (value : Nat) : Record :=
  ⟨BitVec.ofNat 72 value⟩

/-- The value of a record as a number. -/
def toNat (record : Record) : Nat :=
  record.bits.toNat

/-- The bytes of a record, most significant first. -/
def toBytes (record : Record) : Vector UInt8 byteCount :=
  ⟨((Positional.digits 256 byteCount record.toNat).reverse.map UInt8.ofNat).toArray, by simp⟩

/-- The record with the given bytes, most significant first. -/
def ofBytes (bytes : Vector UInt8 byteCount) : Record :=
  ofNat (Positional.ofDigits 256 (bytes.toList.reverse.map UInt8.toNat))

/-- Packs a frame. Of each level the lowest three bits are kept. -/
def ofFrame (frame : Frame) : Record :=
  ofNat (Positional.ofDigits 8 (frame.levels.toList.map fun level => level.toNat % 8))

/-- Unpacks a record. Every record is a frame with all levels in range. -/
def toFrame (record : Record) : Frame :=
  ⟨⟨((Positional.digits 8 Board.ledCount record.toNat).map UInt8.ofNat).toArray, by simp⟩, 0⟩

end Record

end TreeBoard
