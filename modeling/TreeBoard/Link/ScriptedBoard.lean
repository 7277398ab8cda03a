import TreeBoard.Link.Channel

/-!
# A scripted board

A board whose replies are fixed beforehand, behind a channel with limits. It keeps what was sent to it.
-/

namespace TreeBoard.Link

/-- The state of a scripted board and its channel. A limit of `none` is no limit. -/
structure ScriptedBoard where
  /-- The bytes that the board has yet to send. -/
  replies : List UInt8
  /-- Number of bytes that were received from it. -/
  received : Nat := 0
  /-- The bytes that it has taken. -/
  sent : List UInt8 := []
  /-- The greatest number of bytes that one read gives. -/
  readChunk : Option Nat := none
  /-- The number of bytes that it still takes. -/
  writeRoom : Option Nat := none
  /-- The number of times that it can still be flushed. -/
  flushes : Option Nat := none
deriving DecidableEq, Repr

namespace ScriptedBoard

/-- Takes as many of the offered bytes as there is room for. -/
def write (offered : List UInt8) (board : ScriptedBoard) : Nat × ScriptedBoard :=
  let taken := match board.writeRoom with
    | some room => min room offered.length
    | none => offered.length
  (taken, { board with
    sent := board.sent ++ offered.take taken
    writeRoom := board.writeRoom.map (· - taken) })

/-- Uses up one flush. -/
def flush (board : ScriptedBoard) : Except StreamFault Unit × ScriptedBoard :=
  match board.flushes with
  | some 0 => (.error .flushRefused, board)
  | some (left + 1) => (.ok (), { board with flushes := some left })
  | none => (.ok (), board)

/-- Gives the next replies, at most as many as are wanted. -/
def read (wanted : Nat) (board : ScriptedBoard) : List UInt8 × ScriptedBoard :=
  let most := match board.readChunk with
    | some chunk => min chunk wanted
    | none => wanted
  let bytes := board.replies.take most
  (bytes, { board with
    replies := board.replies.drop most
    received := board.received + bytes.length })

end ScriptedBoard

instance : Channel (StateM ScriptedBoard) where
  write bytes := do return .ok (← modifyGet (ScriptedBoard.write bytes))
  flush := modifyGet ScriptedBoard.flush
  read wanted := do return .ok (← modifyGet (ScriptedBoard.read wanted))
  report _ := pure ()

end TreeBoard.Link
