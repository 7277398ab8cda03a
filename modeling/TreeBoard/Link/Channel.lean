import TreeBoard.Error

/-!
# Channels

A channel carries bytes to and from the board. It may take a part of what is offered and hand over a
part of what is wanted; sending and receiving go on until everything is through. A channel that takes
nothing or has nothing has failed for good.

The functions here work in every monad with a channel, so one description of the handshake runs over a
live device, a file and a scripted board.
-/

namespace TreeBoard.Link

/-- A byte of a record that the board confirmed with another value. -/
structure EchoMismatch where
  slot : UInt8
  byte : Nat
  sent : UInt8
  got : UInt8
deriving DecidableEq, Repr

/-- The operations of a channel. -/
class Channel (m : Type → Type) where
  /-- Offers bytes; the answer says how many of them were taken. -/
  write : List UInt8 → m (Except StreamFault Nat)
  /-- Passes on all bytes that were taken. -/
  flush : m (Except StreamFault Unit)
  /-- Asks for at most the given number of bytes. No byte means that there are no more. -/
  read : Nat → m (Except StreamFault (List UInt8))
  /-- Reports a byte that came back changed, which does not stop an upload. -/
  report : EchoMismatch → m Unit

variable {m : Type → Type} [Monad m]

/-- A computation that fails with the fault that it finds. -/
def orFail {α : Type} (outcome : m (Except StreamFault α)) : ExceptT Error m α :=
  ExceptT.mk do
    match ← outcome with
    | .ok value => return .ok value
    | .error fault => return .error (.stream fault)

/-- A result that is already known. -/
def settled {α : Type} (result : Except Error α) : ExceptT Error m α :=
  ExceptT.mk (pure result)

variable [Channel m]

/-- Sends bytes in at most the given number of turns. -/
def sendWithin : Nat → List UInt8 → ExceptT Error m Unit
  | _, [] => pure ()
  | 0, _ :: _ => throw (.stream .writeRefused)
  | turns + 1, bytes => do
      let taken ← orFail (Channel.write bytes)
      if taken = 0 then throw (.stream .writeRefused)
      else sendWithin turns (bytes.drop taken)

/-- Sends all bytes. Each turn takes at least one, so there are no more turns than bytes. -/
def send (bytes : List UInt8) : ExceptT Error m Unit :=
  sendWithin bytes.length bytes

/-- Passes on everything that was sent. -/
def flush : ExceptT Error m Unit :=
  orFail Channel.flush

/-- Receives a number of bytes in at most the given number of turns. -/
def receiveWithin : Nat → Nat → ExceptT Error m (List UInt8)
  | _, 0 => pure []
  | 0, _ + 1 => throw (.stream .endOfStream)
  | turns + 1, wanted => do
      let bytes ← orFail (Channel.read wanted)
      if bytes.isEmpty then throw (.stream .endOfStream)
      else return bytes ++ (← receiveWithin turns (wanted - bytes.length))

/-- Receives the given number of bytes. Each turn brings at least one, so there are no more turns
than bytes. -/
def receive (wanted : Nat) : ExceptT Error m (List UInt8) :=
  receiveWithin wanted wanted

/-- Receives one byte. -/
def receiveByte : ExceptT Error m UInt8 := do
  match ← receive 1 with
  | byte :: _ => return byte
  | [] => throw (.stream .endOfStream)

end TreeBoard.Link
