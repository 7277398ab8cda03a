import TreeBoard.Link.Programmer
import TreeBoard.Link.ScriptedBoard
import TreeBoard.Positional.Lemmas

/-!
# Uploads to any board

The replies to an upload stand at fixed places: the mode at place 0, and then twelve bytes for each
slot, of which the first two and the last are given. An upload waits for them one by one and stops
at the first that is missing or wrong, before anything is sent for the next slot.

Results:
1. `receiveWithin_run`, what is received does not depend on the pieces in which it arrives.
2. `recordPacket_eq`, the bytes that are sent for a record.
3. `Ends.bind`, `ends_writeRecord`, `ends_writeRecords`, how parts of an upload end.
4. `upload_outcome`, how an upload ends.
-/

namespace TreeBoard.Link

/-! ## Definitions -/

/-- A byte that the board must reply, and the fault of any other byte. -/
structure Demand where
  byte : UInt8
  fault : UInt8 → ReplyFault

/-- What the board must reply at a place of the twelve that confirm a slot: first `o`, then the slot,
and at the end `d`. -/
def slotDemand (slot : UInt8) : Nat → Option Demand
  | 0 => some ⟨0x6F, .notAcknowledged slot⟩
  | 1 => some ⟨slot, .slotEcho slot⟩
  | 11 => some ⟨0x64, .notDone slot⟩
  | _ => none

/-- What the board must reply at a place, unless any byte will do. -/
def demand? (mode : UInt8) : Nat → Option Demand
  | 0 => some ⟨mode, .modeEcho mode⟩
  | place + 1 => slotDemand (UInt8.ofNat (place / 12)) (place % 12)

/-- The reply at a place is there, and not wrong. -/
def Fits (mode : UInt8) (replies : List UInt8) (place : Nat) : Prop :=
  ∃ byte, replies[place]? = some byte ∧ ∀ demand ∈ demand? mode place, byte = demand.byte

/-- The error of a reply that is missing or wrong. -/
def errorAt (mode : UInt8) (replies : List UInt8) (place : Nat) : Error :=
  match replies[place]?, demand? mode place with
  | some byte, some demand => .reply (demand.fault byte)
  | _, _ => .stream .endOfStream

/-- The nine bytes of a record, which are those of its number, the most significant one first. -/
def recordBytes (record : Record) : List UInt8 :=
  (List.range 9).reverse.map fun place => UInt8.ofNat (record.bits.toNat / 256 ^ place)

/-- The bytes that write records into the slots from slot 0 on: for each of them `w`, the slot and the
bytes of the record. -/
def packets (records : List Record) : List UInt8 :=
  records.zipIdx.flatMap fun (record, slot) => 0x77 :: UInt8.ofNat slot :: recordBytes record

/-- The bytes that were sent before the reply at a place is waited for: `m` and the mode, and what
writes the records up to the slot of this reply. -/
def sentAt (mode : UInt8) (records : List Record) (place : Nat) : List UInt8 :=
  0x6D :: mode :: packets (records.take ((place + 11) / 12))

/-- The replies with which a board confirms a number of records. -/
structure Confirms (mode : UInt8) (count : Nat) (replies : List UInt8) : Prop where
  mode : replies[0]? = some mode
  acknowledged : ∀ slot < count, replies[1 + 12 * slot]? = some 0x6F
  echoed : ∀ slot < count, replies[2 + 12 * slot]? = some (UInt8.ofNat slot)
  completed : ∀ slot < count, replies[12 + 12 * slot]? = some 0x64

/-- What an action comes to on a scripted board, and what becomes of the board. -/
def ScriptedBoard.run {α : Type} (board : ScriptedBoard)
    (action : ExceptT Error (StateM ScriptedBoard) α) : Except Error α × ScriptedBoard :=
  StateT.run action.run board

/-- An upload to a board with the given replies, of which one read gives no more than a chunk. -/
def uploadTo (mode : UInt8) (records : List Record) (replies : List UInt8) (chunk : Option Nat) :
    Except Error Unit × ScriptedBoard :=
  ScriptedBoard.run { replies, readChunk := chunk } (upload mode records)

/-- How an upload fails at the first reply that is missing or wrong. -/
structure FailsAt (mode : UInt8) (records : List Record) (replies : List UInt8) (place : Nat)
    (error : Error) (board : ScriptedBoard) : Prop where
  inside : place < 1 + 12 * records.length
  before : ∀ earlier < place, Fits mode replies earlier
  here : ¬ Fits mode replies place
  /-- At the mode nothing was sent for a slot. -/
  modeOnly : place = 0 → board.sent = [0x6D, mode]
  /-- In a slot nothing was sent for the next one. -/
  slotsSoFar : ∀ slot, 1 + 12 * slot ≤ place → place ≤ 12 + 12 * slot →
    board.sent = 0x6D :: mode :: packets (records.take (slot + 1))
  missing : replies[place]? = none →
    error = .stream .endOfStream ∧ board.received = replies.length
  wrong : ∀ byte, replies[place]? = some byte → board.received = place + 1 ∧
    ∃ demand, demand? mode place = some demand ∧ error = .reply (demand.fault byte)

/-- How an upload ends of records for which the memory has room. -/
structure Outcome (mode : UInt8) (records : List Record) (replies : List UInt8)
    (result : Except Error Unit) (board : ScriptedBoard) : Prop where
  succeeds_iff : result = .ok () ↔ Confirms mode records.length replies
  complete : result = .ok () → board.sent = 0x6D :: mode :: packets records ∧
    board.received = 1 + 12 * records.length
  fails : ∀ error, result = .error error →
    ∃ place, FailsAt mode records replies place error board

/-! ## Actions on a scripted board -/

section

variable {replies : List UInt8} {chunk : Option Nat}

/-- The board after some of its replies were received and some bytes were sent. -/
def boardAt (replies : List UInt8) (chunk : Option Nat) (place : Nat) (sent : List UInt8) :
    ScriptedBoard :=
  { replies := replies.drop place, received := place, sent, readChunk := chunk }

theorem run_bind {α β : Type} (board : ScriptedBoard)
    (action : ExceptT Error (StateM ScriptedBoard) α)
    (next : α → ExceptT Error (StateM ScriptedBoard) β) :
    board.run (action >>= next) =
      match board.run action with
      | (.ok value, after) => after.run (next value)
      | (.error error, after) => (.error error, after) := by
  show StateT.run (ExceptT.run (action >>= next)) board = _
  rw [ExceptT.run_bind, StateT.run_bind]
  unfold ScriptedBoard.run
  cases StateT.run action.run board with
  | mk result after => cases result <;> rfl

/-- Everything that is offered is taken. -/
theorem send_run (place : Nat) (sent bytes : List UInt8) :
    (boardAt replies chunk place sent).run (send bytes) =
      (.ok (), boardAt replies chunk place (sent ++ bytes)) := by
  have taken : (boardAt replies chunk place sent).run (orFail (Channel.write bytes)) =
      (.ok bytes.length, boardAt replies chunk place (sent ++ bytes)) := by
    show (Except.ok bytes.length, (ScriptedBoard.write bytes _).2) = _
    simp [ScriptedBoard.write, boardAt]
  cases bytes with
  | nil =>
      rw [List.append_nil]
      rfl
  | cons byte later =>
      rw [send, List.length_cons, sendWithin, run_bind, taken]
      · simp only [List.length_cons, Nat.succ_ne_zero, if_false]
        rw [← List.length_cons, List.drop_length]
        cases later.length <;> rfl
      · exact List.cons_ne_nil byte later

theorem flush_run (place : Nat) (sent : List UInt8) :
    (boardAt replies chunk place sent).run flush =
      (.ok (), boardAt replies chunk place sent) :=
  rfl

/-- Where fewer bytes are left than are asked for, all of them are taken. -/
theorem taken_eq (replies : List UInt8) (chunk : Option Nat) {place most count : Nat}
    (least : count = min most (replies.length - place)) (sent : List UInt8) :
    (replies.drop place).take most = (replies.drop place).take count ∧
      { boardAt replies chunk place sent with
        replies := (replies.drop place).drop most
        received := place + ((replies.drop place).take most).length } =
        boardAt replies chunk (place + count) sent := by
  rw [← List.length_drop] at least
  have dropped : (replies.drop place).drop most = replies.drop (place + count) := by
    rw [← List.drop_drop, least, ← List.drop_eq_drop_min]
  have counted : ((replies.drop place).take most).length = count := by
    rw [List.length_take, least]
  constructor
  · rw [least, ← List.take_eq_take_min]
  · simp only [boardAt, dropped, counted]

/-- A read gives a part of what is left, and nothing only if nothing is left. -/
theorem read_run (positive : ∀ size ∈ chunk, 1 ≤ size) {place wanted : Nat} (asked : 0 < wanted)
    (inside : place ≤ replies.length) (sent : List UInt8) :
    ∃ count ≤ wanted, (boardAt replies chunk place sent).run (orFail (Channel.read wanted)) =
      (.ok ((replies.drop place).take count), boardAt replies chunk (place + count) sent) ∧
        place + count ≤ replies.length ∧ (count = 0 → place = replies.length) := by
  cases chunk with
  | none =>
      refine ⟨min wanted (replies.length - place), Nat.min_le_left _ _, ?_, by omega, by omega⟩
      obtain ⟨bytes, after⟩ := taken_eq replies none rfl sent
      rw [← bytes, ← after]
      rfl
  | some size =>
      have one := positive size rfl
      refine ⟨min (min size wanted) (replies.length - place), by omega, ?_, by omega, by omega⟩
      obtain ⟨bytes, after⟩ := taken_eq replies (some size) rfl sent
      rw [← bytes, ← after]
      rfl

theorem take_append_rest (place : Nat) {count wanted : Nat} (fewer : count ≤ wanted) :
    (replies.drop place).take count ++ (replies.drop (place + count)).take (wanted - count) =
      (replies.drop place).take wanted := by
  rw [← List.drop_drop, ← List.take_add, Nat.add_sub_cancel' fewer]

/-- What is received does not depend on the pieces in which it arrives. -/
theorem receiveWithin_run (positive : ∀ size ∈ chunk, 1 ≤ size) {turns place wanted : Nat}
    (inside : place ≤ replies.length) (enough : wanted ≤ turns) (sent : List UInt8) :
    (boardAt replies chunk place sent).run (receiveWithin turns wanted) =
      if place + wanted ≤ replies.length then
        (.ok ((replies.drop place).take wanted), boardAt replies chunk (place + wanted) sent)
      else (.error (.stream .endOfStream), boardAt replies chunk replies.length sent) := by
  induction turns generalizing place wanted with
  | zero =>
      rw [Nat.le_zero.1 enough, if_pos (by omega)]
      rfl
  | succ turns ih =>
      rcases Nat.eq_zero_or_pos wanted with rfl | asked
      · rw [if_pos (by omega)]
        rfl
      obtain ⟨count, fewer, given, inside', nothing⟩ := read_run positive asked inside sent
      have length : ((replies.drop place).take count).length = count := by
        rw [List.length_take, List.length_drop]
        omega
      rw [receiveWithin, run_bind, given]
      · simp only
        by_cases none : count = 0
        · have ended := nothing none
          have beyond : ¬ place + wanted ≤ replies.length := by omega
          rw [if_neg beyond, none, List.take_zero, ended]
          rfl
        · have nonempty : ((replies.drop place).take count).isEmpty = false := by
            rw [List.isEmpty_eq_false_iff, ← List.length_pos_iff, length]
            exact Nat.pos_of_ne_zero none
          have less : wanted - count ≤ turns := by omega
          have places : place + count + (wanted - count) = place + wanted := by omega
          rw [nonempty, length, if_neg Bool.false_ne_true, run_bind, ih inside' less, places,
            ← take_append_rest place fewer]
          by_cases room : place + wanted ≤ replies.length
          · rw [if_pos room, if_pos room]
            rfl
          · rw [if_neg room, if_neg room]
      · exact fun zero => Nat.ne_of_gt asked zero

/-- One byte is received if there is one. -/
theorem receiveByte_run (positive : ∀ size ∈ chunk, 1 ≤ size) {place : Nat}
    (inside : place ≤ replies.length) (sent : List UInt8) :
    (boardAt replies chunk place sent).run receiveByte =
      match replies[place]? with
      | some byte => (.ok byte, boardAt replies chunk (place + 1) sent)
      | none => (.error (.stream .endOfStream), boardAt replies chunk place sent) := by
  rw [receiveByte, run_bind, receive, receiveWithin_run positive inside (Nat.le_refl 1)]
  by_cases room : place + 1 ≤ replies.length
  · rw [if_pos room, List.getElem?_eq_getElem room, List.drop_eq_getElem_cons room]
    rfl
  · have ended : place = replies.length := by omega
    rw [if_neg room, List.getElem?_eq_none (by omega), ended]

end

/-! ## The bytes that are sent -/

theorem toList_toBytes (record : Record) : record.toBytes.toList = recordBytes record := by
  show (Positional.digits 256 9 record.toNat).reverse.map UInt8.ofNat = _
  rw [Positional.digits_eq_map, ← List.map_reverse, List.map_map]
  exact List.map_congr_left fun place _ => UInt8.ofNat_mod_size

theorem recordPacket_eq (slot : UInt8) (record : Record) :
    recordPacket slot record = 0x77 :: slot :: recordBytes record := by
  rw [recordPacket, toList_toBytes]
  rfl

/-! ## The steps of the handshake -/

section

variable {m : Type → Type} [Monad m] [Channel m]

/-- Receives a byte that the board must reply. -/
def expect (demand : Demand) : ExceptT Error m Unit := do
  let byte ← receiveByte
  if byte ≠ demand.byte then throw (.reply (demand.fault byte))

/-- Receives the nine bytes of a record, which are only compared. -/
def compareEcho (slot : UInt8) (record : Record) : ExceptT Error m Unit := do
  let echo ← receive Record.byteCount
  reportAll (mismatches slot 0 record.toBytes.toList echo)

theorem setMode_eq (mode : UInt8) : (setMode mode : ExceptT Error m Unit) =
    (do
      send (modePacket mode)
      flush
      expect ⟨mode, .modeEcho mode⟩) :=
  rfl

theorem expect_bind [LawfulMonad m] (demand : Demand) (rest : Unit → ExceptT Error m Unit) :
    expect demand >>= rest = receiveByte >>= fun byte =>
      if byte ≠ demand.byte then throw (.reply (demand.fault byte)) >>= rest else rest () := by
  unfold expect
  rw [bind_assoc]
  refine bind_congr fun byte => ?_
  split
  · rfl
  · rw [pure_bind]

theorem writeRecord_eq [LawfulMonad m] (slot : UInt8) (record : Record) :
    (writeRecord slot record : ExceptT Error m Unit) =
      (do
        send (recordPacket slot record)
        flush
        expect ⟨acknowledgement, .notAcknowledged slot⟩
        expect ⟨slot, .slotEcho slot⟩
        compareEcho slot record
        expect ⟨completion, .notDone slot⟩) := by
  unfold writeRecord compareEcho
  simp only [expect_bind, bind_assoc]
  rfl

end

/-! ## How a part of an upload ends -/

section

variable (mode : UInt8) (records : List Record) (replies : List UInt8) (chunk : Option Nat)

/-- How a part of an upload ends that waits for the replies from one place to before another. -/
inductive Ends (first last : Nat) : Except Error Unit × ScriptedBoard → Prop
  /-- All of these replies fit. -/
  | confirmed (present : last ≤ replies.length)
      (fits : ∀ place, first ≤ place → place < last → Fits mode replies place) :
      Ends first last (.ok (), boardAt replies chunk last (sentAt mode records (last - 1)))
  /-- The reply at a place is missing or wrong, and nothing happens any more. -/
  | refused (place : Nat) (reached : first ≤ place) (inside : place < last)
      (fits : ∀ earlier, first ≤ earlier → earlier < place → Fits mode replies earlier)
      (unfit : ¬ Fits mode replies place) :
      Ends first last (.error (errorAt mode replies place),
        boardAt replies chunk (min (place + 1) replies.length) (sentAt mode records place))

end

section

variable {mode : UInt8} {records : List Record} {replies : List UInt8} {chunk : Option Nat}

/-- A part of an upload that follows another begins only if that one was confirmed. -/
theorem Ends.bind {first middle last : Nat} {board : ScriptedBoard}
    {action next : ExceptT Error (StateM ScriptedBoard) Unit} (forward : first ≤ middle)
    (onward : middle ≤ last)
    (begins : Ends mode records replies chunk first middle (board.run action))
    (goesOn : middle ≤ replies.length → Ends mode records replies chunk middle last
      ((boardAt replies chunk middle (sentAt mode records (middle - 1))).run next)) :
    Ends mode records replies chunk first last (board.run (action >>= fun _ => next)) := by
  rw [run_bind]
  generalize board.run action = outcome at begins
  cases begins with
  | confirmed present fits =>
      have rest := goesOn present
      simp only
      generalize (boardAt replies chunk middle _).run next = ending at rest
      have joined {stop : Nat}
          (later : ∀ place, middle ≤ place → place < stop → Fits mode replies place) :
          ∀ place, first ≤ place → place < stop → Fits mode replies place := by
        intro place reached inside
        rcases Nat.lt_or_ge place middle with before | behind
        · exact fits place reached before
        · exact later place behind inside
      cases rest with
      | confirmed present fits => exact .confirmed present (joined fits)
      | refused place reached inside fits unfit =>
          exact .refused place (Nat.le_trans forward reached) inside (joined fits) unfit
  | refused place reached inside fits unfit =>
      exact .refused place reached (Nat.lt_of_lt_of_le inside onward) fits unfit

theorem errorAt_missing {place : Nat} (missing : replies[place]? = none) :
    errorAt mode replies place = .stream .endOfStream := by
  rw [errorAt, missing]

theorem errorAt_wrong {place : Nat} {byte : UInt8} {demand : Demand}
    (found : replies[place]? = some byte) (demanded : demand? mode place = some demand) :
    errorAt mode replies place = .reply (demand.fault byte) := by
  rw [errorAt, found, demanded]

/-- Where a byte is demanded, the reply fits if it is this byte. -/
theorem fits_iff {place : Nat} {demand : Demand} (demanded : demand? mode place = some demand) :
    Fits mode replies place ↔ replies[place]? = some demand.byte := by
  constructor
  · rintro ⟨byte, found, right⟩
    rw [found, right demand demanded]
  · intro found
    refine ⟨demand.byte, found, fun other demanded' => ?_⟩
    rw [Option.mem_def, demanded, Option.some.injEq] at demanded'
    rw [demanded']

/-- Where any byte will do, the reply fits if it is there. -/
theorem fits_iff_of_free {place : Nat} (free : demand? mode place = none) :
    Fits mode replies place ↔ place < replies.length := by
  constructor
  · rintro ⟨byte, found, -⟩
    exact (List.getElem?_eq_some_iff.1 found).1
  · intro present
    refine ⟨replies[place], List.getElem?_eq_getElem present, fun demand demanded => ?_⟩
    rw [Option.mem_def, free] at demanded
    cases demanded

theorem not_fits_of_missing {place : Nat} (missing : replies[place]? = none) :
    ¬ Fits mode replies place := by
  rintro ⟨byte, found, -⟩
  rw [missing] at found
  cases found

/-- Waiting for a byte that the board must reply. -/
theorem ends_expect (positive : ∀ size ∈ chunk, 1 ≤ size) {place : Nat} {demand : Demand}
    (inside : place ≤ replies.length) (demanded : demand? mode place = some demand)
    {sent : List UInt8} (before : sent = sentAt mode records place) :
    Ends mode records replies chunk place (place + 1)
      ((boardAt replies chunk place sent).run (expect demand)) := by
  subst before
  rw [expect, run_bind, receiveByte_run positive inside]
  cases found : replies[place]? with
  | none =>
      have ended : place = replies.length :=
        Nat.le_antisymm inside (List.getElem?_eq_none_iff.1 found)
      have refused : Ends mode records replies chunk place (place + 1) _ :=
        .refused place (Nat.le_refl _) (Nat.lt_succ_self _) (fun _ _ _ => by omega)
          (not_fits_of_missing found)
      rw [errorAt_missing found, show min (place + 1) replies.length = place by omega] at refused
      exact refused
  | some byte =>
      obtain ⟨present, -⟩ := List.getElem?_eq_some_iff.1 found
      simp only
      by_cases right : byte = demand.byte
      · rw [if_neg fun wrong => wrong right]
        refine .confirmed present fun earlier reached before => ?_
        rw [show earlier = place by omega, fits_iff demanded, found, right]
      · have refused : Ends mode records replies chunk place (place + 1) _ :=
          .refused place (Nat.le_refl _) (Nat.lt_succ_self _) (fun _ _ _ => by omega) <| by
            rw [fits_iff demanded, found, Option.some.injEq]
            exact right
        rw [errorAt_wrong found demanded, Nat.min_eq_left present] at refused
        rw [if_pos right]
        exact refused

theorem reportAll_run (board : ScriptedBoard) (found : List EchoMismatch) :
    board.run (reportAll found) = (.ok (), board) := by
  induction found with
  | nil => rfl
  | cons mismatch later ih => exact ih

/-- Waiting for bytes that may be anything. -/
theorem ends_compareEcho (positive : ∀ size ∈ chunk, 1 ≤ size) {place : Nat} (slot : UInt8)
    (record : Record) (inside : place ≤ replies.length)
    (free : ∀ offset < Record.byteCount, demand? mode (place + offset) = none)
    {sent : List UInt8}
    (before : ∀ offset < Record.byteCount, sent = sentAt mode records (place + offset)) :
    Ends mode records replies chunk place (place + Record.byteCount)
      ((boardAt replies chunk place sent).run (compareEcho slot record)) := by
  have fits : ∀ earlier, place ≤ earlier → earlier < place + Record.byteCount →
      earlier < replies.length → Fits mode replies earlier := by
    intro earlier reached before present
    have none := free (earlier - place) (by omega)
    rw [Nat.add_sub_cancel' reached] at none
    exact (fits_iff_of_free none).2 present
  rw [compareEcho, run_bind, receive, receiveWithin_run positive inside (Nat.le_refl _)]
  by_cases room : place + Record.byteCount ≤ replies.length
  · rw [if_pos room]
    simp only [reportAll_run]
    rw [before (Record.byteCount - 1) (by decide)]
    exact .confirmed room fun earlier reached before =>
      fits earlier reached before (Nat.lt_of_lt_of_le before room)
  · have missing : replies[replies.length]? = none := List.getElem?_eq_none (Nat.le_refl _)
    have refused : Ends mode records replies chunk place (place + Record.byteCount) _ :=
      .refused replies.length inside (Nat.lt_of_not_le room)
        (fun earlier reached before => fits earlier reached (by omega) before)
        (not_fits_of_missing missing)
    rw [errorAt_missing missing, Nat.min_eq_right (Nat.le_succ _)] at refused
    have here := before (replies.length - place) (by omega)
    rw [Nat.add_sub_cancel' inside] at here
    rw [if_neg room, here]
    exact refused

/-! ## Slots -/

theorem demand?_slot (mode : UInt8) (slot : Nat) {offset : Nat} (inSlot : offset < 12) :
    demand? mode (1 + 12 * slot + offset) = slotDemand (UInt8.ofNat slot) offset := by
  have number : (12 * slot + offset) / 12 = slot := by omega
  have place : (12 * slot + offset) % 12 = offset := by omega
  rw [show 1 + 12 * slot + offset = 12 * slot + offset + 1 by omega, demand?, number, place]

theorem slotDemand_echo (slot : UInt8) {offset : Nat} (behind : 2 ≤ offset)
    (before : offset < 11) : slotDemand slot offset = none := by
  unfold slotDemand
  split
  · omega
  · omega
  · omega
  · rfl

theorem sentAt_slot (mode : UInt8) (records : List Record) (slot : Nat) {offset : Nat}
    (inSlot : offset < 12) : sentAt mode records (1 + 12 * slot + offset) =
      0x6D :: mode :: packets (records.take (slot + 1)) := by
  rw [sentAt, show (1 + 12 * slot + offset + 11) / 12 = slot + 1 by omega]

/-- Before the first reply of a slot is waited for, the record of this slot is sent. -/
theorem sentAt_succ {slot : Nat} {record : Record} (found : records[slot]? = some record) :
    sentAt mode records (12 * slot) ++ recordPacket (UInt8.ofNat slot) record =
      sentAt mode records (1 + 12 * slot) := by
  obtain ⟨inside, rfl⟩ := List.getElem?_eq_some_iff.1 found
  have length : (records.take slot).length = slot := by
    rw [List.length_take]
    omega
  rw [sentAt, sentAt, show (12 * slot + 11) / 12 = slot by omega,
    show (1 + 12 * slot + 11) / 12 = slot + 1 by omega, packets, packets,
    ← List.take_append_getElem inside, List.zipIdx_append, List.flatMap_append, length]
  simp [recordPacket_eq]

/-- Writing a record into a slot. -/
theorem ends_writeRecord (positive : ∀ size ∈ chunk, 1 ≤ size) {slot : Nat} {record : Record}
    (found : records[slot]? = some record) (inside : 1 + 12 * slot ≤ replies.length) :
    Ends mode records replies chunk (1 + 12 * slot) (1 + 12 * (slot + 1))
      ((boardAt replies chunk (1 + 12 * slot) (sentAt mode records (12 * slot))).run
        (writeRecord (UInt8.ofNat slot) record)) := by
  have demanded (offset : Nat) (inSlot : offset < 12) := demand?_slot mode slot inSlot
  have sent (offset offset' : Nat) (inSlot : offset < 12) (inSlot' : offset' < 12) :
      sentAt mode records (1 + 12 * slot + offset) =
        sentAt mode records (1 + 12 * slot + offset') := by
    rw [sentAt_slot mode records slot inSlot, sentAt_slot mode records slot inSlot']
  have behind : 1 + 12 * (slot + 1) = 1 + 12 * slot + 2 + Record.byteCount + 1 := by
    show 1 + 12 * (slot + 1) = 1 + 12 * slot + 2 + 9 + 1
    omega
  rw [writeRecord_eq, run_bind, send_run, sentAt_succ found]
  simp only
  rw [run_bind, flush_run, behind]
  -- The acknowledgement, the slot, the nine bytes of the record, and the completion.
  refine Ends.bind (by omega) (by omega)
    (ends_expect positive inside (demanded 0 (by decide)) rfl) fun inside => ?_
  refine Ends.bind (by omega) (by omega)
    (ends_expect positive inside (demanded 1 (by decide)) (sent 0 1 (by decide) (by decide)))
    fun inside => ?_
  refine Ends.bind (by omega) (by omega)
    (ends_compareEcho positive (UInt8.ofNat slot) record inside ?_ ?_) fun inside => ?_
  · intro offset inRecord
    have before : 2 + offset < 11 := Nat.add_lt_add_left inRecord 2
    have middle := demanded (2 + offset) (Nat.lt_succ_of_lt before)
    rw [slotDemand_echo _ (Nat.le_add_right 2 offset) before, ← Nat.add_assoc] at middle
    exact middle
  · intro offset inRecord
    have before : 2 + offset < 11 := Nat.add_lt_add_left inRecord 2
    have same := sent 1 (2 + offset) (by decide) (Nat.lt_succ_of_lt before)
    rw [← Nat.add_assoc] at same
    exact same
  · exact ends_expect positive inside (demanded 11 (by decide)) (sent 10 11 (by decide) (by decide))

/-- Writing records into all slots from a given one on. -/
theorem ends_writeRecords (positive : ∀ size ∈ chunk, 1 ≤ size) {slot : Nat} {later : List Record}
    (rest : records.drop slot = later) (begun : slot ≤ records.length)
    (inside : 1 + 12 * slot ≤ replies.length) :
    Ends mode records replies chunk (1 + 12 * slot) (1 + 12 * records.length)
      ((boardAt replies chunk (1 + 12 * slot) (sentAt mode records (12 * slot))).run
        (writeRecords slot later)) := by
  induction later generalizing slot with
  | nil =>
      have ended : slot = records.length :=
        Nat.le_antisymm begun (List.drop_eq_nil_iff.1 rest)
      subst ended
      have confirmed : Ends mode records replies chunk _ _ _ :=
        .confirmed inside fun place reached before =>
          absurd (Nat.lt_of_le_of_lt reached before) (Nat.lt_irrefl _)
      rw [Nat.add_sub_cancel_left] at confirmed
      exact confirmed
  | cons record later ih =>
      have found : records[slot]? = some record := by
        rw [← List.head?_drop, rest, List.head?_cons]
      have rest' : records.drop (slot + 1) = later := by
        rw [← List.tail_drop, rest, List.tail_cons]
      have begun' : slot + 1 ≤ records.length := (List.getElem?_eq_some_iff.1 found).1
      refine Ends.bind (by omega) (by omega) (ends_writeRecord positive found inside)
        fun inside => ?_
      rw [show 1 + 12 * (slot + 1) - 1 = 12 * (slot + 1) by omega]
      exact ih rest' begun' inside

/-- An upload of records that fit into the memory. -/
theorem ends_uploadTo (positive : ∀ size ∈ chunk, 1 ≤ size)
    (fits : records.length ≤ Board.slotCount) :
    Ends mode records replies chunk 0 (1 + 12 * records.length)
      (uploadTo mode records replies chunk) := by
  have only : modePacket mode = sentAt mode records 0 := rfl
  have sets : Ends mode records replies chunk 0 1
      ((boardAt replies chunk 0 []).run (setMode mode)) := by
    rw [setMode_eq, run_bind, send_run]
    simp only
    rw [run_bind, flush_run]
    exact ends_expect positive (Nat.zero_le _) rfl only
  rw [uploadTo, upload, if_neg (Nat.not_lt.2 fits)]
  exact Ends.bind (Nat.zero_le 1) (by omega) sets fun inside =>
    ends_writeRecords positive rfl (Nat.zero_le _) inside

/-! ## How an upload ends -/

theorem fits_slot_iff (slot : Nat) {offset : Nat} {demand : Demand} (inSlot : offset < 12)
    (demanded : slotDemand (UInt8.ofNat slot) offset = some demand) :
    Fits mode replies (offset + 1 + 12 * slot) ↔
      replies[offset + 1 + 12 * slot]? = some demand.byte := by
  rw [show offset + 1 + 12 * slot = 1 + 12 * slot + offset by omega]
  exact fits_iff ((demand?_slot mode slot inSlot).trans demanded)

/-- A board confirms all records if all its replies fit. -/
theorem confirms_iff (mode : UInt8) (count : Nat) (replies : List UInt8) :
    Confirms mode count replies ↔ ∀ place < 1 + 12 * count, Fits mode replies place := by
  have modeDemand : demand? mode 0 = some ⟨mode, .modeEcho mode⟩ := rfl
  have acknowledge (slot : UInt8) :
      slotDemand slot 0 = some ⟨0x6F, .notAcknowledged slot⟩ := rfl
  have echo (slot : UInt8) : slotDemand slot 1 = some ⟨slot, .slotEcho slot⟩ := rfl
  have complete (slot : UInt8) : slotDemand slot 11 = some ⟨0x64, .notDone slot⟩ := rfl
  constructor
  · intro confirms place inside
    rcases Nat.eq_zero_or_pos place with rfl | behind
    · exact (fits_iff modeDemand).2 confirms.mode
    obtain ⟨slot, offset, inSlot, rfl⟩ : ∃ slot offset, offset < 12 ∧
        place = offset + 1 + 12 * slot :=
      ⟨(place - 1) / 12, (place - 1) % 12, Nat.mod_lt _ (by decide), by omega⟩
    have among : slot < count := by omega
    by_cases free : 2 ≤ offset ∧ offset < 11
    · have demanded := (demand?_slot mode slot inSlot).trans
        (slotDemand_echo (UInt8.ofNat slot) free.1 free.2)
      rw [show 1 + 12 * slot + offset = offset + 1 + 12 * slot by omega] at demanded
      obtain ⟨present, -⟩ := List.getElem?_eq_some_iff.1 (confirms.completed slot among)
      exact (fits_iff_of_free demanded).2 (by omega)
    · obtain rfl | rfl | rfl : offset = 0 ∨ offset = 1 ∨ offset = 11 := by omega
      · exact (fits_slot_iff slot inSlot (acknowledge _)).2 (confirms.acknowledged slot among)
      · exact (fits_slot_iff slot inSlot (echo _)).2 (confirms.echoed slot among)
      · exact (fits_slot_iff slot inSlot (complete _)).2 (confirms.completed slot among)
  · intro fits
    refine ⟨(fits_iff modeDemand).1 (fits 0 (by omega)), fun slot among => ?_,
      fun slot among => ?_, fun slot among => ?_⟩
    · exact (fits_slot_iff slot (by decide) (acknowledge _)).1 (fits _ (by omega))
    · exact (fits_slot_iff slot (by decide) (echo _)).1 (fits _ (by omega))
    · exact (fits_slot_iff slot (by decide) (complete _)).1 (fits _ (by omega))

/-- The pieces in which replies arrive make no difference. -/
theorem Ends.unique {first last : Nat} {other : Option Nat}
    {one two : Except Error Unit × ScriptedBoard}
    (ends : Ends mode records replies chunk first last one)
    (ends' : Ends mode records replies other first last two) :
    two = (one.1, { one.2 with readChunk := other }) := by
  cases ends with
  | confirmed present fits =>
      cases ends' with
      | confirmed => rfl
      | refused place reached inside before unfit => exact absurd (fits place reached inside) unfit
  | refused place reached inside before unfit =>
      cases ends' with
      | confirmed present fits => exact absurd (fits place reached inside) unfit
      | refused place' reached' inside' before' unfit' =>
          rcases Nat.lt_trichotomy place place' with earlier | rfl | later
          · exact absurd (before' place reached earlier) unfit
          · rfl
          · exact absurd (before place' reached' later) unfit'

/-- What is known of an upload when it ends. -/
theorem Ends.outcome {result : Except Error Unit} {board : ScriptedBoard}
    (ends : Ends mode records replies chunk 0 (1 + 12 * records.length) (result, board)) :
    Outcome mode records replies result board := by
  cases ends with
  | confirmed present fits =>
      refine ⟨iff_of_true rfl ?_, fun _ => ⟨?_, rfl⟩, fun error failed => by cases failed⟩
      · exact (confirms_iff ..).2 fun place inside => fits place (Nat.zero_le _) inside
      · show sentAt mode records (1 + 12 * records.length - 1) = _
        rw [sentAt, show (1 + 12 * records.length - 1 + 11) / 12 = records.length by omega,
          List.take_length]
  | refused place reached inside fits unfit =>
      refine ⟨iff_of_false (nomatch ·) fun confirms =>
        unfit ((confirms_iff ..).1 confirms place inside), (nomatch ·), fun error failed => ?_⟩
      cases failed
      refine ⟨place, inside, fun earlier before => fits earlier (Nat.zero_le _) before, unfit,
        ?_, ?_, ?_, ?_⟩
      · rintro rfl
        rfl
      · intro slot begun within
        obtain ⟨offset, rfl⟩ := Nat.exists_eq_add_of_le begun
        exact sentAt_slot mode records slot (by omega)
      · intro missing
        have ended := List.getElem?_eq_none_iff.1 missing
        exact ⟨errorAt_missing missing, Nat.min_eq_right (Nat.le_succ_of_le ended)⟩
      · intro byte found
        obtain ⟨present, -⟩ := List.getElem?_eq_some_iff.1 found
        refine ⟨Nat.min_eq_left present, ?_⟩
        cases demanded : demand? mode place with
        | none => exact absurd ((fits_iff_of_free demanded).2 present) unfit
        | some demand => exact ⟨demand, rfl, errorAt_wrong found demanded⟩

end

/-- **How an upload ends.** Records for which the memory has no room are refused before anything is
sent or received. Otherwise the upload succeeds exactly if the board confirms every record, and else
it fails at the first reply that is missing or wrong. It makes no difference in which pieces the
replies arrive. -/
theorem upload_outcome (mode : UInt8) (records : List Record) (replies : List UInt8)
    {chunk : Option Nat} (positive : ∀ size ∈ chunk, 1 ≤ size) :
    (256 < records.length → uploadTo mode records replies chunk =
      (.error (.tooManyRecords records.length), { replies, readChunk := chunk })) ∧
    (records.length ≤ 256 → Outcome mode records replies
      (uploadTo mode records replies chunk).1 (uploadTo mode records replies chunk).2) ∧
    ∀ other : Option Nat, (∀ size ∈ other, 1 ≤ size) → uploadTo mode records replies other =
      ((uploadTo mode records replies chunk).1,
        { (uploadTo mode records replies chunk).2 with readChunk := other }) := by
  have refused (chunk : Option Nat) (many : 256 < records.length) :
      uploadTo mode records replies chunk =
        (.error (.tooManyRecords records.length), { replies, readChunk := chunk }) := by
    rw [uploadTo, upload, if_pos many]
    rfl
  refine ⟨refused chunk, fun fits => (ends_uploadTo positive fits).outcome,
    fun other positive' => ?_⟩
  rcases Nat.lt_or_ge 256 records.length with many | fits
  · rw [refused chunk many, refused other many]
  · exact (ends_uploadTo positive fits).unique (ends_uploadTo positive' fits)

/-- Replies that confirm mode 3 and slot 0, but then slot 7 in place of slot 1. -/
def wrongSlotReplies : List UInt8 :=
  [3, 0x6F, 0] ++ List.replicate 9 0xFF ++ [0x64, 0x6F, 7]

theorem upload_outcome_wrongSlotReplies :
    (∀ size ∈ some 4, 1 ≤ size) ∧
      Outcome 3 [⟨5⟩, ⟨6⟩] wrongSlotReplies (uploadTo 3 [⟨5⟩, ⟨6⟩] wrongSlotReplies (some 4)).1
        (uploadTo 3 [⟨5⟩, ⟨6⟩] wrongSlotReplies (some 4)).2 ∧
      (uploadTo 3 [⟨5⟩, ⟨6⟩] wrongSlotReplies (some 4)).1 ≠ .ok () ∧
      (uploadTo 3 [⟨5⟩, ⟨6⟩] wrongSlotReplies (some 4)).2.sent =
        [0x6D, 3, 0x77, 0, 0, 0, 0, 0, 0, 0, 0, 0, 5, 0x77, 1, 0, 0, 0, 0, 0, 0, 0, 0, 6] := by
  have positive : ∀ size ∈ some 4, 1 ≤ size := by decide
  have outcome := (upload_outcome 3 [⟨5⟩, ⟨6⟩] wrongSlotReplies positive).2.1 (by decide)
  refine ⟨positive, outcome, fun success => ?_, by decide +kernel⟩
  have echoed := (outcome.succeeds_iff.1 success).echoed 1 (by decide)
  exact absurd echoed (by decide)

end TreeBoard.Link
