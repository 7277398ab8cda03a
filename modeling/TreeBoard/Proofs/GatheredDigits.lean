import Mathlib.Data.List.Forall2
import TreeBoard.Proofs.OffendingCharacters

/-!
# Gathered digits

A partial frame loses, invents and reorders no digit, whatever calls are made and whatever they
return. The digits that were accepted so far are those of the frames that were handed over and,
behind them, those that wait. What a call accepts is told from outside: all digits of a line, or those
before the character that an error points at.

Results:
1. `Accounted.collect`, `Accounted.opened`, `Accounted.released`, the parts of a call keep account.
2. `Accounted.effect`, `accounted_after`, a call does, and so do calls after each other.
3. `digits_kept`, what is true after any calls, and of any call after them.
-/

namespace TreeBoard

/-- The column that an error points at, if it points at one. -/
def Error.column? : Error → Option Nat
  | .frameOverflow _ column => some column
  | .invalidDigit _ column _ => some column
  | _ => none

namespace Script.PartialFrame

/-! ## Definitions -/

/-- The digits that a call accepts, each with the line of the call: those of a whole line of levels,
or those before the character that the error points at. -/
def acceptedDigits : Call → Except Error (Option Frame) → List (Level × Nat)
  | .push line text, .ok _ => (levelsOf text).map (·, line)
  | .push line text, .error error =>
      (digitLevels (text.toList.take (error.column?.getD 1 - 1))).map (·, line)
  | _, _ => []

/-- The frame that a call hands over. -/
def handedFrame : Except Error (Option Frame) → List Frame
  | .ok sealed => sealed.toList
  | .error _ => []

/-- What calls return, each answer with its call. -/
def replies : PartialFrame → List Call → List (Call × Except Error (Option Frame))
  | _, [] => []
  | gathered, call :: later =>
      (call, (gathered.call call).2) :: replies (gathered.call call).1 later

/-- The digits that calls accept, in their order. -/
def digitsOf (calls : List Call) : List (Level × Nat) :=
  (replies {} calls).flatMap fun reply => acceptedDigits reply.1 reply.2

/-- The frames that calls hand over, in their order. -/
def framesOf (calls : List Call) : List Frame :=
  (replies {} calls).flatMap fun reply => handedFrame reply.2

/-- A frame has these levels, and the line of the first of them. -/
structure IsFrameOf (frame : Frame) (digits : List (Level × Nat)) : Prop where
  levels : frame.levels.toList = digits.map Prod.fst
  line : ∀ first ∈ digits.head?, frame.line = first.2

/-- Digits are those of the frames that were handed over, and those that wait. -/
def Accounted (frames : List Frame) (digits : List (Level × Nat)) (gathered : PartialFrame) :
    Prop :=
  ∃ groups rest, digits = groups.flatten ++ rest ∧ List.Forall₂ IsFrameOf frames groups ∧
    gathered.pending = rest.map Prod.fst ∧ ∀ first ∈ rest.head?, gathered.startLine = first.2

/-- What is true after calls. -/
structure Kept (calls : List Call) : Prop where
  room : (after calls).size ≤ Board.ledCount
  low : ∀ level ∈ (after calls).pending, level ≤ Board.fullLevel
  digits : (framesOf calls).flatMap (·.levels.toList) ++ (after calls).pending =
    (digitsOf calls).map Prod.fst
  lines : ∃ groups, groups.flatten <+: digitsOf calls ∧
    List.Forall₂ IsFrameOf (framesOf calls) groups

/-- What is true of a call. -/
structure KeepsDigits (gathered : PartialFrame) (call : Call) (next : PartialFrame)
    (answer : Except Error (Option Frame)) : Prop where
  short : ∀ sealed, answer = .ok sealed → next.size < Board.ledCount
  inRange : ∀ level, answer ≠ .error (.levelOutOfRange level)
  unchanged : ∀ error, answer = .error error → (∀ line text, call ≠ .push line text) →
    next = gathered
  before : ∀ error line text, answer = .error error → call = .push line text →
    ∃ place, IsLeast {place | Offends gathered.size text.toList place} place ∧
      error.column? = some (place + 1) ∧
      next.pending = gathered.pending ++ digitLevels (text.toList.take place)

/-! ## Parts of a call -/

theorem column?_faultAt (waiting line : Nat) (text : List Char) (place : Nat) (c : Char) :
    (faultAt waiting line text place c).column? = some (place + 1) := by
  unfold faultAt
  split <;> rfl

section

variable {frames : List Frame} {digits : List (Level × Nat)} {gathered next : PartialFrame}
  (accounted : Accounted frames digits gathered)
include accounted

theorem Accounted.collect (line : Nat) (levels : List Level) :
    Accounted frames (digits ++ levels.map (·, line)) (gathered.collect line levels) := by
  obtain ⟨groups, rest, rfl, each, pending, startLine⟩ := accounted
  refine ⟨groups, rest ++ levels.map (·, line), List.append_assoc .., each, ?_, ?_⟩
  · rw [collect_pending, pending, List.map_append, List.map_map]
    exact congrArg _ (List.map_id levels).symm
  · cases levels with
    | nil =>
        rw [List.map_nil, List.append_nil]
        exact startLine
    | cons level others =>
        cases rest with
        | nil =>
            have empty : gathered.isEmpty = true := List.isEmpty_iff.2 pending
            simp [PartialFrame.collect, empty]
        | cons first later =>
            have occupied : gathered.isEmpty = false := by
              rw [isEmpty, pending]
              rfl
            simpa [PartialFrame.collect, occupied] using startLine

theorem Accounted.opened (line : Nat) : Accounted frames digits (gathered.opened line) := by
  obtain ⟨groups, rest, rfl, each, pending, startLine⟩ := accounted
  refine ⟨groups, rest, rfl, each, (opened_pending gathered line).trans pending, ?_⟩
  cases rest with
  | nil => exact fun first member => nomatch member
  | cons first later =>
      have occupied : gathered.isEmpty = false := by
        rw [isEmpty, pending]
        rfl
      rw [PartialFrame.opened, occupied]
      exact startLine

theorem Accounted.released {sealed : Option Frame} (released : gathered.Released next sealed) :
    Accounted (frames ++ sealed.toList) digits next := by
  cases released with
  | waits short =>
      rw [Option.toList_none, List.append_nil]
      exact accounted
  | frame full levels line =>
      obtain ⟨groups, rest, rfl, each, pending, startLine⟩ := accounted
      refine ⟨groups ++ [rest], [], ?_, ?_, rfl, fun first member => nomatch member⟩
      · rw [List.append_nil, List.flatten_concat]
      · refine List.rel_append each (.cons ⟨levels.trans pending, fun first begins => ?_⟩ .nil)
        exact line.trans (startLine first begins)

/-- A call keeps account of the digits. -/
theorem Accounted.effect {call : Call} {answer : Except Error (Option Frame)}
    (effect : gathered.Effect call next answer) :
    Accounted (frames ++ handedFrame answer) (digits ++ acceptedDigits call answer) next := by
  cases effect with
  | line clean released => exact (accounted.collect _ _).released released
  | @refused line text place c first character =>
      have kept := (accounted.collect line (digitLevels (text.toList.take place))).opened line
      rw [acceptedDigits, column?_faultAt]
      simpa [handedFrame] using kept
  | boundary released => simpa [acceptedDigits, handedFrame] using accounted.released released
  | _ => simpa [acceptedDigits, handedFrame] using accounted

end

/-! ## Calls after each other -/

theorem replies_concat (gathered : PartialFrame) (calls : List Call) (last : Call) :
    gathered.replies (calls ++ [last]) = gathered.replies calls ++
      [(last, ((calls.foldl (fun before call => (before.call call).1) gathered).call last).2)] := by
  induction calls generalizing gathered with
  | nil => rfl
  | cons call later ih =>
      rw [List.cons_append, replies, ih, replies, List.cons_append, List.foldl_cons]

theorem accounted_after (calls : List Call) :
    Accounted (framesOf calls) (digitsOf calls) (after calls) := by
  induction calls using List.reverseRecOn with
  | nil => exact ⟨[], [], rfl, .nil, rfl, fun first member => nomatch member⟩
  | append_singleton calls call ih =>
      have effect := effect_of_call (held_after calls) call
      rw [framesOf, digitsOf, replies_concat, List.flatMap_append, List.flatMap_append,
        List.flatMap_singleton, List.flatMap_singleton, after_concat]
      exact ih.effect effect

/-- The levels of frames are those of their digits. -/
theorem flatMap_levels {frames : List Frame} {groups : List (List (Level × Nat))}
    (each : List.Forall₂ IsFrameOf frames groups) :
    frames.flatMap (·.levels.toList) = groups.flatten.map Prod.fst := by
  induction each with
  | nil => rfl
  | cons first others ih =>
      rw [List.flatMap_cons, List.flatten_cons, List.map_append, first.levels, ih]

theorem kept (calls : List Call) : Kept calls := by
  obtain ⟨groups, rest, digits, each, pending, -⟩ := accounted_after calls
  refine ⟨(held_after calls).room, (held_after calls).low, ?_, groups, ⟨rest, digits.symm⟩, each⟩
  rw [flatMap_levels each, pending, digits, List.map_append]

theorem Released.short {gathered next : PartialFrame} {sealed : Option Frame}
    (released : gathered.Released next sealed) : next.size < Board.ledCount := by
  cases released with
  | waits short => exact short
  | frame full levels line => exact Nat.zero_lt_succ 23

theorem keepsDigits_of_ok {gathered next : PartialFrame} {call : Call} {sealed : Option Frame}
    (short : next.size < Board.ledCount) : KeepsDigits gathered call next (.ok sealed) where
  short _ _ := short
  inRange := by rintro level ⟨⟩
  unchanged := by rintro error ⟨⟩
  before := by rintro error line text ⟨⟩

theorem keepsDigits_of_effect {gathered next : PartialFrame} {call : Call}
    {answer : Except Error (Option Frame)} (effect : gathered.Effect call next answer) :
    KeepsDigits gathered call next answer := by
  cases effect with
  | line clean released => exact keepsDigits_of_ok released.short
  | @refused line text place c first character =>
      refine ⟨?_, ?_, ?_, ?_⟩
      · rintro sealed ⟨⟩
      · intro level
        unfold faultAt
        split <;> rintro ⟨⟩
      · intro error _ other
        exact absurd rfl (other line text)
      · rintro _ _ _ ⟨⟩ ⟨⟩
        refine ⟨place, first, column?_faultAt .., ?_⟩
        rw [opened_pending, collect_pending]
  | boundary released => exact keepsDigits_of_ok released.short
  | ended empty =>
      have short : gathered.size < Board.ledCount := by
        rw [size, List.isEmpty_iff.1 empty]
        exact Nat.zero_lt_succ 23
      exact keepsDigits_of_ok short
  | _ =>
      refine ⟨?_, ?_, fun _ _ _ => rfl, ?_⟩
      · rintro sealed ⟨⟩
      · rintro level ⟨⟩
      · rintro error line text _ ⟨⟩

/-- **No digit is lost, invented or moved, whatever calls are made and whatever they return.** The
digits that were accepted are those of the frames that were handed over, each with the line of its
first digit, and those that wait. A further call that succeeds leaves no complete frame behind. One
that fails leaves everything as it was, except that a line of levels leaves its digits before the
character that offends. -/
theorem digits_kept (calls : List Call) :
    Kept calls ∧ ∀ call,
      KeepsDigits (after calls) call ((after calls).call call).1 ((after calls).call call).2 :=
  ⟨kept calls, fun call => keepsDigits_of_effect (effect_of_call (held_after calls) call)⟩

-- A frame that a refused line has completed is handed over by the next blank line.
example : (framesOf [.push 3 "0000 0000 0000 0000 0000 0000 0", .boundary 4]).map Frame.line =
    [3] := by decide

end Script.PartialFrame

end TreeBoard
