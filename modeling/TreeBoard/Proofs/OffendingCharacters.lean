import Mathlib.Data.List.Induction
import Mathlib.Data.Nat.Find
import Mathlib.Order.Bounds.Basic
import TreeBoard.Proofs.Gathering

/-!
# Offending characters

A line of levels is refused for the first character that offends: one that is no digit, or one that
stands where the frame is complete. A refused line leaves what it holds before that character, which
may be a complete frame, so the characters that offend are told for every partial frame that calls
can leave behind, whatever these calls returned.

Results:
1. `valid_before`, `pushChars_of_first`, what stands before the first character that offends.
2. `effect_of_call`, `held_after`, what each call does, and what holds between two calls.
3. `push_diagnosed`, when a line of levels is refused, for which character and how, and when it
   completes a frame.
-/

namespace TreeBoard.Script

/-! ## Definitions -/

/-- Number of digits from 0 to 7 in a text. -/
def digitCount (text : List Char) : Nat :=
  text.countP fun c => '0' ≤ c && c ≤ '7'

/-- The character at a place of a line offends: it is not blank, and the waiting levels and the
digits before it already make a frame, or it is no digit from 0 to 7. -/
def Offends (waiting : Nat) (text : List Char) (place : Nat) : Prop :=
  ∃ c, text[place]? = some c ∧ Text.isBlank c = false ∧
    (waiting + digitCount (text.take place) = Board.ledCount ∨ ¬ ('0' ≤ c ∧ c ≤ '7'))

/-- The error for the character at a place. That a frame is complete is reported before a wrong
character. -/
def faultAt (waiting line : Nat) (text : List Char) (place : Nat) (c : Char) : Error :=
  if waiting + digitCount (text.take place) = Board.ledCount then .frameOverflow line (place + 1)
  else .invalidDigit line (place + 1) c

/-- A use of a partial frame: a line of levels, a blank line, or the end of a script. -/
inductive Call where
  | push (line : Nat) (text : String)
  | boundary (line : Nat)
  | finish (lastLine : Nat)
deriving DecidableEq, Repr

namespace PartialFrame

/-- What a call leaves behind, and what it returns. -/
def call (gathered : PartialFrame) : Call → PartialFrame × Except Error (Option Frame)
  | .push line text => gathered.push line text
  | .boundary line => gathered.boundary line
  | .finish lastLine => (gathered, (gathered.finish lastLine).map fun _ => none)

/-- What calls leave behind, whatever they return. -/
def after (calls : List Call) : PartialFrame :=
  calls.foldl (fun gathered call => (gathered.call call).1) {}

/-- What waits between two calls. A line with too many levels leaves a complete frame. -/
structure Held (gathered : PartialFrame) : Prop where
  room : gathered.size ≤ Board.ledCount
  low : ∀ level ∈ gathered.pending, level ≤ Board.fullLevel

/-- The end of a line hands the frame over if it is complete. -/
inductive Released (gathered : PartialFrame) : PartialFrame → Option Frame → Prop
  | waits (short : gathered.size < Board.ledCount) : Released gathered gathered none
  | frame {frame : Frame} (full : gathered.size = Board.ledCount)
      (levels : frame.levels.toList = gathered.pending)
      (line : frame.line = gathered.startLine) :
      Released gathered { gathered with pending := [] } (some frame)

/-- What a call does: it collects levels and hands a frame over, or it is refused. -/
inductive Effect (gathered : PartialFrame) :
    Call → PartialFrame → Except Error (Option Frame) → Prop
  | line {line : Nat} {text : String} {next : PartialFrame} {sealed : Option Frame}
      (clean : ∀ place, ¬ Offends gathered.size text.toList place)
      (released : Released (gathered.collect line (levelsOf text)) next sealed) :
      Effect gathered (.push line text) next (.ok sealed)
  | refused {line : Nat} {text : String} {place : Nat} {c : Char}
      (first : IsLeast {place | Offends gathered.size text.toList place} place)
      (character : text.toList[place]? = some c) :
      Effect gathered (.push line text)
        ((gathered.collect line (digitLevels (text.toList.take place))).opened line)
        (.error (faultAt gathered.size line text.toList place c))
  | boundary {line : Nat} {next : PartialFrame} {sealed : Option Frame}
      (released : Released gathered next sealed) :
      Effect gathered (.boundary line) next (.ok sealed)
  | interrupted {line : Nat} :
      Effect gathered (.boundary line) gathered
        (.error (.incompleteFrame gathered.startLine line gathered.size))
  | ended {line : Nat} (empty : gathered.isEmpty = true) :
      Effect gathered (.finish line) gathered (.ok none)
  | unfinished {line : Nat} :
      Effect gathered (.finish line) gathered
        (.error (.incompleteFrame gathered.startLine line gathered.size))

/-- The answer to a line of levels tells the first character that offends. -/
structure Diagnosed (waiting line : Nat) (text : List Char)
    (answer : Except Error (Option Frame)) : Prop where
  fails : (∃ error, answer = .error error) ↔ ∃ place, Offends waiting text place
  points : ∀ place, IsLeast {place | Offends waiting text place} place →
    ∃ c, text[place]? = some c ∧ answer = .error (faultAt waiting line text place c)
  completes : (∀ place, ¬ Offends waiting text place) →
    ∃ sealed, answer = .ok sealed ∧
      (sealed.isSome = true ↔ waiting + digitCount text = Board.ledCount)

/-! ## The first character that offends -/

theorem length_digitLevels (text : List Char) : (digitLevels text).length = digitCount text := by
  rw [digitLevels, List.length_filterMap_eq_countP, digitCount]
  refine List.countP_congr fun c _ => ?_
  simp

/-- Before the first character that offends stand blanks and digits for which there is room. -/
theorem valid_before {waiting : Nat} {text : List Char} (room : waiting ≤ Board.ledCount)
    {place : Nat} (inside : place ≤ text.length)
    (before : ∀ earlier < place, ¬ Offends waiting text earlier) :
    Valid (text.take place) ∧ waiting + digitCount (text.take place) ≤ Board.ledCount := by
  induction place with
  | zero => exact ⟨List.forall_mem_nil _, room⟩
  | succ place ih =>
      obtain ⟨valid, fits⟩ := ih (Nat.le_of_succ_le inside) fun earlier less =>
        before earlier (Nat.lt_succ_of_lt less)
      have harmless := before place (Nat.lt_succ_self place)
      obtain ⟨c, found⟩ : ∃ c, text[place]? = some c := ⟨_, List.getElem?_eq_getElem inside⟩
      rw [List.take_add_one, found, Option.toList_some, digitCount, List.countP_append,
        ← digitCount]
      by_cases digit : '0' ≤ c ∧ c ≤ '7'
      · have notFull : waiting + digitCount (text.take place) ≠ Board.ledCount := fun full =>
          harmless ⟨c, found, isBlank_of_digit digit, .inl full⟩
        refine ⟨List.forall_mem_append.2 ⟨valid, List.forall_mem_singleton.2 (.inr digit)⟩, ?_⟩
        rw [List.countP_singleton]
        split <;> omega
      · have blank : Text.isBlank c = true := by
          by_contra visible
          exact harmless ⟨c, found, Bool.not_eq_true _ ▸ visible, .inr digit⟩
        refine ⟨List.forall_mem_append.2 ⟨valid, List.forall_mem_singleton.2 (.inl blank)⟩, ?_⟩
        rw [List.countP_singleton, if_neg (by simpa using digit)]
        exact fits

theorem exists_first {waiting : Nat} {text : List Char}
    (some : ∃ place, Offends waiting text place) :
    ∃ place, IsLeast {place | Offends waiting text place} place := by
  classical
  exact ⟨Nat.find some, Nat.find_spec some, fun _ => Nat.find_min' some⟩

/-- A line is read up to the first character that offends. -/
theorem pushChars_of_first {gathered : PartialFrame} (room : gathered.size ≤ Board.ledCount)
    (line : Nat) {text : List Char} {place : Nat} {c : Char}
    (first : IsLeast {place | Offends gathered.size text place} place)
    (character : text[place]? = some c) :
    gathered.pushChars line 1 text =
      ((gathered.collect line (digitLevels (text.take place))).opened line,
        .error (faultAt gathered.size line text place c)) := by
  obtain ⟨⟨d, found, visible, wrong⟩, least⟩ := first
  rw [character, Option.some.injEq] at found
  subst found
  obtain ⟨inside, is⟩ := List.getElem?_eq_some_iff.1 character
  obtain ⟨valid, fits⟩ := valid_before room (Nat.le_of_lt inside) fun earlier less offends =>
    Nat.not_le.2 less (least offends)
  rw [← length_digitLevels] at fits
  have whole : text = text.take place ++ c :: text.drop (place + 1) := by
    rw [← is, ← List.drop_eq_getElem_cons, List.take_append_drop]
  conv => lhs; rw [whole]
  rw [pushChars_front line 1 valid fits, pushChars, if_neg (by rw [visible]; decide),
    pushChar_eq, size_collect, length_digitLevels,
    List.length_take_of_le (Nat.le_of_lt inside), Nat.add_comm 1]
  unfold faultAt
  by_cases full : gathered.size + digitCount (text.take place) = Board.ledCount
  · rw [if_pos full, if_pos full]
  · have noLevel : level? c = none := by
      rw [← Option.not_isSome_iff_eq_none, level?_isSome_iff]
      exact wrong.resolve_left full
    rw [if_neg full, if_neg full, noLevel]

/-! ## Calls -/

theorem exists_released {gathered : PartialFrame} (held : gathered.Held) :
    ∃ next sealed, gathered.release = (next, .ok sealed) ∧ gathered.Released next sealed := by
  rcases Nat.lt_or_eq_of_le held.room with short | full
  · exact ⟨gathered, none, release_short short, .waits short⟩
  · obtain ⟨frame, levels, line, released⟩ := release_full full held.low
    exact ⟨_, some frame, released, .frame full levels line⟩

theorem held_collect {gathered : PartialFrame} (held : gathered.Held) (line : Nat)
    {text : List Char} {place : Nat} (inside : place ≤ text.length)
    (before : ∀ earlier < place, ¬ Offends gathered.size text earlier) :
    (gathered.collect line (digitLevels (text.take place))).Held where
  room := by
    rw [size_collect, length_digitLevels]
    exact (valid_before held.room inside before).2
  low := low_collect held.low line _

/-- What each call does. -/
theorem effect_of_call {gathered : PartialFrame} (held : gathered.Held) (call : Call) :
    gathered.Effect call (gathered.call call).1 (gathered.call call).2 := by
  cases call with
  | push line text =>
      by_cases some : ∃ place, Offends gathered.size text.toList place
      · obtain ⟨place, first⟩ := exists_first some
        obtain ⟨c, character, -⟩ := first.1
        have refused := pushChars_of_first held.room line first character
        rw [PartialFrame.call, push, refused]
        exact .refused first character
      · have clean := not_exists.1 some
        obtain ⟨valid, fits⟩ := valid_before held.room (Nat.le_refl _) fun place _ => clean place
        have whole := held_collect held line (Nat.le_refl text.toList.length) fun place _ =>
          clean place
        rw [List.take_length] at valid fits whole
        obtain ⟨next, sealed, release, released⟩ := exists_released whole
        rw [← length_digitLevels] at fits
        rw [PartialFrame.call, push, pushChars_of_valid line 1 valid fits]
        simp only [release]
        exact .line clean released
  | boundary line =>
      unfold PartialFrame.call boundary
      simp only
      split
      · obtain ⟨next, sealed, release, released⟩ := exists_released held
        rw [release]
        exact .boundary released
      · exact .interrupted
  | finish lastLine =>
      unfold PartialFrame.call finish
      simp only
      split
      · rename_i empty
        exact .ended empty
      · exact .unfinished

theorem Released.held {gathered next : PartialFrame} {sealed : Option Frame}
    (released : gathered.Released next sealed) (held : gathered.Held) : next.Held := by
  cases released with
  | waits short => exact held
  | frame full levels line => exact ⟨Nat.zero_le _, List.forall_mem_nil _⟩

theorem opened_pending (gathered : PartialFrame) (line : Nat) :
    (gathered.opened line).pending = gathered.pending := by
  unfold opened
  split <;> rfl

theorem Effect.held {gathered next : PartialFrame} {call : Call}
    {answer : Except Error (Option Frame)} (effect : gathered.Effect call next answer)
    (held : gathered.Held) : next.Held := by
  cases effect with
  | @line line text _ _ clean released =>
      have whole := held_collect held line (Nat.le_refl text.toList.length) fun place _ =>
        clean place
      rw [List.take_length] at whole
      exact released.held whole
  | @refused line text place c first character =>
      have inside := Nat.le_of_lt (List.getElem?_eq_some_iff.1 character).1
      have begun := held_collect held line inside fun earlier less offends =>
        Nat.not_le.2 less (first.2 offends)
      refine ⟨?_, ?_⟩
      · rw [size, opened_pending]
        exact begun.room
      · rw [opened_pending]
        exact begun.low
  | boundary released => exact released.held held
  | _ => exact held

theorem after_concat (calls : List Call) (last : Call) :
    after (calls ++ [last]) = ((after calls).call last).1 :=
  List.foldl_append

theorem held_after (calls : List Call) : (after calls).Held := by
  induction calls using List.reverseRecOn with
  | nil => exact ⟨Nat.zero_le _, List.forall_mem_nil _⟩
  | append_singleton calls call ih =>
      rw [after_concat]
      exact (effect_of_call ih call).held ih

/-! ## Lines of levels -/

/-- **A line of levels is refused for the first character that offends.** The error tells the column
of this character, with the blanks before it counted. It is reported as one too many if the frame was
complete there, and as a wrong digit otherwise. A line in which no character offends is read, and
completes a frame exactly if the waiting levels and its digits are as many as a frame has. -/
theorem push_diagnosed (calls : List Call) (line : Nat) (text : String) :
    Diagnosed (after calls).size line text.toList ((after calls).push line text).2 := by
  have effect := effect_of_call (held_after calls) (.push line text)
  rw [PartialFrame.call] at effect
  generalize (after calls).push line text = result at effect
  obtain ⟨next, answer⟩ := result
  cases effect with
  | line clean released =>
      refine ⟨iff_of_false nofun (not_exists.2 clean), ?_, fun _ => ⟨_, rfl, ?_⟩⟩
      · exact fun place first => absurd first.1 (clean place)
      · have count : ((after calls).collect line (levelsOf text)).size =
            (after calls).size + digitCount text.toList := by
          rw [size_collect, levelsOf, length_digitLevels]
        rw [← count]
        cases released with
        | waits short => exact iff_of_false nofun (Nat.ne_of_lt short)
        | frame full levels line => exact iff_of_true rfl full
  | @refused _ _ place c first character =>
      refine ⟨iff_of_true ⟨_, rfl⟩ ⟨place, first.1⟩, ?_, fun clean => absurd first.1 (clean place)⟩
      intro other least
      rw [least.unique first]
      exact ⟨c, character, rfl⟩

-- Columns count blanks too, and no character fits behind a complete frame.
example : ((after [.push 1 "0000 0000 0000 0000 0000 0000 0"]).push 2 "\u3000x").2 =
    .error (.frameOverflow 2 2) := by decide

end PartialFrame

end TreeBoard.Script
