import TreeBoard.Script.PartialFrame

/-!
# Gathering the levels of a frame

A line of levels adds its digits to those that wait. It is accepted exactly if it holds nothing but
blanks and digits, and not more digits than the frame still lacks.

Results:
1. `pushChars_of_valid`, `valid_of_pushChars`, when the characters of a line are accepted, and
   what they add to the waiting levels.
2. `push_short`, `push_full`, what a line of levels does between two lines, where a frame is `Open`.
3. `push_error`, the errors of a line of levels.
-/

namespace TreeBoard.Script

/-! ## Definitions -/

/-- The levels that stand among some characters: each digit from 0 to 7 stands for its value. -/
def digitLevels (chars : List Char) : List Level :=
  chars.filterMap fun c =>
    if '0' ≤ c ∧ c ≤ '7' then some (UInt8.ofNat (c.toNat - 48)) else none

/-- The levels that stand in a text. -/
def levelsOf (text : String) : List Level :=
  digitLevels text.toList

theorem digitLevels_append (chars others : List Char) :
    digitLevels (chars ++ others) = digitLevels chars ++ digitLevels others :=
  List.filterMap_append

namespace PartialFrame

/-- Only blanks and digits from 0 to 7 stand in a text. -/
def Valid (chars : List Char) : Prop :=
  ∀ c ∈ chars, Text.isBlank c = true ∨ ('0' ≤ c ∧ c ≤ '7')

/-! ## Characters -/

section

variable {c : Char} (chars : List Char)

theorem digitLevels_cons_of_some {level : Level} (found : level? c = some level) :
    digitLevels (c :: chars) = level :: digitLevels chars :=
  List.filterMap_cons_some found

theorem digitLevels_cons_of_none (none : level? c = none) :
    digitLevels (c :: chars) = digitLevels chars :=
  List.filterMap_cons_none none

end

theorem level?_isSome_iff {c : Char} : (level? c).isSome = true ↔ '0' ≤ c ∧ c ≤ '7' := by
  unfold level?
  split
  · exact iff_of_true rfl (by assumption)
  · exact iff_of_false Bool.false_ne_true (by assumption)

theorem toNat_of_digit {c : Char} (digit : '0' ≤ c ∧ c ≤ '7') : 48 ≤ c.toNat ∧ c.toNat ≤ 55 :=
  ⟨UInt32.le_iff_toNat_le.1 digit.1, UInt32.le_iff_toNat_le.1 digit.2⟩

theorem isBlank_of_digit {c : Char} (digit : '0' ≤ c ∧ c ≤ '7') : Text.isBlank c = false := by
  obtain ⟨low, high⟩ := toNat_of_digit digit
  simp [Text.isBlank]
  omega

theorem level?_of_isBlank {c : Char} (blank : Text.isBlank c = true) : level? c = none := by
  refine if_neg fun digit => ?_
  rw [isBlank_of_digit digit] at blank
  cases blank

/-- The levels of digits are such as an LED accepts. -/
theorem le_of_mem_digitLevels {chars : List Char} {level : Level}
    (member : level ∈ digitLevels chars) : level ≤ Board.fullLevel := by
  obtain ⟨c, -, found⟩ := List.mem_filterMap.1 member
  obtain ⟨digit, same⟩ := Option.ite_none_right_eq_some.1 found
  obtain ⟨low, high⟩ := toNat_of_digit digit
  have value : c.toNat - 48 ≤ 7 := by omega
  rw [← Option.some.inj same, UInt8.le_iff_toNat_le,
    UInt8.toNat_ofNat_of_lt' (Nat.lt_of_le_of_lt value (by decide))]
  exact value

/-! ## Lines of levels -/

/-- The partial frame with more levels, which stand on the given line. -/
def collect (gathered : PartialFrame) (line : Nat) (levels : List Level) : PartialFrame :=
  if levels.isEmpty then gathered
  else
    { pending := gathered.pending ++ levels
      startLine := if gathered.isEmpty then line else gathered.startLine }

theorem collect_pending (gathered : PartialFrame) (line : Nat) (levels : List Level) :
    (gathered.collect line levels).pending = gathered.pending ++ levels := by
  unfold collect
  cases levels <;> simp

theorem size_collect (gathered : PartialFrame) (line : Nat) (levels : List Level) :
    (gathered.collect line levels).size = gathered.size + levels.length := by
  unfold size
  rw [collect_pending, List.length_append]

theorem collect_cons (gathered : PartialFrame) (line : Nat) (level : Level) (levels : List Level) :
    (gathered.collect line [level]).collect line levels =
      gathered.collect line (level :: levels) := by
  cases levels with
  | nil => rfl
  | cons next others =>
      unfold collect
      cases gathered.pending <;> simp [isEmpty]

/-- The partial frame as the first character on the given line finds it. -/
def opened (gathered : PartialFrame) (line : Nat) : PartialFrame :=
  if gathered.isEmpty then { gathered with startLine := line } else gathered

/-- A character overflows the frame, is collected, or is no digit. -/
theorem pushChar_eq (gathered : PartialFrame) (line column : Nat) (c : Char) :
    gathered.pushChar line column c =
      if gathered.size = Board.ledCount then
        (gathered.opened line, .error (.frameOverflow line column))
      else
        match level? c with
        | some level => (gathered.collect line [level], .ok ())
        | none => (gathered.opened line, .error (.invalidDigit line column c)) := by
  have size : (gathered.opened line).size = gathered.size := by
    unfold opened
    split <;> rfl
  have collected (level : Level) : gathered.collect line [level] =
      { gathered.opened line with pending := (gathered.opened line).pending ++ [level] } := by
    unfold collect opened
    cases gathered.isEmpty <;> rfl
  rw [← size]
  simp only [collected]
  rfl

/-- Blanks and digits for which there is room are collected before what follows them. -/
theorem pushChars_front {gathered : PartialFrame} (line column : Nat) {front : List Char}
    (valid : Valid front)
    (room : gathered.size + (digitLevels front).length ≤ Board.ledCount) (rest : List Char) :
    gathered.pushChars line column (front ++ rest) =
      (gathered.collect line (digitLevels front)).pushChars line (column + front.length)
        rest := by
  induction front generalizing gathered column with
  | nil => rfl
  | cons c later ih =>
      have others : Valid later := fun d member => valid d (List.mem_cons_of_mem c member)
      rw [List.cons_append, pushChars, List.length_cons, Nat.add_comm later.length,
        ← Nat.add_assoc]
      rcases valid c List.mem_cons_self with blank | digit
      · rw [digitLevels_cons_of_none later (level?_of_isBlank blank)] at room ⊢
        rw [if_pos blank]
        exact ih _ others room
      · obtain ⟨level, found⟩ := Option.isSome_iff_exists.1 (level?_isSome_iff.2 digit)
        rw [digitLevels_cons_of_some later found] at room ⊢
        rw [if_neg (by rw [isBlank_of_digit digit]; decide)]
        simp only [List.length_cons] at room
        rw [pushChar_eq, if_neg (by omega), found]
        simp only
        rw [ih (column + 1) others, collect_cons]
        unfold size at room ⊢
        rw [collect_pending, List.length_append, List.length_singleton]
        omega

/-- Blanks and digits for which there is room are collected. -/
theorem pushChars_of_valid {gathered : PartialFrame} (line column : Nat) {chars : List Char}
    (valid : Valid chars)
    (room : gathered.size + (digitLevels chars).length ≤ Board.ledCount) :
    gathered.pushChars line column chars =
      (gathered.collect line (digitLevels chars), .ok ()) := by
  have whole := pushChars_front line column valid room []
  rwa [List.append_nil] at whole

/-- What is accepted are blanks and digits for which there is room. -/
theorem valid_of_pushChars {gathered next : PartialFrame} {line column : Nat} {chars : List Char}
    (room : gathered.size ≤ Board.ledCount)
    (accepted : gathered.pushChars line column chars = (next, .ok ())) :
    Valid chars ∧ gathered.size + (digitLevels chars).length ≤ Board.ledCount := by
  -- Each digit takes the place of one level, so the room shrinks along the characters.
  induction chars generalizing gathered column with
  | nil => exact ⟨List.forall_mem_nil _, room⟩
  | cons c later ih =>
      unfold pushChars at accepted
      split at accepted
      · rename_i blank
        obtain ⟨valid, fits⟩ := ih room accepted
        rw [digitLevels_cons_of_none later (level?_of_isBlank blank)]
        exact ⟨List.forall_mem_cons.2 ⟨.inl blank, valid⟩, fits⟩
      · rw [pushChar_eq] at accepted
        by_cases full : gathered.size = Board.ledCount
        · rw [if_pos full] at accepted
          cases accepted
        · rw [if_neg full] at accepted
          cases digit : level? c with
          | none =>
              rw [digit] at accepted
              cases accepted
          | some level =>
              rw [digit] at accepted
              have size := size_collect gathered line [level]
              rw [List.length_singleton] at size
              obtain ⟨valid, fits⟩ := ih (by omega) accepted
              rw [digitLevels_cons_of_some later digit, List.length_cons]
              have inside := level?_isSome_iff.1 (Option.isSome_of_eq_some digit)
              exact ⟨List.forall_mem_cons.2 ⟨.inr inside, valid⟩, by omega⟩

/-- What is refused is one level too many, or a character that is none. -/
theorem pushChars_error {gathered next : PartialFrame} {line column : Nat} {chars : List Char}
    {error : Error} (failed : gathered.pushChars line column chars = (next, .error error)) :
    ∃ place, error = .frameOverflow line place ∨ ∃ c, error = .invalidDigit line place c := by
  induction chars generalizing gathered column with
  | nil => cases failed
  | cons c later ih =>
      unfold pushChars at failed
      split at failed
      · exact ih failed
      · rw [pushChar_eq] at failed
        by_cases full : gathered.size = Board.ledCount
        · rw [if_pos full] at failed
          cases failed
          exact ⟨column, .inl rfl⟩
        · rw [if_neg full] at failed
          cases digit : level? c with
          | some level =>
              rw [digit] at failed
              exact ih failed
          | none =>
              rw [digit] at failed
              cases failed
              exact ⟨column, .inr ⟨c, rfl⟩⟩

/-! ## Lines that end a frame -/

/-- What waits between two lines: fewer levels than a frame has, and only such as an LED accepts. -/
structure Open (gathered : PartialFrame) : Prop where
  short : gathered.size < Board.ledCount
  low : ∀ level ∈ gathered.pending, level ≤ Board.fullLevel

theorem open_empty (startLine : Nat) : Open ⟨[], startLine⟩ :=
  ⟨Nat.zero_lt_succ 23, List.forall_mem_nil _⟩

theorem release_short {gathered : PartialFrame} (short : gathered.size < Board.ledCount) :
    gathered.release = (gathered, .ok none) := by
  exact dif_neg (Nat.ne_of_lt short)

theorem release_full {gathered : PartialFrame} (full : gathered.size = Board.ledCount)
    (low : ∀ level ∈ gathered.pending, level ≤ Board.fullLevel) :
    ∃ frame : Frame, frame.levels.toList = gathered.pending ∧ frame.line = gathered.startLine ∧
      gathered.release = ({ gathered with pending := [] }, .ok (some frame)) := by
  have allLow : gathered.pending.find? (Board.fullLevel < ·) = none := by
    rw [List.find?_eq_none]
    intro level member above
    exact UInt8.not_lt.2 (low level member) (of_decide_eq_true above)
  have complete : gathered.pending.length = Board.ledCount := full
  refine ⟨⟨⟨gathered.pending.toArray, complete⟩, gathered.startLine⟩, rfl, rfl, ?_⟩
  unfold release
  simp only [dif_pos complete, Frame.ofLevels?, Vector.toList_mk, allLow]

theorem low_collect {gathered : PartialFrame}
    (low : ∀ level ∈ gathered.pending, level ≤ Board.fullLevel) (line : Nat) (chars : List Char) :
    ∀ level ∈ (gathered.collect line (digitLevels chars)).pending,
      level ≤ Board.fullLevel := by
  intro level member
  rw [collect_pending, List.mem_append] at member
  exact member.elim (low level) le_of_mem_digitLevels

/-- A line that does not complete the frame. -/
theorem push_short {gathered : PartialFrame} (line : Nat) {text : String}
    (valid : Valid text.toList)
    (short : gathered.size + (levelsOf text).length < Board.ledCount) :
    gathered.push line text = (gathered.collect line (levelsOf text), .ok none) := by
  unfold push
  rw [pushChars_of_valid line 1 valid (Nat.le_of_lt short)]
  exact release_short (by rw [size_collect]; exact short)

/-- A line that completes the frame. -/
theorem push_full {gathered : PartialFrame} (opened : gathered.Open) (line : Nat) {text : String}
    (valid : Valid text.toList)
    (full : gathered.size + (levelsOf text).length = Board.ledCount) :
    ∃ frame : Frame, frame.levels.toList = gathered.pending ++ levelsOf text ∧
      frame.line = (gathered.collect line (levelsOf text)).startLine ∧
      gathered.push line text =
        ({ gathered.collect line (levelsOf text) with pending := [] }, .ok (some frame)) := by
  have complete : (gathered.collect line (levelsOf text)).size = Board.ledCount := by
    rw [size_collect]
    exact full
  obtain ⟨frame, levels, started, released⟩ :=
    release_full complete (low_collect opened.low line text.toList)
  refine ⟨frame, levels.trans (collect_pending ..), started, ?_⟩
  unfold push
  rw [pushChars_of_valid line 1 valid (Nat.le_of_eq full)]
  exact released

/-- A line is accepted only if it holds blanks and digits for which there is room. -/
theorem valid_of_push {gathered next : PartialFrame} (opened : gathered.Open) {line : Nat}
    {text : String} {sealed : Option Frame}
    (accepted : gathered.push line text = (next, .ok sealed)) :
    Valid text.toList ∧ gathered.size + (levelsOf text).length ≤ Board.ledCount := by
  unfold push at accepted
  split at accepted
  · rename_i taken
    exact valid_of_pushChars (Nat.le_of_lt opened.short) taken
  · cases accepted

/-- A line is refused for one of its characters. -/
theorem push_error {gathered next : PartialFrame} (opened : gathered.Open) {line : Nat}
    {text : String} {error : Error} (failed : gathered.push line text = (next, .error error)) :
    ∃ place, error = .frameOverflow line place ∨ ∃ c, error = .invalidDigit line place c := by
  cases taken : gathered.pushChars line 1 text.toList with
  | mk pushed outcome =>
      cases outcome with
      | error refused =>
          unfold push at failed
          rw [taken] at failed
          cases failed
          exact pushChars_error taken
      | ok done =>
          obtain ⟨valid, fits⟩ := valid_of_pushChars (Nat.le_of_lt opened.short) taken
          rcases Nat.lt_or_eq_of_le fits with short | full
          · rw [push_short line valid short] at failed
            cases failed
          · obtain ⟨frame, -, -, completed⟩ := push_full opened line valid full
            rw [completed] at failed
            cases failed

/-- A blank line between two frames changes nothing. -/
theorem boundary_of_isEmpty {gathered : PartialFrame} (empty : gathered.isEmpty = true)
    (line : Nat) : gathered.boundary line = (gathered, .ok none) := by
  unfold boundary
  rw [if_pos (.inl empty)]
  refine release_short ?_
  rw [size, List.isEmpty_iff.1 empty]
  decide

/-- A blank line inside a frame is refused. -/
theorem boundary_of_occupied {gathered : PartialFrame} (opened : gathered.Open)
    (occupied : gathered.isEmpty = false) (line : Nat) :
    gathered.boundary line =
      (gathered, .error (.incompleteFrame gathered.startLine line gathered.size)) := by
  unfold boundary
  rw [if_neg]
  rintro (empty | full)
  · rw [occupied] at empty
    cases empty
  · exact absurd full (Nat.ne_of_lt opened.short)

end PartialFrame

end TreeBoard.Script
