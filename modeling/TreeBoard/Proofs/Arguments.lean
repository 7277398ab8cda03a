import TreeBoard.Positional.Lemmas
import TreeBoard.Proofs.Trimming
import TreeBoard.Script.Line

/-!
# Arguments

The argument of a directive is the field behind the first colon of its line, without the blanks
around it. A field of blanks only counts as left out. The speed of a fade is written as a decimal
literal.

Results:
1. `word32?_eq_some_iff`, the literals of a number; `word32?_decimal`, its decimal form is one.
2. `argument?_eq_some_iff`, `argument?_eq`, the argument is the field behind the first colon.
3. `argument?_append`, `isArgument_of_argument?`, the texts that are arguments.
4. `fadeSpeed?_ok_iff`, `fadeSpeed?_error_iff`, the arguments that a fade may have.
-/

namespace TreeBoard

/-! ## Decimal literals -/

namespace Text

/-- Decimal digits that write a number, maybe with zeros in front. -/
structure Digits (text : List Char) (value : Nat) : Prop where
  filled : text ≠ []
  digits : ∀ c ∈ text, c.isDigit = true
  number : Nat.ofDigitChars 10 text 0 = value

/-- A literal of a number: its digits, after at most one plus sign. -/
inductive Literal : List Char → Nat → Prop
  | plain {digits : List Char} {value : Nat} (written : Digits digits value) :
      Literal digits value
  | signed {digits : List Char} {value : Nat} (written : Digits digits value) :
      Literal ('+' :: digits) value

/-- The number that a literal writes. -/
def literalValue : List Char → Nat
  | '+' :: digits => Nat.ofDigitChars 10 digits 0
  | digits => Nat.ofDigitChars 10 digits 0

theorem Literal.literalValue_eq {literal : List Char} {value : Nat}
    (written : Literal literal value) : literalValue literal = value := by
  cases written with
  | plain written =>
      unfold literalValue
      split
      · exact absurd (written.digits '+' List.mem_cons_self) (by decide)
      · exact written.number
  | signed written => exact written.number

theorem decimalValue?_of_isDigit {c : Char} (digit : c.isDigit = true) :
    decimalValue? c = some (c.toNat - '0'.toNat) := by
  simp only [Char.isDigit, Bool.and_eq_true, decide_eq_true_eq] at digit
  exact if_pos digit

theorem isDigit_of_decimalValue? {c : Char} {value : Nat} (found : decimalValue? c = some value) :
    c.isDigit = true := by
  obtain ⟨digit, -⟩ := Option.ite_none_right_eq_some.1 found
  simp only [Char.isDigit, Bool.and_eq_true, decide_eq_true_eq]
  exact digit

theorem decimal?_of_digits {text : List Char} {value : Nat} (written : Digits text value) :
    decimal? text = some value := by
  have values : text.mapM decimalValue? = some (text.map fun c => c.toNat - '0'.toNat) :=
    Positional.mapM_eq_pure _ fun c member => decimalValue?_of_isDigit (written.digits c member)
  rw [decimal?, List.isEmpty_eq_false_iff.2 written.filled, if_neg Bool.false_ne_true, values,
    Option.map_some, ← Positional.foldl_eq_ofDigits, List.foldl_map]
  exact congrArg some written.number

theorem decimal?_eq_some_iff {text : List Char} {value : Nat} :
    decimal? text = some value ↔ Digits text value := by
  refine ⟨fun found => ?_, decimal?_of_digits⟩
  obtain ⟨filled, read⟩ := Option.ite_none_left_eq_some.1 found
  obtain ⟨values, each, -⟩ := Option.map_eq_some_iff.1 read
  have digits (c : Char) (member : c ∈ text) : c.isDigit = true := by
    obtain ⟨value, here⟩ := Positional.exists_of_mapM each c member
    exact isDigit_of_decimalValue? here
  have written : Digits text (Nat.ofDigitChars 10 text 0) :=
    ⟨fun empty => filled (List.isEmpty_iff.2 empty), digits, rfl⟩
  have same := (decimal?_of_digits written).symm.trans found
  exact Option.some.inj same ▸ written

/-- The value of a number below `2 ^ 32`. -/
def ofNat? (number : Nat) : Option UInt32 :=
  if number < UInt32.size then some (UInt32.ofNat number) else none

theorem ofNat?_eq_some_iff {number : Nat} {value : UInt32} :
    ofNat? number = some value ↔ number = value.toNat := by
  constructor
  · intro found
    obtain ⟨small, same⟩ := Option.ite_none_right_eq_some.1 found
    rw [← Option.some.inj same, UInt32.toNat_ofNat_of_lt' small]
  · rintro rfl
    exact (if_pos value.toNat_lt).trans (congrArg some UInt32.ofNat_toNat)

theorem word32?_signed (digits : List Char) :
    word32? ('+' :: digits) = (decimal? digits).bind ofNat? := by
  simp only [word32?]
  cases decimal? digits <;> rfl

theorem word32?_plain {literal : List Char} (plain : ∀ digits, literal ≠ '+' :: digits) :
    word32? literal = (decimal? literal).bind ofNat? := by
  unfold word32?
  split
  · exact absurd rfl (plain _)
  · simp only
    cases decimal? literal <;> rfl

/-- The literals of a number below `2 ^ 32` are those that are read as it. -/
theorem word32?_eq_some_iff {literal : List Char} {value : UInt32} :
    word32? literal = some value ↔ Literal literal value.toNat := by
  have unsigned (digits : List Char) :
      (decimal? digits).bind ofNat? = some value ↔ Digits digits value.toNat := by
    simp only [Option.bind_eq_some_iff, ofNat?_eq_some_iff, exists_eq_right, decimal?_eq_some_iff]
  by_cases plain : ∀ digits, literal ≠ '+' :: digits
  · rw [word32?_plain plain, unsigned]
    refine ⟨.plain, ?_⟩
    rintro (written | @⟨digits, _, written⟩)
    · exact written
    · exact absurd rfl (plain digits)
  · simp only [ne_eq, not_forall, not_not] at plain
    obtain ⟨digits, rfl⟩ := plain
    rw [word32?_signed, unsigned]
    refine ⟨.signed, ?_⟩
    rintro (written | written)
    · exact absurd (written.digits '+' List.mem_cons_self) (by decide)
    · exact written

theorem digits_decimal (value : UInt32) : Digits (toString value).toList value.toNat := by
  rw [show toString value = toString value.toNat from rfl, Nat.toString_eq_ofList_toDigits,
    String.toList_ofList]
  exact ⟨Nat.toDigits_ne_nil,
    fun c => Nat.isDigit_of_mem_toDigits (by decide) (by decide), Nat.ofDigitChars_ten_toDigits⟩

/-- A number below `2 ^ 32` is read back from its decimal form. -/
theorem word32?_decimal (value : UInt32) : word32? (toString value).toList = some value :=
  word32?_eq_some_iff.2 (.plain (digits_decimal value))

end Text

namespace Script

/-! ## Definitions -/

/-- The field behind the first colon of a text, without the blanks around it. -/
def field? (text : List Char) : Option (List Char) :=
  (text.splitOn ':')[1]?.map Text.trim

/-- The argument of a line: the field behind the first colon, if it is not empty. -/
def argumentOf (text : String) : Option (List Char) :=
  (field? (Text.trim text.toList)).filter (· ≠ [])

/-- A text that can be written as the argument of a directive. -/
structure IsArgument (text : List Char) : Prop where
  filled : text ≠ []
  trimmed : Text.trim text = text
  noColon : ':' ∉ text

/-- A literal of a speed, a number from 1 to `2 ^ 32 - 1`. -/
def IsSpeed (text : List Char) : Prop :=
  ∃ speed, 1 ≤ speed ∧ speed < 2 ^ 32 ∧ Text.Literal text speed

/-- The argument of a fade is left out, or it is a speed. -/
def SpeedAllowed (text : String) : Prop :=
  ∀ argument, argumentOf text = some argument → IsSpeed argument

/-- The speed that stands in a fade, unless it is left out. -/
def givenSpeed (text : String) : Option UInt32 :=
  (argumentOf text).map fun argument => UInt32.ofNat (Text.literalValue argument)

/-! ## Arguments -/

/-- The first field of a text ends before its first colon. -/
theorem head?_splitOn (text : List Char) :
    (text.splitOn ':').head? = some (text.takeWhile (· ≠ ':')) := by
  induction text with
  | nil => rfl
  | cons c later ih =>
      rw [List.splitOn_cons_eq_if_modifyHead]
      by_cases colon : c = ':'
      · simp [colon]
      · simp [colon, ih]

theorem field?_append {front : List Char} (noColon : ':' ∉ front) (later : List Char) :
    field? (front ++ ':' :: later) = some (Text.trim (later.takeWhile (· ≠ ':'))) := by
  rw [field?, List.splitOn_append_cons_self_of_not_mem noColon, List.getElem?_cons_succ,
    ← List.head?_eq_getElem?, head?_splitOn, Option.map_some]

theorem argument?_of_not_mem {directive : List Char} (noColon : ':' ∉ directive) :
    argument? directive = none := by
  have nothing : directive.dropWhile (· ≠ ':') = [] :=
    List.dropWhile_eq_nil_iff.2 fun c member =>
      decide_eq_true (ne_of_mem_of_not_mem member noColon)
  rw [argument?, nothing]

/-- The argument of a directive is the field behind its first colon, unless that is empty. -/
theorem argument?_eq_some_iff {directive argument : List Char} :
    argument? directive = some argument ↔ field? directive = some argument ∧ argument ≠ [] := by
  by_cases colon : ':' ∈ directive
  · obtain ⟨front, later, rfl, noColon⟩ := List.eq_append_cons_of_mem colon
    have behind : (front ++ ':' :: later).dropWhile (· ≠ ':') = ':' :: later := by
      rw [List.dropWhile_append_of_pos fun c member =>
        decide_eq_true (ne_of_mem_of_not_mem member noColon)]
      rfl
    rw [field?_append noColon]
    unfold argument?
    simp only [behind]
    cases Text.trim (later.takeWhile (· ≠ ':')) with
    | nil =>
        refine ⟨nofun, ?_⟩
        rintro ⟨⟨⟩, filled⟩
        exact absurd rfl filled
    | cons c others =>
        refine ⟨?_, And.left⟩
        rintro ⟨⟩
        exact ⟨rfl, List.cons_ne_nil c others⟩
  · rw [argument?_of_not_mem colon, field?, List.splitOn_eq_singleton colon]
    exact ⟨nofun, fun both => nomatch both.1⟩

/-- The argument that is found in a directive can be written in a directive. -/
theorem isArgument_of_argument? {directive argument : List Char}
    (found : argument? directive = some argument) : IsArgument argument := by
  obtain ⟨field, filled⟩ := argument?_eq_some_iff.1 found
  by_cases colon : ':' ∈ directive
  · obtain ⟨front, later, rfl, noColon⟩ := List.eq_append_cons_of_mem colon
    rw [field?_append noColon, Option.some_inj] at field
    subst field
    refine ⟨filled, Text.trim_trim _, fun member => ?_⟩
    have before := List.mem_takeWhile_imp (Text.mem_of_mem_trim member)
    exact of_decide_eq_true before rfl
  · rw [argument?_of_not_mem colon] at found
    cases found

/-- The argument of a directive stands behind the first colon, maybe with blanks around it. -/
theorem argument?_append {argument : List Char} (fits : IsArgument argument)
    {front inner : List Char} (noColon : ':' ∉ front) (blank : ∀ c ∈ inner, Text.isBlank c = true) :
    argument? (front ++ ':' :: (inner ++ argument)) = some argument := by
  have noneInside : ':' ∉ inner ++ argument := by
    refine List.not_mem_append (fun member => ?_) fits.noColon
    exact absurd (blank ':' member) (by decide)
  have whole : (inner ++ argument).takeWhile (· ≠ ':') = inner ++ argument :=
    List.takeWhile_eq_self_iff.2 fun c member =>
      decide_eq_true (ne_of_mem_of_not_mem member noneInside)
  have trimmed : Text.trim (inner ++ argument) = argument := by
    have same := Text.trim_around blank (List.forall_mem_nil _) argument
    rwa [List.append_nil, fits.trimmed] at same
  refine argument?_eq_some_iff.2 ⟨?_, fits.filled⟩
  rw [field?_append noColon, whole, trimmed]

section

variable {text : String}

theorem argumentOf_eq_some_iff {argument : List Char} : argumentOf text = some argument ↔
    field? (Text.trim text.toList) = some argument ∧ argument ≠ [] := by
  rw [argumentOf, Option.filter_eq_some_iff, decide_eq_true_eq]

/-- The argument of a line is what is found in it as an argument. -/
theorem argument?_eq (text : String) : argument? (Text.trim text.toList) = argumentOf text := by
  refine Option.ext fun argument => ?_
  rw [argumentOf_eq_some_iff, argument?_eq_some_iff]

theorem isArgument_of_argumentOf {argument : List Char}
    (found : argumentOf text = some argument) : IsArgument argument := by
  rw [← argument?_eq] at found
  exact isArgument_of_argument? found

end

/-! ## Speeds -/

theorem isSpeed_iff {text : List Char} :
    IsSpeed text ↔ ∃ speed, Text.word32? text = some speed ∧ 1 ≤ speed := by
  constructor
  · rintro ⟨speed, positive, small, literal⟩
    have value := UInt32.toNat_ofNat_of_lt' small
    refine ⟨UInt32.ofNat speed, Text.word32?_eq_some_iff.2 (value.symm ▸ literal), ?_⟩
    rw [UInt32.le_iff_toNat_le, value]
    exact positive
  · rintro ⟨speed, value, positive⟩
    exact ⟨speed.toNat, UInt32.le_iff_toNat_le.1 positive, speed.toNat_lt,
      Text.word32?_eq_some_iff.1 value⟩

section

variable {text : String} {line : Nat}

/-- A fade is accepted exactly if its argument is left out or a speed, with that speed. -/
theorem fadeSpeed?_ok_iff {speed : Option UInt32} :
    fadeSpeed? line (Text.trim text.toList) = .ok speed ↔
      SpeedAllowed text ∧ speed = givenSpeed text := by
  unfold fadeSpeed? SpeedAllowed givenSpeed
  rw [argument?_eq]
  cases argumentOf text with
  | none => simp [eq_comm]
  | some argument =>
      simp only [Option.some.injEq, forall_eq', Option.map_some, isSpeed_iff]
      cases found : Text.word32? argument with
      | none => simp
      | some value =>
          have same : UInt32.ofNat (Text.literalValue argument) = value := by
            rw [(Text.word32?_eq_some_iff.1 found).literalValue_eq, UInt32.ofNat_toNat]
          by_cases positive : 1 ≤ value <;> simp [positive, same, eq_comm]

/-- A fade is refused exactly if its argument is no speed. -/
theorem fadeSpeed?_error_iff {error : Error} :
    fadeSpeed? line (Text.trim text.toList) = .error error ↔
      ∃ argument, argumentOf text = some argument ∧ ¬ IsSpeed argument ∧
        error = .invalidFadeSpeed line (String.ofList argument) := by
  unfold fadeSpeed?
  rw [argument?_eq]
  cases argumentOf text with
  | none => simp
  | some argument =>
      simp only [Option.some.injEq, exists_eq_left', isSpeed_iff]
      cases Text.word32? argument with
      | none => simp [eq_comm]
      | some value => by_cases positive : 1 ≤ value <;> simp [positive, eq_comm]

theorem fadeSpeed?_of_allowed (line : Nat) (allowed : SpeedAllowed text) :
    fadeSpeed? line (Text.trim text.toList) = .ok (givenSpeed text) :=
  fadeSpeed?_ok_iff.2 ⟨allowed, rfl⟩

theorem positive_of_fadeSpeed? {speed : Option UInt32}
    (accepted : fadeSpeed? line (Text.trim text.toList) = .ok speed) : ∀ value ∈ speed, 1 ≤ value := by
  obtain ⟨allowed, rfl⟩ := fadeSpeed?_ok_iff.1 accepted
  intro value member
  obtain ⟨argument, given, rfl⟩ := Option.map_eq_some_iff.1 member
  obtain ⟨speed, positive, small, literal⟩ := allowed argument given
  rw [literal.literalValue_eq, UInt32.le_iff_toNat_le, UInt32.toNat_ofNat_of_lt' small]
  exact positive

end

end Script

end TreeBoard
