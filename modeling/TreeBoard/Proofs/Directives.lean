import TreeBoard.Proofs.Keywords

/-!
# Written directives

A directive is written as its keyword, a colon and the argument, with blanks around each of them. The
argument is read back if it is not empty, has no blanks at its ends and holds no colon, and the line
is then of the kind that its keyword announces. The names that a directive can express are such
arguments, and so are the speeds in decimal.

Results:
1. `trim_write`, `kind_written`, `argumentOf_written`, a written directive is read back.
2. `nameable_iff`, `isArgument_decimal`, names and speeds that can be written in a directive.
-/

namespace TreeBoard.Script

/-! ## Definitions -/

/-- A name that can be written in a directive. -/
def Nameable (name : String) : Prop :=
  ∃ text, argumentOf text = some name.toList

/-- Blanks around the parts of a directive, which do not count. -/
structure Padding where
  /-- Blanks before the keyword. -/
  front : List Char := []
  /-- Blanks behind the keyword. -/
  behind : List Char := []
  /-- Blanks before the argument. -/
  inner : List Char := []
  /-- Blanks at the end. -/
  back : List Char := []
  blank : Text.isBlankText (front ++ behind ++ inner ++ back) = true := by decide

/-- What trimming leaves of a directive with the given keyword, and with an argument if one is
given. -/
def Padding.body (padding : Padding) (keyword : String) : Option (List Char) → List Char
  | none => keyword.toList
  | some text => keyword.toList ++ padding.behind ++ ':' :: (padding.inner ++ text)

/-- The text of a directive with the given keyword, and with an argument if one is given. -/
def Padding.write (padding : Padding) (keyword : String) : Option (List Char) → List Char
  | none => padding.front ++ keyword.toList ++ (padding.behind ++ padding.back)
  | some text => padding.front ++ padding.body keyword (some text) ++ padding.back

/-- The keyword that announces a directive of a kind. -/
def Kind.keyword? : Kind → Option String
  | .fade => some "fade_to"
  | .mark => some "set_marker"
  | .again => some "repeat"
  | .forever => some "repeat_forever"
  | .blank => none
  | .data => none

/-! ## Written directives -/

namespace Padding

variable (padding : Padding)

theorem all_blank : (∀ c ∈ padding.front, Text.isBlank c = true) ∧
    (∀ c ∈ padding.behind, Text.isBlank c = true) ∧
    (∀ c ∈ padding.inner, Text.isBlank c = true) ∧ ∀ c ∈ padding.back, Text.isBlank c = true := by
  have blank := padding.blank
  simpa [Text.isBlankText, and_assoc] using blank

theorem front_blank : ∀ c ∈ padding.front, Text.isBlank c = true :=
  padding.all_blank.1

theorem behind_blank : ∀ c ∈ padding.behind, Text.isBlank c = true :=
  padding.all_blank.2.1

theorem inner_blank : ∀ c ∈ padding.inner, Text.isBlank c = true :=
  padding.all_blank.2.2.1

theorem back_blank : ∀ c ∈ padding.back, Text.isBlank c = true :=
  padding.all_blank.2.2.2

end Padding

/-- A keyword starts with a letter, and no blank and no colon stands in it. -/
theorem plain_keyword {known : Kind} {keyword : String}
    (announces : known.keyword? = some keyword) :
    ∃ c later, keyword.toList = c :: later ∧ Text.isBlank c = false ∧
      (∀ d ∈ keyword.toList, Text.isBlank d = false) ∧ ':' ∉ keyword.toList := by
  have visible (word : String) (plain : word.toList.all (fun d => !Text.isBlank d) = true) :
      ∀ d ∈ word.toList, Text.isBlank d = false := by simpa using plain
  cases known <;> cases announces
  · exact ⟨'f', "ade_to".toList, rfl, rfl, visible _ rfl, by decide⟩
  · exact ⟨'s', "et_marker".toList, rfl, rfl, visible _ rfl, by decide⟩
  · exact ⟨'r', "epeat".toList, rfl, rfl, visible _ rfl, by decide⟩
  · exact ⟨'r', "epeat_forever".toList, rfl, rfl, visible _ rfl, by decide⟩

section

variable {argument : Option (List Char)} (fits : ∀ text ∈ argument, IsArgument text)
  {known : Kind} {keyword text : String} (announces : known.keyword? = some keyword)
  {padding : Padding}
include fits announces

theorem trim_write :
    Text.trim (padding.write keyword argument) = padding.body keyword argument := by
  obtain ⟨c, later, starts, visible, plain, -⟩ := plain_keyword announces
  cases argument with
  | none =>
      have blank := List.forall_mem_append.2 ⟨padding.behind_blank, padding.back_blank⟩
      rw [Padding.write, Text.trim_around padding.front_blank blank, Text.trim_of_plain plain]
      rfl
  | some argument =>
      have fits := fits argument rfl
      have ends := Text.trim_cons_append visible (later ++ padding.behind ++ ':' :: padding.inner)
        fits.filled fits.trimmed
      rw [Padding.write, Text.trim_around padding.front_blank padding.back_blank, Padding.body,
        starts]
      simpa using ends

variable (written : text.toList = padding.write keyword argument)
include written

/-- A written directive is of the kind that its keyword announces. -/
theorem kind_written : kind text = known := by
  obtain ⟨rest, body, stops⟩ : ∃ rest, padding.body keyword argument = keyword.toList ++ rest ∧
      rest.head? ≠ some '_' := by
    cases argument with
    | none => exact ⟨[], (List.append_nil _).symm, nofun⟩
    | some argument =>
        refine ⟨padding.behind ++ ':' :: (padding.inner ++ argument), List.append_assoc .., ?_⟩
        cases behind : padding.behind with
        | nil => exact nofun
        | cons c later =>
            rintro ⟨⟩
            have blank := padding.behind_blank '_' (behind ▸ List.mem_cons_self)
            exact absurd blank (by decide)
  unfold kind isBlankLine begins
  simp only [← trim_isEmpty, written, trim_write fits announces, body]
  cases known <;> cases announces
  · rfl
  · rfl
  -- `repeat` is taken for itself, because it does not go on as `repeat_forever` does.
  · have shorter : "repeat_forever".toList.isPrefixOf ("repeat".toList ++ rest) = false := by
      cases rest with
      | nil => rfl
      | cons c later =>
          have differs : ('_' == c) = false :=
            beq_eq_false_iff_ne.2 fun same => stops (by rw [List.head?_cons, same])
          show ('_' == c && "forever".toList.isPrefixOf later) = false
          rw [differs, Bool.false_and]
    rw [shorter]
    rfl
  · rfl

/-- The argument of a written directive is read back. -/
theorem argumentOf_written : argumentOf text = argument := by
  obtain ⟨-, -, -, -, -, noColon⟩ := plain_keyword announces
  rw [← argument?_eq, written, trim_write fits announces]
  cases argument with
  | none => exact argument?_of_not_mem noColon
  | some argument =>
      refine argument?_append (fits argument rfl) (List.not_mem_append noColon fun member => ?_)
        padding.inner_blank
      exact absurd (padding.behind_blank ':' member) (by decide)

end

theorem nameable_iff {name : String} : Nameable name ↔ IsArgument name.toList := by
  constructor
  · rintro ⟨text, found⟩
    exact isArgument_of_argumentOf found
  · intro fits
    have fits : ∀ text ∈ some name.toList, IsArgument text := by simpa using fits
    have announces : Kind.again.keyword? = some "repeat" := rfl
    exact ⟨String.ofList (Padding.write {} "repeat" (some name.toList)),
      argumentOf_written fits announces String.toList_ofList⟩

/-- A name that is written in a directive is read back from it. -/
theorem directive_written (defaults : Defaults) {known : Kind} {keyword opening name : String}
    (announces : known.keyword? = some keyword) (opens : opening = keyword ++ ":")
    (nameable : Nameable name) :
    kind (opening ++ name) = known ∧ markerOf defaults (opening ++ name) = name := by
  have fits : ∀ text ∈ some name.toList, IsArgument text := by simpa using nameable_iff.1 nameable
  have written : (opening ++ name).toList = Padding.write {} keyword (some name.toList) := by
    simp [opens, Padding.write, Padding.body]
  refine ⟨kind_written fits announces written, ?_⟩
  rw [markerOf, argumentOf_written fits announces written, Option.map_some,
    Option.getD_some, String.ofList_toList]

theorem isArgument_decimal (value : UInt32) : IsArgument (toString value).toList where
  filled := (Text.digits_decimal value).filled
  trimmed := Text.trim_of_plain fun c member =>
    Text.isBlank_of_isDigit ((Text.digits_decimal value).digits c member)
  noColon member := absurd ((Text.digits_decimal value).digits ':' member) (by decide)

end TreeBoard.Script
