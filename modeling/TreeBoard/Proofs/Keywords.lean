import Mathlib.Data.List.TakeWhile
import TreeBoard.Proofs.Arguments
import TreeBoard.Proofs.Gathering
import TreeBoard.Proofs.Reading

/-!
# Keywords

What a line says is decided by the keyword it begins with. No two keywords begin the same line,
except that `repeat` also begins every line that `repeat_forever` begins.

Results: `kind_fits`, what is true of the lines of a kind; `parse_eq`, a line is parsed as what its
keyword announces.
-/

namespace TreeBoard.Script

/-! ## Definitions -/

/-- Whether a line holds blanks only. -/
def isBlankLine (text : String) : Bool :=
  Text.isBlankText text.toList

/-- Whether a keyword stands at the start of a line, after blanks. -/
def begins (keyword text : String) : Bool :=
  keyword.toList.isPrefixOf (Text.trim text.toList)

/-- Whether a line should hold levels: it is not blank, and no keyword begins it. -/
def isDataLine (text : String) : Bool :=
  !isBlankLine text && !begins "fade_to" text && !begins "set_marker" text && !begins "repeat" text

/-- The name of the marker that a directive means. -/
def markerOf (defaults : Defaults) (text : String) : String :=
  ((argumentOf text).map String.ofList).getD defaults.marker

/-- The speed that a fade means. -/
def speedOf (defaults : Defaults) (text : String) : UInt32 :=
  (givenSpeed text).getD defaults.fadeSpeed

/-- What a line is about. -/
inductive Kind where
  | blank
  | data
  | fade
  | mark
  | again
  | forever
deriving DecidableEq, Repr

/-- What the keyword of a line announces. -/
def kind (text : String) : Kind :=
  if isBlankLine text then .blank
  else if begins "fade_to" text then .fade
  else if begins "set_marker" text then .mark
  else if begins "repeat_forever" text then .forever
  else if begins "repeat" text then .again
  else .data

/-! ## Keywords exclude each other -/

theorem trim_isEmpty (text : List Char) : (Text.trim text).isEmpty = Text.isBlankText text := by
  induction text with
  | nil => rfl
  | cons c later ih =>
      cases blank : Text.isBlank c with
      | true =>
          have trimmed : Text.trim (c :: later) = Text.trim later := by
            unfold Text.trim Text.trimStart
            rw [List.dropWhile_cons_of_pos blank]
          rw [trimmed, ih, Text.isBlankText, Text.isBlankText, List.all_cons, blank, Bool.true_and]
      | false =>
          have whole : Text.trimStart (c :: later) = c :: later :=
            List.dropWhile_cons_of_neg (by rw [blank]; decide)
          rw [Text.isBlankText, List.all_cons, blank, Bool.false_and, Text.trim, whole,
            Bool.eq_false_iff]
          intro empty
          have allBlank := List.dropWhile_eq_nil_iff.1
            (List.reverse_eq_nil_iff.1 (List.isEmpty_iff.1 empty)) c (by simp)
          rw [blank] at allBlank
          cases allBlank

theorem trim_eq_nil_iff {text : List Char} :
    Text.trim text = [] ↔ ∀ c ∈ text, Text.isBlank c = true := by
  rw [← List.isEmpty_iff, trim_isEmpty, Text.isBlankText, List.all_eq_true]

theorem head?_of_begins {keyword text : String} {c : Char} (first : keyword.toList.head? = some c)
    (starts : begins keyword text = true) : (Text.trim text.toList).head? = some c := by
  obtain ⟨others, whole⟩ := List.isPrefixOf_iff_prefix.1 starts
  rw [← whole, List.head?_append, first]
  rfl

theorem isBlankLine_of_begins {keyword text : String} {c : Char}
    (first : keyword.toList.head? = some c) (starts : begins keyword text = true) :
    isBlankLine text = false := by
  have found := head?_of_begins first starts
  rw [isBlankLine, ← trim_isEmpty]
  cases trimmed : Text.trim text.toList with
  | nil =>
      rw [trimmed] at found
      cases found
  | cons c later => rfl

theorem begins_excludes {keyword other text : String} {c d : Char}
    (first : keyword.toList.head? = some c) (second : other.toList.head? = some d)
    (differ : c ≠ d) (starts : begins keyword text = true) : begins other text = false := by
  rw [Bool.eq_false_iff]
  intro also
  have same := (head?_of_begins first starts).symm.trans (head?_of_begins second also)
  exact differ (Option.some.inj same)

theorem begins_repeat_of_forever {text : String} (starts : begins "repeat_forever" text = true) :
    begins "repeat" text = true := by
  have longer : "repeat".toList <+: "repeat_forever".toList := by decide
  exact List.isPrefixOf_iff_prefix.2 (longer.trans (List.isPrefixOf_iff_prefix.1 starts))

/-- What is true of the lines of a kind: whether they are blank, and which keywords begin them. -/
structure Kind.Fits (known : Kind) (text : String) : Prop where
  blank : isBlankLine text = decide (known = .blank)
  fade : begins "fade_to" text = decide (known = .fade)
  mark : begins "set_marker" text = decide (known = .mark)
  again : begins "repeat" text = decide (known = .again ∨ known = .forever)
  forever : begins "repeat_forever" text = decide (known = .forever)

theorem kind_fits (text : String) : (kind text).Fits text := by
  have f : "fade_to".toList.head? = some 'f' := rfl
  have s : "set_marker".toList.head? = some 's' := rfl
  have r : "repeat".toList.head? = some 'r' := rfl
  have r' : "repeat_forever".toList.head? = some 'r' := rfl
  unfold kind
  by_cases blank : isBlankLine text = true
  · have none {keyword : String} {c : Char} (first : keyword.toList.head? = some c) :
        begins keyword text = false := by
      rw [Bool.eq_false_iff]
      intro starts
      rw [isBlankLine_of_begins first starts] at blank
      cases blank
    rw [if_pos blank]
    exact ⟨blank, none f, none s, none r, none r'⟩
  · rw [if_neg blank]
    rw [Bool.not_eq_true] at blank
    by_cases fade : begins "fade_to" text = true
    · rw [if_pos fade]
      exact ⟨blank, fade, begins_excludes f s (by decide) fade,
        begins_excludes f r (by decide) fade, begins_excludes f r' (by decide) fade⟩
    · rw [if_neg fade]
      rw [Bool.not_eq_true] at fade
      by_cases mark : begins "set_marker" text = true
      · rw [if_pos mark]
        exact ⟨blank, fade, mark, begins_excludes s r (by decide) mark,
          begins_excludes s r' (by decide) mark⟩
      · rw [if_neg mark]
        rw [Bool.not_eq_true] at mark
        by_cases forever : begins "repeat_forever" text = true
        · rw [if_pos forever]
          exact ⟨blank, fade, mark, begins_repeat_of_forever forever, forever⟩
        · rw [if_neg forever]
          rw [Bool.not_eq_true] at forever
          by_cases again : begins "repeat" text = true
          · rw [if_pos again]
            exact ⟨blank, fade, mark, again, forever⟩
          · rw [if_neg again]
            rw [Bool.not_eq_true] at again
            exact ⟨blank, fade, mark, again, forever⟩

theorem isDataLine_eq (text : String) : isDataLine text = decide (kind text = .data) := by
  have fits := kind_fits text
  rw [isDataLine, fits.blank, fits.fade, fits.mark, fits.again]
  cases kind text <;> rfl

theorem kind_of_data {text : String} (data : isDataLine text = true) : kind text = .data := by
  rw [isDataLine_eq, decide_eq_true_eq] at data
  exact data

theorem begins_eq_false_of_data {text : String} {keyword : String} (data : isDataLine text = true)
    (known : keyword = "fade_to" ∨ keyword = "set_marker" ∨ keyword = "repeat_forever" ∨
      keyword = "repeat") : begins keyword text = false := by
  have fits := kind_fits text
  rw [kind_of_data data] at fits
  rcases known with rfl | rfl | rfl | rfl
  · exact fits.fade
  · exact fits.mark
  · exact fits.forever
  · exact fits.again

theorem begins_eq_false {keyword text : String} {c : Char} (first : keyword.toList.head? = some c)
    (missing : c ∉ text.toList) : begins keyword text = false := by
  rw [Bool.eq_false_iff]
  intro starts
  exact missing (Text.mem_of_mem_trim (List.mem_of_head? (head?_of_begins first starts)))

/-- A line that is not blank holds levels if the first letters of the keywords are missing. -/
theorem isDataLine_of_not_mem {text : String} (filled : isBlankLine text = false)
    (f : 'f' ∉ text.toList) (s : 's' ∉ text.toList) (r : 'r' ∉ text.toList) :
    isDataLine text = true := by
  have fade : begins "fade_to" text = false := begins_eq_false rfl f
  have mark : begins "set_marker" text = false := begins_eq_false rfl s
  have again : begins "repeat" text = false := begins_eq_false rfl r
  rw [isDataLine, filled, fade, mark, again]
  rfl

/-- Blanks and digits are a line of levels if there is a digit. -/
theorem isDataLine_of_valid {text : String} (valid : PartialFrame.Valid text.toList)
    (visible : levelsOf text ≠ []) : isDataLine text = true := by
  obtain ⟨level, member⟩ := List.exists_mem_of_ne_nil _ visible
  obtain ⟨c, inText, found⟩ := List.mem_filterMap.1 member
  have filled : isBlankLine text = false := by
    have digit := (Option.ite_none_right_eq_some.1 found).1
    have shown := PartialFrame.isBlank_of_digit digit
    exact List.all_eq_false.2 ⟨c, inText, by rw [shown]; decide⟩
  have missing {c : Char} (letter : ¬ (Text.isBlank c = true ∨ ('0' ≤ c ∧ c ≤ '7'))) :
      c ∉ text.toList := fun member => letter (valid c member)
  exact isDataLine_of_not_mem filled (missing (by decide)) (missing (by decide))
    (missing (by decide))

/-- A line of levels that holds only blanks and digits holds a digit. -/
theorem levelsOf_ne_nil {text : String} (data : isDataLine text = true)
    (valid : PartialFrame.Valid text.toList) : levelsOf text ≠ [] := by
  have fits := kind_fits text
  rw [kind_of_data data] at fits
  intro nothing
  have blank : isBlankLine text = true := by
    refine List.all_eq_true.2 fun c member => ?_
    refine (valid c member).resolve_right fun digit => ?_
    have none := List.filterMap_eq_nil_iff.1 nothing c member
    rw [if_pos digit] at none
    cases none
  rw [fits.blank] at blank
  cases blank

/-! ## Parsing -/

/-- A line is parsed as what its keyword announces. -/
theorem parse_eq (line : Nat) (text : String) :
    Line.parse line text =
      match kind text with
      | .blank => .ok .blank
      | .data => .ok (.frameData text)
      | .fade => (fadeSpeed? line (Text.trim text.toList)).map .fadeTo
      | .mark => .ok (.setMarker ((argumentOf text).map String.ofList))
      | .again => .ok (.repeatOnce ((argumentOf text).map String.ofList))
      | .forever => .ok (.repeatForever ((argumentOf text).map String.ofList)) := by
  unfold Line.parse kind markerName?
  simp only [trim_isEmpty, argument?_eq, ← isBlankLine.eq_1, ← begins.eq_1]
  cases isBlankLine text <;> cases begins "fade_to" text <;> cases begins "set_marker" text <;>
    cases begins "repeat_forever" text <;> cases begins "repeat" text <;> rfl

end TreeBoard.Script
