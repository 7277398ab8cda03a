import Mathlib.Data.List.DropRight
import TreeBoard.Text.Blank

/-!
# Trimmed texts

Trimming takes the blanks at both ends of a text away, and nothing else.

Results:
1. `exists_blanks`, `exists_around`, the blanks at the ends of a text.
2. `trim_append`, `trim_around`, blanks at the ends make no difference.
3. `trim_of_plain`, `trim_trim`, `trim_cons_append`, texts from which nothing is taken away.
-/

namespace TreeBoard.Text

/-! ## Blanks at the ends -/

theorem exists_blanks (text : List Char) :
    ∃ blanks, trimEnd text ++ blanks = text ∧ ∀ c ∈ blanks, isBlank c = true := by
  refine ⟨(text.reverse.takeWhile isBlank).reverse, ?_, ?_⟩
  · rw [trimEnd, ← List.reverse_append, List.takeWhile_append_dropWhile, List.reverse_reverse]
  · intro c member
    exact List.mem_takeWhile_imp (List.mem_reverse.1 member)

section

variable {text blanks : List Char} (allBlank : ∀ c ∈ blanks, isBlank c = true)
include allBlank

theorem trimEnd_append : trimEnd (text ++ blanks) = trimEnd text := by
  rw [trimEnd, List.reverse_append, List.dropWhile_append_of_pos]
  · rfl
  · exact fun c member => allBlank c (List.mem_reverse.1 member)

theorem trim_append : trim (text ++ blanks) = trim text := by
  rw [trim, trimStart, List.dropWhile_append]
  split
  · rename_i nothing
    rw [trim, trimStart, List.isEmpty_iff.1 nothing, List.dropWhile_eq_nil_iff.2 allBlank]
  · exact trimEnd_append allBlank

end

/-- Blanks around a text make no difference. -/
theorem trim_around {front back : List Char} (frontBlank : ∀ c ∈ front, isBlank c = true)
    (backBlank : ∀ c ∈ back, isBlank c = true) (text : List Char) :
    trim (front ++ text ++ back) = trim text := by
  rw [trim_append backBlank, trim, trimStart, List.dropWhile_append_of_pos frontBlank]
  rfl

/-- A text is what trimming leaves of it, with blanks around. -/
theorem exists_around (text : List Char) :
    ∃ front back, text = front ++ trim text ++ back ∧ (∀ c ∈ front, isBlank c = true) ∧
      ∀ c ∈ back, isBlank c = true := by
  obtain ⟨back, whole, allBlank⟩ := exists_blanks (trimStart text)
  refine ⟨text.takeWhile isBlank, back, ?_, fun c => List.mem_takeWhile_imp, allBlank⟩
  rw [List.append_assoc, trim, whole]
  exact List.takeWhile_append_dropWhile.symm

theorem mem_of_mem_trim {text : List Char} {c : Char} (member : c ∈ trim text) : c ∈ text := by
  have inside := List.mem_reverse.1 (List.dropWhile_subset _ (List.mem_reverse.1 member))
  exact List.dropWhile_subset _ inside

/-! ## Texts that stay as they are -/

theorem trimStart_of_visible {c : Char} (visible : isBlank c = false) (later : List Char) :
    trimStart (c :: later) = c :: later :=
  List.dropWhile_cons_of_neg (by rw [visible]; decide)

theorem trim_of_plain {text : List Char} (plain : ∀ c ∈ text, isBlank c = false) :
    trim text = text := by
  have unchanged {text : List Char} (plain : ∀ c ∈ text, isBlank c = false) :
      trimStart text = text := by
    cases text with
    | nil => rfl
    | cons c later => exact trimStart_of_visible (plain c List.mem_cons_self) later
  have reversed : text.reverse.dropWhile isBlank = text.reverse :=
    unchanged fun c member => plain c (List.mem_reverse.1 member)
  rw [trim, unchanged plain, trimEnd, reversed, List.reverse_reverse]

theorem isBlank_of_trim {text later : List Char} {c : Char} (trimmed : trim text = c :: later) :
    isBlank c = false := by
  obtain ⟨blanks, whole, -⟩ := exists_blanks (trimStart text)
  have first := List.head?_dropWhile_not isBlank text
  rw [← trimStart, ← whole, ← trim, trimmed] at first
  exact first

theorem trimEnd_append_trimEnd (front : List Char) {text : List Char} (some : trimEnd text ≠ []) :
    trimEnd (front ++ trimEnd text) = front ++ trimEnd text := by
  have visible : (text.reverse.dropWhile isBlank).isEmpty = false := by
    rw [Bool.eq_false_iff]
    intro empty
    exact some (List.reverse_eq_nil_iff.2 (List.isEmpty_iff.1 empty))
  rw [trimEnd, trimEnd, List.reverse_append, List.reverse_reverse, List.dropWhile_append,
    List.dropWhile_idempotent, visible, if_neg Bool.false_ne_true, List.reverse_append,
    List.reverse_reverse]

/-- A text that starts visibly and ends with a trimmed text is trimmed. -/
theorem trim_cons_append {c : Char} (visible : isBlank c = false) (front : List Char)
    {text : List Char} (filled : text ≠ []) (trimmed : trim text = text) :
    trim (c :: front ++ text) = c :: front ++ text := by
  have ends : trimEnd (trimStart text) = text := trimmed
  have whole := trimEnd_append_trimEnd (c :: front) (ends ▸ filled)
  rw [ends] at whole
  rw [trim, List.cons_append, trimStart_of_visible visible, ← List.cons_append, whole]

theorem trim_trim (text : List Char) : trim (trim text) = trim text := by
  cases trimmed : trim text with
  | nil => rfl
  | cons c later =>
      have some : trimEnd (trimStart text) ≠ [] := by
        rw [← trim, trimmed]
        exact List.cons_ne_nil _ _
      have ended := trimEnd_append_trimEnd [] some
      rw [List.nil_append, ← trim, trimmed] at ended
      rw [trim, trimStart_of_visible (isBlank_of_trim trimmed), ended]

end TreeBoard.Text
