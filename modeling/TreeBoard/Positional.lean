/-!
# Positional digits

A number below `base ^ width` and its `width` digits determine each other. Digits stand with the
least significant one first. The levels of a record, its bytes and its hexadecimal text are the
digits of one number in the bases 8, 256 and 16.

Results: `digits_ofDigits`, writing out a number that was built from digits gives them back.
-/

namespace TreeBoard.Positional

/-- The lowest `width` digits of `n`, least significant first. -/
def digits (base : Nat) : Nat → Nat → List Nat
  | 0, _ => []
  | width + 1, n => n % base :: digits base width (n / base)

/-- The number with the given digits, least significant first. -/
def ofDigits (base : Nat) : List Nat → Nat
  | [] => 0
  | digit :: rest => digit + base * ofDigits base rest

@[simp]
theorem length_digits (base width n : Nat) : (digits base width n).length = width := by
  induction width generalizing n with
  | zero => rfl
  | succ width ih => simp [digits, ih]

theorem digits_lt {base : Nat} (positive : 0 < base) (width n : Nat) :
    ∀ digit ∈ digits base width n, digit < base := by
  induction width generalizing n with
  | zero => simp [digits]
  | succ width ih =>
      intro digit member
      rcases List.mem_cons.1 member with rfl | inRest
      · exact Nat.mod_lt _ positive
      · exact ih _ _ inRest

/-- Writing out the digits of a number that was built from digits gives them back. -/
theorem digits_ofDigits {base : Nat} {ds : List Nat} (bounded : ∀ digit ∈ ds, digit < base) :
    digits base ds.length (ofDigits base ds) = ds := by
  induction ds with
  | nil => rfl
  | cons digit rest ih =>
      have here : digit < base := bounded digit (by simp)
      have positive : 0 < base := by omega
      have below := ih fun d member => bounded d (by simp [member])
      simp only [List.length_cons, ofDigits, digits]
      rw [Nat.add_mul_mod_self_left, Nat.mod_eq_of_lt here, Nat.add_mul_div_left _ _ positive,
        Nat.div_eq_of_lt here, Nat.zero_add, below]

end TreeBoard.Positional
