import Mathlib.Algebra.Order.Ring.Nat
import TreeBoard.Positional

/-!
# Sizes of numbers written in digits

Results: `ofDigits_lt`, digits of a given number build a number below that power of the base;
`ofDigits_digits`, the lowest digits of a number hold its remainder by a power of the base;
`digits_eq_map`, each digit of a number by itself; `flatMap_digits` and `ofDigits_flatMap`, a digit of a power of the base stands for a group of digits;
`mapM_eq_pure` and `exists_of_mapM`, digits are read one by one.
-/

namespace TreeBoard.Positional

theorem ofDigits_lt {base : Nat} {ds : List Nat} (bounded : ∀ digit ∈ ds, digit < base) :
    ofDigits base ds < base ^ ds.length := by
  induction ds with
  | nil => simp [ofDigits]
  | cons digit rest ih =>
      have here : digit < base := bounded digit (by simp)
      have below := ih fun d member => bounded d (by simp [member])
      have step : base * (ofDigits base rest + 1) ≤ base * base ^ rest.length :=
        Nat.mul_le_mul_left base below
      simp only [ofDigits, List.length_cons, Nat.pow_succ, Nat.mul_comm (base ^ rest.length)]
      rw [Nat.mul_add] at step
      omega

/-- The lowest `width` digits hold the number up to a multiple of `base ^ width`. -/
theorem ofDigits_digits (base width n : Nat) :
    ofDigits base (digits base width n) = n % base ^ width := by
  induction width generalizing n with
  | zero => simp [digits, ofDigits, Nat.mod_one]
  | succ width ih =>
      simp only [digits, ofDigits, ih, Nat.pow_succ]
      rw [Nat.mul_comm (base ^ width) base, Nat.mod_mul]

/-- The digit at a place is what the power of the base at this place leaves of the number. -/
theorem digits_eq_map (base width n : Nat) :
    digits base width n = (List.range width).map fun place => n / base ^ place % base := by
  induction width generalizing n with
  | zero => rfl
  | succ width ih =>
      rw [digits, ih, List.range_succ_eq_map, List.map_cons, List.map_map, Nat.pow_zero, Nat.div_one]
      simp only [Function.comp_def, Nat.div_div_eq_div_mul, Nat.pow_succ']

theorem digits_add (base first second n : Nat) :
    digits base (first + second) n =
      digits base first n ++ digits base second (n / base ^ first) := by
  induction first generalizing n with
  | zero => simp [digits]
  | succ first ih =>
      rw [Nat.succ_add, digits, ih, digits, Nat.div_div_eq_div_mul, Nat.pow_succ', List.cons_append]

/-- The lowest digits do not depend on what stands above them. -/
theorem digits_mod_pow (base width n : Nat) :
    digits base width (n % base ^ width) = digits base width n := by
  induction width generalizing n with
  | zero => rfl
  | succ width ih =>
      rw [digits, digits, Nat.pow_succ', Nat.mod_mul_right_div_self, ih, Nat.mod_mul_right_mod]

/-- Each digit of a power of the base stands for a group of digits. -/
theorem flatMap_digits (base group width n : Nat) :
    (digits (base ^ group) width n).flatMap (digits base group) =
      digits base (group * width) n := by
  induction width generalizing n with
  | zero => rfl
  | succ width ih =>
      rw [digits, List.flatMap_cons, ih, digits_mod_pow, Nat.mul_succ, Nat.add_comm, digits_add]

theorem ofDigits_append (base : Nat) (low high : List Nat) :
    ofDigits base (low ++ high) = ofDigits base low + base ^ low.length * ofDigits base high := by
  induction low with
  | nil => simp [ofDigits]
  | cons digit rest ih =>
      rw [List.cons_append, ofDigits, ih, ofDigits, List.length_cons, Nat.pow_succ', Nat.mul_add,
        Nat.mul_assoc, Nat.add_assoc]

/-- Groups of digits build the number that their values build in the power of the base. -/
theorem ofDigits_flatMap {base group : Nat} {ds : List Nat}
    (bounded : ∀ digit ∈ ds, digit < base ^ group) :
    ofDigits base (ds.flatMap (digits base group)) = ofDigits (base ^ group) ds := by
  induction ds with
  | nil => rfl
  | cons digit rest ih =>
      obtain ⟨here, later⟩ := List.forall_mem_cons.1 bounded
      rw [List.flatMap_cons, ofDigits_append, ofDigits_digits, Nat.mod_eq_of_lt here,
        length_digits, ih later, ofDigits]

/-- Digits with the most significant one first build a number from the left. -/
theorem foldl_eq_ofDigits (base : Nat) (ds : List Nat) :
    ds.foldl (fun value digit => base * value + digit) 0 = ofDigits base ds.reverse := by
  rw [← List.foldr_reverse]
  induction ds.reverse with
  | nil => rfl
  | cons digit rest ih => rw [List.foldr_cons, ih, ofDigits, Nat.add_comm]

/-- A list is read element by element if every element can be read. -/
theorem mapM_eq_pure {m : Type → Type} [Monad m] [LawfulMonad m] {α β : Type} {read : α → m β}
    (value : α → β) {list : List α} (reads : ∀ x ∈ list, read x = pure (value x)) :
    list.mapM read = pure (list.map value) := by
  induction list with
  | nil => simp
  | cons x later ih =>
      obtain ⟨here, rest⟩ := List.forall_mem_cons.1 reads
      rw [List.mapM_cons, here, ih rest]
      simp

/-- If a list is read, each of its elements is. -/
theorem exists_of_mapM {α β : Type} {read : α → Option β} {list : List α} {values : List β}
    (found : list.mapM read = some values) : ∀ x ∈ list, ∃ value, read x = some value := by
  induction list generalizing values with
  | nil => exact List.forall_mem_nil _
  | cons x later ih =>
      rw [List.mapM_cons] at found
      obtain ⟨value, here, rest⟩ := Option.bind_eq_some_iff.1 found
      obtain ⟨others, more, -⟩ := Option.bind_eq_some_iff.1 rest
      exact List.forall_mem_cons.2 ⟨⟨value, here⟩, ih more⟩

end TreeBoard.Positional
