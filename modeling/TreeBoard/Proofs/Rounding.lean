import Mathlib.Algebra.Order.Field.Power
import Mathlib.Data.Nat.Log
import Mathlib.Data.Rat.Floor
import Mathlib.Tactic.FieldSimp
import Mathlib.Tactic.Linarith
import Mathlib.Tactic.Ring
import TreeBoard.Fade.Binary

/-!
# How far rounding is off

A rounded sum, product or quotient differs from the exact one by at most one part in `2 ^ 53`, and
not at all if the exact one has 53 significant bits.

Results:
1. `round_close`, rounding is off by at most one part in `2 ^ 53`.
2. `round_exact`, numbers with 53 significant bits are not changed.
3. `mul_close`, `div_close`, `add_close`, the operations; `mul_exact`, `div_exact`, `add_exact`,
   `sub_exact`, where they are exact; `toNat_toByte`, cutting off.
-/

namespace TreeBoard.Fade

namespace Binary

/-! ## Definitions -/

/-- The number that is meant. -/
def value (x : Binary) : ℚ :=
  x.mantissa * 2 ^ x.exponent

/-- One rational number is another up to the error of a rounding. -/
def Rounds (exact rounded : ℚ) : Prop :=
  |rounded - exact| ≤ |exact| / 2 ^ 53

/-- A number that has at most 53 significant bits. -/
def Representable (q : ℚ) : Prop :=
  ∃ (significand : ℤ) (place : ℤ), q = significand * 2 ^ place ∧ significand.natAbs < 2 ^ 53

/-- The place of the last bit that is kept of a quotient. -/
def lastPlace (size den : Nat) : ℤ :=
  let guess : ℤ := size.log2 - den.log2 - precision
  if den <<< (guess.toNat + precision) ≤ size <<< (-guess).toNat then guess + 1 else guess

/-- A quotient in units of the last place that is kept, as a numerator and a denominator. -/
def scaled (size den : Nat) : Nat × Nat :=
  (size <<< (-lastPlace size den).toNat, den <<< (lastPlace size den).toNat)

theorem round_eq {num : ℤ} (nonzero : num ≠ 0) (den : Nat) (exponent : ℤ) :
    round num den exponent =
      ⟨num.sign * nearestEven (scaled num.natAbs den).1 (scaled num.natAbs den).2,
        exponent + lastPlace num.natAbs den⟩ := by
  unfold round
  rw [if_neg nonzero]
  rfl

theorem value_zero (exponent : ℤ) : value ⟨0, exponent⟩ = 0 := by
  simp [value]

theorem round_zero (den : Nat) (exponent : ℤ) : (round 0 den exponent).value = 0 := by
  rw [round, if_pos rfl, value_zero]

/-! ## The last place -/

theorem two_zpow_eq (place : ℤ) :
    (2 : ℚ) ^ place = 2 ^ place.toNat / 2 ^ (-place).toNat := by
  conv => lhs; rw [← Int.toNat_sub_toNat_neg place]
  rw [zpow_sub₀ two_ne_zero, zpow_natCast, zpow_natCast]

/-- Shifting by places multiplies by a power of two. -/
theorem shifted_div (size den : Nat) (place : ℤ) :
    ((size <<< (-place).toNat : ℕ) : ℚ) / ((den <<< place.toNat : ℕ) : ℚ) =
      size / den / 2 ^ place := by
  rw [Nat.shiftLeft_eq, Nat.shiftLeft_eq, two_zpow_eq]
  push_cast
  field_simp

theorem scaled_div (size den : Nat) :
    ((scaled size den).1 : ℚ) / (scaled size den).2 = size / den / 2 ^ lastPlace size den :=
  shifted_div size den _

theorem scaled_pos (size : Nat) {den : Nat} (positive : 0 < den) : 0 < (scaled size den).2 := by
  simp only [scaled, Nat.shiftLeft_eq]
  exact Nat.mul_pos positive (Nat.two_pow_pos _)

/-- By the bit lengths of its parts a quotient is known up to one bit. -/
theorem le_quotient {size den : Nat} (nonzero : size ≠ 0) (positive : 0 < den) :
    (2 : ℚ) ^ 52 ≤ size / den / 2 ^ ((size.log2 : ℤ) - den.log2 - precision) := by
  have low : (2 : ℚ) ^ size.log2 ≤ size := by exact_mod_cast Nat.log2_self_le nonzero
  have high : (den : ℚ) ≤ 2 ^ (den.log2 + 1) := by
    exact_mod_cast Nat.le_of_lt (Nat.lt_log2_self (n := den))
  have power : (0 : ℚ) < 2 ^ ((size.log2 : ℤ) - den.log2 - precision) := by positivity
  have below : (0 : ℚ) < den := by exact_mod_cast positive
  rw [le_div_iff₀ power, le_div_iff₀ below]
  calc (2 : ℚ) ^ 52 * 2 ^ ((size.log2 : ℤ) - den.log2 - precision) * den
      ≤ 2 ^ 52 * 2 ^ ((size.log2 : ℤ) - den.log2 - precision) * 2 ^ (den.log2 + 1) := by
        gcongr
    _ = 2 ^ size.log2 := by
        rw [← zpow_natCast, ← zpow_natCast, ← zpow_natCast, ← zpow_add₀ two_ne_zero,
          ← zpow_add₀ two_ne_zero]
        congr 1
        push_cast [precision]
        ring
    _ ≤ size := low

/-- Enough bits are kept: in units of the last place, a quotient is at least `2 ^ 52`. -/
theorem le_scaled {size den : Nat} (nonzero : size ≠ 0) (positive : 0 < den) :
    (2 : ℚ) ^ 52 ≤ (scaled size den).1 / (scaled size den).2 := by
  rw [scaled_div]
  unfold lastPlace
  simp only
  split
  · rename_i fits
    generalize (size.log2 : ℤ) - den.log2 - precision = guess at fits ⊢
    -- The guess left one bit more than is kept.
    have whole :
        ((den <<< guess.toNat : ℕ) : ℚ) * 2 ^ 53 ≤ ((size <<< (-guess).toNat : ℕ) : ℚ) := by
      rw [Nat.shiftLeft_add, Nat.shiftLeft_eq _ precision] at fits
      exact_mod_cast fits
    have below : (0 : ℚ) < ((den <<< guess.toNat : ℕ) : ℚ) := by
      rw [Nat.shiftLeft_eq]
      exact_mod_cast Nat.mul_pos positive (Nat.two_pow_pos _)
    rw [mul_comm, ← le_div_iff₀ below, shifted_div] at whole
    rw [zpow_add₀ two_ne_zero, zpow_one, ← div_div]
    linarith
  · exact le_quotient nonzero positive

/-! ## Rounding -/

theorem nearestEven_near (num : Nat) {den : Nat} (positive : 0 < den) :
    |(nearestEven num den : ℚ) - num / den| ≤ 1 / 2 := by
  have below : (0 : ℚ) < den := by exact_mod_cast positive
  obtain ⟨lower, upper⟩ := @nearestEven_close num den positive
  have lower' : (2 : ℚ) * num ≤ (2 * nearestEven num den + 1) * den := by exact_mod_cast lower
  have upper' : (2 : ℚ) * nearestEven num den * den ≤ 2 * num + den := by exact_mod_cast upper
  have exact : (num : ℚ) / den * den = num := div_mul_cancel₀ _ (ne_of_gt below)
  rw [abs_le]
  constructor
  · by_contra far
    nlinarith
  · by_contra far
    nlinarith

theorem nearestEven_mul (n : Nat) {den : Nat} (positive : 0 < den) :
    nearestEven (n * den) den = n := by
  unfold nearestEven
  rw [Nat.mul_div_cancel n positive, Nat.mul_mod_left]
  exact if_pos (.inl positive)

/-- The unit in which a quotient is rounded. -/
def unit (num : ℤ) (den : Nat) (exponent : ℤ) : ℚ :=
  2 ^ lastPlace num.natAbs den * 2 ^ exponent

theorem unit_pos (num : ℤ) (den : Nat) (exponent : ℤ) : 0 < unit num den exponent := by
  unfold unit
  positivity

theorem value_round {num : ℤ} (nonzero : num ≠ 0) (den : Nat) (exponent : ℤ) :
    (round num den exponent).value =
      num.sign * nearestEven (scaled num.natAbs den).1 (scaled num.natAbs den).2 *
        unit num den exponent := by
  rw [round_eq nonzero, value, unit, zpow_add₀ two_ne_zero]
  push_cast
  ring

theorem exact_eq (num : ℤ) (den : Nat) (exponent : ℤ) :
    (num : ℚ) / den * 2 ^ exponent =
      num.sign * ((scaled num.natAbs den).1 / (scaled num.natAbs den).2) *
        unit num den exponent := by
  have size : (num : ℚ) = num.sign * num.natAbs := by
    conv => lhs; rw [← Int.sign_mul_natAbs num]
    rw [Int.cast_mul, Int.cast_natCast]
  have power : (2 : ℚ) ^ lastPlace num.natAbs den ≠ 0 := by positivity
  rw [scaled_div, unit]
  conv => lhs; rw [size]
  field_simp

theorem abs_sign {num : ℤ} (nonzero : num ≠ 0) : |(num.sign : ℚ)| = 1 := by
  rcases Int.lt_or_gt_of_ne nonzero with negative | positive
  · simp [Int.sign_eq_neg_one_of_neg negative]
  · simp [Int.sign_eq_one_of_pos positive]

/-- Rounding is off by at most one part in `2 ^ 53`. -/
theorem round_close (num : ℤ) {den : Nat} (positive : 0 < den) (exponent : ℤ) :
    Rounds (num / den * 2 ^ exponent) (round num den exponent).value := by
  unfold Rounds
  by_cases zero : num = 0
  · rw [zero, round_zero]
    simp
  · have long := le_scaled (Int.natAbs_ne_zero.2 zero) positive
    have near := nearestEven_near (scaled num.natAbs den).1 (scaled_pos num.natAbs positive)
    have place := unit_pos num den exponent
    rw [value_round zero, exact_eq, ← sub_mul, ← mul_sub, abs_mul, abs_mul, abs_mul, abs_mul,
      abs_sign zero, abs_of_pos place, one_mul, one_mul]
    generalize ((scaled num.natAbs den).1 : ℚ) / (scaled num.natAbs den).2 = quotient at *
    have large : 0 < quotient := by linarith
    rw [abs_of_pos large, mul_div_right_comm]
    gcongr
    linarith

/-- A quotient that has 53 significant bits is a whole number of units. -/
theorem exists_scaled_eq {num : ℤ} (nonzero : num ≠ 0) {den : Nat} (positive : 0 < den)
    {exponent : ℤ} (representable : Representable ((num : ℚ) / den * 2 ^ exponent)) :
    ∃ n : Nat, (scaled num.natAbs den).1 = n * (scaled num.natAbs den).2 := by
  obtain ⟨significand, place, same, short⟩ := representable
  have long := le_scaled (Int.natAbs_ne_zero.2 nonzero) positive
  have below : (0 : ℚ) < (scaled num.natAbs den).2 := by
    exact_mod_cast scaled_pos num.natAbs positive
  have quotient : ((scaled num.natAbs den).1 : ℚ) / (scaled num.natAbs den).2 =
      significand.natAbs * 2 ^ (place - (lastPlace num.natAbs den + exponent)) := by
    have size := congrArg abs same
    rw [exact_eq, abs_mul, abs_mul, abs_sign nonzero, one_mul, abs_of_pos (unit_pos _ _ _),
      abs_of_nonneg (by positivity), abs_mul, ← Int.cast_abs, ← Int.natCast_natAbs,
      Int.cast_natCast, abs_of_pos (by positivity : (0 : ℚ) < 2 ^ place), unit,
      ← zpow_add₀ two_ne_zero] at size
    rw [zpow_sub₀ two_ne_zero, ← mul_div_assoc, ← size, mul_div_cancel_right₀]
    positivity
  have fine : 0 ≤ place - (lastPlace num.natAbs den + exponent) := by
    by_contra coarse
    have half : (2 : ℚ) ^ (place - (lastPlace num.natAbs den + exponent)) ≤ 2 ^ (-1 : ℤ) :=
      zpow_le_zpow_right₀ one_le_two (by omega)
    have bits : (significand.natAbs : ℚ) < 2 ^ 53 := by exact_mod_cast short
    have few : (significand.natAbs : ℚ) * 2 ^ (place - (lastPlace num.natAbs den + exponent)) ≤
        significand.natAbs * 2 ^ (-1 : ℤ) := by gcongr
    rw [quotient] at long
    rw [zpow_neg_one] at few
    linarith
  obtain ⟨shift, whole⟩ := Int.eq_ofNat_of_zero_le fine
  refine ⟨significand.natAbs * 2 ^ shift, ?_⟩
  rw [whole, zpow_natCast, div_eq_iff (ne_of_gt below)] at quotient
  exact_mod_cast quotient

/-- Numbers with 53 significant bits are not changed. -/
theorem round_exact (num : ℤ) {den : Nat} (positive : 0 < den) (exponent : ℤ)
    (representable : Representable ((num : ℚ) / den * 2 ^ exponent)) :
    (round num den exponent).value = num / den * 2 ^ exponent := by
  by_cases zero : num = 0
  · rw [zero, round_zero]
    simp
  · obtain ⟨n, whole⟩ := exists_scaled_eq zero positive representable
    have below := scaled_pos num.natAbs positive
    have nonzero : ((scaled num.natAbs den).2 : ℚ) ≠ 0 := by exact_mod_cast ne_of_gt below
    rw [value_round zero, exact_eq num den exponent, whole, nearestEven_mul n below, Nat.cast_mul,
      mul_div_cancel_right₀ _ nonzero]

/-! ## Arithmetic -/

theorem representable_natCast {n : Nat} (short : n < 2 ^ 53) : Representable (n : ℚ) :=
  ⟨n, 0, by simp, by simpa using short⟩

theorem representable_intCast {n : ℤ} (short : n.natAbs < 2 ^ 53) : Representable (n : ℚ) :=
  ⟨n, 0, by simp, short⟩

theorem value_ofNat {n : Nat} (short : n < 2 ^ 53) : (ofNat n).value = n := by
  have exact : ((n : ℤ) : ℚ) / (1 : Nat) * 2 ^ (0 : ℤ) = n := by simp
  rw [ofNat, round_exact n Nat.one_pos 0 (exact ▸ representable_natCast short), exact]

theorem value_mul_value (x y : Binary) : x.value * y.value =
    ((x.mantissa * y.mantissa : ℤ) : ℚ) / (1 : Nat) * 2 ^ (x.exponent + y.exponent) := by
  rw [value, value, zpow_add₀ two_ne_zero]
  push_cast
  ring

theorem mul_close (x y : Binary) : Rounds (x.value * y.value) (x.mul y).value := by
  rw [value_mul_value]
  exact round_close _ Nat.one_pos _

theorem mul_exact {x y : Binary} (representable : Representable (x.value * y.value)) :
    (x.mul y).value = x.value * y.value := by
  rw [value_mul_value] at representable ⊢
  exact round_exact _ Nat.one_pos _ representable

theorem value_div_value {x y : Binary} (nonzero : y.mantissa ≠ 0) : x.value / y.value =
    ((x.mantissa * y.mantissa.sign : ℤ) : ℚ) / y.mantissa.natAbs *
      2 ^ (x.exponent - y.exponent) := by
  have size : (y.mantissa : ℚ) = y.mantissa.sign * y.mantissa.natAbs := by
    conv => lhs; rw [← Int.sign_mul_natAbs y.mantissa]
    rw [Int.cast_mul, Int.cast_natCast]
  have absolute : (y.mantissa.natAbs : ℚ) ≠ 0 := by
    exact_mod_cast Int.natAbs_ne_zero.2 nonzero
  rw [value, value, size, zpow_sub₀ two_ne_zero]
  rcases Int.lt_or_gt_of_ne nonzero with negative | positive
  · rw [Int.sign_eq_neg_one_of_neg negative]
    push_cast
    field_simp
  · rw [Int.sign_eq_one_of_pos positive]
    push_cast
    field_simp

theorem div_close {x y : Binary} (nonzero : y.mantissa ≠ 0) :
    Rounds (x.value / y.value) (x.div y).value := by
  rw [value_div_value nonzero]
  exact round_close _ (Int.natAbs_pos.2 nonzero) _

theorem div_exact {x y : Binary} (nonzero : y.mantissa ≠ 0)
    (representable : Representable (x.value / y.value)) :
    (x.div y).value = x.value / y.value := by
  rw [value_div_value nonzero] at representable ⊢
  exact round_exact _ (Int.natAbs_pos.2 nonzero) _ representable

theorem value_shift (x : Binary) {place : ℤ} (below : place ≤ x.exponent) :
    x.value = ((x.mantissa <<< (x.exponent - place).toNat : ℤ) : ℚ) * 2 ^ place := by
  have shift : x.exponent = (x.exponent - place).toNat + place := by omega
  rw [Int.shiftLeft_eq, value]
  conv => lhs; rw [shift, zpow_add₀ two_ne_zero, zpow_natCast]
  push_cast
  ring

theorem value_add_value (x y : Binary) : x.value + y.value =
    ((x.mantissa <<< (x.exponent - min x.exponent y.exponent).toNat +
      y.mantissa <<< (y.exponent - min x.exponent y.exponent).toNat : ℤ) : ℚ) / (1 : Nat) *
        2 ^ min x.exponent y.exponent := by
  rw [value_shift x (min_le_left x.exponent y.exponent),
    value_shift y (min_le_right x.exponent y.exponent)]
  push_cast
  ring

theorem add_close (x y : Binary) : Rounds (x.value + y.value) (x.add y).value := by
  rw [value_add_value]
  exact round_close _ Nat.one_pos _

theorem add_exact {x y : Binary} (representable : Representable (x.value + y.value)) :
    (x.add y).value = x.value + y.value := by
  rw [value_add_value] at representable ⊢
  exact round_exact _ Nat.one_pos _ representable

theorem value_sub_value (x y : Binary) :
    x.value - y.value = x.value + value ⟨-y.mantissa, y.exponent⟩ := by
  simp only [value]
  push_cast
  ring

theorem sub_exact {x y : Binary} (representable : Representable (x.value - y.value)) :
    (x.sub y).value = x.value - y.value := by
  rw [value_sub_value] at representable ⊢
  exact add_exact representable

theorem mantissa_ne_zero {x : Binary} (nonzero : x.value ≠ 0) : x.mantissa ≠ 0 := by
  intro zero
  exact nonzero (by rw [value, zero, Int.cast_zero, zero_mul])

/-! ## Cutting off -/

/-- A number is cut off to the whole number below it, within the range of a byte. -/
theorem toNat_toByte (x : Binary) : x.toByte.toNat = min 255 ⌊x.value⌋₊ := by
  have cut : (x.mantissa.toNat <<< x.exponent.toNat) >>> (-x.exponent).toNat = ⌊x.value⌋₊ := by
    rw [Nat.shiftLeft_eq, Nat.shiftRight_eq_div_pow]
    rcases le_total 0 x.mantissa with positive | negative
    · obtain ⟨size, same⟩ := Int.eq_ofNat_of_zero_le positive
      have whole : x.value =
          ((size * 2 ^ x.exponent.toNat : ℕ) : ℚ) / ((2 ^ (-x.exponent).toNat : ℕ) : ℚ) := by
        rw [value, same, two_zpow_eq]
        push_cast
        ring
      rw [whole, Rat.natFloor_natCast_div_natCast, same, Int.toNat_natCast]
    · have below : x.value ≤ 0 := by
        refine mul_nonpos_of_nonpos_of_nonneg ?_ (by positivity)
        exact_mod_cast negative
      rw [Nat.floor_of_nonpos below, Int.toNat_of_nonpos negative, Nat.zero_mul, Nat.zero_div]
  rw [toByte, cut]
  exact UInt8.toNat_ofNat_of_lt' (Nat.lt_of_le_of_lt (Nat.min_le_left _ _) (by decide))

end Binary

end TreeBoard.Fade
