import TreeBoard.Fade
import TreeBoard.Proofs.Rounding

/-!
# The levels of a fade

A level of a fade is computed with one rounded quotient, product and sum, and one more quotient that
scales it back; what comes before is exact. Speeds below `2 ^ 32` leave room for that: the level
before it is cut off is within one part in `2 ^ 47` of the level that lies on the straight line.

Results:
1. `value_computed_close`, how near the computed level is to the straight line.
2. `levelAt_le`, `inRange_of_mem_between`, no level of a fade is above full brightness.
-/

namespace TreeBoard.Fade

open Binary

/-! ## Definitions -/

/-- The level on the straight line from one level to another. -/
def exactLevel (first last : Level) (steps step : Nat) : ℚ :=
  first.toNat + ((last.toNat : ℚ) - first.toNat) * step / steps

/-- A level in units of a level divided by the speed. -/
def units (level : Level) (speed : UInt32) : Binary :=
  (Binary.ofNat level.toNat).mul (Binary.ofNat (factor speed))

/-- The change from one level to another, in the same units. -/
def change (first last : Level) (speed : UInt32) : Binary :=
  (units last speed).sub (units first speed)

/-- What a step adds to the first level, for all steps so far. -/
def progress (first last : Level) (speed : UInt32) (steps step : Nat) : Binary :=
  ((change first last speed).div (Binary.ofNat steps)).mul (Binary.ofNat step)

/-- The number that is cut off to the level of an LED. -/
def computed (first last : Level) (speed : UInt32) (steps step : Nat) : Binary :=
  ((units first speed).add (progress first last speed steps step)).div
    (Binary.ofNat (factor speed))

theorem levelAt_eq (first last : Level) (speed : UInt32) (steps step : Nat) :
    levelAt first last speed steps step = (computed first last speed steps step).toByte :=
  rfl

/-! ## What is exact -/

theorem factor_pos (speed : UInt32) : 0 < factor speed :=
  Nat.lt_of_lt_of_le Nat.one_pos (Nat.le_max_right _ _)

theorem factor_lt (speed : UInt32) : factor speed < 2 ^ 32 :=
  Nat.max_lt.2 ⟨speed.toNat_lt, by decide⟩

theorem value_factor (speed : UInt32) : (Binary.ofNat (factor speed)).value = factor speed :=
  value_ofNat (Nat.lt_trans (factor_lt speed) (by decide))

theorem mantissa_factor_ne_zero (speed : UInt32) : (Binary.ofNat (factor speed)).mantissa ≠ 0 :=
  mantissa_ne_zero (value_factor speed ▸ by exact_mod_cast ne_of_gt (factor_pos speed))

/-- Numbers of steps are exact. -/
theorem value_count {count : Nat} (counted : count < 2 ^ 32) : (Binary.ofNat count).value = count :=
  value_ofNat (Nat.lt_trans counted (by decide))

theorem mantissa_count_ne_zero {count : Nat} (positive : 0 < count) (counted : count < 2 ^ 32) :
    (Binary.ofNat count).mantissa ≠ 0 :=
  mantissa_ne_zero (value_count counted ▸ by exact_mod_cast ne_of_gt positive)

/-- Levels in units of a speed are exact. -/
theorem value_units {level : Level} (low : level ≤ Board.fullLevel) (speed : UInt32) :
    (units level speed).value = level.toNat * factor speed := by
  have small : level.toNat ≤ 7 := UInt8.le_iff_toNat_le.1 low
  have short := factor_lt speed
  have exact : (Binary.ofNat level.toNat).value * (Binary.ofNat (factor speed)).value =
      level.toNat * factor speed := by
    rw [value_ofNat (by omega), value_ofNat (by omega)]
  have product : level.toNat * factor speed < 2 ^ 53 := by
    calc level.toNat * factor speed ≤ 7 * factor speed := Nat.mul_le_mul_right _ small
      _ < 2 ^ 53 := by omega
  have representable := representable_natCast product
  rw [Nat.cast_mul, ← exact] at representable
  rw [units, mul_exact representable, exact]

/-- The change between two levels is exact. -/
theorem value_change {first last : Level} (lowFirst : first ≤ Board.fullLevel)
    (lowLast : last ≤ Board.fullLevel) (speed : UInt32) :
    (change first last speed).value = ((last.toNat : ℚ) - first.toNat) * factor speed := by
  have smallFirst : first.toNat ≤ 7 := UInt8.le_iff_toNat_le.1 lowFirst
  have smallLast : last.toNat ≤ 7 := UInt8.le_iff_toNat_le.1 lowLast
  have short := factor_lt speed
  have short' : ((last.toNat : ℤ) - first.toNat).natAbs * factor speed < 2 ^ 53 := by
    calc ((last.toNat : ℤ) - first.toNat).natAbs * factor speed
        ≤ 7 * factor speed := Nat.mul_le_mul_right _ (by omega)
      _ < 2 ^ 53 := by omega
  have whole : (((last.toNat : ℤ) - first.toNat) * factor speed).natAbs < 2 ^ 53 := by
    rwa [Int.natAbs_mul, Int.natAbs_natCast]
  have representable := representable_intCast whole
  push_cast at representable
  rw [sub_mul, ← value_units lowLast, ← value_units lowFirst] at representable
  rw [change, sub_exact representable, value_units lowLast, value_units lowFirst, sub_mul]

/-! ## What is rounded -/

theorem rounds_le {exact rounded bound : ℚ} (rounds : Rounds exact rounded)
    (bounded : |exact| ≤ bound) : |rounded - exact| ≤ bound / 2 ^ 53 :=
  le_trans rounds (div_le_div_of_nonneg_right bounded (by norm_num))

theorem rounds_mul {exact rounded scale : ℚ} (rounds : Rounds exact rounded)
    (nonneg : 0 ≤ scale) : Rounds (exact * scale) (rounded * scale) := by
  unfold Rounds at rounds ⊢
  rw [← sub_mul, abs_mul, abs_mul, abs_of_nonneg nonneg, mul_div_right_comm]
  exact mul_le_mul_of_nonneg_right rounds nonneg

/-- Four roundings add up to at most one part in `2 ^ 47` of a level. Here `start` and `change` are
the first level and the way to the last, in units of the speed `scale`. -/
theorem four_roundings {start change scale steps step slope product sum level : ℚ}
    (scalePos : 0 < scale) (stepNonneg : 0 ≤ step)
    (wayBound : |change * step / steps| ≤ 7 * scale)
    (lineBound : |start + change * step / steps| ≤ 7 * scale)
    (roundsSlope : Rounds (change / steps) slope) (roundsProduct : Rounds (slope * step) product)
    (roundsSum : Rounds (start + product) sum) (roundsLevel : Rounds (sum / scale) level) :
    |level - (start + change * step / steps) / scale| ≤ 1 / 2 ^ 47 := by
  have roundsWay := rounds_mul roundsSlope stepNonneg
  have roundsBack := rounds_mul roundsLevel (le_of_lt scalePos)
  rw [div_mul_eq_mul_div] at roundsWay
  rw [div_mul_cancel₀ sum (ne_of_gt scalePos)] at roundsBack
  have wayError := abs_le.1 (rounds_le roundsWay wayBound)
  have way := abs_le.1 wayBound
  have line := abs_le.1 lineBound
  -- Each error is one part in `2 ^ 53` of a number that is at most eight levels.
  have productError : |product - slope * step| ≤ 8 * scale / 2 ^ 53 :=
    rounds_le roundsProduct (abs_le.2 ⟨by linarith, by linarith⟩)
  have productError := abs_le.1 productError
  have sumError : |sum - (start + product)| ≤ 8 * scale / 2 ^ 53 :=
    rounds_le roundsSum (abs_le.2 ⟨by linarith, by linarith⟩)
  have sumError := abs_le.1 sumError
  have levelError : |level * scale - sum| ≤ 8 * scale / 2 ^ 53 :=
    rounds_le roundsBack (abs_le.2 ⟨by linarith, by linarith⟩)
  have levelError := abs_le.1 levelError
  have total : |level * scale - (start + change * step / steps)| ≤ 1 / 2 ^ 47 * scale :=
    abs_le.2 ⟨by linarith, by linarith⟩
  have scaled : level - (start + change * step / steps) / scale =
      (level * scale - (start + change * step / steps)) / scale := by
    field_simp
  rwa [scaled, abs_div, abs_of_pos scalePos, div_le_iff₀ scalePos]

/-- The straight line stays between its ends. -/
theorem exactLevel_mem {first last : Level} (lowFirst : first ≤ Board.fullLevel)
    (lowLast : last ≤ Board.fullLevel) {steps step : Nat} (within : step ≤ steps) :
    0 ≤ exactLevel first last steps step ∧ exactLevel first last steps step ≤ 7 ∧
      |((last.toNat : ℚ) - first.toNat) * step / steps| ≤ 7 := by
  have smallFirst : (first.toNat : ℚ) ≤ 7 := by exact_mod_cast UInt8.le_iff_toNat_le.1 lowFirst
  have smallLast : (last.toNat : ℚ) ≤ 7 := by exact_mod_cast UInt8.le_iff_toNat_le.1 lowLast
  have nonnegFirst : (0 : ℚ) ≤ first.toNat := Nat.cast_nonneg _
  have nonnegLast : (0 : ℚ) ≤ last.toNat := Nat.cast_nonneg _
  have part : (0 : ℚ) ≤ step / steps := by positivity
  have whole : (step : ℚ) / steps ≤ 1 :=
    div_le_one_of_le₀ (by exact_mod_cast within) (Nat.cast_nonneg _)
  have way : |(last.toNat : ℚ) - first.toNat| ≤ 7 := abs_le.2 ⟨by linarith, by linarith⟩
  unfold exactLevel
  rw [mul_div_assoc]
  generalize (step : ℚ) / steps = portion at *
  have rest : 0 ≤ 1 - portion := sub_nonneg.2 whole
  have mixed : (first.toNat : ℚ) + ((last.toNat : ℚ) - first.toNat) * portion =
      (1 - portion) * first.toNat + portion * last.toNat := by
    ring
  rw [mixed]
  refine ⟨add_nonneg (mul_nonneg rest nonnegFirst) (mul_nonneg part nonnegLast), ?_, ?_⟩
  · calc (1 - portion) * first.toNat + portion * last.toNat
        ≤ (1 - portion) * 7 + portion * 7 := add_le_add
          (mul_le_mul_of_nonneg_left smallFirst rest) (mul_le_mul_of_nonneg_left smallLast part)
      _ = 7 := by ring
  · rw [abs_mul, abs_of_nonneg part]
    calc |(last.toNat : ℚ) - first.toNat| * portion
        ≤ 7 * 1 := mul_le_mul way whole part (by norm_num)
      _ = 7 := mul_one 7

/-- The computed level is within one part in `2 ^ 47` of the straight line. -/
theorem value_computed_close {first last : Level} (lowFirst : first ≤ Board.fullLevel)
    (lowLast : last ≤ Board.fullLevel) (speed : UInt32) {steps step : Nat} (positive : 0 < steps)
    (counted : steps < 2 ^ 32) (within : step ≤ steps) :
    |(computed first last speed steps step).value - exactLevel first last steps step| ≤
      1 / 2 ^ 47 := by
  have scalePos : (0 : ℚ) < factor speed := by exact_mod_cast factor_pos speed
  have scaleValue := value_factor speed
  have stepsValue := value_count counted
  have stepValue := value_count (Nat.lt_of_le_of_lt within counted)
  have roundsSlope := div_close (x := change first last speed)
    (mantissa_count_ne_zero positive counted)
  have roundsProgress := mul_close ((change first last speed).div (Binary.ofNat steps))
    (Binary.ofNat step)
  have roundsSum := add_close (units first speed) (progress first last speed steps step)
  have roundsLevel := div_close
    (x := (units first speed).add (progress first last speed steps step))
    (mantissa_factor_ne_zero speed)
  rw [value_change lowFirst lowLast, stepsValue] at roundsSlope
  rw [stepValue] at roundsProgress
  rw [value_units lowFirst] at roundsSum
  rw [scaleValue] at roundsLevel
  obtain ⟨above, below, way⟩ := exactLevel_mem lowFirst lowLast within
  have scaledWay : ((last.toNat : ℚ) - first.toNat) * factor speed * step / steps =
      (((last.toNat : ℚ) - first.toNat) * step / steps) * factor speed := by
    ring
  have scaledLine : (first.toNat : ℚ) * factor speed +
      ((last.toNat : ℚ) - first.toNat) * factor speed * step / steps =
        exactLevel first last steps step * factor speed := by
    rw [scaledWay, ← add_mul, exactLevel]
  have wayBound : |((last.toNat : ℚ) - first.toNat) * factor speed * step / steps| ≤
      7 * factor speed := by
    rw [scaledWay, abs_mul, abs_of_pos scalePos]
    exact mul_le_mul_of_nonneg_right way (le_of_lt scalePos)
  have lineBound : |(first.toNat : ℚ) * factor speed +
      ((last.toNat : ℚ) - first.toNat) * factor speed * step / steps| ≤ 7 * factor speed := by
    rw [scaledLine, abs_mul, abs_of_pos scalePos, abs_of_nonneg above]
    exact mul_le_mul_of_nonneg_right below (le_of_lt scalePos)
  have close := four_roundings scalePos (Nat.cast_nonneg step) wayBound lineBound roundsSlope
    roundsProgress roundsSum roundsLevel
  rwa [scaledLine, mul_div_cancel_right₀ _ (ne_of_gt scalePos)] at close

/-! ## No level above full brightness -/

/-- A level between two levels of the board is a level of the board. -/
theorem levelAt_le {first last : Level} (lowFirst : first ≤ Board.fullLevel)
    (lowLast : last ≤ Board.fullLevel) (speed : UInt32) {steps step : Nat} (positive : 0 < steps)
    (counted : steps < 2 ^ 32) (within : step ≤ steps) :
    levelAt first last speed steps step ≤ Board.fullLevel := by
  have close := abs_le.1 (value_computed_close lowFirst lowLast speed positive counted within)
  have below := (exactLevel_mem lowFirst lowLast within).2.1
  have short : ⌊(computed first last speed steps step).value⌋₊ < 8 := by
    refine (Nat.floor_lt' (by decide)).2 ?_
    calc (computed first last speed steps step).value ≤ 7 + 1 / 2 ^ 47 := by linarith
      _ < (8 : Nat) := by norm_num
  rw [levelAt_eq, UInt8.le_iff_toNat_le, toNat_toByte]
  exact Nat.le_trans (Nat.min_le_right _ _) (Nat.le_of_lt_succ short)

theorem stepCount_pos {delta : Nat} (positive : 0 < delta) (speed : UInt32) :
    0 < stepCount delta speed :=
  Nat.lt_min.2 ⟨Nat.mul_pos positive (factor_pos speed), by decide⟩

theorem stepCount_lt (delta : Nat) (speed : UInt32) : stepCount delta speed < 2 ^ 32 :=
  Nat.lt_of_le_of_lt (Nat.min_le_right _ _) (by decide)

/-- A fade between two frames in range stays in range. -/
theorem inRange_of_mem_between {start stop frame : Frame} {speed : UInt32}
    (startInRange : start.InRange) (stopInRange : stop.InRange)
    (member : frame ∈ between start stop speed) : frame.InRange := by
  rcases Nat.lt_or_ge (maxDelta start stop) 2 with narrow | wide
  · simp [between, narrow] at member
  simp only [between, if_neg (Nat.not_lt.2 wide)] at member
  obtain ⟨index, indexed, rfl⟩ := List.mem_map.1 member
  have positive : 0 < stepCount (maxDelta start stop) speed := stepCount_pos (by omega) speed
  have within : index + 1 ≤ stepCount (maxDelta start stop) speed := by
    have := Nat.lt_min.1 (List.mem_range.1 indexed)
    omega
  intro level lit
  obtain ⟨led, bound, rfl⟩ := List.mem_iff_getElem.1 lit
  simp only [frameAt, Vector.getElem_toList, Vector.getElem_zipWith]
  refine levelAt_le (startInRange _ ?_) (stopInRange _ ?_) speed positive (stepCount_lt _ _) within
  · simp
  · simp

end TreeBoard.Fade
