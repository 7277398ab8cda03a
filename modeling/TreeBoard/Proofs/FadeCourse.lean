import Mathlib.Algebra.Order.Floor.Ring
import Mathlib.Data.Finset.Lattice.Fold
import Mathlib.Data.Fintype.Basic
import Mathlib.Data.List.Chain
import Mathlib.Data.List.Range
import Mathlib.Order.Lattice.Nat
import TreeBoard.Proofs.FadeLevels
import TreeBoard.Proofs.Operations

/-!
# The course of a fade

On the straight line between two levels, a place that is no whole level is at least one part in
`2 ^ 32` away from every whole level, as a fade has fewer steps than that. The errors of the
arithmetic are far smaller, so they decide nothing unless the line meets a whole level. There they
may leave the level or the one below it. Whatever they leave, a fade never turns back, and no step
of it is longer than one level, except perhaps where each step is worth a whole level. There the
arithmetic is exact.

Results:
1. `truncates_levelAt`, what the levels of a fade are, up to this choice.
2. `levelAt_exact`, steps of whole levels.
3. `maxDelta_eq`, the greatest change, which decides about the length of a fade.
4. `levels_on_line`, the levels that a fade shows, next to the straight line.
5. `gradual_between`, a fade leads from one frame to the other by steps of at most one level.
-/

namespace TreeBoard.Fade

open Binary

/-! ## Definitions -/

/-- A level is what is left when a number is cut off after an error that may put it below a whole
number. -/
structure Truncates (exact : ℚ) (level : Level) : Prop where
  below : (level.toNat : ℚ) ≤ exact
  above : exact ≤ level.toNat + 1

/-- The level of an LED at a place of a fade. At its ends stand the levels that it connects. -/
def levelOf (first last : Level) (speed : UInt32) (steps place : Nat) : Level :=
  if place = 0 then first
  else if place = steps then last
  else levelAt first last speed steps place

/-- The number of steps from one frame to the other. Without frames in between it is one. -/
def stepsBetween (start stop : Frame) (speed : UInt32) : Nat :=
  if maxDelta start stop < 2 then 1 else stepCount (maxDelta start stop) speed

/-- The greatest change of a level between two frames. -/
def greatestChange (start stop : Frame) : Nat :=
  Finset.univ.sup fun led : Fin Board.ledCount =>
    ((stop.levels[led].toNat : ℤ) - start.levels[led].toNat).natAbs

/-- Two levels that differ by one at most. -/
def Close (level next : Level) : Prop :=
  level.toNat ≤ next.toNat + 1 ∧ next.toNat ≤ level.toNat + 1

/-- The levels that an LED shows from the start of a fade to the last frame before its end. -/
def course (start stop : Frame) (speed : UInt32) (led : Fin Board.ledCount) : List Level :=
  (start :: between start stop speed).map fun frame => frame.levels[led]

/-- A fade is as long as it should be, and it leads from one frame to the other without a jump. -/
structure Gradual (start stop : Frame) (speed : UInt32) : Prop where
  /-- Frames are put in where a level changes by two or more, up to one memory of them. -/
  length : (between start stop speed).length =
    if greatestChange start stop < 2 then 0
    else min 256 (min (greatestChange start stop * max speed.toNat 1) (2 ^ 32 - 1) - 1)
  line : ∀ frame ∈ between start stop speed, frame.line = start.line
  rises : ∀ led, start.levels[led] ≤ stop.levels[led] →
    (course start stop speed led ++ [stop.levels[led]]).Pairwise (· ≤ ·)
  falls : ∀ led, stop.levels[led] ≤ start.levels[led] →
    (course start stop speed led ++ [stop.levels[led]]).Pairwise (· ≥ ·)
  bounded : ∀ led, ∀ level ∈ course start stop speed led,
    min start.levels[led].toNat stop.levels[led].toNat ≤ level.toNat ∧
      level.toNat ≤ max start.levels[led].toNat stop.levels[led].toNat
  even : ∀ led, (course start stop speed led).IsChain Close
  /-- A fade that is not cut off arrives without a jump, too. -/
  arrives : between start stop speed = betweenAll start stop speed → ∀ led,
    (course start stop speed led ++ [stop.levels[led]]).IsChain Close

namespace Truncates

variable {exact other : ℚ} {level next : Level}

theorem eq_floor (truncates : Truncates exact level) (fraction : ∀ whole : ℤ, exact ≠ whole) :
    (level.toNat : ℤ) = ⌊exact⌋ := by
  have apart := fraction (level.toNat + 1)
  push_cast at apart
  have strict := lt_of_le_of_ne truncates.above apart
  exact (Int.floor_eq_iff.2 ⟨truncates.below, strict⟩).symm

theorem eq_of_whole {whole : ℤ} (truncates : Truncates whole level) :
    (level.toNat : ℤ) = whole ∨ (level.toNat : ℤ) = whole - 1 := by
  have below : (level.toNat : ℤ) ≤ whole := by exact_mod_cast truncates.below
  have above : whole ≤ level.toNat + 1 := by exact_mod_cast truncates.above
  omega

/-- Cutting off keeps the order. -/
theorem le_of_lt (truncates : Truncates exact level) (later : Truncates other next)
    (less : exact < other) : level ≤ next := by
  have below : (level.toNat : ℚ) < next.toNat + 1 :=
    lt_of_le_of_lt truncates.below (lt_of_lt_of_le less later.above)
  exact UInt8.le_iff_toNat_le.2 (Nat.le_of_lt_succ (by exact_mod_cast below))

/-- Cutting off makes no jump of less than one level longer than one level. -/
theorem close (truncates : Truncates exact level) (later : Truncates other next)
    (near : |exact - other| < 1) : Close level next := by
  obtain ⟨low, high⟩ := abs_lt.1 near
  have down : (level.toNat : ℚ) < next.toNat + 2 := by
    linarith [truncates.below, later.above]
  have up : (next.toNat : ℚ) < level.toNat + 2 := by
    linarith [truncates.above, later.below]
  have down' : level.toNat < next.toNat + 2 := by exact_mod_cast down
  have up' : next.toNat < level.toNat + 2 := by exact_mod_cast up
  exact ⟨Nat.le_of_lt_succ down', Nat.le_of_lt_succ up'⟩

end Truncates

/-! ## Whole levels on the line -/

/-- A fraction with a small denominator is not below a whole number that it nearly reaches. -/
theorem le_of_le_add {num bound : ℤ} {steps : Nat} (positive : 0 < steps)
    (counted : steps < 2 ^ 32) (near : (bound : ℚ) ≤ num / steps + 1 / 2 ^ 47) :
    (bound : ℚ) ≤ num / steps := by
  have stepsPos : (0 : ℚ) < steps := by exact_mod_cast positive
  have fewSteps : (steps : ℚ) < 2 ^ 32 := by exact_mod_cast counted
  have scaled : (bound : ℚ) * steps < num + 1 := by
    calc (bound : ℚ) * steps ≤ (num / steps + 1 / 2 ^ 47) * steps := by gcongr
      _ = num + steps / 2 ^ 47 := by field_simp
      _ < num + 1 := by linarith
  have whole : bound * steps < num + 1 := by exact_mod_cast scaled
  rw [le_div_iff₀ stepsPos]
  exact_mod_cast Int.lt_add_one_iff.1 whole

theorem exactLevel_eq (first last : Level) {steps : Nat} (positive : 0 < steps) (step : Nat) :
    exactLevel first last steps step =
      ((first.toNat * steps + (last.toNat - first.toNat) * step : ℤ) : ℚ) / steps := by
  have stepsPos : (0 : ℚ) < steps := by exact_mod_cast positive
  rw [exactLevel]
  push_cast
  field_simp

theorem representable_units {k : ℤ} (small : k.natAbs ≤ 14) (speed : UInt32) :
    Representable ((k : ℚ) * factor speed) := by
  have short := factor_lt speed
  have bits : (k * factor speed).natAbs < 2 ^ 53 := by
    rw [Int.natAbs_mul, Int.natAbs_natCast]
    calc k.natAbs * factor speed ≤ 14 * factor speed := Nat.mul_le_mul_right _ small
      _ < 2 ^ 53 := by omega
  exact_mod_cast representable_intCast bits

section

variable {first last : Level} (lowFirst : first ≤ Board.fullLevel)
  (lowLast : last ≤ Board.fullLevel) (speed : UInt32) {steps : Nat} (positive : 0 < steps)
  (counted : steps < 2 ^ 32)
include lowFirst lowLast positive counted

/-- A level of a fade is the whole part of the line, or one level below it if it is whole. -/
theorem truncates_levelAt {step : Nat} (within : step ≤ steps) :
    Truncates (exactLevel first last steps step) (levelAt first last speed steps step) := by
  have close := abs_le.1 (value_computed_close lowFirst lowLast speed positive counted within)
  obtain ⟨nonneg, atMost, -⟩ := exactLevel_mem lowFirst lowLast within
  have shown : (levelAt first last speed steps step).toNat =
      ⌊(computed first last speed steps step).value⌋₊ := by
    have low : (levelAt first last speed steps step).toNat ≤ 7 :=
      UInt8.le_iff_toNat_le.1 (levelAt_le lowFirst lowLast speed positive counted within)
    rw [levelAt_eq, toNat_toByte] at low ⊢
    omega
  rw [exactLevel_eq first last positive] at close nonneg ⊢
  generalize (computed first last speed steps step).value = value at close shown
  generalize (first.toNat * steps + (last.toNat - first.toNat) * step : ℤ) = num at close nonneg ⊢
  constructor
  · rw [shown]
    rcases le_total 0 value with positive' | negative
    · refine le_of_le_add positive counted ?_
      have := Nat.floor_le positive'
      push_cast
      linarith
    · rwa [Nat.floor_of_nonpos negative, Nat.cast_zero]
  · rw [shown]
    have above := Nat.lt_floor_add_one value
    have mirrored : ((-(⌊value⌋₊ + 1 : ℤ) : ℤ) : ℚ) ≤ ((-num : ℤ) : ℚ) / steps := by
      refine le_of_le_add positive counted ?_
      push_cast
      rw [neg_div]
      linarith
    push_cast [neg_div] at mirrored
    linarith

/-! ## Steps of whole levels -/

variable {slope : ℤ} (even : (last.toNat : ℤ) - first.toNat = slope * steps)
include even

omit positive counted in
/-- What some of the steps add is at most what all of them add. -/
theorem natAbs_slope_le {step : Nat} (within : step ≤ steps) : (slope * step).natAbs ≤ 7 := by
  have smallFirst : first.toNat ≤ 7 := UInt8.le_iff_toNat_le.1 lowFirst
  have smallLast : last.toNat ≤ 7 := UInt8.le_iff_toNat_le.1 lowLast
  have whole : (slope * steps).natAbs ≤ 7 := by
    rw [← even]
    omega
  rw [Int.natAbs_mul, Int.natAbs_natCast] at whole ⊢
  exact Nat.le_trans (Nat.mul_le_mul_left _ within) whole

theorem value_progress_exact {step : Nat} (within : step ≤ steps) :
    (progress first last speed steps step).value = ((slope * step : ℤ) : ℚ) * factor speed := by
  have stepsPos : (0 : ℚ) < steps := by exact_mod_cast positive
  have steep := natAbs_slope_le lowFirst lowLast even (Nat.succ_le_of_lt positive)
  have part := natAbs_slope_le lowFirst lowLast even within
  rw [Nat.cast_one, mul_one] at steep
  have slopeExact : (change first last speed).value / (Binary.ofNat steps).value =
      slope * factor speed := by
    have whole : (last.toNat : ℚ) - first.toNat = slope * steps := by exact_mod_cast even
    rw [value_change lowFirst lowLast, value_count counted, whole]
    field_simp
  have slopeValue := div_exact (mantissa_count_ne_zero positive counted)
    (slopeExact ▸ representable_units (Nat.le_trans steep (by decide)) speed)
  have exact : ((change first last speed).div (Binary.ofNat steps)).value *
      (Binary.ofNat step).value = ((slope * step : ℤ) : ℚ) * factor speed := by
    rw [slopeValue, slopeExact, value_count (Nat.lt_of_le_of_lt within counted)]
    push_cast
    ring
  rw [progress, mul_exact (exact ▸ representable_units (Nat.le_trans part (by decide)) speed),
    exact]

/-- If each step is worth a whole number of levels, then nothing is rounded. -/
theorem value_computed_exact {step : Nat} (within : step ≤ steps) :
    (computed first last speed steps step).value = (first.toNat + slope * step : ℤ) := by
  have smallFirst : first.toNat ≤ 7 := UInt8.le_iff_toNat_le.1 lowFirst
  have part := natAbs_slope_le lowFirst lowLast even within
  have scalePos : (0 : ℚ) < factor speed := by exact_mod_cast factor_pos speed
  have sumExact : (units first speed).value + (progress first last speed steps step).value =
      ((first.toNat + slope * step : ℤ) : ℚ) * factor speed := by
    rw [value_units lowFirst,
      value_progress_exact lowFirst lowLast speed positive counted even within]
    push_cast
    ring
  have sumValue := add_exact (sumExact ▸ representable_units (by omega) speed)
  have exact : ((units first speed).add (progress first last speed steps step)).value /
      (Binary.ofNat (factor speed)).value = ((first.toNat + slope * step : ℤ) : ℚ) := by
    rw [sumValue, sumExact, value_factor, mul_div_cancel_right₀ _ (ne_of_gt scalePos)]
  rw [computed, div_exact (mantissa_factor_ne_zero speed)
    (exact ▸ representable_intCast (by omega)), exact]

/-- If each step is worth a whole number of levels, then no level is missed. -/
theorem levelAt_exact {step : Nat} (within : step ≤ steps) :
    ((levelAt first last speed steps step).toNat : ℤ) = first.toNat + slope * step := by
  have stepsPos : (0 : ℚ) < steps := by exact_mod_cast positive
  have onLine : exactLevel first last steps step = (first.toNat + slope * step : ℤ) := by
    have whole : (last.toNat : ℚ) - first.toNat = slope * steps := by exact_mod_cast even
    rw [exactLevel, whole]
    push_cast
    field_simp
  obtain ⟨nonneg, atMost, -⟩ := exactLevel_mem lowFirst lowLast within
  rw [onLine] at nonneg atMost
  obtain ⟨level, same⟩ := Int.eq_ofNat_of_zero_le (by exact_mod_cast nonneg)
  rw [same] at atMost
  have low : level ≤ 7 := by exact_mod_cast atMost
  rw [levelAt_eq, toNat_toByte,
    value_computed_exact lowFirst lowLast speed positive counted even within, same,
    Int.cast_natCast, Nat.floor_natCast, Nat.min_eq_right (by omega)]

end

/-! ## The length of a fade -/

theorem distance_eq (first last : Level) :
    distance first last = ((last.toNat : ℤ) - first.toNat).natAbs := by
  unfold distance
  omega

section

variable (start stop : Frame)

theorem mem_changes (led : Fin Board.ledCount) : distance start.levels[led] stop.levels[led] ∈
    List.zipWith distance start.levels.toList stop.levels.toList :=
  List.mem_iff_getElem.2 ⟨led, by simp, by simp⟩

theorem maxDelta_eq_max : maxDelta start stop =
    (List.zipWith distance start.levels.toList stop.levels.toList).max
      (List.ne_nil_of_mem (mem_changes start stop 0)) := by
  rw [maxDelta, List.foldl_max_eq_max (List.ne_nil_of_mem (mem_changes start stop 0)),
    Nat.zero_max]

theorem distance_le_maxDelta (led : Fin Board.ledCount) :
    distance start.levels[led] stop.levels[led] ≤ maxDelta start stop := by
  rw [maxDelta_eq_max]
  exact List.le_max_of_mem (mem_changes start stop led)

/-- The greatest change is the greatest of the changes of all LEDs. -/
theorem maxDelta_eq : maxDelta start stop = greatestChange start stop := by
  unfold greatestChange
  simp only [← distance_eq]
  apply le_antisymm
  · rw [maxDelta_eq_max]
    refine (List.max_le_iff _).2 fun change member => ?_
    obtain ⟨led, inside, rfl⟩ := List.mem_iff_getElem.1 member
    have inFrame : led < Board.ledCount := by simpa using inside
    rw [List.getElem_zipWith]
    exact Finset.le_sup (f := fun led : Fin Board.ledCount =>
      distance start.levels[led] stop.levels[led]) (Finset.mem_univ ⟨led, inFrame⟩)
  · exact Finset.sup_le fun led _ => distance_le_maxDelta start stop led

end

/-! ## Levels that a fade shows -/

section

variable {start stop : Frame} {speed : UInt32} {led : Fin Board.ledCount}

theorem level_le_of_inRange {frame : Frame} (inRange : frame.InRange) (led : Fin Board.ledCount) :
    frame.levels[led] ≤ Board.fullLevel :=
  inRange _ (by simp)

/-- The frames of a fade, where there are any. -/
theorem getElem?_between {index : Nat} {frame : Frame}
    (shown : (between start stop speed)[index]? = some frame) :
    2 ≤ maxDelta start stop ∧
      index + 1 < stepCount (maxDelta start stop) speed ∧
      frame = frameAt start stop speed (stepCount (maxDelta start stop) speed) (index + 1) := by
  unfold between at shown
  simp only at shown
  split at shown
  · cases shown
  · rename_i wide
    obtain ⟨step, indexed, rfl⟩ := Option.map_eq_some_iff.1 (List.getElem?_map ▸ shown)
    obtain ⟨inside, same⟩ := List.getElem?_eq_some_iff.1 indexed
    rw [List.length_range] at inside
    rw [List.getElem_range] at same
    exact ⟨Nat.le_of_not_lt wide, by omega, by rw [same]⟩

theorem levels_frameAt (start stop : Frame) (speed : UInt32) (steps step : Nat)
    (led : Fin Board.ledCount) : (frameAt start stop speed steps step).levels[led] =
      levelAt start.levels[led] stop.levels[led] speed steps step := by
  simp [frameAt]

/-- **A fade shows the straight line, cut off to whole levels.** Where the line is between two
levels, the lower one is shown, and where it meets a level, this level or the one below it is. No
level lies above the line. -/
theorem levels_on_line {index : Nat} {frame : Frame} (startInRange : start.InRange)
    (stopInRange : stop.InRange) (shown : (between start stop speed)[index]? = some frame)
    (led : Fin Board.ledCount) :
    let line := exactLevel start.levels[led] stop.levels[led]
      (min (greatestChange start stop * max speed.toNat 1) (2 ^ 32 - 1)) (index + 1)
    (frame.levels[led].toNat : ℚ) ≤ line ∧
      ((∀ whole : ℤ, line ≠ whole) → (frame.levels[led].toNat : ℤ) = ⌊line⌋) ∧
      ∀ whole : ℤ, line = whole →
        (frame.levels[led].toNat : ℤ) = whole ∨ (frame.levels[led].toNat : ℤ) = whole - 1 := by
  obtain ⟨wide, inside, rfl⟩ := getElem?_between shown
  rw [← maxDelta_eq, ← stepCount_eq]
  have truncates := truncates_levelAt (level_le_of_inRange startInRange led)
    (level_le_of_inRange stopInRange led) speed (Nat.zero_lt_of_lt inside) (stepCount_lt _ _)
    (Nat.le_of_lt inside)
  rw [← levels_frameAt] at truncates
  intro line
  have onLine : Truncates line _ := truncates
  exact ⟨onLine.below, onLine.eq_floor, fun whole same => Truncates.eq_of_whole (same ▸ onLine)⟩

/-- The first LED is fully lit, the second a little, the others more. -/
def evening : Frame :=
  ⟨((Vector.replicate Board.ledCount 4).set 0 7).set 1 2, 1⟩

/-- The first LED is off, and the second is lit more. -/
def night : Frame :=
  ⟨((Vector.replicate Board.ledCount 4).set 0 0).set 1 5, 7⟩

theorem levels_on_line_evening :
    evening.InRange ∧ night.InRange ∧ ∃ frame, (between evening night 3)[6]? = some frame ∧
      ∀ led : Fin Board.ledCount,
        let line := exactLevel evening.levels[led] night.levels[led] 21 7
        (frame.levels[led].toNat : ℚ) ≤ line ∧
          ((∀ whole : ℤ, line ≠ whole) → (frame.levels[led].toNat : ℤ) = ⌊line⌋) ∧
          ∀ whole : ℤ, line = whole →
            (frame.levels[led].toNat : ℤ) = whole ∨ (frame.levels[led].toNat : ℤ) = whole - 1 :=
  have startInRange : evening.InRange := by decide +kernel
  have stopInRange : night.InRange := by decide +kernel
  have shown : (between evening night 3)[6]? = some (frameAt evening night 3 21 7) := by
    decide +kernel
  have steps : min (greatestChange evening night * max (3 : UInt32).toNat 1) (2 ^ 32 - 1) = 21 := by
    decide +kernel
  ⟨startInRange, stopInRange, _, shown, steps ▸ levels_on_line startInRange stopInRange shown⟩

end

/-! ## Places of a fade -/

theorem exactLevel_zero (first last : Level) (steps : Nat) :
    exactLevel first last steps 0 = first.toNat := by
  simp [exactLevel]

theorem exactLevel_last (first last : Level) {steps : Nat} (positive : 0 < steps) :
    exactLevel first last steps steps = last.toNat := by
  have stepsPos : (0 : ℚ) < steps := by exact_mod_cast positive
  rw [exactLevel, mul_div_cancel_right₀ _ (ne_of_gt stepsPos)]
  ring

theorem truncates_whole (level : Level) : Truncates level.toNat level :=
  ⟨le_refl _, by linarith⟩

/-- Between two places the line rises or falls by their part of the way. -/
theorem exactLevel_sub (first last : Level) (steps place later : Nat) :
    exactLevel first last steps later - exactLevel first last steps place =
      ((last.toNat : ℚ) - first.toNat) * (later - place) / steps := by
  unfold exactLevel
  ring

section

variable {first last : Level} (lowFirst : first ≤ Board.fullLevel)
  (lowLast : last ≤ Board.fullLevel) (speed : UInt32) {steps : Nat} (positive : 0 < steps)
  (counted : steps < 2 ^ 32)
include lowFirst lowLast positive counted

theorem truncates_levelOf {place : Nat} (within : place ≤ steps) :
    Truncates (exactLevel first last steps place) (levelOf first last speed steps place) := by
  unfold levelOf
  split
  · rename_i start
    rw [start, exactLevel_zero]
    exact truncates_whole first
  · split
    · rename_i stop
      rw [stop, exactLevel_last first last positive]
      exact truncates_whole last
    · exact truncates_levelAt lowFirst lowLast speed positive counted within

theorem levelOf_exact {slope : ℤ} (even : (last.toNat : ℤ) - first.toNat = slope * steps)
    {place : Nat} (within : place ≤ steps) :
    ((levelOf first last speed steps place).toNat : ℤ) = first.toNat + slope * place := by
  unfold levelOf
  split
  · rename_i start
    rw [start, Nat.cast_zero, mul_zero, add_zero]
  · split
    · rename_i stop
      rw [stop, ← even]
      omega
    · exact levelAt_exact lowFirst lowLast speed positive counted even within

/-- An LED that ends as it started does not change in between. -/
theorem levelOf_of_eq (same : first = last) {place : Nat} (within : place ≤ steps) :
    levelOf first last speed steps place = first := by
  have even : (last.toNat : ℤ) - first.toNat = 0 * steps := by
    rw [same]
    omega
  have level := levelOf_exact lowFirst lowLast speed positive counted even within
  exact UInt8.toNat_inj.1 (by omega)

/-- The levels of two places are in the order of the line, and equal if it does not rise or fall. -/
theorem levelOf_le {place other : Nat} (within : place ≤ steps) (within' : other ≤ steps)
    (order : first = last ∨
      exactLevel first last steps place < exactLevel first last steps other) :
    levelOf first last speed steps place ≤ levelOf first last speed steps other := by
  rcases order with level | less
  · rw [levelOf_of_eq lowFirst lowLast speed positive counted level within,
      levelOf_of_eq lowFirst lowLast speed positive counted level within']
    exact UInt8.le_refl _
  · exact (truncates_levelOf lowFirst lowLast speed positive counted within).le_of_lt
      (truncates_levelOf lowFirst lowLast speed positive counted within') less

/-- A fade to a higher level never falls. -/
theorem levelOf_le_of_rising (rising : first ≤ last) {place later : Nat} (before : place < later)
    (within : later ≤ steps) :
    levelOf first last speed steps place ≤ levelOf first last speed steps later := by
  refine levelOf_le lowFirst lowLast speed positive counted
    (Nat.le_trans (Nat.le_of_lt before) within) within ?_
  refine (Nat.eq_or_lt_of_le (UInt8.le_iff_toNat_le.1 rising)).imp UInt8.toNat_inj.1
    fun higher => ?_
  have up : (0 : ℚ) < last.toNat - first.toNat := sub_pos.2 (by exact_mod_cast higher)
  have on : (0 : ℚ) < later - place := sub_pos.2 (by exact_mod_cast before)
  rw [← sub_pos, exactLevel_sub]
  positivity

/-- A fade to a lower level never rises. -/
theorem levelOf_le_of_falling (falling : last ≤ first) {place later : Nat} (before : place < later)
    (within : later ≤ steps) :
    levelOf first last speed steps later ≤ levelOf first last speed steps place := by
  refine levelOf_le lowFirst lowLast speed positive counted within
    (Nat.le_trans (Nat.le_of_lt before) within) ?_
  refine (Nat.eq_or_lt_of_le (UInt8.le_iff_toNat_le.1 falling)).imp
    (fun same => (UInt8.toNat_inj.1 same).symm) fun lower => ?_
  have down : (0 : ℚ) < first.toNat - last.toNat := sub_pos.2 (by exact_mod_cast lower)
  have on : (0 : ℚ) < later - place := sub_pos.2 (by exact_mod_cast before)
  have way : exactLevel first last steps place - exactLevel first last steps later =
      ((first.toNat : ℚ) - last.toNat) * (later - place) / steps := by
    rw [← neg_sub, exactLevel_sub]
    ring
  rw [← sub_pos, way]
  positivity

/-- With at least as many steps as levels to go, no step skips a level. -/
theorem close_levelOf (enough : distance first last ≤ steps) {place : Nat}
    (within : place + 1 ≤ steps) :
    Close (levelOf first last speed steps place) (levelOf first last speed steps (place + 1)) := by
  have earlier : place ≤ steps := Nat.le_of_succ_le within
  have whole (slope : ℤ) (even : (last.toNat : ℤ) - first.toNat = slope * steps)
      (short : slope.natAbs ≤ 1) : Close (levelOf first last speed steps place)
        (levelOf first last speed steps (place + 1)) := by
    have here := levelOf_exact lowFirst lowLast speed positive counted even earlier
    have next := levelOf_exact lowFirst lowLast speed positive counted even within
    push_cast [mul_add] at next
    unfold Close
    omega
  -- A step of exactly one level is the only one that is as long as the error allows.
  by_cases up : last.toNat = first.toNat + steps
  · exact whole 1 (by omega) (by decide)
  by_cases down : first.toNat = last.toNat + steps
  · exact whole (-1) (by omega) (by decide)
  refine (truncates_levelOf lowFirst lowLast speed positive counted earlier).close
    (truncates_levelOf lowFirst lowLast speed positive counted within) ?_
  have stepsPos : (0 : ℚ) < steps := by exact_mod_cast positive
  have short : |(last.toNat : ℤ) - first.toNat| < steps := by
    unfold distance at enough
    rw [abs_lt]
    omega
  have short' : |(last.toNat : ℚ) - first.toNat| < steps := by exact_mod_cast short
  rw [abs_sub_comm, exactLevel_sub, Nat.cast_succ, add_sub_cancel_left, mul_one, abs_div,
    abs_of_pos stepsPos, div_lt_one stepsPos]
  exact short'

end

/-! ## The whole course -/

theorem length_betweenAll (start stop : Frame) (speed : UInt32) :
    (betweenAll start stop speed).length = stepsBetween start stop speed - 1 := by
  unfold betweenAll stepsBetween
  simp only [← stepCount_eq]
  split
  · rfl
  · rw [List.length_map, List.length_range]

theorem length_between (start stop : Frame) (speed : UInt32) :
    (between start stop speed).length =
      min Board.slotCount (stepsBetween start stop speed - 1) := by
  rw [between_eq_take, List.length_take, length_betweenAll]

theorem stepsBetween_lt (start stop : Frame) (speed : UInt32) :
    stepsBetween start stop speed < 2 ^ 32 := by
  unfold stepsBetween
  split
  · decide
  · exact stepCount_lt _ _

theorem stepsBetween_pos (start stop : Frame) (speed : UInt32) :
    0 < stepsBetween start stop speed := by
  unfold stepsBetween
  split
  · decide
  · exact stepCount_pos (by omega) speed

section

variable {start stop : Frame} (speed : UInt32) (led : Fin Board.ledCount)

/-- The course of an LED is what it shows at the places before the end. -/
theorem course_eq : course start stop speed led =
    (List.range (min Board.slotCount (stepsBetween start stop speed - 1) + 1)).map
      (levelOf start.levels[led] stop.levels[led] speed (stepsBetween start stop speed)) := by
  have first := stepsBetween_pos start stop speed
  rw [List.range_succ_eq_map, List.map_cons, List.map_map, course, List.map_cons]
  congr 1
  unfold between stepsBetween
  simp only
  split
  · rfl
  · rw [List.map_map]
    refine List.map_congr_left fun index member => ?_
    have inside := List.mem_range.1 member
    rw [Function.comp_apply, Function.comp_apply, levels_frameAt, levelOf,
      if_neg (Nat.succ_ne_zero _), if_neg (by omega)]

theorem levelOf_last : levelOf start.levels[led] stop.levels[led] speed
    (stepsBetween start stop speed) (stepsBetween start stop speed) = stop.levels[led] := by
  rw [levelOf, if_neg (Nat.ne_of_gt (stepsBetween_pos start stop speed)), if_pos rfl]

theorem distance_le_stepsBetween (startInRange : start.InRange) (stopInRange : stop.InRange) :
    distance start.levels[led] stop.levels[led] ≤ stepsBetween start stop speed := by
  have near := distance_le_maxDelta start stop led
  have lowFirst : start.levels[led].toNat ≤ 7 :=
    UInt8.le_iff_toNat_le.1 (level_le_of_inRange startInRange led)
  have lowLast : stop.levels[led].toNat ≤ 7 :=
    UInt8.le_iff_toNat_le.1 (level_le_of_inRange stopInRange led)
  have short : distance start.levels[led] stop.levels[led] ≤ 7 := by
    unfold distance
    omega
  unfold stepsBetween
  split
  · omega
  · refine Nat.le_min.2 ⟨Nat.le_trans near (Nat.le_mul_of_pos_right _ (factor_pos speed)), ?_⟩
    exact Nat.le_trans short (by decide)

/-- What holds of the levels of any two places holds of any two levels, the last one included. -/
theorem pairwise_course {relation : Level → Level → Prop}
    (ordered : ∀ {place later : Nat}, place < later → later ≤ stepsBetween start stop speed →
      relation
        (levelOf start.levels[led] stop.levels[led] speed (stepsBetween start stop speed) place)
        (levelOf start.levels[led] stop.levels[led] speed (stepsBetween start stop speed) later)) :
    (course start stop speed led ++ [stop.levels[led]]).Pairwise relation := by
  have first := stepsBetween_pos start stop speed
  rw [← levelOf_last speed led, course_eq, ← List.map_singleton, ← List.map_append,
    List.pairwise_map]
  refine List.pairwise_append.2 ⟨?_, List.pairwise_singleton _ _, ?_⟩
  · refine List.pairwise_lt_range.imp_of_mem fun _ member before => ?_
    have := List.mem_range.1 member
    exact ordered before (by omega)
  · intro place member later last
    have := List.mem_range.1 member
    rw [List.mem_singleton.1 last]
    exact ordered (by omega) (le_refl _)

/-- What holds of the levels of any two places in turn holds of any two levels in turn. -/
theorem isChain_course {relation : Level → Level → Prop}
    (next : ∀ {place : Nat}, place + 1 ≤ stepsBetween start stop speed →
      relation
        (levelOf start.levels[led] stop.levels[led] speed (stepsBetween start stop speed) place)
        (levelOf start.levels[led] stop.levels[led] speed (stepsBetween start stop speed)
          (place + 1))) : (course start stop speed led).IsChain relation := by
  rw [course_eq, List.isChain_map, List.isChain_range_succ]
  intro place inside
  exact next (by omega)

/-- A course that was not cut off goes through all places. -/
theorem course_append_last
    (whole : between start stop speed = betweenAll start stop speed) :
    course start stop speed led ++ [stop.levels[led]] =
      (List.range (stepsBetween start stop speed + 1)).map
        (levelOf start.levels[led] stop.levels[led] speed (stepsBetween start stop speed)) := by
  have first := stepsBetween_pos start stop speed
  have all := congrArg List.length whole
  rw [length_between, length_betweenAll] at all
  rw [List.range_succ, List.map_append, List.map_singleton, levelOf_last, course_eq, all,
    Nat.sub_add_cancel first]

/-- In a course in order, each level stands between the first and the last. -/
theorem ends_of_pairwise (relation : Level → Level → Prop)
    (reflexive : ∀ level, relation level level)
    (ordered : (course start stop speed led ++ [stop.levels[led]]).Pairwise relation)
    {level : Level} (member : level ∈ course start stop speed led) :
    relation start.levels[led] level ∧ relation level stop.levels[led] := by
  obtain ⟨among, -, before⟩ := List.pairwise_append.1 ordered
  refine ⟨?_, before level member _ (List.mem_singleton_self _)⟩
  rw [course, List.map_cons] at among member
  rcases List.mem_cons.1 member with rfl | later
  · exact reflexive _
  · exact (List.pairwise_cons.1 among).1 level later

end

/-- **A fade runs without a jump.** It has as many frames as its speed asks for, up to one memory of
them. Each LED only rises, only falls or stays, all of its levels lie between the two that the fade
connects, and no step of it is longer than one level. -/
theorem gradual_between {start stop : Frame} (startInRange : start.InRange)
    (stopInRange : stop.InRange) (speed : UInt32) : Gradual start stop speed := by
  have positive := stepsBetween_pos start stop speed
  have counted := stepsBetween_lt start stop speed
  have lowFirst := level_le_of_inRange startInRange
  have lowLast := level_le_of_inRange stopInRange
  have rises (led) (rising : start.levels[led] ≤ stop.levels[led]) :
      (course start stop speed led ++ [stop.levels[led]]).Pairwise (· ≤ ·) :=
    pairwise_course speed led
      (levelOf_le_of_rising (lowFirst led) (lowLast led) speed positive counted rising)
  have falls (led) (falling : stop.levels[led] ≤ start.levels[led]) :
      (course start stop speed led ++ [stop.levels[led]]).Pairwise (· ≥ ·) :=
    pairwise_course speed led
      (levelOf_le_of_falling (lowFirst led) (lowLast led) speed positive counted falling)
  have near (led) {place : Nat} (within : place + 1 ≤ stepsBetween start stop speed) :=
    close_levelOf (lowFirst led) (lowLast led) speed positive counted
      (distance_le_stepsBetween speed led startInRange stopInRange) within
  constructor
  case length =>
    rw [length_between, stepsBetween, ← maxDelta_eq, ← stepCount_eq]
    split <;> rfl
  case line =>
    intro frame member
    obtain ⟨index, inside, same⟩ := List.mem_iff_getElem.1 member
    obtain ⟨-, -, rfl⟩ := getElem?_between (List.getElem?_eq_some_iff.2 ⟨inside, same⟩)
    rfl
  case rises => exact rises
  case falls => exact falls
  case bounded =>
    intro led level member
    rcases UInt8.le_total start.levels[led] stop.levels[led] with rising | falling
    · obtain ⟨above, below⟩ :=
        ends_of_pairwise speed led (· ≤ ·) UInt8.le_refl (rises led rising) member
      exact ⟨Nat.le_trans (Nat.min_le_left _ _) above, Nat.le_trans below (Nat.le_max_right _ _)⟩
    · obtain ⟨below, above⟩ :=
        ends_of_pairwise speed led (· ≥ ·) UInt8.le_refl (falls led falling) member
      exact ⟨Nat.le_trans (Nat.min_le_right _ _) above, Nat.le_trans below (Nat.le_max_left _ _)⟩
  case even => exact fun led => isChain_course speed led (near led)
  case arrives =>
    intro whole led
    rw [course_append_last speed led whole, List.isChain_map, List.isChain_range_succ]
    intro place inside
    exact near led inside

theorem gradual_between_evening :
    evening.InRange ∧ night.InRange ∧ Gradual evening night 3 ∧
      (between evening night 3).length = 20 :=
  have startInRange : evening.InRange := by decide +kernel
  have stopInRange : night.InRange := by decide +kernel
  have gradual := gradual_between startInRange stopInRange 3
  ⟨startInRange, stopInRange, gradual, gradual.length.trans (by decide +kernel)⟩

end TreeBoard.Fade
