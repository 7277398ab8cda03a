/-!
# Binary arithmetic with 53 significant bits

Fades are computed in numbers `mantissa · 2 ^ exponent` whose mantissa takes at most 53 bits. A sum,
product or quotient is the exact one, rounded to the nearest such number, and of two equally near
ones to that with the even mantissa. The exponent is not bounded: fades stay far from the ends of
the range in which the double format of the IEEE standard behaves in this way.

Results: `nearestEven_close`, rounding a quotient to an integer is off by at most one half.
-/

namespace TreeBoard.Fade

/-- The integer nearest to `num / den`, where a half goes to the even neighbour. -/
def nearestEven (num den : Nat) : Nat :=
  let quotient := num / den
  let doubled := 2 * (num % den)
  if doubled < den ∨ (doubled = den ∧ quotient % 2 = 0) then quotient else quotient + 1

/-- The number `mantissa · 2 ^ exponent`. -/
structure Binary where
  mantissa : Int
  exponent : Int
deriving DecidableEq, Repr

namespace Binary

/-- Number of bits of a mantissa. -/
abbrev precision : Nat := 53

/-- The number `sign num · |num| / den · 2 ^ exponent`, rounded. The scale of the last bit is chosen
so that `|num| / den` takes all bits of the mantissa; from the bit lengths of `num` and `den` it is
known up to one place. -/
def round (num : Int) (den : Nat) (exponent : Int) : Binary :=
  if num = 0 then ⟨0, 0⟩
  else
    let size := num.natAbs
    let guess : Int := size.log2 - den.log2 - precision
    let scale :=
      if den <<< (guess.toNat + precision) ≤ size <<< (-guess).toNat then guess + 1 else guess
    let magnitude := nearestEven (size <<< (-scale).toNat) (den <<< scale.toNat)
    ⟨num.sign * magnitude, exponent + scale⟩

/-- A whole number. -/
def ofNat (n : Nat) : Binary :=
  round n 1 0

/-- The rounded product. -/
def mul (x y : Binary) : Binary :=
  round (x.mantissa * y.mantissa) 1 (x.exponent + y.exponent)

/-- The rounded quotient. -/
def div (x y : Binary) : Binary :=
  round (x.mantissa * y.mantissa.sign) y.mantissa.natAbs (x.exponent - y.exponent)

/-- The rounded sum. -/
def add (x y : Binary) : Binary :=
  let exponent := min x.exponent y.exponent
  round (x.mantissa <<< (x.exponent - exponent).toNat +
    y.mantissa <<< (y.exponent - exponent).toNat) 1 exponent

/-- The rounded difference. -/
def sub (x y : Binary) : Binary :=
  add x ⟨-y.mantissa, y.exponent⟩

/-- The byte that a number is cut off to: the fraction is dropped, and what lies outside the range of
a byte becomes its nearest end. -/
def toByte (x : Binary) : UInt8 :=
  UInt8.ofNat (min 255 ((x.mantissa.toNat <<< x.exponent.toNat) >>> (-x.exponent).toNat))

end Binary

/-- Rounding a quotient to an integer is off by at most one half. -/
theorem nearestEven_close {num den : Nat} (positive : 0 < den) :
    2 * num ≤ (2 * nearestEven num den + 1) * den ∧
      2 * nearestEven num den * den ≤ 2 * num + den := by
  have split := Nat.div_add_mod num den
  have below := Nat.mod_lt num positive
  simp only [nearestEven]
  generalize num / den = quotient at *
  generalize num % den = remainder at *
  subst split
  have expand : ∀ k, (2 * quotient + k) * den = 2 * (den * quotient) + k * den := by
    intro k
    rw [Nat.add_mul, Nat.mul_assoc, Nat.mul_comm quotient]
  split
  · constructor
    · rw [expand]; omega
    · have := expand 0; simp at this; omega
  · constructor
    · rw [show 2 * (quotient + 1) + 1 = 2 * quotient + 3 by omega, expand]; omega
    · rw [show 2 * (quotient + 1) = 2 * quotient + 2 by omega, expand]; omega

end TreeBoard.Fade
