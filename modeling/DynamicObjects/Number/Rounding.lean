import DynamicObjects.Number.Binary64

/-! # Correct rounding

    Rounding a quotient of natural numbers to the nearest whole number, a tie going to
    the even neighbour, and from it rounding to the nearest `Binary64`.  The four
    arithmetic operations are their exact results rounded once. -/

namespace DynamicObjects

/-- The whole number nearest to `num / den`; of two equally near ones the even one. -/
def roundHalfEven (num den : Nat) : Nat :=
  let q := num / den
  let r := num % den
  if 2 * r < den then q else if den < 2 * r then q + 1 else q + q % 2

namespace Binary64

/-- The magnitude of the number nearest to `num / den` units.

    Below `2 ^ 53` units every whole number of units is a number of the format and the
    magnitude is the number of units itself.  Above, numbers lie `2 ^ p` units apart and
    each step of `p` moves the magnitude on by `2 ^ 52`; a significand that is rounded up
    to `2 ^ 53` carries into the next exponent by itself.  Whatever does not fit becomes
    infinite. -/
def nearestMagnitude (num den : Nat) : Nat :=
  let p := (num / den).log2 - 52
  min (p * Nat.pow 2 52 + roundHalfEven num (den * Nat.pow 2 p)) infiniteMagnitude

/-- The number nearest to `num / den` units, with the given sign. -/
def ofUnits (negative : Bool) (num den : Nat) : Binary64 :=
  ofMagnitude negative (nearestMagnitude num den)

/-- The number nearest to the quotient `num / den`, with the given sign. -/
def ofQuotient (negative : Bool) (num den : Nat) : Binary64 :=
  ofUnits negative (num * unitsPerOne) den

def wholeMagnitude (n : Nat) : Nat :=
  if n = 0 then 0 else (n.log2 + 1022) * Nat.pow 2 52 + n * Nat.pow 2 (52 - n.log2)

/-- The number nearest to an integer.  An integer of at most 53 bits needs no rounding. -/
def ofInt (n : Int) : Binary64 :=
  if n.natAbs < Nat.pow 2 53 then ofMagnitude (decide (n < 0)) (wholeMagnitude n.natAbs)
  else ofQuotient (decide (n < 0)) n.natAbs 1

def ofBool (b : Bool) : Binary64 := if b then one else zero false

/-! ## Whole numbers

    An integer becomes the number nearest to it, whichever way it is computed. -/

theorem two_pow_split {i j k : Nat} (h : i + j = k) :
    Nat.pow 2 k = Nat.pow 2 i * Nat.pow 2 j := h ▸ Nat.pow_add 2 i j

theorem two_pow_pos (k : Nat) : 0 < Nat.pow 2 k := Nat.pow_pos (by decide)

theorem log2_mul_two_pow {n : Nat} (h : n ≠ 0) (k : Nat) :
    (n * Nat.pow 2 k).log2 = n.log2 + k := by
  rw [Nat.log2_eq_iff (Nat.mul_ne_zero h (Nat.ne_of_gt (two_pow_pos k))), Nat.pow_eq,
    Nat.add_right_comm, Nat.pow_add, Nat.pow_add]
  exact ⟨Nat.mul_le_mul_right _ (Nat.log2_self_le h),
    Nat.mul_lt_mul_of_pos_right Nat.lt_log2_self (two_pow_pos k)⟩

theorem roundHalfEven_mul (q : Nat) {den : Nat} (h : 0 < den) :
    roundHalfEven (q * den) den = q := by
  simp [roundHalfEven, Nat.mul_div_cancel q h, h]

theorem nearestMagnitude_whole {n : Nat} (small : n < Nat.pow 2 53) :
    nearestMagnitude (n * unitsPerOne) 1 = wholeMagnitude n := by
  by_cases h : n = 0
  · subst h
    rw [Nat.zero_mul, wholeMagnitude, if_pos rfl]
    decide
  · have short : n.log2 ≤ 52 := Nat.le_of_lt_succ ((Nat.log2_lt h).mpr small)
    have exponent : 52 - n.log2 + (n.log2 + 1022) = unitExponent := by
      rw [unitExponent]
      omega
    have units : unitsPerOne = Nat.pow 2 (52 - n.log2) * Nat.pow 2 (n.log2 + 1022) := by
      rw [unitsPerOne_eq, two_pow_split exponent]
    have log : (n * unitsPerOne).log2 - 52 = n.log2 + 1022 := by
      rw [unitsPerOne_eq, log2_mul_two_pow h]
      omega
    have significand : n * Nat.pow 2 (52 - n.log2) < Nat.pow 2 53 := by
      have split : Nat.pow 2 53 = Nat.pow 2 (n.log2 + 1) * Nat.pow 2 (52 - n.log2) :=
        two_pow_split (by omega)
      rw [split]
      exact Nat.mul_lt_mul_of_pos_right Nat.lt_log2_self (two_pow_pos _)
    have finite : (n.log2 + 1022) * Nat.pow 2 52 + n * Nat.pow 2 (52 - n.log2) ≤
        infiniteMagnitude :=
      calc
        (n.log2 + 1022) * Nat.pow 2 52 + n * Nat.pow 2 (52 - n.log2) ≤
            (52 + 1022) * Nat.pow 2 52 + Nat.pow 2 53 :=
          Nat.add_le_add (Nat.mul_le_mul_right _ (Nat.add_le_add_right short 1022))
            (Nat.le_of_lt significand)
        _ ≤ infiniteMagnitude := by decide
    rw [nearestMagnitude, Nat.div_one, log, Nat.one_mul, units, ← Nat.mul_assoc,
      roundHalfEven_mul _ (two_pow_pos _), wholeMagnitude, if_neg h]
    exact Nat.min_eq_left finite

theorem ofInt_eq_ofQuotient (n : Int) :
    ofInt n = ofQuotient (decide (n < 0)) n.natAbs 1 := by
  rw [ofInt]
  split
  · rename_i small
    rw [ofQuotient, ofUnits, nearestMagnitude_whole small]
  · rfl

/-! ## Arithmetic -/

/-- The sum.  A sum that cancels is positive zero, unless both terms are negative. -/
def add (x y : Binary64) : Binary64 :=
  if x.isNaN || y.isNaN then nan
  else if x.isInfinite then
    if y.isInfinite && x.isNegative != y.isNegative then nan else x
  else if y.isInfinite then y
  else
    let sum := x.signedUnits + y.signedUnits
    if sum = 0 then zero (x.isNegative && y.isNegative)
    else ofUnits (decide (sum < 0)) sum.natAbs 1

def sub (x y : Binary64) : Binary64 := x.add y.negate

/-- The product.  Zero times infinity is not a number. -/
def mul (x y : Binary64) : Binary64 :=
  let negative := x.isNegative != y.isNegative
  if x.isNaN || y.isNaN then nan
  else if x.isInfinite || y.isInfinite then
    if x.isZero || y.isZero then nan else infinity negative
  else ofUnits negative (x.units * y.units) unitsPerOne

/-- The quotient.  Zero by zero and infinity by infinity are not numbers; any other number
    by zero is infinite. -/
def div (x y : Binary64) : Binary64 :=
  let negative := x.isNegative != y.isNegative
  if x.isNaN || y.isNaN then nan
  else if x.isInfinite then
    if y.isInfinite then nan else infinity negative
  else if y.isInfinite then zero negative
  else if y.isZero then
    if x.isZero then nan else infinity negative
  else ofUnits negative (x.units * unitsPerOne) y.units

end Binary64

end DynamicObjects
