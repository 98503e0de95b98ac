import DynamicObjects.Number.Arithmetic
import DynamicObjects.Proofs.Number.Exact

/-! # Arithmetic is exact arithmetic, rounded once

    IEEE 754 defines an operation on floats by its exact result, which is rounded to
    the nearest float, or to infinity if it is too large.  `Exact` has the exact
    results: rational numbers, where zero has a sign, infinities, and what is not a
    number.

    The argument:
    1. From half a step in front of `2 ^ 1024` on, what would be rounded to the
       nearest float becomes infinity.
    2. The operations on floats compute the exact result in units, as a quotient for
       products and quotients, and round that.

    Main results:
    - `Binary64.ofUnits_isRounded`: rounding gives the nearest float, or infinity
    - `NumberOp.onFloats_rounds`: the operations on floats are those of IEEE 754 -/

namespace DynamicObjects

namespace Binary64

/-! ## Rounding to nearest -/

/-- From `2 ^ 1024 - 2 ^ 970` on, which is half a step in front of the first power of
    two that is too large, numbers are rounded to infinity. -/
def overflowBound : ℚ := halfStepBefore 970

/-- A float is a number **rounded to nearest**, under a sign that also tells which zero
    and which infinity it is. -/
structure IsRounded (negative : Bool) (q : ℚ) (x : Binary64) : Prop where
  sign : x.isNegative = negative
  nearest : |q| < overflowBound → IsNearest q x
  overflow : overflowBound ≤ |q| → x = infinity negative

section rounding
variable {num den : Nat}

theorem halfStepBefore_add (e : Nat) {j k : Nat} (h : e + j = k) :
    halfStepBefore k = halfStepBefore e * Nat.pow 2 j := by
  rw [halfStepBefore, halfStepBefore, Nat.mul_assoc, two_pow_split h]

theorem overflowBound_eq : overflowBound = overflowUnits / unitsPerOne := by
  have hunits : overflowUnits = halfStepBefore 970 * unitsPerOne := by
    rw [overflowUnits, unitsPerOne_eq]
    exact halfStepBefore_add 970 rfl
  rw [hunits, overflowBound, Nat.cast_mul]
  exact (mul_div_cancel_right₀ _ (ne_of_gt unitsPerOne_pos)).symm

theorem abs_applySign (negative : Bool) (n : Nat) :
    |((applySign negative n : Int) : ℚ)| = n := by
  cases negative <;> simp [applySign]

/-- **Rounding** a quotient of units gives the nearest float, or infinity. -/
theorem ofUnits_isRounded (negative : Bool) (num : Nat) (hden : 0 < den) :
    IsRounded negative ((applySign negative num : Int) / (den * unitsPerOne))
      (ofUnits negative num den) := by
  have hpos : (0 : ℚ) < den * unitsPerOne := mul_pos (by exact_mod_cast hden) unitsPerOne_pos
  have hbound : |((applySign negative num : Int) : ℚ) / (den * unitsPerOne)| < overflowBound ↔
      nearestMagnitude num den < infiniteMagnitude := by
    rw [nearestMagnitude_lt_iff num hden, abs_div, abs_of_pos hpos, abs_applySign,
      overflowBound_eq, div_mul_eq_div_div, div_lt_div_iff_of_pos_right unitsPerOne_pos,
      div_lt_iff₀ (by exact_mod_cast hden)]
    exact_mod_cast Iff.rfl
  refine ⟨(fields_ofUnits negative num den).1, fun h => ?_, fun h => ?_⟩
  · exact ofUnits_isNearest negative hden (hbound.mp h)
  · have hinfinite : nearestMagnitude num den = infiniteMagnitude := by
      have hle := nearestMagnitude_le num den
      have hnot := mt hbound.mpr (not_lt.mpr h)
      omega
    rw [ofUnits, hinfinite, infinity]

end rounding

end Binary64

/-! ## Exact results -/

/-- What a float denotes, and what an operation on floats gives **before it is
    rounded**: a number with a sign, which matters if it is zero, an infinity, or
    nothing that is a number. -/
inductive Extended where
  | number (q : ℚ) (negative : Bool)
  | infinite (negative : Bool)
  | nan

/-- What a float denotes. -/
def Binary64.meaning (x : Binary64) : Extended :=
  if x.isNaN then .nan
  else if x.isInfinite then .infinite x.isNegative
  else .number x.toRat x.isNegative

namespace Extended

/-- The same with the other sign. -/
def negate : Extended → Extended
  | number q s => number (-q) (!s)
  | infinite s => infinite (!s)
  | nan => nan

/-- Sums.  A sum of zero is positive unless both terms are negative. -/
def add : Extended → Extended → Extended
  | number q s, number r t => number (q + r) (if q + r = 0 then s && t else decide (q + r < 0))
  | infinite s, infinite t => if s = t then infinite s else nan
  | infinite s, number _ _ | number _ _, infinite s => infinite s
  | nan, _ | _, nan => nan

/-- Products.  Zero times infinity is not a number. -/
def mul : Extended → Extended → Extended
  | number q s, number r t => number (q * r) (s != t)
  | infinite s, infinite t => infinite (s != t)
  | infinite s, number q t | number q t, infinite s => if q = 0 then nan else infinite (s != t)
  | nan, _ | _, nan => nan

/-- Quotients.  Zero by zero and infinity by infinity are not numbers. -/
def div : Extended → Extended → Extended
  | number q s, number r t =>
    if r = 0 then if q = 0 then nan else infinite (s != t) else number (q / r) (s != t)
  | number _ s, infinite t => number 0 (s != t)
  | infinite s, number _ t => infinite (s != t)
  | infinite _, infinite _ | nan, _ | _, nan => nan

/-- A float is an exact result, **rounded**. -/
def Rounds : Extended → Binary64 → Prop
  | number q s, x => x.IsRounded s q
  | infinite s, x => x = .infinity s
  | nan, x => x.isNaN = true

end Extended

/-- The exact result of an operation. -/
def NumberOp.exactly : NumberOp → Extended → Extended → Extended
  | .add, a, b => a.add b
  | .sub, a, b => a.add b.negate
  | .mul, a, b => a.mul b
  | .div, a, b => a.div b

/-! ## Operations -/

namespace Binary64

section meaning
variable {x y : Binary64}

/-- Floats are finite, infinite, or no numbers. -/
theorem class_cases (x : Binary64) :
    x.isNaN = true ∨ x.isNaN = false ∧ x.isInfinite = true ∨
      x.isNaN = false ∧ x.isInfinite = false := by
  cases x.isNaN <;> cases x.isInfinite <;> simp

theorem meaning_of_finite (h : x.isNaN = false ∧ x.isInfinite = false) :
    x.meaning = .number x.toRat x.isNegative := by
  rw [meaning, h.1, h.2, if_neg Bool.false_ne_true, if_neg Bool.false_ne_true]

theorem isNaN_nan : nan.isNaN = true := by decide

theorem isZero_of_isInfinite (h : x.isInfinite = true) : x.isZero = false := by
  have hmagnitude : x.magnitude = infiniteMagnitude := of_decide_eq_true h
  have hpos : infiniteMagnitude ≠ 0 := by decide
  exact decide_eq_false (by omega)

theorem eq_infinity (h : x.isInfinite = true) : x = infinity x.isNegative := by
  have hmagnitude : x.magnitude = infiniteMagnitude := of_decide_eq_true h
  have hbound : infiniteMagnitude < Nat.pow 2 63 := by decide
  exact eq_of_fields (isNegative_ofMagnitude _ hbound).symm
    (hmagnitude.trans (magnitude_ofMagnitude _ hbound).symm)

theorem isZero_iff_units : x.isZero = true ↔ x.units = 0 := by
  have hunits := units_pos_iff (x := x)
  rw [isZero, decide_eq_true_iff]
  omega

theorem toRat_eq_zero_iff : x.toRat = 0 ↔ x.isZero = true := by
  rw [toRat, div_eq_zero_iff, or_iff_left (ne_of_gt unitsPerOne_pos), Int.cast_eq_zero,
    signedUnits_eq_applySign, ← Int.natAbs_eq_zero, natAbs_applySign, Int.natAbs_natCast,
    isZero_iff_units]

theorem zero_isRounded (negative : Bool) : IsRounded negative 0 (zero negative) := by
  have h := ofUnits_isRounded negative 0 Nat.one_pos
  have hzero : ((applySign negative (0 : Nat) : Int) : ℚ) = 0 := by
    cases negative <;> simp [applySign]
  have hmagnitude : nearestMagnitude 0 1 = 0 := by decide
  rw [hzero, zero_div, ofUnits, hmagnitude] at h
  exact h

end meaning

section finite
variable {x y : Binary64}

/-- A whole number of units is rounded under its own sign. -/
theorem ofUnits_natAbs_isRounded (u : Int) :
    IsRounded (decide (u < 0)) (u / unitsPerOne) (ofUnits (decide (u < 0)) u.natAbs 1) := by
  have hsign : applySign (decide (u < 0)) (u.natAbs : Int) = u := by
    unfold applySign
    by_cases hu : u < 0
    · rw [if_pos (decide_eq_true hu)]
      omega
    · rw [if_neg (by simpa using hu)]
      omega
  have h := ofUnits_isRounded (decide (u < 0)) u.natAbs Nat.one_pos
  rwa [hsign, Nat.cast_one, one_mul] at h

/-- **Integers** become the nearest float. -/
theorem ofInt_isRounded (n : Int) : IsRounded (decide (n < 0)) n (ofInt n) := by
  have h := ofUnits_isRounded (decide (n < 0)) (n.natAbs * unitsPerOne) Nat.one_pos
  rw [applySign_units, Nat.cast_one, one_mul, ← intCast_eq_units] at h
  rw [ofInt_eq_ofQuotient]
  exact h

theorem applySign_mul_applySign (s t : Bool) (a b : Nat) :
    applySign (s != t) ((a * b : Nat) : Int) = applySign s a * applySign t b := by
  cases s <;> cases t <;> simp [applySign]

theorem add_isRounded (hx : x.isNaN = false ∧ x.isInfinite = false)
    (hy : y.isNaN = false ∧ y.isInfinite = false) :
    IsRounded (if x.toRat + y.toRat = 0 then x.isNegative && y.isNegative
      else decide (x.toRat + y.toRat < 0)) (x.toRat + y.toRat) (x.add y) := by
  have hsum : x.toRat + y.toRat = ((x.signedUnits + y.signedUnits : Int) : ℚ) / unitsPerOne := by
    rw [toRat, toRat, Int.cast_add, add_div]
  have hzero : x.toRat + y.toRat = 0 ↔ x.signedUnits + y.signedUnits = 0 := by
    rw [hsum, div_eq_zero_iff, or_iff_left (ne_of_gt unitsPerOne_pos), Int.cast_eq_zero]
  have hneg : x.toRat + y.toRat < 0 ↔ x.signedUnits + y.signedUnits < 0 := by
    rw [hsum, div_lt_iff₀ unitsPerOne_pos, zero_mul, Int.cast_lt_zero]
  simp only [add, hx, hy, Bool.or_self, Bool.false_eq_true, if_false, hzero, hneg]
  by_cases h : x.signedUnits + y.signedUnits = 0
  · rw [if_pos h, if_pos h, hzero.mpr h]
    exact zero_isRounded _
  · rw [if_neg h, if_neg h, hsum]
    exact ofUnits_natAbs_isRounded _

theorem mul_isRounded (hx : x.isNaN = false ∧ x.isInfinite = false)
    (hy : y.isNaN = false ∧ y.isInfinite = false) :
    IsRounded (x.isNegative != y.isNegative) (x.toRat * y.toRat) (x.mul y) := by
  have h := ofUnits_isRounded (x.isNegative != y.isNegative) (x.units * y.units)
    (Nat.pos_of_ne_zero (fun h => (ne_of_gt unitsPerOne_pos) (by exact_mod_cast h)))
  rw [applySign_mul_applySign, Int.cast_mul, ← div_mul_div_comm] at h
  simp only [mul, hx, hy, Bool.or_self, Bool.false_eq_true, if_false]
  exact h

theorem div_isRounded (hx : x.isNaN = false ∧ x.isInfinite = false)
    (hy : y.isNaN = false ∧ y.isInfinite = false) (hzero : y.isZero = false) :
    IsRounded (x.isNegative != y.isNegative) (x.toRat / y.toRat) (x.div y) := by
  have hpos : 0 < y.units := units_pos_iff.mpr (Nat.pos_of_ne_zero (of_decide_eq_false hzero))
  have h := ofUnits_isRounded (x.isNegative != y.isNegative) (x.units * unitsPerOne) hpos
  have hquotient : ((applySign (x.isNegative != y.isNegative)
      ((x.units * unitsPerOne : Nat) : Int) : Int) : ℚ) / (y.units * unitsPerOne) =
        x.toRat / y.toRat := by
    rw [Nat.cast_mul, ← applySign_mul, Int.cast_mul, Int.cast_natCast,
      mul_div_mul_right _ _ (ne_of_gt unitsPerOne_pos), toRat, toRat,
      div_div_div_cancel_right₀ (ne_of_gt unitsPerOne_pos), signedUnits_eq_applySign,
      signedUnits_eq_applySign]
    cases x.isNegative <;> cases y.isNegative <;> simp [applySign, neg_div, div_neg]
  rw [hquotient] at h
  simp only [div, hx, hy, hzero, Bool.false_eq_true, Bool.or_self, if_false]
  exact h

end finite

/-! ## All floats -/

section all
variable (x y : Binary64)

/-- **Sums** are exact sums, rounded. -/
theorem add_rounds : (x.meaning.add y.meaning).Rounds (x.add y) := by
  rcases x.class_cases with hx | hx | hx <;> rcases y.class_cases with hy | hy | hy
  case inr.inr.inr.inr =>
    rw [meaning_of_finite hx, meaning_of_finite hy]
    exact add_isRounded hx hy
  all_goals
    simp only [meaning, add, hx, hy, if_true, if_false, Bool.true_or, Bool.or_true, Bool.or_self,
      Bool.true_and, Bool.false_and, Bool.false_eq_true, Extended.add, bne_iff_ne, ne_eq]
  case inr.inl.inr.inl =>
    -- Infinities of different signs have no sum.
    by_cases hsign : x.isNegative = y.isNegative
    · rw [if_pos hsign, if_neg (not_not.mpr hsign)]
      exact eq_infinity hx.2
    · rw [if_neg hsign, if_pos hsign]
      exact isNaN_nan
  case inr.inl.inr.inr => exact eq_infinity hx.2
  case inr.inr.inr.inl => exact eq_infinity hy.2
  all_goals exact isNaN_nan

/-- **Products** are exact products, rounded. -/
theorem mul_rounds : (x.meaning.mul y.meaning).Rounds (x.mul y) := by
  rcases x.class_cases with hx | hx | hx <;> rcases y.class_cases with hy | hy | hy
  case inr.inr.inr.inr =>
    rw [meaning_of_finite hx, meaning_of_finite hy]
    exact mul_isRounded hx hy
  all_goals
    simp only [meaning, mul, hx, hy, if_true, if_false, Bool.true_or, Bool.or_true, Bool.or_self,
      Bool.false_eq_true, Extended.mul, toRat_eq_zero_iff]
  case inr.inl.inr.inl =>
    rw [isZero_of_isInfinite hx.2, isZero_of_isInfinite hy.2]
    rfl
  -- What an infinity is multiplied with may be zero.
  case inr.inl.inr.inr =>
    rw [isZero_of_isInfinite hx.2, Bool.false_or]
    split <;> [exact isNaN_nan; rfl]
  case inr.inr.inr.inl =>
    rw [isZero_of_isInfinite hy.2, Bool.or_false, bne_comm]
    split <;> [exact isNaN_nan; rfl]
  all_goals exact isNaN_nan

/-- **Quotients** are exact quotients, rounded. -/
theorem div_rounds : (x.meaning.div y.meaning).Rounds (x.div y) := by
  rcases x.class_cases with hx | hx | hx <;> rcases y.class_cases with hy | hy | hy
  case inr.inr.inr.inr =>
    rw [meaning_of_finite hx, meaning_of_finite hy, Extended.div]
    simp only [toRat_eq_zero_iff]
    cases hzero : y.isZero with
    | false =>
      rw [if_neg Bool.false_ne_true]
      exact div_isRounded hx hy hzero
    | true =>
      simp only [div, hx, hy, hzero, if_true, if_false, Bool.or_self, Bool.false_eq_true]
      split <;> [exact isNaN_nan; rfl]
  all_goals
    simp only [meaning, div, hx, hy, if_true, if_false, Bool.true_or, Bool.or_true, Bool.or_self,
      Bool.false_eq_true, Extended.div]
  case inr.inl.inr.inr => rfl
  case inr.inr.inr.inl => exact zero_isRounded _
  all_goals exact isNaN_nan

theorem meaning_negate : x.negate.meaning = x.meaning.negate := by
  have hbound : x.magnitude < Nat.pow 2 63 := Nat.mod_lt _ (two_pow_pos 63)
  have hsign : x.negate.isNegative = !x.isNegative := isNegative_ofMagnitude _ hbound
  have hmagnitude : x.negate.magnitude = x.magnitude := magnitude_ofMagnitude _ hbound
  have hvalue : x.negate.toRat = -x.toRat := by
    have hflip : applySign (!x.isNegative) (x.units : Int) = -applySign x.isNegative x.units := by
      cases x.isNegative <;> simp [applySign]
    rw [toRat, toRat, signedUnits_eq_applySign, signedUnits_eq_applySign, hsign,
      units_eq_of_magnitude_eq hmagnitude, hflip, Int.cast_neg, neg_div]
  rw [meaning, meaning, isNaN, isNaN, isInfinite, isInfinite, hsign, hmagnitude, hvalue]
  split
  · rfl
  · split <;> rfl

end all

end Binary64

/-- **Float arithmetic is that of IEEE 754**: whatever is no division by zero gives the
    exact result, rounded to nearest. -/
theorem NumberOp.onFloats_rounds {op : NumberOp} {x y z : Binary64}
    (h : op.onFloats x y = .ok z) : (op.exactly x.meaning y.meaning).Rounds z := by
  cases op with
  | add =>
    obtain rfl := Except.ok.inj h
    exact x.add_rounds y
  | sub =>
    obtain rfl := Except.ok.inj h
    rw [NumberOp.exactly, ← y.meaning_negate]
    exact x.add_rounds y.negate
  | mul =>
    obtain rfl := Except.ok.inj h
    exact x.mul_rounds y
  | div =>
    rw [NumberOp.onFloats] at h
    split at h
    · cases h
    · obtain rfl := Except.ok.inj h
      exact x.div_rounds y

end DynamicObjects
