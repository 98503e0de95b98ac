import DynamicObjects.Number.Binary64
import Mathlib.Data.Int.Order.Basic
import Mathlib.Tactic.ByContra

/-! # The total order of floats

    `Binary64.TotalLe` is the total order of IEEE 754: numbers by their values,
    the negative zero in front of the positive one, NaNs with a negative sign in
    front of all numbers and the other NaNs behind them.  NaNs of one sign are
    ordered by their fractions, the first bit of which tells quiet from signaling
    ones; below zero this order is reversed.

    Main results:
    - `Binary64.compare_numericKey`: keys are ordered like the values of the numbers
    - `Binary64.totalKey_le_iff`: the order of the keys is the total order -/

namespace DynamicObjects

namespace Binary64

/-! ## Values -/

section values
variable {x y : Binary64}

/-- A magnitude is its significand on top of the steps that this counts. -/
theorem magnitude_eq (x : Binary64) : x.magnitude = x.shift * Nat.pow 2 52 + x.significand := by
  unfold shift significand exponentField fraction
  simp only [Nat.pow_eq]
  split <;> omega

/-- Steps beyond the first one are those of normal numbers. -/
theorem significand_bounds (x : Binary64) :
    x.significand < Nat.pow 2 53 ∧ (0 < x.shift → Nat.pow 2 52 ≤ x.significand) := by
  unfold shift significand exponentField fraction
  simp only [Nat.pow_eq]
  split <;> omega

/-- **Magnitudes are ordered like the numbers**. -/
theorem units_lt_of_magnitude_lt (h : x.magnitude < y.magnitude) : x.units < y.units := by
  rw [magnitude_eq x, magnitude_eq y] at h
  obtain ⟨hx, hx'⟩ := significand_bounds x
  obtain ⟨hy, hy'⟩ := significand_bounds y
  simp only [Nat.pow_eq] at h hx hx' hy hy'
  show x.significand * Nat.pow 2 x.shift < y.significand * Nat.pow 2 y.shift
  have hpos : 0 < Nat.pow 2 x.shift := Nat.pow_pos (by decide)
  by_cases hshift : x.shift = y.shift
  · rw [hshift] at h hpos ⊢
    exact Nat.mul_lt_mul_of_pos_right (by omega) hpos
  · -- The steps are at least twice as wide, so that half the significand is enough.
    have hlt : x.shift + 1 ≤ y.shift := by omega
    calc
      x.significand * Nat.pow 2 x.shift < 2 ^ 53 * Nat.pow 2 x.shift :=
        Nat.mul_lt_mul_of_pos_right hx hpos
      _ = 2 ^ 52 * Nat.pow 2 (x.shift + 1) := by
        simp only [Nat.pow_eq]
        omega
      _ ≤ y.significand * Nat.pow 2 y.shift :=
        Nat.mul_le_mul (hy' (by omega)) (Nat.pow_le_pow_right (by decide) hlt)

theorem units_eq_of_magnitude_eq (h : x.magnitude = y.magnitude) : x.units = y.units := by
  unfold units significand shift exponentField fraction
  rw [h]

/-- Only the zeros have no units. -/
theorem units_pos_iff : 0 < x.units ↔ 0 < x.magnitude := by
  have hzero : (zero false).magnitude = 0 ∧ (zero false).units = 0 := by decide
  obtain ⟨hmagnitude, hunits⟩ := hzero
  constructor
  · intro h
    by_contra hnot
    have heq : x.units = (zero false).units := units_eq_of_magnitude_eq (by omega)
    omega
  · intro h
    have hlt : (zero false).units < x.units := units_lt_of_magnitude_lt (by omega)
    omega

theorem compare_numericKey (x y : Binary64) :
    compare x.numericKey y.numericKey = compare x.signedUnits y.signedUnits := by
  have hlt : x.magnitude < y.magnitude → x.units < y.units := units_lt_of_magnitude_lt
  have hgt : y.magnitude < x.magnitude → y.units < x.units := units_lt_of_magnitude_lt
  have heq : x.magnitude = y.magnitude → x.units = y.units := units_eq_of_magnitude_eq
  have hx : 0 < x.units ↔ 0 < x.magnitude := units_pos_iff
  have hy : 0 < y.units ↔ 0 < y.magnitude := units_pos_iff
  have hcompare : ∀ {a b c d : Int}, (a < b ↔ c < d) → (b < a ↔ d < c) →
      compare a b = compare c d := by
    intro a b c d hab hba
    have heq : a = b ↔ c = d := by omega
    simp only [compare, compareOfLessAndEq, hab, heq]
  unfold numericKey signedUnits
  apply hcompare <;> cases x.isNegative <;> cases y.isNegative <;>
    simp only [if_true, if_false, Bool.false_eq_true] <;> omega

theorem isNaN_of_isFinite (h : x.isFinite = true) : x.isNaN = false := by
  simp only [isFinite, isNaN, decide_eq_true_eq, decide_eq_false_iff_not] at h ⊢
  omega

end values

/-! ## The order -/

/-- The **total order** of IEEE 754: whether a float stands in front of another or
    is the same. -/
inductive TotalLe (x y : Binary64) : Prop where
  | number (h : x.compare? y = some .lt)
  /-- Equal numbers, which are the same unless they are the two zeros. -/
  | equal (h : x.compare? y = some .eq) (hzero : y.isNegative = true → x.isNegative = true)
  /-- A NaN in front of all numbers. -/
  | below (hx : x.isNaN = true) (hsign : x.isNegative = true) (hy : y.isNaN = false)
  /-- A NaN behind all numbers. -/
  | above (hx : x.isNaN = false) (hy : y.isNaN = true) (hsign : y.isNegative = false)
  /-- A NaN in front of all numbers and one behind them. -/
  | around (hx : x.isNaN = true) (hxsign : x.isNegative = true) (hy : y.isNaN = true)
      (hysign : y.isNegative = false)
  | bothBelow (hx : x.isNaN = true) (hxsign : x.isNegative = true) (hy : y.isNaN = true)
      (hysign : y.isNegative = true) (h : y.fraction ≤ x.fraction)
  | bothAbove (hx : x.isNaN = true) (hxsign : x.isNegative = false) (hy : y.isNaN = true)
      (hysign : y.isNegative = false) (h : x.fraction ≤ y.fraction)

section order
variable {x y : Binary64}

theorem isNaN_iff : x.isNaN = true ↔ infiniteMagnitude < x.magnitude := decide_eq_true_iff

theorem isNaN_eq_false_iff : x.isNaN = false ↔ x.magnitude ≤ infiniteMagnitude := by
  rw [← Bool.not_eq_true, isNaN_iff, Nat.not_lt]

/-- All NaNs have the same exponent, so that their magnitudes differ as their
    fractions do. -/
theorem magnitude_of_isNaN (h : x.isNaN = true) :
    x.magnitude = infiniteMagnitude + x.fraction := by
  have hlt : x.magnitude < Nat.pow 2 63 := Nat.mod_lt _ (by decide)
  rw [isNaN_iff] at h
  unfold fraction infiniteMagnitude at *
  simp only [Nat.pow_eq] at *
  omega

theorem compare?_eq_some_iff {o : Ordering} : x.compare? y = some o ↔
    x.isNaN = false ∧ y.isNaN = false ∧ compare x.numericKey y.numericKey = o := by
  cases hx : x.isNaN <;> cases hy : y.isNaN <;> simp [compare?, hx, hy]

/-- Words are in total order if their numerical keys are, a negative zero being in
    front of a positive one. -/
theorem totalKey_le_iff_numericKey :
    x.totalKey ≤ y.totalKey ↔ x.numericKey < y.numericKey ∨
      x.numericKey = y.numericKey ∧ (y.isNegative = true → x.isNegative = true) := by
  unfold totalKey numericKey
  cases x.isNegative <;> cases y.isNegative <;>
    simp only [if_true, if_false, Bool.false_eq_true, true_imp_iff, false_imp_iff, and_true,
      and_false, or_false] <;> omega

/-- A negative word has a negative key. -/
theorem totalKey_of_isNegative (h : x.isNegative = true) :
    x.totalKey = -(x.magnitude : Int) - 1 := by
  rw [totalKey, h, if_pos rfl]

theorem totalKey_of_not_isNegative (h : x.isNegative = false) : x.totalKey = x.magnitude := by
  rw [totalKey, h, if_neg Bool.false_ne_true]

/-- The keys of numbers lie between those of the NaNs. -/
theorem totalKey_bounds (h : x.isNaN = false) :
    -(infiniteMagnitude : Int) - 1 ≤ x.totalKey ∧ x.totalKey ≤ infiniteMagnitude := by
  rw [isNaN_eq_false_iff] at h
  unfold totalKey
  split <;> omega

theorem totalLe_of_totalKey_le (h : x.totalKey ≤ y.totalKey) : x.TotalLe y := by
  -- A NaN lies beyond all numbers, on the side of its sign.
  cases hx : x.isNaN with
  | false =>
    have hlower := (totalKey_bounds hx).1
    cases hy : y.isNaN with
    | false =>
      rcases totalKey_le_iff_numericKey.mp h with hlt | ⟨heq, hzero⟩
      · exact .number (compare?_eq_some_iff.mpr ⟨hx, hy, compare_lt_iff_lt.mpr hlt⟩)
      · exact .equal (compare?_eq_some_iff.mpr ⟨hx, hy, compare_eq_iff_eq.mpr heq⟩) hzero
    | true =>
      refine .above hx hy ?_
      by_contra hsign
      rw [Bool.not_eq_false] at hsign
      rw [totalKey_of_isNegative hsign, magnitude_of_isNaN hy] at h
      have hlarge := isNaN_iff.mp hy
      rw [magnitude_of_isNaN hy] at hlarge
      omega
  | true =>
    have hxlarge := isNaN_iff.mp hx
    have hxmagnitude := magnitude_of_isNaN hx
    cases hy : y.isNaN with
    | false =>
      have hupper := (totalKey_bounds hy).2
      refine .below hx ?_ hy
      by_contra hsign
      rw [Bool.not_eq_true] at hsign
      rw [totalKey_of_not_isNegative hsign] at h
      omega
    | true =>
      have hylarge := isNaN_iff.mp hy
      have hymagnitude := magnitude_of_isNaN hy
      cases hxsign : x.isNegative with
      | true =>
        rw [totalKey_of_isNegative hxsign] at h
        cases hysign : y.isNegative with
        | true =>
          rw [totalKey_of_isNegative hysign] at h
          exact .bothBelow hx hxsign hy hysign (by omega)
        | false => exact .around hx hxsign hy hysign
      | false =>
        rw [totalKey_of_not_isNegative hxsign] at h
        cases hysign : y.isNegative with
        | true =>
          rw [totalKey_of_isNegative hysign] at h
          omega
        | false =>
          rw [totalKey_of_not_isNegative hysign] at h
          exact .bothAbove hx hxsign hy hysign (by omega)

theorem totalKey_le_of_totalLe (h : x.TotalLe y) : x.totalKey ≤ y.totalKey := by
  cases h with
  | number h =>
    obtain ⟨-, -, h⟩ := compare?_eq_some_iff.mp h
    exact totalKey_le_iff_numericKey.mpr (.inl (compare_lt_iff_lt.mp h))
  | equal h hzero =>
    obtain ⟨-, -, h⟩ := compare?_eq_some_iff.mp h
    exact totalKey_le_iff_numericKey.mpr (.inr ⟨compare_eq_iff_eq.mp h, hzero⟩)
  -- The keys of NaNs are beyond those of all numbers.
  | below hx hsign hy =>
    have hlarge := isNaN_iff.mp hx
    have hlower := (totalKey_bounds hy).1
    rw [totalKey_of_isNegative hsign]
    omega
  | above hx hy hsign =>
    have hlarge := isNaN_iff.mp hy
    have hupper := (totalKey_bounds hx).2
    rw [totalKey_of_not_isNegative hsign]
    omega
  | around hx hxsign hy hysign =>
    rw [totalKey_of_isNegative hxsign, totalKey_of_not_isNegative hysign]
    omega
  | bothBelow hx hxsign hy hysign h =>
    rw [totalKey_of_isNegative hxsign, totalKey_of_isNegative hysign, magnitude_of_isNaN hx,
      magnitude_of_isNaN hy]
    omega
  | bothAbove hx hxsign hy hysign h =>
    rw [totalKey_of_not_isNegative hxsign, totalKey_of_not_isNegative hysign,
      magnitude_of_isNaN hx, magnitude_of_isNaN hy]
    omega

/-- **The order of the keys is the total order.** -/
theorem totalKey_le_iff : x.totalKey ≤ y.totalKey ↔ x.TotalLe y :=
  ⟨totalLe_of_totalKey_le, totalKey_le_of_totalLe⟩

end order

end Binary64

end DynamicObjects
