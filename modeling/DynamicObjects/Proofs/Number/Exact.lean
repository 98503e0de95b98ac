import DynamicObjects.Proofs.Number.Nearest
import DynamicObjects.Proofs.Number.TotalOrder
import Mathlib.Algebra.Order.Field.Basic
import Mathlib.Data.Rat.Cast.Order
import Mathlib.Tactic.FieldSimp

/-! # Floats as rational numbers

    A finite float denotes a rational number.  Rounding gives the float nearest to
    a number, and is monotone.

    The argument:
    1. Of two floats, the lesser one is nearest to what is not greater, since the
       middle between them separates the two.
    2. Different words denote the same number only if they are the two zeros, and
       nothing but zero is nearest to a zero.

    Main results:
    - `Binary64.ofUnits_isNearest`, `Binary64.ofInt_isNearest`: rounding gives the
      nearest float
    - `Binary64.IsNearest.le_of_totalLe`: rounding is monotone -/

namespace DynamicObjects

namespace Binary64

/-! ## Values and nearest values -/

/-- The rational number that a finite float denotes. -/
def toRat (x : Binary64) : ℚ := x.signedUnits / unitsPerOne

theorem unitsPerOne_pos : (0 : ℚ) < (unitsPerOne : ℚ) := by
  rw [unitsPerOne_eq]
  exact_mod_cast two_pow_pos _

theorem intCast_eq_units (n : Int) :
    (n : ℚ) = ((n * unitsPerOne : Int) : ℚ) / unitsPerOne := by
  push_cast
  exact (mul_div_cancel_right₀ _ (ne_of_gt unitsPerOne_pos)).symm

/-- A finite float is **nearest** to a rational number: none is nearer, and if another
    one is as near, its significand is even. -/
structure IsNearest (q : ℚ) (x : Binary64) : Prop where
  finite : x.isFinite = true
  le : ∀ y : Binary64, y.isFinite = true → |x.toRat - q| ≤ |y.toRat - q|
  even : ∀ y : Binary64, y.isFinite = true → |x.toRat - q| = |y.toRat - q| →
    y.toRat ≠ x.toRat → x.significand % 2 = 0

section nearest
variable {num den : Nat} {x : Binary64}

/-- A distance in units is that many units, divided. -/
theorem abs_toRat_sub (y : Binary64) (u : Int) (hden : 0 < den) :
    |y.toRat - u / (den * unitsPerOne)| =
      ((|y.signedUnits * den - u| : Int) : ℚ) / (den * unitsPerOne) := by
  have hpos : (0 : ℚ) < den * unitsPerOne := mul_pos (by exact_mod_cast hden) unitsPerOne_pos
  have hunits := ne_of_gt unitsPerOne_pos
  have hden' : (den : ℚ) ≠ 0 := by exact_mod_cast hden.ne'
  have hsub : y.toRat - u / (den * unitsPerOne) =
      ((y.signedUnits * den - u : Int) : ℚ) / (den * unitsPerOne) := by
    rw [toRat]
    push_cast
    field_simp
  rw [hsub, abs_div, abs_of_pos hpos, Int.cast_abs]

theorem ofUnits_isNearest (negative : Bool) (hden : 0 < den)
    (hfinite : nearestMagnitude num den < infiniteMagnitude) :
    IsNearest ((applySign negative num : Int) / (den * unitsPerOne))
      (ofUnits negative num den) := by
  have hpos : (0 : ℚ) < den * unitsPerOne := mul_pos (by exact_mod_cast hden) unitsPerOne_pos
  have hnearest := ofUnits_nearest negative hden hfinite
  have hsame : ∀ {y z : Binary64}, y.toRat = z.toRat ↔ y.signedUnits = z.signedUnits := by
    intro y z
    rw [toRat, toRat, div_left_inj' (ne_of_gt unitsPerOne_pos), Int.cast_inj]
  refine ⟨isFinite_ofUnits negative hfinite, fun y _ => ?_, fun y _ heq hne => ?_⟩
  · rw [abs_toRat_sub _ _ hden, abs_toRat_sub _ _ hden, div_le_div_iff_of_pos_right hpos]
    exact_mod_cast (hnearest y).1
  · rw [abs_toRat_sub _ _ hden, abs_toRat_sub _ _ hden, div_left_inj' (ne_of_gt hpos)] at heq
    rw [Ne, hsame] at hne
    exact ((hnearest y).2 (by exact_mod_cast heq)).resolve_left hne

/-- **Integers** become the nearest float. -/
theorem ofInt_isNearest {n : Int} (hn : n.natAbs ≤ Nat.pow 2 64) : IsNearest n (ofInt n) := by
  have h := ofUnits_isNearest (decide (n < 0)) Nat.one_pos (nearestMagnitude_lt hn)
  rw [applySign_units, Nat.cast_one, one_mul, ← intCast_eq_units] at h
  rw [ofInt_eq_ofQuotient]
  exact h

/-- A finite number is the nearest one to itself. -/
theorem isNearest_self (hx : x.isFinite = true) : IsNearest x.toRat x where
  finite := hx
  le y _ := by
    rw [sub_self, abs_zero]
    exact abs_nonneg _
  even y _ heq hne := by
    rw [sub_self, abs_zero, eq_comm, abs_eq_zero, sub_eq_zero] at heq
    exact absurd heq hne

end nearest

/-! ## Monotone rounding -/

section rounding
variable {u v : Int} {x y : Binary64}

/-- A word is its sign and its magnitude. -/
theorem eq_of_fields (hsign : x.isNegative = y.isNegative)
    (hmagnitude : x.magnitude = y.magnitude) : x = y := by
  have hx : x.bits.toNat < Nat.pow 2 64 := x.bits.toNat_lt
  have hy : y.bits.toNat < Nat.pow 2 64 := y.bits.toNat_lt
  unfold isNegative at hsign
  unfold magnitude at hmagnitude
  rw [decide_eq_decide] at hsign
  simp only [Nat.pow_eq] at hx hy hsign hmagnitude
  have hbits : x.bits.toNat = y.bits.toNat := by omega
  cases x
  cases y
  rw [mk.injEq]
  exact UInt64.toNat_inj.mp hbits

/-- No float is nearer in units either. -/
theorem IsNearest.units_le (h : IsNearest (u / unitsPerOne) x) (hy : y.isFinite = true) :
    |x.signedUnits - u| ≤ |y.signedUnits - u| := by
  have hle := h.le y hy
  have hunits : ∀ z : Binary64, |z.toRat - u / unitsPerOne| =
      ((|z.signedUnits - u| : Int) : ℚ) / unitsPerOne := by
    intro z
    have hz := abs_toRat_sub z u Nat.one_pos
    rwa [Nat.cast_one, Nat.cast_one, one_mul, mul_one] at hz
  rw [hunits, hunits, div_le_div_iff_of_pos_right unitsPerOne_pos] at hle
  exact_mod_cast hle

/-- Of two numbers the lesser one is nearest to what is not greater: the middle
    between them separates the two. -/
theorem IsNearest.le_of_lt (hx : IsNearest (u / unitsPerOne) x)
    (hy : IsNearest (v / unitsPerOne) y) (hlt : x.signedUnits < y.signedUnits) : u ≤ v := by
  have hu := hx.units_le hy.finite
  have hv := hy.units_le hx.finite
  by_contra hgt
  rw [not_le] at hgt
  rcases abs_cases (x.signedUnits - u) with h | h <;>
    rcases abs_cases (y.signedUnits - u) with h' | h' <;>
    rcases abs_cases (y.signedUnits - v) with h'' | h'' <;>
    rcases abs_cases (x.signedUnits - v) with h''' | h''' <;> omega

/-- Only zero is nearest to a zero, since a single unit is a number, too. -/
theorem IsNearest.eq_zero (hx : IsNearest (u / unitsPerOne) x) (hzero : x.signedUnits = 0) :
    u = 0 := by
  have hone : (ofMagnitude false 1).isFinite = true ∧ (ofMagnitude false 1).signedUnits = 1 := by
    decide
  have hminus : (ofMagnitude true 1).isFinite = true ∧
      (ofMagnitude true 1).signedUnits = -1 := by
    decide
  have habove := hx.units_le hone.1
  have hbelow := hx.units_le hminus.1
  rw [hzero, hone.2] at habove
  rw [hzero, hminus.2] at hbelow
  rcases abs_cases (0 - u) with h | h <;> rcases abs_cases (1 - u) with h' | h' <;>
    rcases abs_cases (-1 - u) with h'' | h'' <;> omega

/-- Words of one value are the same, except for the zeros. -/
theorem eq_of_signedUnits_eq (h : x.signedUnits = y.signedUnits) (hne : x.signedUnits ≠ 0) :
    x = y := by
  have hlt : x.magnitude < y.magnitude → x.units < y.units := units_lt_of_magnitude_lt
  have hgt : y.magnitude < x.magnitude → y.units < x.units := units_lt_of_magnitude_lt
  unfold signedUnits at h hne
  by_cases hx : x.isNegative = true
  · by_cases hy : y.isNegative = true
    · rw [if_pos hx, if_pos hy] at h
      exact eq_of_fields (hx.trans hy.symm) (by omega)
    · rw [if_pos hx] at h hne
      rw [if_neg hy] at h
      omega
  · by_cases hy : y.isNegative = true
    · rw [if_neg hx] at h hne
      rw [if_pos hy] at h
      omega
    · rw [if_neg hx, if_neg hy] at h
      rw [Bool.not_eq_true] at hx hy
      exact eq_of_fields (hx.trans hy.symm) (by omega)

/-- Numbers in total order have their values in order. -/
theorem signedUnits_le_of_totalLe (h : x.TotalLe y) : x.signedUnits ≤ y.signedUnits := by
  have hkeys : x.numericKey ≤ y.numericKey := by
    have := totalKey_le_iff_numericKey.mp (totalKey_le_iff.mpr h)
    omega
  have hcompare := compare_numericKey x y
  by_contra hgt
  rw [compare_gt_iff_gt.mpr (not_le.mp hgt), compare_gt_iff_gt] at hcompare
  omega

/-- **Rounding is monotone**: of different floats in total order, the first one is
    nearest to a number that is not greater. -/
theorem IsNearest.le_of_totalLe (hx : IsNearest (u / unitsPerOne) x)
    (hy : IsNearest (v / unitsPerOne) y) (h : x.TotalLe y) (hne : x ≠ y) : u ≤ v := by
  have hle := signedUnits_le_of_totalLe h
  by_cases heq : x.signedUnits = y.signedUnits
  · -- Different words of one value are the two zeros.
    have hzero : x.signedUnits = 0 := by
      by_contra hnot
      exact hne (eq_of_signedUnits_eq heq hnot)
    rw [hx.eq_zero hzero, hy.eq_zero (heq.symm.trans hzero)]
  · exact hx.le_of_lt hy (lt_of_le_of_ne hle heq)

end rounding

end Binary64

end DynamicObjects
