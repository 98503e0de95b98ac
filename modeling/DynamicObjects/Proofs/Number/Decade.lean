import DynamicObjects.Number.Decimal
import DynamicObjects.Proofs.Number.Nearest
import Mathlib.Algebra.Order.Field.Basic
import Mathlib.Algebra.Order.Field.Power
import Mathlib.Data.Rat.Cast.Order
import Mathlib.Tactic.FieldSimp
import Mathlib.Tactic.Positivity

/-! # Decades

    The decade of a positive number is the exponent of the greatest power of ten
    that is not above it.  It tells at which place a number has to be rounded to
    show so many digits.

    The argument:
    1. The number of digits of a natural number tells its decade, and that of a
       quotient is told by the digits of its whole part, or of the whole part of
       its inverse.
    2. Counted in steps of a power of ten, the quotient is divided by that power.
    3. Rounding is off by half a step at most.  So it stays between two whole
       numbers, and it reaches the upper one of two powers of ten only where a
       coarser step gives the same power.

    Main results:
    - `Scientific.decade_bounds`: where a quotient lies
    - `Scientific.rounded_spec`: the digits of a rounded quotient, and that rounding
      it at the place of the last of them gives the same digits -/

namespace DynamicObjects

/-! ## Numbers of digits -/

section digits
variable {n k : Nat}

theorem lt_pow_digitCount (n : Nat) : n < Nat.pow 10 (digitCount n) :=
  (Nat.length_toDigits_le_iff (by decide) Nat.length_toDigits_pos).mp (Nat.le_refl _)

theorem pow_le_of_digitCount (hn : 0 < n) : Nat.pow 10 (digitCount n - 1) ≤ n := by
  by_cases hone : digitCount n - 1 = 0
  · rw [hone]
    exact hn
  · -- With one digit less there would be no room for it.
    by_contra hlt
    have hlength := (Nat.length_toDigits_le_iff (show 1 < 10 by decide)
      (Nat.pos_of_ne_zero hone)).mpr (not_le.mp hlt)
    unfold digitCount at hone hlength
    omega

theorem digitCount_eq (hlower : Nat.pow 10 k ≤ n) (hupper : n < Nat.pow 10 (k + 1)) :
    digitCount n = k + 1 := by
  have hle : digitCount n ≤ k + 1 :=
    (Nat.length_toDigits_le_iff (by decide) (Nat.succ_pos k)).mpr hupper
  have hlt : Nat.pow 10 k < Nat.pow 10 (digitCount n) :=
    Nat.lt_of_le_of_lt hlower (lt_pow_digitCount n)
  have hexponents := (Nat.pow_lt_pow_iff_right (show 1 < 10 by decide)).mp hlt
  omega

end digits

/-- Powers of ten, natural and whole exponents. -/
theorem natPow_mul_zpow {k : Nat} {e f : Int} (h : e + k = f) :
    ((Nat.pow 10 k : Nat) : ℚ) * (10 : ℚ) ^ e = (10 : ℚ) ^ f := by
  rw [Nat.pow_eq, Nat.cast_pow, Nat.cast_ofNat, ← zpow_natCast, ← zpow_add₀ (by norm_num),
    ← h, add_comm]

/-! ## Rounding to whole numbers -/

section rounding
variable {a b m : Nat} (hb : 0 < b)
include hb

theorem abs_roundHalfEven_sub_le (a : Nat) : |(roundHalfEven a b : ℚ) - a / b| ≤ 1 / 2 := by
  have hpos : (0 : ℚ) < b := by exact_mod_cast hb
  have herror : 2 * |(roundHalfEven a b : ℚ) * b - a| ≤ b := by
    exact_mod_cast (roundHalfEven_error a hb).1
  have hquotient : (roundHalfEven a b : ℚ) - a / b = (roundHalfEven a b * b - a) / b := by
    field_simp
  rw [hquotient, abs_div, abs_of_pos hpos, div_le_div_iff₀ hpos (by norm_num)]
  linarith

theorem le_roundHalfEven (h : (m : ℚ) ≤ a / b) : m ≤ roundHalfEven a b := by
  have herror := abs_le.mp (abs_roundHalfEven_sub_le hb a)
  by_contra hlt
  have hstep : (roundHalfEven a b : ℚ) + 1 ≤ m := by exact_mod_cast not_le.mp hlt
  linarith

theorem roundHalfEven_le (h : (a : ℚ) / b ≤ m) : roundHalfEven a b ≤ m := by
  have herror := abs_le.mp (abs_roundHalfEven_sub_le hb a)
  by_contra hlt
  have hstep : (m : ℚ) + 1 ≤ roundHalfEven a b := by exact_mod_cast not_le.mp hlt
  linarith

theorem roundHalfEven_eq (hlower : (m : ℚ) - 1 / 2 < a / b) (hupper : (a : ℚ) / b < m + 1 / 2) :
    roundHalfEven a b = m := by
  have herror := abs_le.mp (abs_roundHalfEven_sub_le hb a)
  by_contra hne
  rcases Nat.lt_or_gt_of_ne hne with hlt | hgt
  · have hstep : (roundHalfEven a b : ℚ) + 1 ≤ m := by exact_mod_cast hlt
    linarith
  · have hstep : (m : ℚ) + 1 ≤ roundHalfEven a b := by exact_mod_cast hgt
    linarith

end rounding

namespace Scientific

/-! ## The decade of a quotient -/

section quotient
variable {num den : Nat} (hden : 0 < den)
include hden

/-- A quotient that is not below one. -/
theorem decade_bounds_of_le (hle : den ≤ num) :
    (10 : ℚ) ^ decade num den ≤ (num : ℚ) / den ∧
      (num : ℚ) / den < (10 : ℚ) ^ (decade num den + 1) := by
  have hpos : (0 : ℚ) < den := by exact_mod_cast hden
  have hquotient : 0 < num / den := Nat.div_pos hle hden
  have hcount : 0 < digitCount (num / den) := Nat.length_toDigits_pos
  -- The decade is told by the number of digits in front of the point.
  have hlower : (10 : ℚ) ^ (digitCount (num / den) - 1) * den ≤ num := by
    have h := (Nat.le_div_iff_mul_le hden).mp (pow_le_of_digitCount hquotient)
    exact_mod_cast h
  have hupper : (num : ℚ) < (10 : ℚ) ^ digitCount (num / den) * den := by
    have h := (Nat.div_lt_iff_lt_mul hden).mp (lt_pow_digitCount (num / den))
    exact_mod_cast h
  have hexponent : decade num den = ((digitCount (num / den) - 1 : Nat) : Int) := by
    rw [decade, if_pos hle]
    omega
  have hnext : decade num den + 1 = ((digitCount (num / den) : Nat) : Int) := by
    rw [decade, if_pos hle]
    omega
  rw [hnext, hexponent, zpow_natCast, zpow_natCast, le_div_iff₀ hpos, div_lt_iff₀ hpos]
  exact ⟨hlower, hupper⟩

/-- A quotient below one: its inverse, rounded down, has the digits that count. -/
theorem decade_bounds_of_lt (hnum : 0 < num) (hlt : num < den) :
    (10 : ℚ) ^ decade num den ≤ (num : ℚ) / den ∧
      (num : ℚ) / den < (10 : ℚ) ^ (decade num den + 1) := by
  have hpos : (0 : ℚ) < den := by exact_mod_cast hden
  have hinverse : 0 < (den - 1) / num := Nat.div_pos (by omega) hnum
  have hcount : 0 < digitCount ((den - 1) / num) := Nat.length_toDigits_pos
  -- What is greater than `den - 1` is not less than `den`, so that rounding down is exact
  -- enough also where the quotient is a power of ten.
  have hlower : (den : ℚ) ≤ num * (10 : ℚ) ^ digitCount ((den - 1) / num) := by
    have h := (Nat.div_lt_iff_lt_mul hnum).mp (lt_pow_digitCount ((den - 1) / num))
    rw [Nat.mul_comm] at h
    have h' : den ≤ num * Nat.pow 10 (digitCount ((den - 1) / num)) := by omega
    exact_mod_cast h'
  have hupper : (num : ℚ) * (10 : ℚ) ^ (digitCount ((den - 1) / num) - 1) < den := by
    have h := (Nat.le_div_iff_mul_le hnum).mp (pow_le_of_digitCount hinverse)
    rw [Nat.mul_comm] at h
    have h' : num * Nat.pow 10 (digitCount ((den - 1) / num) - 1) < den := by omega
    exact_mod_cast h'
  have hexponent : decade num den = -((digitCount ((den - 1) / num) : Nat) : Int) := by
    rw [decade, if_neg (not_le.mpr hlt)]
  have hnext : decade num den + 1 = -((digitCount ((den - 1) / num) - 1 : Nat) : Int) := by
    rw [decade, if_neg (not_le.mpr hlt)]
    omega
  have hten : ∀ k : Nat, (0 : ℚ) < (10 : ℚ) ^ k := fun k => by positivity
  rw [hnext, hexponent, zpow_neg, zpow_neg, zpow_natCast, zpow_natCast, inv_eq_one_div,
    inv_eq_one_div, div_le_div_iff₀ (hten _) hpos, div_lt_div_iff₀ hpos (hten _), one_mul]
  exact ⟨hlower, hupper⟩

/-- **The decade** of a quotient: it lies between this power of ten and the next. -/
theorem decade_bounds (hnum : 0 < num) :
    (10 : ℚ) ^ decade num den ≤ (num : ℚ) / den ∧
      (num : ℚ) / den < (10 : ℚ) ^ (decade num den + 1) := by
  by_cases hle : den ≤ num
  · exact decade_bounds_of_le hden hle
  · exact decade_bounds_of_lt hden hnum (not_le.mp hle)

/-! ## Steps of a power of ten -/

theorem scale_pos (num : Nat) (e : Int) : 0 < (scale num den e).2 := by
  unfold scale
  split
  · exact hden
  · exact Nat.mul_pos hden (Nat.pow_pos (by decide))

/-- Counting in steps divides. -/
theorem scale_eq (num : Nat) (e : Int) :
    ((scale num den e).1 : ℚ) / (scale num den e).2 = (num : ℚ) / den / (10 : ℚ) ^ e := by
  have hne : (den : ℚ) ≠ 0 := by exact_mod_cast Nat.ne_of_gt hden
  unfold scale
  by_cases he : e < 0
  · rw [if_pos he]
    have hexponent : e = -((-e).toNat : Int) := by omega
    generalize (-e).toNat = k at hexponent ⊢
    rw [hexponent, zpow_neg, zpow_natCast]
    push_cast [Nat.pow_eq]
    field_simp
  · rw [if_neg he]
    have hexponent : e = (e.toNat : Int) := by omega
    generalize e.toNat = k at hexponent ⊢
    rw [hexponent, zpow_natCast]
    push_cast [Nat.pow_eq]
    field_simp

end quotient

/-! ## Rounded quotients -/

/-- The quotient rounded to a whole number of steps of a power of ten. -/
def steps (num den : Nat) (e : Int) : Nat :=
  roundHalfEven (scale num den e).1 (scale num den e).2

/-- Steps behind the point are places. -/
theorem steps_neg (num den k : Nat) :
    steps num den (-(k : Int)) = roundHalfEven (num * Nat.pow 10 k) den := by
  unfold steps scale
  by_cases hk : -(k : Int) < 0
  · rw [if_pos hk, Int.neg_neg, Int.toNat_natCast]
  · have hzero : k = 0 := by omega
    have hone : Nat.pow 10 0 = 1 := rfl
    rw [if_neg hk, hzero, Int.natCast_zero, Int.neg_zero, Int.toNat_zero, hone, Nat.mul_one,
      Nat.mul_one]

theorem rounded_eq {num den : Nat} (hnum : 0 < num) (places : Nat) :
    rounded places num den =
      if Nat.pow 10 (places + 1) ≤ steps num den (decade num den - places) then
        ⟨Nat.toDigits 10 (steps num den (decade num den - places) / 10), decade num den + 1⟩
      else ⟨Nat.toDigits 10 (steps num den (decade num den - places)), decade num den⟩ := by
  rw [rounded, if_neg (Nat.ne_of_gt hnum)]
  simp only [Digits.ofNat_eq_toDigits]
  rfl

section rounded
variable {num den : Nat} (hnum : 0 < num) (hden : 0 < den)
include hnum hden

/-- In steps that show `places` digits behind the first one, a quotient has so many
    digits in front of the point. -/
theorem scaled_bounds (places : Nat) :
    ((Nat.pow 10 places : Nat) : ℚ) ≤ (num : ℚ) / den / (10 : ℚ) ^ (decade num den - places) ∧
      (num : ℚ) / den / (10 : ℚ) ^ (decade num den - places) < (Nat.pow 10 (places + 1) : Nat) := by
  obtain ⟨hlower, hupper⟩ := decade_bounds hden hnum
  have hstep : (0 : ℚ) < (10 : ℚ) ^ (decade num den - places) := by positivity
  have hfirst := natPow_mul_zpow (show decade num den - places + places = decade num den by omega)
  have hlast := natPow_mul_zpow (show decade num den - places + (places + 1 : Nat) =
    decade num den + 1 by omega)
  rw [le_div_iff₀ hstep, div_lt_iff₀ hstep, hfirst, hlast]
  exact ⟨hlower, hupper⟩

/-- Rounding to steps stays between the powers of ten. -/
theorem steps_bounds (places : Nat) :
    Nat.pow 10 places ≤ steps num den (decade num den - places) ∧
      steps num den (decade num den - places) ≤ Nat.pow 10 (places + 1) := by
  obtain ⟨hlower, hupper⟩ := scaled_bounds hnum hden places
  rw [← scale_eq hden] at hlower hupper
  exact ⟨le_roundHalfEven (scale_pos hden _ _) hlower,
    roundHalfEven_le (scale_pos hden _ _) (le_of_lt hupper)⟩

omit hnum in
/-- What is rounded up to a power of ten is rounded to the same power in steps ten
    times as long. -/
theorem steps_succ {e : Int} {places : Nat}
    (hsteps : steps num den e = Nat.pow 10 (places + 1))
    (hupper : (num : ℚ) / den / (10 : ℚ) ^ e < (Nat.pow 10 (places + 1) : Nat)) :
    steps num den (e + 1) = Nat.pow 10 places := by
  have herror := abs_le.mp (abs_roundHalfEven_sub_le (scale_pos hden num e) (scale num den e).1)
  have hten : ((Nat.pow 10 (places + 1) : Nat) : ℚ) = 10 * (Nat.pow 10 places : Nat) := by
    rw [Nat.pow_eq, Nat.pow_eq, pow_succ]
    push_cast
    ring
  have hcoarse : (num : ℚ) / den / (10 : ℚ) ^ (e + 1) = (num : ℚ) / den / (10 : ℚ) ^ e / 10 := by
    rw [zpow_add₀ (by norm_num), zpow_one, ← div_div]
  -- The error of the first rounding is the twentieth part of a long step.
  unfold steps at hsteps
  rw [hsteps, scale_eq hden, hten] at herror
  rw [hten] at hupper
  apply roundHalfEven_eq (scale_pos hden _ _) <;> rw [scale_eq hden, hcoarse] <;> linarith

/-- **The digits** of a rounded quotient are as many as they should be, the first of
    them not being zero, and they are what rounding at the place of the last of
    them gives: also if the first rounding has reached the next decade, where
    this is another place. -/
theorem rounded_spec (places : Nat) :
    (rounded places num den).digits =
        Nat.toDigits 10 (steps num den ((rounded places num den).exponent - places)) ∧
      Nat.pow 10 places ≤ steps num den ((rounded places num den).exponent - places) ∧
      steps num den ((rounded places num den).exponent - places) < Nat.pow 10 (places + 1) := by
  obtain ⟨hlower, hupper⟩ := steps_bounds hnum hden places
  rw [rounded_eq hnum]
  by_cases hcarry : Nat.pow 10 (places + 1) ≤ steps num den (decade num den - places)
  · -- Only the power of ten itself is reached, and it is dropped from as one zero.
    have heq := Nat.le_antisymm hupper hcarry
    have hsame := steps_succ hden heq (scaled_bounds hnum hden places).2
    have hexponent : decade num den + 1 - (places : Int) = decade num den - places + 1 := by omega
    have htens : Nat.pow 10 (places + 1) = 10 * Nat.pow 10 places := Nat.mul_comm _ _
    have hpos : 0 < Nat.pow 10 places := Nat.pow_pos (by decide)
    rw [if_pos hcarry, hexponent, hsame, heq, htens, Nat.mul_div_cancel_left _ (by decide)]
    exact ⟨rfl, Nat.le_refl _, by omega⟩
  · rw [if_neg hcarry]
    exact ⟨rfl, hlower, not_le.mp hcarry⟩

end rounded

end Scientific

end DynamicObjects
