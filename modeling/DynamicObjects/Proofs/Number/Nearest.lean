import DynamicObjects.Number.Rounding
import Mathlib.Algebra.Order.Ring.Abs
import Mathlib.Tactic.Linarith
import Mathlib.Tactic.Ring

/-! # Rounding gives the nearest number

    Distances are counted in units, so everything here is about whole numbers.

    The argument:
    1. A rounded quotient is off by half a divisor at most, and by less than that
       if it is odd; so it is the nearest whole number, even between two.
    2. A magnitude `p * 2 ^ 52 + s` has `s * 2 ^ p` units, also if `s` is the
       `2 ^ 53` that carries into the exponent.
    3. Numbers of the format that are not multiples of `2 ^ p` units lie below
       `2 ^ (52 + p)` units, which is a number of the format itself.
    4. A rounded quotient is beyond a whole number if the quotient is beyond the
       middle behind that number; this settles what becomes zero and what is too
       large.

    Main results:
    - `Binary64.ofUnits_nearest`: rounding a quotient gives the nearest number, ties
      to even
    - `Binary64.nearestMagnitude_lt_iff`: which quotients do not overflow
    - `Binary64.signedUnits_ofInt`: which integers need no rounding -/

namespace DynamicObjects

/-! ## Whole numbers -/

theorem natAbs_toInt_le (n : Int64) : n.toInt.natAbs ≤ Nat.pow 2 64 := by
  have hlt := n.toInt_lt
  have hge := n.le_toInt
  have hpow : Nat.pow 2 64 = 18446744073709551616 := rfl
  omega

/-- The error of a rounded quotient, doubled. -/
theorem roundHalfEven_error (num : Nat) {den : Nat} (hden : 0 < den) :
    2 * |(roundHalfEven num den : Int) * den - num| ≤ den ∧
      (roundHalfEven num den % 2 = 1 →
        2 * |(roundHalfEven num den : Int) * den - num| < den) := by
  have hnum : (num : Int) = (num / den : Nat) * den + (num % den : Nat) := by
    exact_mod_cast (Nat.div_add_mod' num den).symm
  have hrest : num % den < den := Nat.mod_lt num hden
  unfold roundHalfEven
  generalize num / den = q at hnum ⊢
  generalize num % den = r at hnum hrest ⊢
  dsimp only
  rw [hnum]
  have hbelow : |(q : Int) * den - (q * den + r)| = r := by
    rw [abs_of_nonpos] <;> omega
  have habove : |((q + 1 : Nat) : Int) * den - (q * den + r)| = den - r := by
    have heq : ((q + 1 : Nat) : Int) * den - (q * den + r) = den - r := by push_cast; ring
    rw [heq, abs_of_nonneg (by omega)]
  split
  · rw [hbelow]
    omega
  · split
    · rw [habove]
      omega
    · -- A tie: of the two neighbours the even one is taken.
      rcases Nat.mod_two_eq_zero_or_one q with hq | hq
      · rw [hq, Nat.add_zero, hbelow]
        omega
      · rw [hq, habove]
        omega

/-- A rounded quotient is beyond `j` if the quotient is beyond the middle between `j`
    and its successor, or is that middle and `j` is odd. -/
theorem lt_roundHalfEven_iff (j num : Nat) {den : Nat} (hden : 0 < den) :
    j < roundHalfEven num den ↔
      (2 * j + 1) * den < 2 * num ∨ (2 * j + 1) * den = 2 * num ∧ j % 2 = 1 := by
  have hnum : num = num / den * den + num % den := (Nat.div_add_mod' num den).symm
  have hrest : num % den < den := Nat.mod_lt num hden
  unfold roundHalfEven
  generalize num / den = q at hnum ⊢
  generalize num % den = r at hnum hrest ⊢
  dsimp only
  rw [hnum]
  rcases Nat.lt_trichotomy q j with hlt | rfl | hgt
  · -- Even the successor of the quotient is not beyond `j`.
    obtain ⟨t, rfl⟩ : ∃ t, j = q + 1 + t := ⟨j - q - 1, by omega⟩
    have hmiddle : (2 * (q + 1 + t) + 1) * den = 2 * (q * den) + 3 * den + 2 * (t * den) := by ring
    rw [hmiddle]
    split <;> [omega; split <;> omega]
  · have hmiddle : (2 * q + 1) * den = 2 * (q * den) + den := by ring
    rw [hmiddle]
    split <;> [omega; split <;> omega]
  · obtain ⟨t, rfl⟩ : ∃ t, q = j + 1 + t := ⟨q - j - 1, by omega⟩
    have hmiddle : 2 * ((j + 1 + t) * den + r) =
        (2 * j + 1) * den + den + 2 * (t * den) + 2 * r := by ring
    rw [hmiddle]
    split <;> [omega; split <;> omega]

/-- Any other multiple is at least as far away as the nearest one. -/
theorem abs_sub_le_of_error {g s x : Int} (herror : 2 * |s * g - x| ≤ g) {k : Int} (hne : k ≠ s) :
    |s * g - x| ≤ |k * g - x| ∧ (2 * |s * g - x| < g → |s * g - x| < |k * g - x|) := by
  have hg : 0 ≤ g := le_trans (by positivity) herror
  have hstep : g ≤ |(k - s) * g| := by
    rw [abs_mul, abs_of_nonneg hg]
    have hone : 1 ≤ |k - s| := Int.one_le_abs (sub_ne_zero.mpr hne)
    nlinarith
  have hsplit : |(k - s) * g| ≤ |k * g - x| + |s * g - x| := by
    have heq : (k - s) * g = (k * g - x) - (s * g - x) := by ring
    rw [heq]
    exact abs_sub _ _
  omega

namespace Binary64

/-! ## Fields of a word -/

section fields
variable {m : Nat}

theorem toNat_ofMagnitude (negative : Bool) (hm : m < Nat.pow 2 63) :
    (ofMagnitude negative m).bits.toNat = (if negative then Nat.pow 2 63 else 0) + m := by
  simp only [Nat.pow_eq] at hm ⊢
  cases negative <;> simp [ofMagnitude, UInt64.toNat_ofNat'] <;> omega

theorem isNegative_ofMagnitude (negative : Bool) (hm : m < Nat.pow 2 63) :
    (ofMagnitude negative m).isNegative = negative := by
  rw [isNegative, toNat_ofMagnitude negative hm]
  cases negative <;> simp at hm ⊢
  exact hm

theorem magnitude_ofMagnitude (negative : Bool) (hm : m < Nat.pow 2 63) :
    (ofMagnitude negative m).magnitude = m := by
  rw [magnitude, toNat_ofMagnitude negative hm]
  simp only [Nat.pow_eq] at hm ⊢
  cases negative <;> simp <;> omega

end fields

/-! ## Units of a word -/

section units
variable {x : Binary64} {p s : Nat}

/-- A magnitude in steps of `2 ^ p` units: the significand is counted on top of
    the exponent, even if it carries into it. -/
theorem units_of_magnitude (hmagnitude : x.magnitude = p * Nat.pow 2 52 + s)
    (hnormal : Nat.pow 2 52 ≤ s ∨ p = 0) (hs : s ≤ Nat.pow 2 53) :
    x.units = s * Nat.pow 2 p ∧ (s % 2 = 0 → x.significand % 2 = 0) := by
  unfold units significand shift exponentField fraction
  rw [hmagnitude]
  simp only [Nat.pow_eq] at hnormal hs ⊢
  by_cases hsub : s < 2 ^ 52
  · obtain rfl : p = 0 := by omega
    have hexponent : (0 * 2 ^ 52 + s) / 2 ^ 52 = 0 := by omega
    have hfraction : (0 * 2 ^ 52 + s) % 2 ^ 52 = s := by omega
    rw [hexponent, hfraction, if_pos rfl]
    exact ⟨rfl, id⟩
  · -- A significand of `2 ^ 53` shows as the next exponent with an empty fraction.
    by_cases hcarry : s = 2 ^ 53
    · have hexponent : (p * 2 ^ 52 + s) / 2 ^ 52 = p + 2 := by omega
      have hfraction : (p * 2 ^ 52 + s) % 2 ^ 52 = 0 := by omega
      rw [hexponent, hfraction, if_neg (by omega), hcarry, Nat.add_sub_assoc (by decide),
        Nat.pow_add]
      exact ⟨by omega, fun _ => by decide⟩
    · have hexponent : (p * 2 ^ 52 + s) / 2 ^ 52 = p + 1 := by omega
      have hfraction : (p * 2 ^ 52 + s) % 2 ^ 52 = s - 2 ^ 52 := by omega
      rw [hexponent, hfraction, if_neg (by omega), Nat.add_sub_cancel,
        Nat.add_sub_cancel' (by omega)]
      exact ⟨rfl, id⟩

theorem significand_lt (x : Binary64) : x.significand < Nat.pow 2 53 := by
  have hfraction : x.fraction < Nat.pow 2 52 := Nat.mod_lt _ (two_pow_pos 52)
  have hdouble : Nat.pow 2 53 = Nat.pow 2 52 + Nat.pow 2 52 := by decide
  unfold significand
  split <;> omega

/-- **Grid**: a number is a multiple of `2 ^ p` units unless it lies below the
    numbers that `p` belongs to. -/
theorem units_lt_or_dvd (x : Binary64) (p : Nat) :
    x.units < Nat.pow 2 52 * Nat.pow 2 p ∨ Nat.pow 2 p ∣ x.units := by
  by_cases hshift : p ≤ x.shift
  · right
    have hdvd : Nat.pow 2 p ∣ Nat.pow 2 x.shift := Nat.pow_dvd_pow 2 hshift
    exact hdvd.mul_left _
  · left
    calc x.units = x.significand * Nat.pow 2 x.shift := rfl
      _ < Nat.pow 2 53 * Nat.pow 2 x.shift :=
        Nat.mul_lt_mul_of_pos_right x.significand_lt (two_pow_pos _)
      _ = Nat.pow 2 (53 + x.shift) := (two_pow_split rfl).symm
      _ ≤ Nat.pow 2 (52 + p) := Nat.pow_le_pow_right (by decide) (by omega)
      _ = Nat.pow 2 52 * Nat.pow 2 p := two_pow_split rfl

end units

/-! ## Rounded quotients -/

/-- The step between the numbers that a number of units is rounded among. -/
def roundingShift (num : Nat) : Nat := num.log2 - 52

/-- The significand that a quotient of units is rounded to. -/
def roundedQuotient (num den : Nat) : Nat :=
  roundHalfEven num (den * Nat.pow 2 (roundingShift (num / den)))

section quotient
variable {num den : Nat}

theorem nearestMagnitude_eq (num den : Nat) : nearestMagnitude num den =
    min (roundingShift (num / den) * Nat.pow 2 52 + roundedQuotient num den)
      infiniteMagnitude := rfl

/-- A quotient that is not small enough to be kept as it is lies between `2 ^ 52` and
    `2 ^ 53` steps. -/
theorem le_of_roundingShift (hden : 0 < den) (h : 52 ≤ (num / den).log2) :
    Nat.pow 2 52 * (den * Nat.pow 2 (roundingShift (num / den))) ≤ num ∧
      num < Nat.pow 2 53 * (den * Nat.pow 2 (roundingShift (num / den))) := by
  have hpos : num / den ≠ 0 := by
    intro hzero
    rw [hzero] at h
    simp at h
  have hlow : 52 + roundingShift (num / den) = (num / den).log2 := by
    rw [roundingShift]
    omega
  have hhigh : 53 + roundingShift (num / den) = (num / den).log2 + 1 := by omega
  rw [Nat.mul_left_comm, Nat.mul_left_comm (Nat.pow 2 53), ← two_pow_split hlow,
    ← two_pow_split hhigh, Nat.mul_comm den, Nat.mul_comm den]
  exact ⟨(Nat.le_div_iff_mul_le hden).mp (Nat.log2_self_le hpos),
    (Nat.div_lt_iff_lt_mul hden).mp Nat.lt_log2_self⟩

/-- Below that, the quotient is less than `2 ^ 53` single units. -/
theorem lt_of_log2_lt (hden : 0 < den) (h : (num / den).log2 < 52) :
    roundingShift (num / den) = 0 ∧ num < Nat.pow 2 52 * den := by
  refine ⟨by rw [roundingShift]; omega, ?_⟩
  by_cases hzero : num / den = 0
  · have hlt : num < den := (Nat.div_eq_zero_iff_lt hden).mp hzero
    have hle : den ≤ Nat.pow 2 52 * den := Nat.le_mul_of_pos_left _ (two_pow_pos 52)
    omega
  · exact (Nat.div_lt_iff_lt_mul hden).mp ((Nat.log2_lt hzero).mp h)

theorem roundedQuotient_bounds (num : Nat) (hden : 0 < den) :
    (Nat.pow 2 52 ≤ roundedQuotient num den ∨ roundingShift (num / den) = 0) ∧
      roundedQuotient num den ≤ Nat.pow 2 53 := by
  have hstep : 0 < den * Nat.pow 2 (roundingShift (num / den)) :=
    Nat.mul_pos hden (two_pow_pos _)
  -- Rounding moves a quotient to one of the two whole numbers around it.
  have hround : ∀ {a b : Nat}, a ≤ num / (den * Nat.pow 2 (roundingShift (num / den))) →
      num / (den * Nat.pow 2 (roundingShift (num / den))) < b →
      a ≤ roundedQuotient num den ∧ roundedQuotient num den ≤ b := by
    intro a b ha hb
    unfold roundedQuotient roundHalfEven
    dsimp only
    split
    · omega
    · split <;> omega
  by_cases hlog : 52 ≤ (num / den).log2
  · obtain ⟨hlow, hhigh⟩ := le_of_roundingShift hden hlog
    obtain ⟨hlow, hhigh⟩ := hround ((Nat.le_div_iff_mul_le hstep).mpr hlow)
      ((Nat.div_lt_iff_lt_mul hstep).mpr hhigh)
    exact ⟨.inl hlow, hhigh⟩
  · obtain ⟨hshift, hsmall⟩ := lt_of_log2_lt hden (not_le.mp hlog)
    have hlt : num / (den * Nat.pow 2 (roundingShift (num / den))) < Nat.pow 2 52 := by
      rw [hshift]
      exact (Nat.div_lt_iff_lt_mul (by simpa using hden)).mpr (by simpa using hsmall)
    have hdouble : Nat.pow 2 52 ≤ Nat.pow 2 53 := by decide
    have hle := (hround (Nat.zero_le _) hlt).2
    exact ⟨.inr hshift, by omega⟩

/-- No number on the grid is nearer than the rounded one, and none is as near
    unless the significand is even. -/
theorem abs_sub_roundedQuotient (num : Nat) (hden : 0 < den) {u : Int}
    (hgrid : u.natAbs < Nat.pow 2 52 * Nat.pow 2 (roundingShift (num / den)) ∨
      Nat.pow 2 (roundingShift (num / den)) ∣ u.natAbs) :
    let nearest : Int := roundedQuotient num den * (Nat.pow 2 (roundingShift (num / den)) : Nat)
    |nearest * den - num| ≤ |u * den - num| ∧
      (|nearest * den - num| = |u * den - num| →
        u = nearest ∨ roundedQuotient num den % 2 = 0) := by
  intro nearest
  obtain ⟨herror, hodd⟩ := roundHalfEven_error num
    (Nat.mul_pos hden (two_pow_pos (roundingShift (num / den))))
  have hsteps : ∀ k : Int, k * (Nat.pow 2 (roundingShift (num / den)) : Nat) * den =
      k * (den * Nat.pow 2 (roundingShift (num / den)) : Nat) := by
    intro k
    push_cast
    ring
  -- A multiple of the step is compared with the nearest one.
  have hmultiple : ∀ k : Int, let v : Int := k * (Nat.pow 2 (roundingShift (num / den)) : Nat)
      |nearest * den - num| ≤ |v * den - num| ∧
        (|nearest * den - num| = |v * den - num| →
          v = nearest ∨ roundedQuotient num den % 2 = 0) := by
    intro k v
    by_cases hk : k = roundedQuotient num den
    · have hv : v = nearest := by simp only [v, nearest, hk]
      rw [hv]
      exact ⟨le_refl _, fun _ => .inl rfl⟩
    · obtain ⟨hle, hlt⟩ := abs_sub_le_of_error herror hk
      simp only [v, nearest, hsteps]
      refine ⟨hle, fun heq => .inr ?_⟩
      by_contra hnot
      have hfar := hlt (hodd (Nat.mod_two_ne_zero.mp hnot))
      exact absurd heq (ne_of_lt hfar)
  by_cases hdvd : Nat.pow 2 (roundingShift (num / den)) ∣ u.natAbs
  · obtain ⟨k, rfl⟩ := Int.natCast_dvd.mpr hdvd
    rw [mul_comm ((Nat.pow 2 (roundingShift (num / den)) : Nat) : Int)]
    exact hmultiple k
  · have hbelow := hgrid.resolve_right hdvd
    have hlog : 52 ≤ (num / den).log2 := by
      by_contra hsmall
      exact hdvd (by rw [(lt_of_log2_lt hden (not_le.mp hsmall)).1]; exact one_dvd _)
    obtain ⟨hlow, -⟩ := le_of_roundingShift hden hlog
    obtain ⟨hle, -⟩ := hmultiple (Nat.pow 2 52 : Nat)
    -- What lies below the grid is farther away than the least number on it.
    have hfar : |((Nat.pow 2 52 : Nat) : Int) * (Nat.pow 2 (roundingShift (num / den)) : Nat) *
        den - num| < |u * den - num| := by
      have hleast : ((Nat.pow 2 52 : Nat) : Int) * (Nat.pow 2 (roundingShift (num / den)) : Nat) *
          den ≤ num := by
        rw [hsteps]
        exact_mod_cast hlow
      have hless : u * den <
          ((Nat.pow 2 52 : Nat) : Int) * (Nat.pow 2 (roundingShift (num / den)) : Nat) * den := by
        refine mul_lt_mul_of_pos_right ?_ (by exact_mod_cast hden)
        have hcast : (u.natAbs : Int) <
            (Nat.pow 2 52 : Nat) * (Nat.pow 2 (roundingShift (num / den)) : Nat) := by
          exact_mod_cast hbelow
        omega
      rw [abs_of_nonpos (by omega), abs_of_nonpos (by omega)]
      omega
    have hlt := lt_of_le_of_lt hle hfar
    exact ⟨le_of_lt hlt, fun heq => absurd heq (ne_of_lt hlt)⟩

/-- Only what is at most half a unit becomes zero. -/
theorem nearestMagnitude_eq_zero_iff (num : Nat) (hden : 0 < den) :
    nearestMagnitude num den = 0 ↔ 2 * num ≤ den := by
  obtain ⟨hnormal, -⟩ := roundedQuotient_bounds num hden
  have hpos := two_pow_pos 52
  have hinfinite : 0 < infiniteMagnitude := by decide
  rw [nearestMagnitude_eq]
  by_cases hshift : roundingShift (num / den) = 0
  · have hround := lt_roundHalfEven_iff 0 num hden
    have hquotient : roundedQuotient num den = roundHalfEven num den := by
      rw [roundedQuotient, hshift]
      exact congrArg (roundHalfEven num) (Nat.mul_one den)
    rw [hshift, hquotient]
    omega
  · -- A quotient beyond `2 ^ 53` units is far from zero.
    have hlog : 52 ≤ (num / den).log2 := by
      rw [roundingShift] at hshift
      omega
    have hle : den ≤ num :=
      calc
        den ≤ den * Nat.pow 2 (roundingShift (num / den)) :=
          Nat.le_mul_of_pos_right _ (two_pow_pos _)
        _ ≤ Nat.pow 2 52 * (den * Nat.pow 2 (roundingShift (num / den))) :=
          Nat.le_mul_of_pos_left _ hpos
        _ ≤ num := (le_of_roundingShift hden hlog).1
    have hmagnitude : 0 < roundingShift (num / den) * Nat.pow 2 52 :=
      Nat.mul_pos (Nat.pos_of_ne_zero hshift) hpos
    omega

/-- What is rounded is never beyond `2 ^ 53` steps. -/
theorem lt_of_roundingShift (num : Nat) (hden : 0 < den) :
    num < Nat.pow 2 53 * (den * Nat.pow 2 (roundingShift (num / den))) := by
  by_cases hlog : 52 ≤ (num / den).log2
  · exact (le_of_roundingShift hden hlog).2
  · obtain ⟨hshift, hlt⟩ := lt_of_log2_lt hden (not_le.mp hlog)
    rw [hshift]
    exact Nat.lt_of_lt_of_le hlt (Nat.mul_le_mul (by decide) (Nat.le_of_eq (Nat.mul_one den).symm))

/-- So many units are half a step in front of the number whose exponent is `e + 3`. -/
def halfStepBefore (e : Nat) : Nat := (Nat.pow 2 54 - 1) * Nat.pow 2 e

/-- A quotient below that is rounded to a smaller exponent. -/
theorem rounded_lt_iff (num : Nat) (hden : 0 < den) (e : Nat) :
    roundingShift (num / den) * Nat.pow 2 52 + roundedQuotient num den < (e + 3) * Nat.pow 2 52 ↔
      num < halfStepBefore e * den := by
  rw [halfStepBefore, Nat.mul_assoc, Nat.mul_comm (Nat.pow 2 e)]
  obtain ⟨hnormal, hsignificand⟩ := roundedQuotient_bounds num hden
  have hless := lt_of_roundingShift num hden
  have hround := lt_roundHalfEven_iff (Nat.pow 2 53 - 1) num
    (Nat.mul_pos hden (two_pow_pos (roundingShift (num / den))))
  rw [← roundedQuotient] at hround
  have hlow : roundingShift (num / den) ≠ 0 →
      Nat.pow 2 52 * (den * Nat.pow 2 (roundingShift (num / den))) ≤ num := by
    intro hshift
    rw [roundingShift] at hshift
    exact (le_of_roundingShift hden (by omega)).1
  have hsteps : ∀ {i j : Nat}, i ≤ j → den * Nat.pow 2 i ≤ den * Nat.pow 2 j :=
    fun h => Nat.mul_le_mul_left _ (Nat.pow_le_pow_right (by decide) h)
  have hdouble : ∀ i, den * Nat.pow 2 (i + 1) = 2 * (den * Nat.pow 2 i) := by
    intro i
    have hpow : Nat.pow 2 (i + 1) = Nat.pow 2 i * 2 := rfl
    rw [hpow]
    ring
  have hnext := hdouble e
  have hbeyond := hdouble (e + 1)
  generalize roundedQuotient num den = s at *
  generalize roundingShift (num / den) = p at *
  -- Only the last step in front of the exponent is carried into it by its significand.
  rcases Nat.lt_trichotomy p (e + 1) with hp | rfl | hp
  · have hle := hsteps (Nat.le_of_lt_succ hp)
    simp only [Nat.pow_eq, Nat.reducePow] at *
    omega
  · rw [hnext] at *
    simp only [Nat.pow_eq, Nat.reducePow, Nat.reduceSub, Nat.reduceMod, and_true] at *
    omega
  · have hle := hsteps (show e + 1 + 1 ≤ p from hp)
    have hlow := hlow (by omega)
    simp only [Nat.pow_eq, Nat.reducePow] at *
    omega

/-- So many units are half a step in front of the first number that is too large. -/
def overflowUnits : Nat := halfStepBefore 2044

/-- **Overflow**: only quotients below that remain finite. -/
theorem nearestMagnitude_lt_iff (num : Nat) (hden : 0 < den) :
    nearestMagnitude num den < infiniteMagnitude ↔ num < overflowUnits * den := by
  have hmin : ∀ a b : Nat, min a b < b ↔ a < b := by omega
  rw [nearestMagnitude_eq, hmin]
  exact rounded_lt_iff num hden 2044

end quotient

/-! ## Signs

A sign on both sides does not matter to a distance. -/

/-- A number of units under a sign. -/
def applySign (negative : Bool) (u : Int) : Int := if negative then -u else u

theorem applySign_applySign (negative : Bool) (u : Int) :
    applySign negative (applySign negative u) = u := by
  cases negative <;> simp [applySign]

theorem natAbs_applySign (negative : Bool) (u : Int) :
    (applySign negative u).natAbs = u.natAbs := by
  cases negative <;> simp [applySign]

theorem abs_applySign_sub (negative : Bool) (u v : Int) :
    |applySign negative u - applySign negative v| = |u - v| := by
  cases negative with
  | false => rfl
  | true =>
    show |-u - -v| = |u - v|
    rw [← abs_neg (u - v)]
    congr 1
    ring

theorem applySign_mul (negative : Bool) (u v : Int) :
    applySign negative u * v = applySign negative (u * v) := by
  cases negative with
  | false => rfl
  | true => exact neg_mul u v

theorem signedUnits_eq_applySign (x : Binary64) :
    x.signedUnits = applySign x.isNegative x.units := rfl

theorem nearestMagnitude_le (num den : Nat) : nearestMagnitude num den ≤ infiniteMagnitude :=
  Nat.min_le_right _ _

/-- Even what is infinite has a magnitude of 63 bits. -/
theorem fields_ofUnits (negative : Bool) (num den : Nat) :
    (ofUnits negative num den).isNegative = negative ∧
      (ofUnits negative num den).magnitude = nearestMagnitude num den := by
  have hbound : nearestMagnitude num den < Nat.pow 2 63 :=
    Nat.lt_of_le_of_lt (nearestMagnitude_le num den) (by decide)
  exact ⟨isNegative_ofMagnitude negative hbound, magnitude_ofMagnitude negative hbound⟩

section rounding
variable (negative : Bool) {num den : Nat} (hden : 0 < den)
  (hfinite : nearestMagnitude num den < infiniteMagnitude)
include hfinite

theorem isFinite_ofUnits : (ofUnits negative num den).isFinite = true := by
  rw [isFinite, (fields_ofUnits negative num den).2]
  exact decide_eq_true hfinite

include hden

/-- What is rounded is the significand, in steps of `2 ^ roundingShift` units. -/
theorem signedUnits_ofUnits :
    (ofUnits negative num den).signedUnits = applySign negative
        (roundedQuotient num den * (Nat.pow 2 (roundingShift (num / den)) : Nat)) ∧
      (roundedQuotient num den % 2 = 0 → (ofUnits negative num den).significand % 2 = 0) := by
  obtain ⟨hsign, hmagnitude⟩ := fields_ofUnits negative num den
  obtain ⟨hnormal, hsignificand⟩ := roundedQuotient_bounds num hden
  have hsum : nearestMagnitude num den =
      roundingShift (num / den) * Nat.pow 2 52 + roundedQuotient num den := by
    have heq := nearestMagnitude_eq num den
    omega
  obtain ⟨hunits, heven⟩ := units_of_magnitude (hmagnitude.trans hsum) hnormal hsignificand
  refine ⟨?_, heven⟩
  rw [signedUnits_eq_applySign, hsign, hunits]
  push_cast
  rfl

/-- **Rounding** gives the nearest number, and of two numbers that are as near the
    one with an even significand. -/
theorem ofUnits_nearest (y : Binary64) :
    |(ofUnits negative num den).signedUnits * den - applySign negative num| ≤
        |y.signedUnits * den - applySign negative num| ∧
      (|(ofUnits negative num den).signedUnits * den - applySign negative num| =
          |y.signedUnits * den - applySign negative num| →
        y.signedUnits = (ofUnits negative num den).signedUnits ∨
          (ofUnits negative num den).significand % 2 = 0) := by
  obtain ⟨hsigned, heven⟩ := signedUnits_ofUnits negative hden hfinite
  have hgrid : (applySign negative y.signedUnits).natAbs = y.units := by
    rw [natAbs_applySign, signedUnits_eq_applySign, natAbs_applySign, Int.natAbs_natCast]
  have hnearest := abs_sub_roundedQuotient num hden (u := applySign negative y.signedUnits)
    (by rw [hgrid]; exact y.units_lt_or_dvd (roundingShift (num / den)))
  rw [hsigned, ← applySign_applySign negative y.signedUnits, applySign_mul, applySign_mul,
    abs_applySign_sub, abs_applySign_sub]
  exact ⟨hnearest.1, fun heq => (hnearest.2 heq).imp (congrArg (applySign negative)) heven⟩

end rounding

section whole
variable (negative : Bool) {num : Nat} (hfinite : nearestMagnitude num 1 < infiniteMagnitude)
include hfinite

/-- A multiple of the step needs no rounding. -/
theorem signedUnits_ofUnits_of_dvd (hdvd : Nat.pow 2 (roundingShift num) ∣ num) :
    (ofUnits negative num 1).signedUnits = applySign negative num := by
  obtain ⟨hsigned, -⟩ := signedUnits_ofUnits negative Nat.one_pos hfinite
  have hexact : roundedQuotient num 1 * Nat.pow 2 (roundingShift num) = num := by
    obtain ⟨q, hq⟩ := hdvd
    have hround := roundHalfEven_mul q (two_pow_pos (roundingShift num))
    rw [mul_comm, ← hq] at hround
    rw [roundedQuotient, Nat.div_one, Nat.one_mul, hround, mul_comm, ← hq]
  rw [hsigned, Nat.div_one, ← Nat.cast_mul, hexact]

end whole

/-! ## Integers -/

/-- An integer of 64 bits is far from what overflows. -/
theorem nearestMagnitude_lt {n : Nat} (hn : n ≤ Nat.pow 2 64) :
    nearestMagnitude (n * unitsPerOne) 1 < infiniteMagnitude := by
  by_cases hzero : n = 0
  · subst hzero
    rw [Nat.zero_mul]
    decide
  · have hlog : n.log2 ≤ 64 := by
      by_contra hbig
      have hle : Nat.pow 2 65 ≤ n := (Nat.le_log2 hzero).mp (by omega)
      exact absurd (Nat.le_trans hle hn) (by decide)
    have hshift : roundingShift (n * unitsPerOne) ≤ 1086 := by
      rw [roundingShift, unitsPerOne_eq, log2_mul_two_pow hzero, unitExponent]
      omega
    obtain ⟨-, hsignificand⟩ := roundedQuotient_bounds (n * unitsPerOne) Nat.one_pos
    have hsum : roundingShift (n * unitsPerOne) * Nat.pow 2 52 +
        roundedQuotient (n * unitsPerOne) 1 ≤ 1086 * Nat.pow 2 52 + Nat.pow 2 53 :=
      Nat.add_le_add (Nat.mul_le_mul_right _ hshift) hsignificand
    rw [nearestMagnitude_eq, Nat.div_one]
    exact Nat.lt_of_le_of_lt (Nat.le_trans (Nat.min_le_left _ _) hsum) (by decide)

theorem applySign_units (n : Int) :
    applySign (decide (n < 0)) (n.natAbs * unitsPerOne : Nat) = n * unitsPerOne := by
  unfold applySign
  push_cast
  by_cases hneg : n < 0
  · rw [if_pos (decide_eq_true hneg), abs_of_neg hneg]
    ring
  · rw [if_neg (by simpa using hneg), abs_of_nonneg (by omega)]

/-- Integers of at most 53 bits, and the next one, become the number they are. -/
theorem signedUnits_ofInt {n : Int} (hn : n.natAbs ≤ Nat.pow 2 53) :
    (ofInt n).signedUnits = n * unitsPerOne := by
  rw [ofInt_eq_ofQuotient, ← applySign_units]
  refine signedUnits_ofUnits_of_dvd _ (nearestMagnitude_lt (Nat.le_trans hn (by decide))) ?_
  by_cases hzero : n.natAbs = 0
  · rw [hzero, Nat.zero_mul]
    exact dvd_zero _
  · have hshift : roundingShift (n.natAbs * unitsPerOne) = n.natAbs.log2 + 1022 := by
      rw [roundingShift, unitsPerOne_eq, log2_mul_two_pow hzero, unitExponent]
      omega
    rw [hshift, unitsPerOne_eq]
    have hexponent : unitExponent = 1074 := rfl
    generalize unitExponent = e at hexponent ⊢
    by_cases hlast : n.natAbs = Nat.pow 2 53
    · -- The step is two ones here, and the integer is even.
      have hlog : n.natAbs.log2 = 53 := by
        rw [hlast]
        decide
      have hsum : 53 + e = n.natAbs.log2 + 1022 + 52 := by omega
      have hsplit :=
        calc n.natAbs * Nat.pow 2 e
            = Nat.pow 2 53 * Nat.pow 2 e := by rw [hlast]
          _ = Nat.pow 2 (n.natAbs.log2 + 1022 + 52) := (two_pow_split hsum).symm
          _ = Nat.pow 2 (n.natAbs.log2 + 1022) * Nat.pow 2 52 := two_pow_split rfl
      exact ⟨_, hsplit⟩
    · have hlog : n.natAbs.log2 < 53 :=
        (Nat.log2_lt hzero).mpr (Nat.lt_of_le_of_ne hn hlast)
      have hdvd : Nat.pow 2 (n.natAbs.log2 + 1022) ∣ Nat.pow 2 e :=
        Nat.pow_dvd_pow 2 (by omega)
      exact hdvd.mul_left _

/-! ## Equality -/

/-- Only zero becomes a zero. -/
theorem nearestMagnitude_ne_zero {n : Nat} (hzero : n ≠ 0) :
    nearestMagnitude (n * unitsPerOne) 1 ≠ 0 := by
  have hpos : 0 < n * unitsPerOne :=
    Nat.mul_pos (Nat.pos_of_ne_zero hzero) (unitsPerOne_eq ▸ two_pow_pos _)
  rw [Ne, nearestMagnitude_eq_zero_iff _ Nat.one_pos]
  omega

/-- The numbers that two integers become are equal exactly if they are the same
    word: there is only one zero among them. -/
theorem equals_ofInt {m n : Int} (hm : m.natAbs ≤ Nat.pow 2 64) (hn : n.natAbs ≤ Nat.pow 2 64) :
    (ofInt m).equals (ofInt n) = decide (ofInt m = ofInt n) := by
  have hfields : ∀ {k : Int}, k.natAbs ≤ Nat.pow 2 64 →
      ofInt k = ofMagnitude (decide (k < 0)) (nearestMagnitude (k.natAbs * unitsPerOne) 1) ∧
        (ofInt k).isNaN = false ∧ (ofInt k).numericKey =
          applySign (decide (k < 0)) (nearestMagnitude (k.natAbs * unitsPerOne) 1) := by
    intro k hk
    have heq := ofInt_eq_ofQuotient k
    have hlt := nearestMagnitude_lt hk
    obtain ⟨hsign, hmagnitude⟩ := fields_ofUnits (decide (k < 0)) (k.natAbs * unitsPerOne) 1
    refine ⟨heq, ?_, ?_⟩
    · rw [heq, ofQuotient, isNaN, hmagnitude]
      exact decide_eq_false (Nat.lt_asymm hlt)
    · rw [heq, ofQuotient, numericKey, hsign, hmagnitude]
      rfl
  obtain ⟨hword, hnan, hkey⟩ := hfields hm
  obtain ⟨hword', hnan', hkey'⟩ := hfields hn
  have hkeys : (ofInt m).numericKey = (ofInt n).numericKey ↔ ofInt m = ofInt n := by
    refine ⟨fun h => ?_, congrArg numericKey⟩
    rw [hkey, hkey'] at h
    have hmagnitudes := congrArg Int.natAbs h
    rw [natAbs_applySign, natAbs_applySign, Int.natAbs_natCast, Int.natAbs_natCast] at hmagnitudes
    rw [hword, hword', hmagnitudes]
    by_cases hsigns : m < 0 ↔ n < 0
    · rw [decide_eq_decide.mpr hsigns]
    · -- Keys of different signs are equal only at zero.
      have hpos : ∀ {k : Int}, k < 0 → nearestMagnitude (k.natAbs * unitsPerOne) 1 ≠ 0 :=
        fun hneg => nearestMagnitude_ne_zero (by omega)
      have hm' := hpos (k := m)
      have hn' := hpos (k := n)
      unfold applySign at h
      by_cases hneg : m < 0 <;> by_cases hneg' : n < 0 <;> simp [hneg, hneg'] at h hsigns
      · have := hm' hneg
        omega
      · have := hn' hneg'
        omega
  rw [equals, compare?, hnan, hnan']
  simp only [Bool.or_self, Bool.false_eq_true, ↓reduceIte]
  rw [Bool.eq_iff_iff, decide_eq_true_iff, ← hkeys]
  simp

end Binary64

end DynamicObjects
