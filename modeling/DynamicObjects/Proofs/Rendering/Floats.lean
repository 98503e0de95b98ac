import DynamicObjects.Host.Stock
import DynamicObjects.Proofs.Number.Correct
import DynamicObjects.Proofs.Number.DecimalText
import DynamicObjects.Proofs.Number.Shortest
import DynamicObjects.Proofs.Text.Characters

/-! # Texts of floats

    The text of a float can be told from that of an integer by its point.  Whole
    numbers from `10 ^ 16` on are written without one, though, and share their texts
    with integers as far as these reach.

    The argument:
    1. If the shortest digits reach the ones, then nothing but zeros follows them;
       otherwise there is a point among them.  From `10 ^ 16` on they reach the ones.
    2. What is written is off by half a step at most.  If it is a whole number, and
       a step is a fraction of one, then it is not off at all.
    3. The float `2 ^ 63` is a whole number of steps, so that what is written for
       another float is on the same side of it.

    Main results:
    - `Binary64.point_mem_text`: numbers below `10 ^ 16`
    - `Binary64.text_of_large`: numbers from `10 ^ 16` on
    - `float_text_shared`: which texts are those of integers -/

namespace DynamicObjects

/-! ## Positional notation -/

namespace Scientific
variable {m count : Nat} {e : Int}

/-- Digits that do not reach the ones are written with a point. -/
theorem point_mem_positional (h : e + 1 < digitCount m) :
    '.' ∈ positional ⟨Nat.toDigits 10 m, e⟩ := by
  have hlength : (Nat.toDigits 10 m).length = digitCount m := rfl
  unfold positional
  dsimp only
  by_cases he : e < 0
  · rw [if_pos he]
    exact List.mem_cons_of_mem _ List.mem_cons_self
  · rw [if_neg he, hlength, if_neg (by omega), insertPoint, if_neg (by omega)]
    exact List.mem_append_right _ List.mem_cons_self

/-- Digits that do are followed by zeros. -/
theorem positional_eq (hm : 0 < m) (h : (digitCount m + count : Nat) = e + 1) :
    positional ⟨Nat.toDigits 10 m, e⟩ = Nat.toDigits 10 (m * Nat.pow 10 count) := by
  have hlength : (Nat.toDigits 10 m).length = digitCount m := rfl
  have hpos : 0 < digitCount m := Nat.length_toDigits_pos
  have hzeros : e.toNat + 1 - digitCount m = count := by omega
  rw [toDigits_mul_pow hm]
  unfold positional
  dsimp only
  rw [if_neg (by omega), hlength, if_pos (by omega), hzeros]

end Scientific

namespace Binary64

/-! ## Sizes -/

section sizes
variable {x y : Binary64}

theorem abs_toRat (x : Binary64) : |x.toRat| = (x.units : ℚ) / unitsPerOne := by
  have hsigned : |((x.signedUnits : Int) : ℚ)| = x.units := by
    rw [signedUnits_eq_applySign]
    exact abs_applySign _ _
  rw [toRat, abs_div, hsigned, abs_of_pos unitsPerOne_pos]

theorem magnitude_lt_iff : x.magnitude < y.magnitude ↔ x.units < y.units := by
  refine ⟨units_lt_of_magnitude_lt, fun h => ?_⟩
  rcases Nat.lt_trichotomy x.magnitude y.magnitude with hlt | heq | hgt
  · exact hlt
  · exact absurd (units_eq_of_magnitude_eq heq) (Nat.ne_of_lt h)
  · exact absurd (units_lt_of_magnitude_lt hgt) (Nat.lt_asymm h)

theorem magnitude_eq_of_units_eq (h : x.units = y.units) : x.magnitude = y.magnitude :=
  Nat.le_antisymm (Nat.le_of_not_lt fun hlt => Nat.ne_of_lt (magnitude_lt_iff.mp hlt) h.symm)
    (Nat.le_of_not_lt fun hlt => Nat.ne_of_lt (magnitude_lt_iff.mp hlt) h)

/-- **Below the threshold** of the two forms. -/
theorem isBelowTenToSixteen_iff : x.isBelowTenToSixteen = true ↔ |x.toRat| < 10 ^ 16 := by
  have hunits : tenToSixteen.units = Nat.pow 10 16 * unitsPerOne := by decide +kernel
  have hpow : (10 : ℚ) ^ 16 = (Nat.pow 10 16 : Nat) := by norm_num
  rw [isBelowTenToSixteen, decide_eq_true_iff, magnitude_lt_iff, hunits, abs_toRat,
    div_lt_iff₀ unitsPerOne_pos, hpow, ← Nat.cast_mul, Nat.cast_lt]

theorem isIntegral_iff : x.isIntegral = true ↔ ∃ k : Nat, x.units = k * unitsPerOne := by
  rw [isIntegral, decide_eq_true_iff, ← Nat.dvd_iff_mod_eq_zero]
  exact exists_congr fun k => by rw [Nat.mul_comm]

theorem isIntegral_of_toRat {k : Int} (h : x.toRat = k) : x.isIntegral = true := by
  have habs : (x.units : ℚ) / unitsPerOne = (k.natAbs : ℚ) := by
    rw [← abs_toRat, h, Nat.cast_natAbs, Int.cast_abs]
  rw [div_eq_iff (ne_of_gt unitsPerOne_pos)] at habs
  exact isIntegral_iff.mpr ⟨k.natAbs, by exact_mod_cast habs⟩

end sizes

/-! ## Shortest digits -/

section written
variable {x : Binary64} {n : Nat}

/-- **The shortest digits** are those of a whole number, or there is a point, in a
    number below `10 ^ 16`. -/
theorem positional_shortest (hx : 0 < x.units) :
    '.' ∈ x.shortest.positional ∧ x.decade < 16 ∨
      ∃ n : Nat, 0 < n ∧ x.Near n ∧ x.shortest.positional = Nat.toDigits 10 n := by
  obtain ⟨m, e, hshortest, hm, -, ⟨n, f, hreads, hvalue⟩, hreach⟩ := shortest_spec hx
  rw [hshortest]
  by_cases hpoint : e + 1 < digitCount m
  · refine .inl ⟨Scientific.point_mem_positional hpoint, ?_⟩
    -- From `10 ^ 16` on seventeen digits reach the ones.
    by_contra hlt
    exact absurd (hreach (not_lt.mp hlt)) (not_le.mpr hpoint)
  · obtain ⟨count, hcount⟩ := Int.eq_ofNat_of_zero_le (sub_nonneg.mpr (not_lt.mp hpoint))
    have hnear := hreads.near
    have hpow := natPow_mul_zpow (zero_add (count : Int))
    rw [hvalue, hcount, ← hpow, zpow_zero, mul_one] at hnear
    refine .inr ⟨m * Nat.pow 10 count, Nat.mul_pos hm (Nat.pow_pos (by decide)), ?_,
      Scientific.positional_eq hm (by push_cast; omega)⟩
    rw [Nat.cast_mul]
    exact hnear

/-- Near, counted in units. -/
theorem Near.units (h : x.Near n) : 2 * (n * unitsPerOne) ≤ 2 * x.units + Nat.pow 2 x.shift ∧
    2 * x.units ≤ 2 * (n * unitsPerOne) + Nat.pow 2 x.shift := by
  have habs : |(n : ℚ) * unitsPerOne - x.units| ≤ (Nat.pow 2 x.shift : Nat) / 2 := by
    unfold Near at h
    linarith
  obtain ⟨hbelow, habove⟩ := abs_le.mp habs
  constructor
  · have hrat : 2 * ((n : ℚ) * unitsPerOne) ≤ 2 * x.units + (Nat.pow 2 x.shift : Nat) := by
      linarith
    exact_mod_cast hrat
  · have hrat : 2 * (x.units : ℚ) ≤ 2 * (n * unitsPerOne) + (Nat.pow 2 x.shift : Nat) := by
      linarith
    exact_mod_cast hrat

theorem step_dvd_units (x : Binary64) : Nat.pow 2 x.shift ∣ x.units := Nat.dvd_mul_left _ _

/-- **A float is whole** if a whole number is near to it. -/
theorem Near.isIntegral (h : x.Near n) : x.isIntegral = true := by
  rw [isIntegral_iff]
  rcases Nat.le_total unitExponent x.shift with hlong | hshort
  · refine ⟨x.significand * Nat.pow 2 (x.shift - unitExponent), ?_⟩
    rw [Binary64.units, unitsPerOne_eq, Nat.mul_assoc, ← two_pow_split (Nat.sub_add_cancel hlong)]
  · -- Both numbers are whole numbers of steps, and so they are equal.
    obtain ⟨habove, hbelow⟩ := h.units
    have hpos : 0 < Nat.pow 2 x.shift := two_pow_pos _
    have hunits := x.step_dvd_units
    have hones : Nat.pow 2 x.shift ∣ n * unitsPerOne := by
      rw [unitsPerOne_eq]
      generalize unitExponent = e at hshort
      exact Nat.dvd_mul_left_of_dvd (Nat.pow_dvd_pow 2 hshort) n
    refine ⟨n, ?_⟩
    generalize n * unitsPerOne = a at habove hbelow hones ⊢
    exact Nat.le_antisymm (Nat.le_of_lt_add_of_dvd (by omega) hunits hones)
      (Nat.le_of_lt_add_of_dvd (by omega) hones hunits)

/-- **A power of two** separates what is near to the floats on its sides. -/
theorem Near.lt_iff (h : x.Near n) {k : Nat} (hne : x.units ≠ Nat.pow 2 k * unitsPerOne) :
    n < Nat.pow 2 k ∧ x.units < Nat.pow 2 k * unitsPerOne ∨
      Nat.pow 2 k < n ∧ Nat.pow 2 k * unitsPerOne < x.units := by
  obtain ⟨habove, hbelow⟩ := h.units
  have hpos : 0 < Nat.pow 2 x.shift := two_pow_pos _
  have hunits := x.step_dvd_units
  have htop : Nat.pow 2 k * unitsPerOne = Nat.pow 2 (k + unitExponent) := by
    rw [unitsPerOne_eq]
    generalize unitExponent = e
    exact (Nat.pow_add 2 k e).symm
  have hsides : n * unitsPerOne < Nat.pow 2 k * unitsPerOne → n < Nat.pow 2 k :=
    Nat.lt_of_mul_lt_mul_right
  have hsides' : Nat.pow 2 k * unitsPerOne < n * unitsPerOne → Nat.pow 2 k < n :=
    Nat.lt_of_mul_lt_mul_right
  rw [htop] at hne hsides hsides' ⊢
  generalize n * unitsPerOne = a at habove hbelow hsides hsides'
  rcases Nat.lt_or_ge (k + unitExponent) x.shift with hlong | hshort
  · -- The steps are longer than the power, and there are many of them.
    have hmany := (significand_bounds x).2 (by omega)
    have hlt : Nat.pow 2 (k + unitExponent) < Nat.pow 2 x.shift :=
      Nat.pow_lt_pow_right (by decide) hlong
    have hsteps : 2 * Nat.pow 2 x.shift ≤ x.units :=
      Nat.mul_le_mul_right _ (le_trans (by decide) hmany)
    exact .inr ⟨hsides' (by omega), by omega⟩
  · have hdvd : Nat.pow 2 x.shift ∣ Nat.pow 2 (k + unitExponent) := Nat.pow_dvd_pow 2 hshort
    generalize Nat.pow 2 (k + unitExponent) = top at hne hsides hsides' hdvd ⊢
    rcases Nat.lt_or_gt_of_ne hne with hlt | hgt
    · have hstep : x.units + Nat.pow 2 x.shift ≤ top :=
        Nat.le_of_lt_add_of_dvd (by omega) (Nat.dvd_add hunits (dvd_refl _)) hdvd
      exact .inl ⟨hsides (by omega), hlt⟩
    · have hstep : top + Nat.pow 2 x.shift ≤ x.units :=
        Nat.le_of_lt_add_of_dvd (by omega) (Nat.dvd_add hdvd (dvd_refl _)) hunits
      exact .inr ⟨hsides' (by omega), hgt⟩

end written

/-! ## The two forms -/

section forms
variable {x : Binary64}

/-- One place behind a whole number is a zero. -/
theorem fixedText_whole (k : Nat) {den : Nat} (hden : 0 < den) :
    fixedText 1 (k * den) den = Nat.toDigits 10 k ++ ['.', '0'] := by
  -- Scaled by ten the quotient is a whole number, so nothing is rounded.
  have hrounded : roundHalfEven (k * den * Nat.pow 10 1) den = k * 10 := by
    have hne : (den : ℚ) ≠ 0 := by exact_mod_cast hden.ne'
    have hquotient : ((k * den * Nat.pow 10 1 : Nat) : ℚ) / den = (k * 10 : Nat) := by
      push_cast
      field_simp
      norm_num
    exact roundHalfEven_eq hden (by rw [hquotient]; linarith) (by rw [hquotient]; linarith)
  rw [fixedText, hrounded, Digits.ofNat_eq_toDigits]
  -- Zero is apart, since the digits of `k * 10` end in a zero only if `k` has digits.
  rcases Nat.eq_zero_or_pos k with rfl | hk
  · rfl
  · have hpos : 0 < (Nat.toDigits 10 k).length := Nat.length_toDigits_pos
    have hpadded : padZeros (1 + 1) (Nat.toDigits 10 k ++ ['0']) = Nat.toDigits 10 k ++ ['0'] := by
      have hnone : 1 + 1 - (Nat.toDigits 10 k ++ ['0']).length = 0 := by
        rw [List.length_append, List.length_singleton]
        omega
      rw [padZeros, hnone, List.replicate_zero, List.nil_append]
    rw [toDigits_mul_ten hk, hpadded, insertPoint, if_neg (by decide)]
    simp

theorem text_of_isFinite (hfinite : x.isFinite = true) : x.text =
    if x.isIntegral && x.isBelowTenToSixteen then x.fixed 1 else x.plainText := by
  have hlt : x.magnitude < infiniteMagnitude := of_decide_eq_true hfinite
  have hnan : x.isNaN = false := isNaN_of_isFinite hfinite
  have hinfinite : x.isInfinite = false := decide_eq_false (Nat.ne_of_lt hlt)
  rw [text, hnan, hinfinite, if_neg Bool.false_ne_true, if_neg Bool.false_ne_true]

/-- **A whole number** below `10 ^ 16` has one zero behind the point. -/
theorem text_of_isIntegral (hfinite : x.isFinite = true) (hintegral : x.isIntegral = true)
    (hsmall : |x.toRat| < 10 ^ 16) :
    ∃ k, x.text = x.withSign (Nat.toDigits 10 k ++ ['.', '0']) := by
  obtain ⟨k, hk⟩ := isIntegral_iff.mp hintegral
  have hone : 0 < unitsPerOne := by exact_mod_cast unitsPerOne_pos
  refine ⟨k, ?_⟩
  rw [text_of_isFinite hfinite, hintegral, isBelowTenToSixteen_iff.mpr hsmall, Bool.and_true,
    if_pos rfl, fixed, hk, fixedText_whole k hone]

theorem suffix_withSign (x : Binary64) (body : List Char) : body <:+ x.withSign body := by
  unfold withSign
  split
  · exact List.suffix_cons _ _
  · exact List.suffix_refl _

/-- **Every number** below `10 ^ 16` has a point. -/
theorem point_mem_text (hfinite : x.isFinite = true) (hsmall : |x.toRat| < 10 ^ 16) :
    '.' ∈ x.text := by
  cases hintegral : x.isIntegral with
  | true =>
    obtain ⟨k, hk⟩ := text_of_isIntegral hfinite hintegral hsmall
    rw [hk]
    exact (x.suffix_withSign _).subset (List.mem_append_right _ List.mem_cons_self)
  | false =>
    have hpos : 0 < x.units := by
      by_contra hnot
      have hwhole : x.isIntegral = true := isIntegral_iff.mpr ⟨0, by omega⟩
      rw [hwhole] at hintegral
      cases hintegral
    rw [text_of_isFinite hfinite, hintegral, Bool.false_and, if_neg Bool.false_ne_true, plainText]
    rcases positional_shortest hpos with ⟨hpoint, -⟩ | ⟨n, -, hnear, -⟩
    · exact (x.suffix_withSign _).subset hpoint
    · rw [hnear.isIntegral] at hintegral
      cases hintegral

theorem le_toRat_iff {n : Nat} : (n : ℚ) ≤ |x.toRat| ↔ n * unitsPerOne ≤ x.units := by
  rw [abs_toRat, le_div_iff₀ unitsPerOne_pos, ← Nat.cast_mul, Nat.cast_le]

/-- From `10 ^ 16` on, the decade is the sixteenth or a later one. -/
theorem le_decade (hlarge : 10 ^ 16 ≤ |x.toRat|) : 0 < x.units ∧ 16 ≤ x.decade := by
  have hpos : 0 < x.units := by
    have hzero : (0 : ℚ) < |x.toRat| := lt_of_lt_of_le (by norm_num) hlarge
    rw [abs_toRat, div_pos_iff_of_pos_right unitsPerOne_pos] at hzero
    exact_mod_cast hzero
  refine ⟨hpos, ?_⟩
  obtain ⟨-, hupper⟩ := units_bounds hpos 0
  have hstep : (0 : ℚ) < (10 : ℚ) ^ (x.decade - (0 : Nat)) := by positivity
  rw [← abs_toRat, div_lt_iff₀ hstep, natPow_mul_zpow rfl] at hupper
  have hlt : (10 : ℚ) ^ (16 : Int) < (10 : ℚ) ^ (x.decade - (0 : Nat) + (0 + 1 : Nat)) :=
    lt_of_le_of_lt hlarge hupper
  have hexponents := (zpow_lt_zpow_iff_right₀ (by norm_num)).mp hlt
  generalize x.decade = d at hexponents
  omega

/-- The float at the end of the range of integers, with either sign. -/
def edge (negative : Bool) : Binary64 := ofMagnitude negative (1086 * Nat.pow 2 52)

/-- What is written for it is out of the range. -/
theorem text_edge (negative : Bool) :
    (edge negative).text = (edge negative).withSign (Nat.toDigits 10 9223372036854776000) := by
  cases negative <;> decide +kernel

theorem units_edge (negative : Bool) : (edge negative).units = Nat.pow 2 63 * unitsPerOne := by
  cases negative <;> decide +kernel

theorem eq_edge (h : x.units = Nat.pow 2 63 * unitsPerOne) : x = edge x.isNegative := by
  have hsign : (edge x.isNegative).isNegative = x.isNegative :=
    isNegative_ofMagnitude _ (by decide)
  have hunits := h.trans (units_edge x.isNegative).symm
  exact eq_of_fields hsign.symm (magnitude_eq_of_units_eq hunits)

/-- **From `10 ^ 16` on** there is no point, and what is written is on the same side
    of the range of integers as the float is. -/
theorem text_of_large (hfinite : x.isFinite = true) (hlarge : 10 ^ 16 ≤ |x.toRat|) :
    ∃ n, 0 < n ∧ x.text = x.withSign (Nat.toDigits 10 n) ∧
      (n < Nat.pow 2 63 ∧ |x.toRat| < 2 ^ 63 ∨ Nat.pow 2 63 < n ∧ 2 ^ 63 ≤ |x.toRat|) := by
  have hpow : (2 : ℚ) ^ 63 = (Nat.pow 2 63 : Nat) := by norm_num
  rw [hpow, ← not_le, le_toRat_iff]
  by_cases hedge : x.units = Nat.pow 2 63 * unitsPerOne
  · -- What is near to this float itself may lie on either side of it.
    refine ⟨9223372036854776000, by decide, ?_, .inr ⟨by decide, hedge.ge⟩⟩
    rw [eq_edge hedge]
    exact text_edge _
  · have hnot : x.isBelowTenToSixteen = false := by
      rw [← Bool.not_eq_true, isBelowTenToSixteen_iff]
      exact not_lt.mpr hlarge
    obtain ⟨hpos, hdecade⟩ := le_decade hlarge
    rw [text_of_isFinite hfinite, hnot, Bool.and_false, if_neg Bool.false_ne_true, plainText]
    rcases positional_shortest hpos with ⟨-, hlt⟩ | ⟨n, hn, hnear, hdigits⟩
    · exact absurd hlt (not_lt.mpr hdecade)
    · refine ⟨n, hn, by rw [hdigits], ?_⟩
      rcases hnear.lt_iff hedge with ⟨hbelow, hlt⟩ | ⟨habove, hgt⟩
      · exact .inl ⟨hbelow, not_le.mpr hlt⟩
      · exact .inr ⟨habove, hgt.le⟩

end forms

end Binary64

/-! ## Texts of integers -/

section integers
variable {x : Binary64} {n : Nat}

theorem point_notMem_integerText (k : Int) : '.' ∉ integerText k := by
  have hdigits : '.' ∉ Nat.toDigits 10 k.natAbs := (DecimalText.allDigits_toDigits _).notMem rfl
  unfold integerText
  split
  · exact List.not_mem_cons_of_ne_of_not_mem (by decide) hdigits
  · exact hdigits

theorem integerText_inj {k l : Int} (h : integerText k = integerText l) : k = l := by
  have hnone : NoDigitFirst [] := fun c hc => by cases hc
  refine (integerText_append_inj hnone hnone ?_).1
  rw [List.append_nil, List.append_nil, h]

namespace Binary64

/-- Digits with the sign of a float are an integer. -/
theorem withSign_toDigits (hn : 0 < n) (x : Binary64) :
    x.withSign (Nat.toDigits 10 n) = integerText (applySign x.isNegative n) := by
  have hnatAbs := natAbs_applySign x.isNegative n
  rw [integerText, hnatAbs, Int.natAbs_natCast, withSign]
  cases x.isNegative with
  | true => rw [if_pos rfl, if_pos (by rw [applySign, if_pos rfl]; omega)]
  | false =>
    rw [if_neg Bool.false_ne_true, if_neg (by rw [applySign, if_neg Bool.false_ne_true]; omega)]

section finite
variable (hfinite : x.isFinite = true)
include hfinite

/-- **In the range** of integers, a float from `10 ^ 16` on has the text of one. -/
theorem exists_text_eq (hlarge : 10 ^ 16 ≤ |x.toRat|) (hinside : |x.toRat| < 2 ^ 63) :
    ∃ n : Int64, x.text = integerText n.toInt := by
  obtain ⟨m, hm, htext, ⟨hlt, -⟩ | ⟨-, hout⟩⟩ := text_of_large hfinite hlarge
  · have hn : (Int64.ofInt (applySign x.isNegative m)).toInt = applySign x.isNegative m := by
      have hbound := natAbs_applySign x.isNegative m
      simp only [Nat.pow_eq] at hlt
      exact Int64.toInt_ofInt_of_le (by omega) (by omega)
    exact ⟨_, by rw [htext, withSign_toDigits hm, hn]⟩
  · exact absurd hinside (not_lt.mpr hout)

/-- **Otherwise** it has the text of none. -/
theorem text_ne_integerText (houtside : |x.toRat| < 10 ^ 16 ∨ 2 ^ 63 ≤ |x.toRat|) (n : Int64) :
    x.text ≠ integerText n.toInt := by
  intro htext
  rcases lt_or_ge |x.toRat| (10 ^ 16) with hsmall | hlarge
  · have hpoint := point_mem_text hfinite hsmall
    rw [htext] at hpoint
    exact point_notMem_integerText _ hpoint
  · obtain ⟨m, hm, hdigits, ⟨-, hinside⟩ | ⟨hgt, -⟩⟩ := text_of_large hfinite hlarge
    · exact absurd (houtside.resolve_left (not_lt.mpr hlarge)) (not_le.mpr hinside)
    · rw [hdigits, withSign_toDigits hm] at htext
      have hm' := natAbs_applySign x.isNegative m
      rw [integerText_inj htext] at hm'
      have hlower := n.le_toInt
      have hupper := n.toInt_lt
      simp only [Nat.pow_eq] at hgt
      omega

/-- **The trailing zero** of a whole number. -/
theorem suffix_text_iff (hintegral : x.isIntegral = true) :
    ['.', '0'] <:+ x.text ↔ |x.toRat| < 10 ^ 16 := by
  constructor
  · intro hsuffix
    by_contra hlarge
    obtain ⟨m, hm, htext, -⟩ := text_of_large hfinite (not_lt.mp hlarge)
    have hpoint : '.' ∈ x.text := hsuffix.subset List.mem_cons_self
    rw [htext, withSign_toDigits hm] at hpoint
    exact point_notMem_integerText _ hpoint
  · intro hsmall
    obtain ⟨m, htext⟩ := text_of_isIntegral hfinite hintegral hsmall
    rw [htext]
    exact (List.suffix_append _ _).trans (x.suffix_withSign _)

end finite

end Binary64

end integers

/-! ## Objects -/

section objects
variable {natives : Natives} {w : World} {o : ObjectId} {x : Binary64} {n : Int64}

theorem Natives.stringify_integer (h : w.IsInteger (.object o) n) :
    natives.stringify (.object o) w = .done (String.ofList (integerText n.toInt)) w := by
  cases h with
  | boxed htype hpayload =>
    exact stringify_ownText (u := .int n) (by rw [htype]; rfl) hpayload rfl

theorem Natives.stringify_float (htype : w.typeOf o = .float)
    (hpayload : w.payload? o = some (.float x)) :
    natives.stringify (.object o) w = .done (String.ofList x.text) w :=
  stringify_ownText (u := .float x) (by rw [htype]; rfl) hpayload rfl

end objects

/-- **The text of a float object** is that of an integer object just if the float is
    at least `10 ^ 16` and in the range of integers, and a whole number has a
    trailing `.0` just if it is less than `10 ^ 16`, the sign apart. -/
theorem float_text_shared (natives : Natives) {w : World} {o : ObjectId} {x : Binary64}
    (htype : w.typeOf o = .float) (hpayload : w.payload? o = some (.float x))
    (hfinite : x.isFinite = true) :
    ∃ text, natives.stringify (.object o) w = .done text w ∧
      (10 ^ 16 ≤ |x.toRat| ∧ |x.toRat| < 2 ^ 63 → ∃ n : Int64, ∀ (w' : World) (p : ObjectId),
        w'.IsInteger (.object p) n → natives.stringify (.object p) w' = .done text w') ∧
      (|x.toRat| < 10 ^ 16 ∨ 2 ^ 63 ≤ |x.toRat| → ∀ (n : Int64) (w' : World) (p : ObjectId),
        w'.IsInteger (.object p) n → natives.stringify (.object p) w' ≠ .done text w') ∧
      ((∃ k : Int, x.toRat = k) → (['.', '0'] <:+ text.toList ↔ |x.toRat| < 10 ^ 16)) := by
  -- What an object shows is the text of its number; the rest is about the two texts.
  refine ⟨_, Natives.stringify_float htype hpayload, ?_, ?_, ?_⟩
  · rintro ⟨hlarge, hinside⟩
    obtain ⟨n, htext⟩ := Binary64.exists_text_eq hfinite hlarge hinside
    refine ⟨n, fun w' p hp => ?_⟩
    rw [Natives.stringify_integer hp, htext]
  · intro houtside n w' p hp hsame
    rw [Natives.stringify_integer hp] at hsame
    exact Binary64.text_ne_integerText hfinite houtside n
      (String.ofList_inj.mp (Outcome.done.inj hsame).1.symm)
  · rintro ⟨k, hk⟩
    rw [String.toList_ofList]
    exact Binary64.suffix_text_iff hfinite (Binary64.isIntegral_of_toRat hk)

/-! ## Two floats around the threshold -/

/-- The greatest whole number with a trailing zero. -/
def belowTenToSixteen : Binary64 := .ofInt 9999999999999998

/-- It still differs from every integer. -/
theorem float_text_shared_below : ∃ text,
    Stock.host.natives.stringify (.object ⟨3⟩)
        (World.initial.toObject (.float belowTenToSixteen)).2 =
      .done text (World.initial.toObject (.float belowTenToSixteen)).2 ∧
    ['.', '0'] <:+ text.toList ∧
    ∀ (n : Int64) (w' : World) (p : ObjectId), w'.IsInteger (.object p) n →
      Stock.host.natives.stringify (.object p) w' ≠ .done text w' := by
  have hunits : belowTenToSixteen.signedUnits = 9999999999999998 * Binary64.unitsPerOne := by
    decide +kernel
  have hvalue : belowTenToSixteen.toRat = (9999999999999998 : Int) := by
    rw [Binary64.intCast_eq_units, ← hunits, Binary64.toRat]
  have hsmall : |belowTenToSixteen.toRat| < 10 ^ 16 := by
    rw [hvalue]
    norm_num
  obtain ⟨text, htext, -, hdiffers, hzero⟩ :=
    float_text_shared Stock.host.natives (o := ⟨3⟩) (x := belowTenToSixteen)
      (w := (World.initial.toObject (.float belowTenToSixteen)).2) rfl rfl (by decide +kernel)
  exact ⟨text, htext, (hzero ⟨_, hvalue⟩).mpr hsmall, hdiffers (.inl hsmall)⟩

/-- The float `10 ^ 16`, and the integer. -/
def bothTenToSixteen : World :=
  ((World.initial.toObject (.float .tenToSixteen)).2.toObject (.int 10000000000000000)).2

/-- They have one text, and no zero trails. -/
theorem float_text_of_integer :
    Binary64.tenToSixteen.isFinite = true ∧ Binary64.tenToSixteen.toRat = 10 ^ 16 ∧
      bothTenToSixteen.typeOf ⟨3⟩ = .float ∧
      bothTenToSixteen.payload? ⟨3⟩ = some (.float .tenToSixteen) ∧
      bothTenToSixteen.IsInteger (.object ⟨4⟩) 10000000000000000 ∧
      Stock.host.natives.stringify (.object ⟨3⟩) bothTenToSixteen =
        .done "10000000000000000" bothTenToSixteen ∧
      Stock.host.natives.stringify (.object ⟨4⟩) bothTenToSixteen =
        .done "10000000000000000" bothTenToSixteen ∧
      ¬ ['.', '0'] <:+ ("10000000000000000" : String).toList := by
  -- The float is compared in units, in which it is an integer.
  have hunits : Binary64.tenToSixteen.signedUnits =
      10000000000000000 * Binary64.unitsPerOne := by decide +kernel
  have hvalue : Binary64.tenToSixteen.toRat = (10000000000000000 : Int) := by
    rw [Binary64.intCast_eq_units, ← hunits, Binary64.toRat]
  have htext : String.ofList Binary64.tenToSixteen.text = "10000000000000000" := by decide +kernel
  have htext' : String.ofList (integerText (10000000000000000 : Int64).toInt) =
      "10000000000000000" := by decide +kernel
  have hinteger : bothTenToSixteen.IsInteger (.object ⟨4⟩) 10000000000000000 := .boxed rfl rfl
  refine ⟨by decide +kernel, ?_, rfl, rfl, hinteger, ?_, ?_, by decide⟩
  · rw [hvalue]
    norm_num
  · rw [Natives.stringify_float rfl rfl, htext]
  · rw [Natives.stringify_integer hinteger, htext']

end DynamicObjects
