import DynamicObjects.Host.Stock
import DynamicObjects.Proofs.Format.Integers
import DynamicObjects.Proofs.Number.Decade
import DynamicObjects.Proofs.Number.DecimalText
import DynamicObjects.Proofs.Number.Exact

/-! # Formatted floats in general form

    The general form of a float is chosen by a first rounding, to a number of
    digits, which is the one that the exponent form shows.  If an exponent is
    not called for, a second rounding follows, to a number of places.

    The argument:
    1. The digits of the first rounding are those of a rounding at the place of
       the last of them (`Scientific.rounded_spec`), and this is the place of the
       second rounding.
    2. So both forms write the same digits with a point somewhere, and the
       exponent makes up for the place of the point.
    3. Zeros that are dropped behind a point do not change what is denoted.

    Main results:
    - `Scientific.exists_shows`: the digits of a rounded quotient
    - `Format.generalBody_spec`: the general form of a magnitude
    - `general_denotes_exponential`: both forms denote the same number -/

namespace DynamicObjects

/-! ## Digits that are shown -/

/-- **A number is shown** by digits: the first of them counts `10 ^ exponent`, and
    the last one is rounded to; zero is shown by zeros. -/
structure Scientific.Shows (s : Scientific) (places num den n : Nat) : Prop where
  allDigits : DecimalText.AllDigits s.digits
  length_eq : s.digits.length = places + 1
  readOn_eq : Radix.readOn 10 0 s.digits = some n
  steps_eq : Scientific.steps num den (s.exponent - places) = n
  bounds : n = 0 ∧ s.exponent = 0 ∨ Nat.pow 10 places ≤ n ∧ n < Nat.pow 10 (places + 1)

namespace Scientific

section shows_
variable {s : Scientific} {places num den n : Nat} (hden : 0 < den)
include hden

theorem exists_shows (places num : Nat) :
    ∃ n, (rounded places num den).Shows places num den n := by
  by_cases hzero : num = 0
  · refine ⟨0, ?_⟩
    rw [rounded, if_pos hzero, hzero]
    refine ⟨DecimalText.allDigits_zeros _, List.length_replicate, ?_, ?_, .inl ⟨rfl, rfl⟩⟩
    · rw [DecimalText.readOn_replicate_zero, Nat.zero_mul]
    · have hpos := scale_pos hden 0 ((0 : Int) - places)
      apply roundHalfEven_eq hpos <;> rw [scale_eq hden] <;> simp
  · obtain ⟨hdigits, hlower, hupper⟩ := rounded_spec (Nat.pos_of_ne_zero hzero) hden places
    refine ⟨_, ?_, ?_, ?_, rfl, .inr ⟨hlower, hupper⟩⟩
    · rw [hdigits]
      exact DecimalText.allDigits_toDigits _
    · rw [hdigits]
      exact digitCount_eq hlower hupper
    · rw [hdigits]
      exact Radix.readOn_toDigits (by decide) (by decide) _

/-- The number that is shown. -/
def shown (s : Scientific) (places n : Nat) : ℚ := (n : ℚ) * (10 : ℚ) ^ (s.exponent - places)

/-- It is off by half a step at most. -/
theorem Shows.abs_sub_le (h : s.Shows places num den n) :
    |s.shown places n - (num : ℚ) / den| ≤ (10 : ℚ) ^ (s.exponent - places) / 2 := by
  have hstep : (0 : ℚ) < (10 : ℚ) ^ (s.exponent - places) := by positivity
  have herror := abs_roundHalfEven_sub_le (scale_pos hden num (s.exponent - places))
    (scale num den (s.exponent - places)).1
  have hsteps : roundHalfEven (scale num den (s.exponent - places)).1
      (scale num den (s.exponent - places)).2 = n := h.steps_eq
  have hdistance : s.shown places n - (num : ℚ) / den =
      ((n : ℚ) - (num : ℚ) / den / (10 : ℚ) ^ (s.exponent - places)) *
        (10 : ℚ) ^ (s.exponent - places) := by
    unfold shown
    field_simp
  rw [hsteps, scale_eq hden] at herror
  rw [hdistance, abs_mul, abs_of_pos hstep]
  linarith [mul_le_mul_of_nonneg_right herror (le_of_lt hstep)]

end shows_

/-- The decade of a number, and of zero the one that its digits are shown with. -/
def HasDecade (q : ℚ) (e : Int) : Prop :=
  q = 0 ∧ e = 0 ∨ (10 : ℚ) ^ e ≤ |q| ∧ |q| < (10 : ℚ) ^ (e + 1)

section forms
variable {s : Scientific} {places num den n : Nat} (h : s.Shows places num den n)
include h

theorem Shows.hasDecade : HasDecade (s.shown places n) s.exponent := by
  unfold HasDecade shown
  rcases h.bounds with ⟨hzero, hexponent⟩ | ⟨hlower, hupper⟩
  · exact .inl ⟨by rw [hzero]; simp, hexponent⟩
  · right
    have hstep : (0 : ℚ) < (10 : ℚ) ^ (s.exponent - places) := by positivity
    have hfirst := natPow_mul_zpow (show s.exponent - places + places = s.exponent by omega)
    have hlast := natPow_mul_zpow (show s.exponent - places + (places + 1 : Nat) =
      s.exponent + 1 by omega)
    have hnonneg : (0 : ℚ) ≤ (n : ℚ) * (10 : ℚ) ^ (s.exponent - places) := by positivity
    rw [abs_of_nonneg hnonneg, ← hfirst, ← hlast]
    exact ⟨mul_le_mul_of_nonneg_right (by exact_mod_cast hlower) (le_of_lt hstep),
      mul_lt_mul_of_pos_right (by exact_mod_cast hupper) hstep⟩

/-- The mantissa has the point behind the first digit. -/
theorem Shows.mantissa_eq : s.mantissa = insertPoint places s.digits := by
  rw [mantissa, h.length_eq, Nat.add_sub_cancel]

omit h in
/-- **The exponent** makes up for the places of the mantissa. -/
theorem shown_eq_mul :
    (n : ℚ) / (10 : ℚ) ^ (places : Int) * (10 : ℚ) ^ s.exponent = s.shown places n := by
  rw [shown, zpow_sub₀ (by norm_num)]
  ring

/-- **Rounding to places** shows the same number, if the last place is the same. -/
theorem Shows.fixed_eq {k : Nat} (hk : (k : Int) = places - s.exponent) :
    roundHalfEven (num * Nat.pow 10 k) den = n ∧
      (n : ℚ) / (10 : ℚ) ^ (k : Int) = s.shown places n := by
  have hexponent : s.exponent - places = -(k : Int) := by omega
  constructor
  · rw [← h.steps_eq, hexponent, steps_neg]
  · rw [shown, hexponent, zpow_neg, div_eq_mul_inv]

end forms

end Scientific

/-! ## The forms of a magnitude -/

namespace Format
open DecimalText

/-- The digits that the fixed form is made of. -/
theorem fixedText_digits (k m : Nat) :
    AllDigits (padZeros (k + 1) (Nat.toDigits 10 m)) ∧
      k < (padZeros (k + 1) (Nat.toDigits 10 m)).length ∧
      Radix.readOn 10 0 (padZeros (k + 1) (Nat.toDigits 10 m)) = some m := by
  refine ⟨(allDigits_zeros _).append (allDigits_toDigits m), ?_, ?_⟩
  · rw [padZeros, List.length_append, List.length_replicate]
    omega
  · rw [padZeros, Radix.readOn_zeros _ (by decide), Radix.readOn_toDigits (by decide) (by decide)]

section bodies
variable {marker : Char} (hmarker : isMarker marker = true) (x : Binary64)
include hmarker

/-- **The exponent form** of a magnitude. -/
theorem exponentBody_spec {places n : Nat}
    (h : (Scientific.rounded places x.units Binary64.unitsPerOne).Shows places x.units
      Binary64.unitsPerOne n) :
    magnitude? (exponentBody marker places x) =
      some ((Scientific.rounded places x.units Binary64.unitsPerOne).shown places n) := by
  have hplaces :
      places < (Scientific.rounded places x.units Binary64.unitsPerOne).digits.length := by
    rw [h.length_eq]
    exact Nat.lt_succ_self _
  have hplain := plain?_insertPoint h.allDigits hplaces h.readOn_eq
  have hmarked := isMarker_of_mem_insertPoint h.allDigits hplaces
  rw [exponentBody, h.mantissa_eq, (magnitude?_exponentPart hmarked hmarker hplain _).1,
    Scientific.shown_eq_mul]

/-- **The general form** of a magnitude denotes what the exponent form with as many
    digits denotes.  It has an exponent if this is small or as great as the number
    of digits, and nothing superfluous at the end of a fraction. -/
theorem generalBody_spec {precision n : Nat}
    (h : (Scientific.rounded (max precision 1 - 1) x.units Binary64.unitsPerOne).Shows
      (max precision 1 - 1) x.units Binary64.unitsPerOne n) :
    magnitude? (generalBody marker precision x) =
        some ((Scientific.rounded (max precision 1 - 1) x.units Binary64.unitsPerOne).shown
          (max precision 1 - 1) n) ∧
      (hasExponent (generalBody marker precision x) = false ↔
        -4 ≤ (Scientific.rounded (max precision 1 - 1) x.units Binary64.unitsPerOne).exponent ∧
          (Scientific.rounded (max precision 1 - 1) x.units Binary64.unitsPerOne).exponent ≤
            ((max precision 1 - 1 : Nat) : Int)) ∧
      EndsWell (mantissaOf (generalBody marker precision x)) := by
  have hdigits : ((max precision 1 : Nat) : Int) = ((max precision 1 - 1 : Nat) : Int) + 1 := by
    omega
  unfold generalBody
  simp only [hdigits]
  generalize max precision 1 - 1 = places at h ⊢
  generalize hs : Scientific.rounded places x.units Binary64.unitsPerOne = s at h ⊢
  have hplaces : places < s.digits.length := by
    rw [h.length_eq]
    exact Nat.lt_succ_self _
  by_cases hform : s.exponent < -4 ∨ (places : Int) + 1 ≤ s.exponent
  · rw [if_pos hform, h.mantissa_eq]
    have hplain := plain?_stripFraction h.allDigits hplaces h.readOn_eq
    have hmarked : ∀ c ∈ stripFraction (insertPoint places s.digits), isMarker c = false :=
      fun c hc => isMarker_of_mem_insertPoint h.allDigits hplaces c (mem_of_mem_stripFraction hc)
    obtain ⟨hread, hmantissa, hexponent⟩ :=
      magnitude?_exponentPart hmarked hmarker hplain s.exponent
    rw [hread, hmantissa, hexponent, Scientific.shown_eq_mul]
    refine ⟨rfl, ?_, endsWell_stripFraction h.allDigits hplaces⟩
    constructor
    · intro hfalse
      cases hfalse
    · omega
  · rw [if_neg hform]
    -- The second rounding is to as many places as show the same digits.
    obtain ⟨k, hk⟩ : ∃ k : Nat, ((places : Int) + 1 - 1 - s.exponent).toNat = k := ⟨_, rfl⟩
    have hk' : (k : Int) = places - s.exponent := by omega
    obtain ⟨hsame, hvalue⟩ := h.fixed_eq hk'
    obtain ⟨hall, hlength, hreadOn⟩ := fixedText_digits k n
    have hplain := plain?_stripFraction hall hlength hreadOn
    have hmarked : ∀ c ∈ stripFraction (insertPoint k (padZeros (k + 1) (Nat.toDigits 10 n))),
        isMarker c = false :=
      fun c hc => isMarker_of_mem_insertPoint hall hlength c (mem_of_mem_stripFraction hc)
    obtain ⟨hread, hmantissa, hexponent⟩ := magnitude?_unmarked hmarked
    rw [hk, fixedText, hsame, Digits.ofNat_eq_toDigits, hread, hmantissa, hexponent, hplain, hvalue]
    refine ⟨rfl, ?_, endsWell_stripFraction hall hlength⟩
    constructor
    · intro _
      omega
    · intro _
      rfl

end bodies

/-! ## Directives with a precision -/

/-- A directive with a precision and nothing else, as in `%.3g`. -/
def precise (precision : Nat) (conversion : Char) : List Char :=
  '%' :: '.' :: (Nat.toDigits 10 precision ++ [conversion])

/-- The layout that it asks for. -/
def Layout.ofPrecision (precision : Nat) : Layout :=
  { Layout.default with precision := some precision }

section directives
variable {precision : Nat} {conversion : Char} (hp : precision ≤ greatestNumber)
include hp

theorem parse_precise (hdigit : conversion.isDigit = false) (hpercent : conversion ≠ '%') :
    parse (precise precision conversion) =
      [.directive (Layout.ofPrecision precision) conversion] := by
  have hnumber : takeNumber (Nat.toDigits 10 precision ++ [conversion]) =
      (precision, [conversion]) := by
    rw [IntegerDirective.takeNumber_append (allDigits_toDigits precision) (by simpa using hdigit),
      IntegerDirective.numberOf_toDigits hp]
  have hflags : takeFlags .default ('.' :: (Nat.toDigits 10 precision ++ [conversion])) =
      (.default, '.' :: (Nat.toDigits 10 precision ++ [conversion])) := rfl
  have hwidth : takeNumber ('.' :: (Nat.toDigits 10 precision ++ [conversion])) =
      (0, '.' :: (Nat.toDigits 10 precision ++ [conversion])) := rfl
  have hlayout : takeLayout ('.' :: (Nat.toDigits 10 precision ++ [conversion])) =
      (Layout.ofPrecision precision, [conversion]) := by
    simp only [takeLayout, hflags, hwidth, takePrecision, hnumber]
    rfl
  rw [precise, parse, if_pos rfl, hlayout]
  simp only [if_neg hpercent, parse]

/-- **The text** that it gives for a finite float, a raw one or an object. -/
theorem format_precise {natives : Natives} {w : World} {v : Value} {x : Binary64}
    (hv : w.unwrap v = .float x) (hx : x.isFinite = true)
    (hconversion : conversion ∈ ['e', 'E', 'g', 'G']) :
    natives.format (precise precision conversion) [v] w =
      .done (x.withSign (finiteBody (Layout.ofPrecision precision) conversion x)) w := by
  simp only [List.mem_cons, List.not_mem_nil, or_false] at hconversion
  have hbody : floatBody (Layout.ofPrecision precision) conversion x =
      x.withSign (finiteBody (Layout.ofPrecision precision) conversion x) := by
    rw [floatBody, if_pos hx]
    rfl
  -- No width is asked for, so that nothing is filled up.
  have hfill : ∀ body, fill (Layout.ofPrecision precision) true body = body := by
    simp [fill, Layout.ofPrecision, Layout.default]
  have hscalar : convert natives (Layout.ofPrecision precision) conversion v w =
      .done (fill (Layout.ofPrecision precision) x.isFinite
        (floatBody (Layout.ofPrecision precision) conversion x)) w := by
    rcases hconversion with rfl | rfl | rfl | rfl <;>
      simp only [convert, Run.bind_apply, Run.read_apply, id_eq, hv] <;> rfl
  have hletter : conversion.isDigit = false ∧ conversion ≠ '%' := by
    rcases hconversion with rfl | rfl | rfl | rfl <;> decide
  rw [hx, hbody, hfill] at hscalar
  simp only [Natives.format, parse_precise hp hletter.1 hletter.2, substitute, Run.bind_apply,
    hscalar, Run.pure_apply, List.append_nil]

end directives

end Format

/-! ## Both forms -/

section both
open Format DecimalText

theorem abs_withSign_sub (negative : Bool) (q r : ℚ) :
    |(if negative then -q else q) - (if negative then -r else r)| = |q - r| := by
  cases negative with
  | true => rw [if_pos rfl, if_pos rfl, neg_sub_neg, abs_sub_comm]
  | false => rfl

theorem Scientific.HasDecade.withSign {q : ℚ} {e : Int} (h : HasDecade q e) (negative : Bool) :
    HasDecade (if negative then -q else q) e := by
  cases negative with
  | true => simpa [HasDecade] using h
  | false => exact h

/-- The value of a float has the sign of the float. -/
theorem Binary64.toRat_eq_withSign (x : Binary64) :
    x.toRat =
      if x.isNegative then -((x.units : ℚ) / unitsPerOne) else (x.units : ℚ) / unitsPerOne := by
  unfold toRat signedUnits
  cases x.isNegative with
  | true =>
    push_cast
    exact neg_div _ _
  | false => rfl

/-- **The general form and the exponent form** of a finite float, with as many digits,
    denote the same number, which is the float rounded to these digits.  The general
    form has no exponent just if that of the number lies between -4 and the number
    of digits, and a fraction in it ends neither in a zero nor in a bare point. -/
theorem general_denotes_exponential {natives : Natives} {w : World} {v : Value} {x : Binary64}
    (hv : w.unwrap v = .float x) (hx : x.isFinite = true) {precision : Nat}
    (hp : precision ≤ 65000) (capital : Bool) :
    ∃ (general exponential : List Char) (q : ℚ) (e : Int),
      natives.format (precise precision (if capital then 'G' else 'g')) [v] w =
        .done general w ∧
      natives.format (precise (max precision 1 - 1) (if capital then 'E' else 'e')) [v] w =
        .done exponential w ∧
      read? general = some q ∧ read? exponential = some q ∧ Scientific.HasDecade q e ∧
      |q - x.toRat| ≤ (10 : ℚ) ^ (e - (max precision 1 - 1 : Nat)) / 2 ∧
      (hasExponent general = false ↔ -4 ≤ e ∧ e ≤ (max precision 1 : Nat) - 1) ∧
      EndsWell (mantissaOf general) := by
  have hbound : 65000 ≤ greatestNumber := by decide
  have hden : 0 < Binary64.unitsPerOne := by exact_mod_cast Binary64.unitsPerOne_pos
  obtain ⟨n, hshows⟩ := Scientific.exists_shows hden (max precision 1 - 1) x.units
  have hmarker : isMarker (if capital then 'E' else 'e') = true := by cases capital <;> decide
  -- The conversions are those of the forms.
  have hgeneral : finiteBody (Layout.ofPrecision precision) (if capital then 'G' else 'g') x =
      generalBody (if capital then 'E' else 'e') precision x := by cases capital <;> rfl
  have hexponential : finiteBody (Layout.ofPrecision (max precision 1 - 1))
      (if capital then 'E' else 'e') x =
        exponentBody (if capital then 'E' else 'e') (max precision 1 - 1) x := by
    cases capital <;> rfl
  have htext : natives.format (precise precision (if capital then 'G' else 'g')) [v] w = _ :=
    format_precise (le_trans hp hbound) hv hx (by cases capital <;> decide)
  have htext' : natives.format (precise (max precision 1 - 1) (if capital then 'E' else 'e'))
      [v] w = _ := format_precise (by omega) hv hx (by cases capital <;> decide)
  obtain ⟨hread, hform, hends⟩ := generalBody_spec hmarker x hshows
  have hread' := exponentBody_spec hmarker x hshows
  obtain ⟨hmantissa, hexponent⟩ :=
    mantissaOf_withSign (generalBody (if capital then 'E' else 'e') precision x) x.isNegative
  rw [hgeneral] at htext
  rw [hexponential] at htext'
  generalize Scientific.rounded (max precision 1 - 1) x.units Binary64.unitsPerOne = s
    at hshows hread hread' hform
  refine ⟨_, _, if x.isNegative then -s.shown (max precision 1 - 1) n
    else s.shown (max precision 1 - 1) n, s.exponent, htext, htext',
    read?_withSign x.isNegative hread, read?_withSign x.isNegative hread', ?_, ?_, ?_, ?_⟩
  · exact hshows.hasDecade.withSign x.isNegative
  · rw [x.toRat_eq_withSign, abs_withSign_sub]
    exact hshows.abs_sub_le hden
  · rw [Binary64.withSign, hexponent, hform]
    omega
  · rw [Binary64.withSign, hmantissa]
    exact hends.withSign x.isNegative

/-- What is shown as `10` is less than that: its first rounding, to two digits, has
    reached the next decade, and the second one, to no places, gives the same. -/
theorem general_denotes_exponential_carry : ∃ (general exponential : List Char) (q : ℚ),
    Stock.host.natives.format (precise 2 'g') [.float ⟨0x4023F00000000000⟩] .initial =
        .done general .initial ∧
      Stock.host.natives.format (precise 1 'e') [.float ⟨0x4023F00000000000⟩] .initial =
        .done exponential .initial ∧
      read? general = some q ∧ read? exponential = some q := by
  have hfinite : (⟨0x4023F00000000000⟩ : Binary64).isFinite = true := by decide
  have hunwrap : World.initial.unwrap (.float ⟨0x4023F00000000000⟩) =
      .float ⟨0x4023F00000000000⟩ := rfl
  obtain ⟨general, exponential, q, e, hgeneral, hexponential, hread, hread', -⟩ :=
    general_denotes_exponential hunwrap hfinite (show 2 ≤ 65000 by decide) false
  exact ⟨general, exponential, q, hgeneral, hexponential, hread, hread'⟩

example : generalBody 'e' 2 ⟨0x4023F00000000000⟩ = ['1', '0'] ∧
    exponentBody 'e' 1 ⟨0x4023F00000000000⟩ = ['1', '.', '0', 'e', '+', '0', '1'] := by
  decide +kernel

end both

end DynamicObjects
