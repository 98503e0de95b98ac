import DynamicObjects.Format.NumberText
import DynamicObjects.Proofs.Number.Radix
import Mathlib.Algebra.Order.Field.Basic
import Mathlib.Algebra.Order.Field.Power
import Mathlib.Data.List.DropRight
import Mathlib.Data.Rat.Cast.Order
import Mathlib.Tactic.FieldSimp
import Mathlib.Tactic.Ring

/-! # Decimal notation

    `DecimalText.read?` reads what floats are written as: digits, with a point
    between two of them or without one, an exponent behind a marker, a sign in
    front.  The result is a rational number, so that nothing is rounded.

    The argument:
    1. Digits with a point in front of the last `k` of them denote their number in
       steps of `10 ^ -k`.
    2. The zeros that are dropped at the end of a fraction make the steps longer
       and the number of steps smaller, by the same power of ten.

    Main results:
    - `DecimalText.plain?_insertPoint`: what a point does
    - `DecimalText.plain?_stripFraction`: dropped zeros do not count -/

namespace DynamicObjects

namespace DecimalText

/-! ## Reading -/

/-- The marker of an exponent. -/
def isMarker (c : Char) : Bool := c == 'e' || c == 'E'

/-- What stands in front of the exponent, if there is one. -/
def mantissaOf (text : List Char) : List Char := text.takeWhile fun c => !isMarker c

/-- Whether a text has an exponent. -/
def hasExponent (text : List Char) : Bool := text.any isMarker

/-- The number that digits denote, with a point between two of them or without one. -/
def plain? (text : List Char) : Option ℚ :=
  let whole := text.takeWhile Char.isDigit
  match text.dropWhile Char.isDigit with
  | [] => (Radix.natural? 10 whole).map fun (n : Nat) => (n : ℚ)
  | '.' :: fraction =>
    if whole.isEmpty || fraction.isEmpty then none
    else (Radix.natural? 10 (whole ++ fraction)).map fun (n : Nat) =>
      (n : ℚ) / (10 : ℚ) ^ (fraction.length : Int)
  | _ => none

/-- The number that a text without a sign denotes, in positional or in scientific
    notation. -/
def magnitude? (text : List Char) : Option ℚ :=
  match text.dropWhile fun c => !isMarker c with
  | [] => plain? text
  | _ :: exponent =>
    (plain? (mantissaOf text)).bind fun q =>
      (Radix.integer? 10 exponent).map fun e => q * (10 : ℚ) ^ e

/-- The number that a text denotes. -/
def read? (text : List Char) : Option ℚ :=
  let (negative, magnitude) := Literal.splitSign text
  (magnitude? magnitude).map fun q => if negative then -q else q

/-- A text with a point **ends well** if it ends neither in a zero nor in the point. -/
def EndsWell (text : List Char) : Prop :=
  '.' ∈ text → text.getLast? ≠ some '0' ∧ text.getLast? ≠ some '.'

/-! ## Digits -/

/-- Nothing but digits. -/
def AllDigits (ds : List Char) : Prop := ∀ c ∈ ds, c.isDigit = true

section digits
variable {c : Char} {n k : Nat} {ds whole fraction : List Char}

theorem digit?_of_isDigit (h : c.isDigit = true) : ∃ d < 10, Radix.digit? c = some d := by
  simp only [Char.isDigit, Bool.and_eq_true, decide_eq_true_eq] at h
  have hlower : '0' ≤ c := h.1
  have hupper : c ≤ '9' := h.2
  refine ⟨c.toNat - '0'.toNat, ?_, by rw [Radix.digit?, if_pos ⟨hlower, hupper⟩]⟩
  have hnat : c.toNat ≤ 57 := h.2
  have hzero : '0'.toNat = 48 := rfl
  omega

/-- Digits always denote a number. -/
theorem exists_readOn (hds : AllDigits ds) (m : Nat) : ∃ n, Radix.readOn 10 m ds = some n := by
  induction ds generalizing m with
  | nil => exact ⟨m, rfl⟩
  | cons c cs ih =>
    obtain ⟨d, hd, hdigit⟩ := digit?_of_isDigit (hds c List.mem_cons_self)
    rw [Radix.readOn_cons hdigit hd]
    exact ih (fun c hc => hds c (List.mem_cons_of_mem _ hc)) _

theorem readOn_replicate_zero (m count : Nat) :
    Radix.readOn 10 m (List.replicate count '0') = some (m * Nat.pow 10 count) := by
  have hzero : Radix.digit? '0' = some 0 := by decide
  induction count generalizing m with
  | zero => simp [Radix.readOn, Nat.pow_eq]
  | succ count ih =>
    have hpow : Nat.pow 10 (count + 1) = 10 * Nat.pow 10 count := Nat.mul_comm _ _
    rw [List.replicate_succ, Radix.readOn_cons hzero (by decide), ih, hpow, Nat.add_zero]
    congr 1
    ring

theorem natural?_eq (hne : ds ≠ []) : Radix.natural? 10 ds = Radix.readOn 10 0 ds := by
  rw [Radix.natural?, if_neg (by simpa using hne)]

theorem allDigits_toDigits (n : Nat) : AllDigits (Nat.toDigits 10 n) :=
  fun _ hc => Nat.isDigit_of_mem_toDigits (by decide) (by decide) hc

theorem allDigits_zeros (count : Nat) : AllDigits (List.replicate count '0') := by
  intro c hc
  rw [List.eq_of_mem_replicate hc]
  rfl

theorem AllDigits.append (hwhole : AllDigits whole) (hfraction : AllDigits fraction) :
    AllDigits (whole ++ fraction) := by
  intro c hc
  rcases List.mem_append.mp hc with h | h
  · exact hwhole c h
  · exact hfraction c h

/-! ## Points -/

theorem plain?_digits (hds : AllDigits ds) (hne : ds ≠ []) (hn : Radix.readOn 10 0 ds = some n) :
    plain? ds = some (n : ℚ) := by
  have htake : ds.takeWhile Char.isDigit = ds := List.takeWhile_eq_self_iff.mpr hds
  have hdrop : ds.dropWhile Char.isDigit = [] := List.dropWhile_eq_nil_iff.mpr hds
  simp only [plain?, htake, hdrop, natural?_eq hne, hn, Option.map_some]

theorem plain?_point (hwhole : AllDigits whole) (hne : whole ≠ []) (hne' : fraction ≠ [])
    (hn : Radix.readOn 10 0 (whole ++ fraction) = some n) :
    plain? (whole ++ '.' :: fraction) = some ((n : ℚ) / (10 : ℚ) ^ (fraction.length : Int)) := by
  have hpoint : '.'.isDigit = false := by decide
  have htake : (whole ++ '.' :: fraction).takeWhile Char.isDigit = whole := by
    rw [List.takeWhile_append_of_pos hwhole, List.takeWhile_cons, hpoint, if_neg Bool.false_ne_true,
      List.append_nil]
  have hdrop : (whole ++ '.' :: fraction).dropWhile Char.isDigit = '.' :: fraction := by
    rw [List.dropWhile_append_of_pos hwhole, List.dropWhile_cons, hpoint, if_neg Bool.false_ne_true]
  have hboth : whole ++ fraction ≠ [] := by simp [hne]
  simp only [plain?, htake, hdrop, natural?_eq hboth, hn, Option.map_some]
  simp [hne, hne']

/-! ## Dropped zeros -/

theorem AllDigits.notMem {other : Char} (hds : AllDigits ds) (hother : other.isDigit = false) :
    other ∉ ds := by
  intro hmem
  have hdigit := hds other hmem
  rw [hother] at hdigit
  cases hdigit

/-- No digit is a point. -/
theorem AllDigits.dropWhile_point (hds : AllDigits ds) : ds.dropWhile (· == '.') = ds := by
  cases ds with
  | nil => rfl
  | cons d rest =>
    have hne : d ≠ '.' := by
      rintro rfl
      exact hds.notMem (by decide) List.mem_cons_self
    rw [List.dropWhile_cons, if_neg (by simpa using hne)]

/-- Zeros at the end of some digits. -/
theorem exists_rdropWhile (ds : List Char) : ∃ count,
    ds = ds.rdropWhile (· == '0') ++ List.replicate count '0' := by
  refine ⟨(ds.rtakeWhile (· == '0')).length, ?_⟩
  have hzeros : ds.rtakeWhile (· == '0') =
      List.replicate (ds.rtakeWhile (· == '0')).length '0' := by
    rw [List.eq_replicate_iff]
    exact ⟨rfl, fun c hc => by simpa using List.mem_rtakeWhile_imp hc⟩
  rw [← hzeros]
  exact List.rdropWhile_append_rtakeWhile.symm

theorem stripFraction_of_notMem {text : List Char} (h : '.' ∉ text) :
    Format.stripFraction text = text := by
  rw [Format.stripFraction, if_neg (by simpa using h)]

/-- **What is dropped** are zeros, and the point as well if nothing is left behind it. -/
theorem stripFraction_point (hwhole : AllDigits whole) (hfraction : AllDigits fraction) :
    Format.stripFraction (whole ++ '.' :: fraction) =
      if fraction.rdropWhile (· == '0') = [] then whole
      else whole ++ '.' :: fraction.rdropWhile (· == '0') := by
  -- Zeros and the point are dropped from the front of the text read backwards.
  have hreverse : (whole ++ '.' :: fraction).reverse =
      fraction.reverse ++ '.' :: whole.reverse := by simp
  have hwhole' : AllDigits whole.reverse := fun c hc => hwhole c (List.mem_reverse.mp hc)
  have hkept : AllDigits (fraction.reverse.dropWhile (· == '0')) :=
    fun c hc => hfraction c (List.mem_reverse.mp ((List.dropWhile_sublist _).mem hc))
  have hempty : fraction.rdropWhile (· == '0') = [] ↔
      fraction.reverse.dropWhile (· == '0') = [] := by rw [List.rdropWhile, List.reverse_eq_nil_iff]
  rw [Format.stripFraction, if_pos (by simp), hreverse, List.dropWhile_append]
  by_cases h : fraction.reverse.dropWhile (· == '0') = []
  · rw [if_pos (hempty.mpr h), h, if_pos List.isEmpty_nil]
    simp [hwhole'.dropWhile_point]
  · rw [if_neg (fun h' => h (hempty.mp h')), if_neg (by simpa using h), List.dropWhile_append,
      hkept.dropWhile_point, if_neg (by simpa using h)]
    simp [List.rdropWhile]

/-- Zeros behind the last digit that counts do not count. -/
theorem plain?_dropped {count m : Nat} {kept : List Char} (hwhole : AllDigits whole)
    (hne : whole ≠ []) (hm : Radix.readOn 10 0 (whole ++ kept) = some m) :
    plain? (if kept = [] then whole else whole ++ '.' :: kept) =
      some (((m * Nat.pow 10 count : Nat) : ℚ) /
        (10 : ℚ) ^ ((kept.length + count : Nat) : Int)) := by
  have hten : (10 : ℚ) ≠ 0 := by norm_num
  have hlonger : ((m * Nat.pow 10 count : Nat) : ℚ) /
      (10 : ℚ) ^ ((kept.length + count : Nat) : Int) = (m : ℚ) / (10 : ℚ) ^ (kept.length : Int) := by
    rw [Nat.cast_add, zpow_add₀ hten, Nat.pow_eq, zpow_natCast, zpow_natCast]
    push_cast
    field_simp
  rw [hlonger]
  by_cases h : kept = []
  · rw [h, List.append_nil] at hm
    rw [if_pos h, h, plain?_digits hwhole hne hm]
    simp
  · rw [if_neg h]
    exact plain?_point hwhole hne h hm

section point
variable (hds : AllDigits ds) (hk : k < ds.length)
include hds hk

/-- The digits on either side of the point. -/
theorem insertPoint_cases :
    k = 0 ∧ insertPoint k ds = ds ∨
      ∃ whole fraction, ds = whole ++ fraction ∧ fraction.length = k ∧ whole ≠ [] ∧
        fraction ≠ [] ∧ AllDigits whole ∧ AllDigits fraction ∧
        insertPoint k ds = whole ++ '.' :: fraction := by
  unfold insertPoint
  by_cases hzero : k = 0
  · exact .inl ⟨hzero, if_pos hzero⟩
  · rw [if_neg hzero]
    have hlength : (ds.drop (ds.length - k)).length = k := by
      rw [List.length_drop]
      omega
    refine .inr ⟨_, _, (List.take_append_drop (ds.length - k) ds).symm, hlength, ?_, ?_,
      fun c hc => hds c (List.mem_of_mem_take hc), fun c hc => hds c (List.mem_of_mem_drop hc), rfl⟩
    · apply List.ne_nil_of_length_pos
      rw [List.length_take]
      omega
    · apply List.ne_nil_of_length_pos
      omega

/-- **A point** in front of the last digits divides by a power of ten. -/
theorem plain?_insertPoint (hn : Radix.readOn 10 0 ds = some n) :
    plain? (insertPoint k ds) = some ((n : ℚ) / (10 : ℚ) ^ (k : Int)) := by
  rcases insertPoint_cases hds hk with ⟨rfl, hpoint⟩ |
    ⟨whole, fraction, rfl, rfl, hne, hne', hwhole, -, hpoint⟩
  · rw [hpoint, plain?_digits hds (List.ne_nil_of_length_pos hk) hn]
    simp
  · rw [hpoint]
    exact plain?_point hwhole hne hne' hn

/-- **Dropped zeros** do not count. -/
theorem plain?_stripFraction (hn : Radix.readOn 10 0 ds = some n) :
    plain? (Format.stripFraction (insertPoint k ds)) = some ((n : ℚ) / (10 : ℚ) ^ (k : Int)) := by
  rcases insertPoint_cases hds hk with ⟨rfl, hpoint⟩ |
    ⟨whole, fraction, rfl, rfl, hne, -, hwhole, hfraction, hpoint⟩
  · rw [hpoint, stripFraction_of_notMem (hds.notMem (by decide)),
      plain?_digits hds (List.ne_nil_of_length_pos hk) hn]
    simp
  · rw [hpoint, stripFraction_point hwhole hfraction]
    obtain ⟨count, hcount⟩ := exists_rdropWhile fraction
    generalize fraction.rdropWhile (· == '0') = kept at hcount ⊢
    have hkept : AllDigits (whole ++ kept) := by
      intro c hc
      refine hds c ?_
      rw [hcount, ← List.append_assoc]
      exact List.mem_append_left _ hc
    obtain ⟨m, hm⟩ := exists_readOn hkept 0
    -- The dropped zeros make up the difference between the two numbers.
    have hmn : m * Nat.pow 10 count = n := by
      rw [hcount, ← List.append_assoc, Radix.readOn_append, hm, Option.bind_some,
        readOn_replicate_zero] at hn
      exact Option.some.inj hn
    have hlength : fraction.length = kept.length + count := by
      rw [hcount, List.length_append, List.length_replicate]
    rw [hlength, ← hmn]
    exact plain?_dropped hwhole hne hm

theorem endsWell_stripFraction : EndsWell (Format.stripFraction (insertPoint k ds)) := by
  rcases insertPoint_cases hds hk with ⟨rfl, hpoint⟩ |
    ⟨whole, fraction, rfl, rfl, -, -, hwhole, hfraction, hpoint⟩
  · rw [hpoint, stripFraction_of_notMem (hds.notMem (by decide))]
    exact fun hmem => absurd hmem (hds.notMem (by decide))
  · rw [hpoint, stripFraction_point hwhole hfraction]
    have hkept : AllDigits (fraction.rdropWhile (· == '0')) :=
      fun c hc => hfraction c ((List.rdropWhile_prefix _ fraction).subset hc)
    -- What is left of the fraction does not end with a zero, and if nothing is, neither is
    -- the point.
    have hlast := fun h => List.rdropWhile_last_not (· == '0') fraction h
    generalize fraction.rdropWhile (· == '0') = kept at hkept hlast ⊢
    by_cases h : kept = []
    · rw [if_pos h]
      exact fun hmem => absurd hmem (hwhole.notMem (by decide))
    · rw [if_neg h]
      intro _
      have hget : (whole ++ '.' :: kept).getLast? = some (kept.getLast h) := by
        rw [List.getLast?_append, List.getLast?_cons_of_ne_nil h, List.getLast?_eq_some_getLast h,
          Option.some_or]
      have hdigit := hkept _ (List.getLast_mem h)
      rw [hget]
      refine ⟨fun heq => hlast h ?_, fun heq => ?_⟩
      · simpa using heq
      · rw [Option.some.inj heq] at hdigit
        cases hdigit

/-- Neither the digits nor the point mark an exponent. -/
theorem isMarker_of_mem_insertPoint : ∀ c ∈ insertPoint k ds, isMarker c = false := by
  have hdigit : ∀ c : Char, c.isDigit = true → isMarker c = false := by
    intro c hc
    by_contra hmarker
    simp only [isMarker, Bool.not_eq_false, Bool.or_eq_true, beq_iff_eq] at hmarker
    rcases hmarker with rfl | rfl <;> cases hc
  intro c hc
  rcases insertPoint_cases hds hk with ⟨-, hpoint⟩ |
    ⟨whole, fraction, -, -, -, -, hwhole, hfraction, hpoint⟩
  · rw [hpoint] at hc
    exact hdigit c (hds c hc)
  · rw [hpoint] at hc
    rcases List.mem_append.mp hc with h | h
    · exact hdigit c (hwhole c h)
    · rcases List.mem_cons.mp h with rfl | h
      · rfl
      · exact hdigit c (hfraction c h)

end point

end digits

/-! ## Exponents and signs -/

section whole
variable {text mantissa : List Char} {marker : Char} {q : ℚ}

theorem mem_of_mem_stripFraction {c : Char} (h : c ∈ Format.stripFraction text) : c ∈ text := by
  unfold Format.stripFraction at h
  split at h
  · rw [List.mem_reverse] at h
    exact List.mem_reverse.mp ((List.dropWhile_sublist _).mem ((List.dropWhile_sublist _).mem h))
  · exact h

section unmarked
variable (h : ∀ c ∈ mantissa, isMarker c = false)
include h

/-- Without a marker there is no exponent. -/
theorem magnitude?_unmarked :
    magnitude? mantissa = plain? mantissa ∧ mantissaOf mantissa = mantissa ∧
      hasExponent mantissa = false := by
  have hall : ∀ c ∈ mantissa, (!isMarker c) = true := fun c hc => by rw [h c hc]; rfl
  refine ⟨?_, List.takeWhile_eq_self_iff.mpr hall, ?_⟩
  · rw [magnitude?, List.dropWhile_eq_nil_iff.mpr hall]
  · rw [hasExponent, List.any_eq_false]
    exact fun c hc => by rw [h c hc]; exact Bool.false_ne_true

theorem takeWhile_marked (hmarker : isMarker marker = true) (rest : List Char) :
    mantissaOf (mantissa ++ marker :: rest) = mantissa ∧
      (mantissa ++ marker :: rest).dropWhile (fun c => !isMarker c) = marker :: rest := by
  have hall : ∀ c ∈ mantissa, (!isMarker c) = true := fun c hc => by rw [h c hc]; rfl
  constructor
  · rw [mantissaOf, List.takeWhile_append_of_pos hall, List.takeWhile_cons, hmarker,
      if_neg (by decide), List.append_nil]
  · rw [List.dropWhile_append_of_pos hall, List.dropWhile_cons, hmarker, if_neg (by decide)]

/-- **An exponent** multiplies by a power of ten. -/
theorem magnitude?_exponentPart (hmarker : isMarker marker = true)
    (hq : plain? mantissa = some q) (e : Int) :
    magnitude? (mantissa ++ Format.exponentPart marker e) = some (q * (10 : ℚ) ^ e) ∧
      mantissaOf (mantissa ++ Format.exponentPart marker e) = mantissa ∧
      hasExponent (mantissa ++ Format.exponentPart marker e) = true := by
  -- Behind the marker there are a sign and two digits at least.
  have hdigits : Radix.natural? 10 (padZeros 2 (Nat.toDigits 10 e.natAbs)) = some e.natAbs := by
    rw [natural?_eq (by simp [padZeros, Nat.toDigits_ne_nil]), padZeros,
      Radix.readOn_zeros _ (by decide), Radix.readOn_toDigits (by decide) (by decide)]
  have hinteger : Radix.integer? 10 ((if e < 0 then '-' else '+') ::
      padZeros 2 (Nat.toDigits 10 e.natAbs)) = some e := by
    by_cases he : e < 0
    · simp only [he, if_true, Radix.integer?, Literal.splitSign, hdigits, Option.map_some]
      congr 1
      omega
    · simp only [he, if_false, Radix.integer?, Literal.splitSign, hdigits, Option.map_some,
        Bool.false_eq_true]
      congr 1
      omega
  obtain ⟨htake, hdrop⟩ := takeWhile_marked h hmarker
    ((if e < 0 then '-' else '+') :: padZeros 2 (Nat.toDigits 10 e.natAbs))
  rw [Format.exponentPart]
  refine ⟨?_, htake, ?_⟩
  · rw [magnitude?, hdrop]
    simp only [htake, hq, Option.bind_some, hinteger, Option.map_some]
  · simp [hasExponent, hmarker]

end unmarked

/-- What denotes a number starts with a digit. -/
theorem isDigit_of_plain? (hq : plain? text = some q) : ∃ c rest, text = c :: rest ∧
    c.isDigit = true := by
  cases text with
  | nil => cases hq
  | cons c rest =>
    by_cases hc : c.isDigit = true
    · exact ⟨c, rest, rfl, hc⟩
    · have hdrop : (c :: rest).dropWhile Char.isDigit = c :: rest := List.dropWhile_cons_of_neg hc
      have htake : (c :: rest).takeWhile Char.isDigit = [] := List.takeWhile_cons_of_neg hc
      rw [plain?, htake, hdrop] at hq
      by_cases hpoint : c = '.'
      · subst hpoint
        cases hq
      · split at hq
        · next heq => cases heq
        · next heq => exact absurd (List.cons.inj heq).1 hpoint
        · cases hq

/-- So it does not start with a sign. -/
theorem splitSign_of_magnitude? (hq : magnitude? text = some q) :
    Literal.splitSign text = (false, text) := by
  obtain ⟨q', hq'⟩ : ∃ q', plain? (mantissaOf text) = some q' := by
    unfold magnitude? at hq
    split at hq
    · next hdrop =>
      have hall : mantissaOf text = text :=
        List.takeWhile_eq_self_iff.mpr (List.dropWhile_eq_nil_iff.mp hdrop)
      exact ⟨q, by rw [hall, hq]⟩
    · obtain ⟨q', hq', -⟩ := Option.bind_eq_some_iff.mp hq
      exact ⟨q', hq'⟩
  -- The mantissa comes first, and a digit comes first in it.
  obtain ⟨c, rest, hmantissa, hc⟩ := isDigit_of_plain? hq'
  have hsplit : text = mantissaOf text ++ text.dropWhile fun c => !isMarker c :=
    List.takeWhile_append_dropWhile.symm
  rw [hmantissa, List.cons_append] at hsplit
  rw [hsplit]
  unfold Literal.splitSign
  split
  · next heq => rw [(List.cons.inj heq).1] at hc; cases hc
  · next heq => rw [(List.cons.inj heq).1] at hc; cases hc
  · rfl

/-- **A sign** in front of a number. -/
theorem read?_withSign (negative : Bool) (hq : magnitude? text = some q) :
    read? (if negative then '-' :: text else text) = some (if negative then -q else q) := by
  cases negative with
  | true => simp [read?, Literal.splitSign, hq]
  | false => simp [read?, splitSign_of_magnitude? hq, hq]

/-- A sign in front is part of the mantissa. -/
theorem mantissaOf_withSign (text : List Char) (negative : Bool) :
    mantissaOf (if negative then '-' :: text else text) =
        (if negative then '-' :: mantissaOf text else mantissaOf text) ∧
      hasExponent (if negative then '-' :: text else text) = hasExponent text := by
  have hminus : isMarker '-' = false := by decide
  cases negative with
  | true => simp [mantissaOf, hasExponent, hminus]
  | false => exact ⟨rfl, rfl⟩

theorem EndsWell.withSign (h : EndsWell text) (negative : Bool) :
    EndsWell (if negative then '-' :: text else text) := by
  cases negative with
  | true =>
    intro hmem
    rcases List.mem_cons.mp hmem with heq | hmem
    · cases heq
    · have hlast := h hmem
      rw [if_pos rfl, List.getLast?_cons_of_ne_nil (List.ne_nil_of_mem hmem)]
      exact hlast
  | false => exact h

end whole

end DecimalText

end DynamicObjects
