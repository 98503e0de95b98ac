import DynamicObjects.Number.Shortest
import DynamicObjects.Proofs.Number.Decade
import DynamicObjects.Proofs.Number.Exact

/-! # Shortest decimals

    What is printed for a float is the first decimal number, in order of the number
    of its digits, that reads back as the float.  There always is one of at most
    seventeen digits.

    The argument:
    1. What reads back lies within half a step of the float, a step being the
       distance to the next float above.  Conversely, everything nearer than that
       reads back, except that below a power of two the floats lie closer.
    2. With seventeen digits the decimal numbers lie closer than floats do, since
       `2 ^ 53 < 10 ^ 16`, so that one of the two neighbours is near enough.  A power
       of two has the least significand, so that even the upper neighbour is.
    3. The search tries one number of digits after the other.

    Main results:
    - `Binary64.exists_candidate`: seventeen digits always suffice
    - `Binary64.shortest_spec`: what is printed reads back -/

namespace DynamicObjects

namespace Binary64

/-! ## The rounding interval -/

section interval
variable {x : Binary64} {num den : Nat}

/-- A float with a closer neighbour below. -/
def IsAtEdge (x : Binary64) : Prop := x.fraction = 0 ∧ 1 < x.exponentField

theorem step_le_units (hx : 0 < x.units) : Nat.pow 2 x.shift ≤ x.units := by
  have hpos : 0 < x.significand := Nat.pos_of_mul_pos_right hx
  exact Nat.le_mul_of_pos_left _ hpos

/-- The significand is the least one at the edge. -/
theorem units_of_isAtEdge (h : x.IsAtEdge) : x.units = Nat.pow 2 52 * Nat.pow 2 x.shift := by
  obtain ⟨hfraction, hexponent⟩ := h
  have hnormal : x.exponentField ≠ 0 := by omega
  rw [units, significand, if_neg hnormal, hfraction, Nat.add_zero]

theorem units_lt (x : Binary64) : x.units < Nat.pow 2 53 * Nat.pow 2 x.shift :=
  Nat.mul_lt_mul_of_pos_right x.significand_lt (two_pow_pos _)

/-- The ends of the interval, counted in quarters of a unit. -/
theorem readsBack_iff (hden : 0 < den) :
    x.readsBack num den = true ↔
      (x.lowerQuarters : ℚ) ≤ 4 * ((num : ℚ) / den * unitsPerOne) ∧
        4 * ((num : ℚ) / den * unitsPerOne) ≤ x.upperQuarters ∧
        (x.significand % 2 = 1 → (x.lowerQuarters : ℚ) < 4 * ((num : ℚ) / den * unitsPerOne) ∧
          4 * ((num : ℚ) / den * unitsPerOne) < x.upperQuarters) := by
  have hpos : (0 : ℚ) < den := by exact_mod_cast hden
  have hquarters : 4 * ((num : ℚ) / den * unitsPerOne) =
      ((4 * num * unitsPerOne : Nat) : ℚ) / den := by
    push_cast
    ring
  have hle : x.lowerQuarters * den ≤ 4 * num * unitsPerOne ↔
      (x.lowerQuarters : ℚ) ≤ ((4 * num * unitsPerOne : Nat) : ℚ) / den := by
    rw [le_div_iff₀ hpos]
    exact_mod_cast Iff.rfl
  have hge : 4 * num * unitsPerOne ≤ x.upperQuarters * den ↔
      ((4 * num * unitsPerOne : Nat) : ℚ) / den ≤ x.upperQuarters := by
    rw [div_le_iff₀ hpos]
    exact_mod_cast Iff.rfl
  have hlt : x.lowerQuarters * den < 4 * num * unitsPerOne ↔
      (x.lowerQuarters : ℚ) < ((4 * num * unitsPerOne : Nat) : ℚ) / den := by
    rw [lt_div_iff₀ hpos]
    exact_mod_cast Iff.rfl
  have hgt : 4 * num * unitsPerOne < x.upperQuarters * den ↔
      ((4 * num * unitsPerOne : Nat) : ℚ) / den < x.upperQuarters := by
    rw [div_lt_iff₀ hpos]
    exact_mod_cast Iff.rfl
  rw [hquarters, ← hle, ← hge, ← hlt, ← hgt, readsBack]
  -- The ends belong to the interval if the significand is even.
  by_cases heven : x.significand % 2 = 0
  · have hnot : x.significand % 2 ≠ 1 := by omega
    simp [heven]
  · have hodd : x.significand % 2 = 1 := by omega
    simp [hodd]
    omega

/-- A number is **near** to a float if it is off by half a step at most. -/
def Near (x : Binary64) (q : ℚ) : Prop :=
  2 * |q * unitsPerOne - x.units| ≤ (Nat.pow 2 x.shift : Nat)

/-- **What reads back** is near. -/
theorem near_of_readsBack (hden : 0 < den) (h : x.readsBack num den = true) :
    x.Near ((num : ℚ) / den) := by
  obtain ⟨hlower, hupper, -⟩ := (readsBack_iff hden).mp h
  -- Below a power of two the interval is only shorter than half a step.
  have hlower' : 4 * (x.units : ℚ) - 2 * (Nat.pow 2 x.shift : Nat) ≤ x.lowerQuarters := by
    have hnat : 4 * x.units ≤ x.lowerQuarters + 2 * Nat.pow 2 x.shift := by
      unfold lowerQuarters
      split <;> omega
    have hrat : 4 * (x.units : ℚ) ≤ x.lowerQuarters + 2 * (Nat.pow 2 x.shift : Nat) := by
      exact_mod_cast hnat
    linarith
  have hupper' : (x.upperQuarters : ℚ) = 4 * x.units + 2 * (Nat.pow 2 x.shift : Nat) := by
    rw [upperQuarters]
    push_cast
    ring
  rw [hupper'] at hupper
  have habs : |(num : ℚ) / den * unitsPerOne - x.units| ≤ (Nat.pow 2 x.shift : Nat) / 2 := by
    rw [abs_le]
    constructor <;> linarith
  unfold Near
  linarith

/-- **What is nearer** than half a step reads back; at the edge it has to lie above. -/
theorem readsBack_of_near (hx : 0 < x.units) (hden : 0 < den)
    (hnear : 2 * |(num : ℚ) / den * unitsPerOne - x.units| < (Nat.pow 2 x.shift : Nat))
    (hedge : x.IsAtEdge → (x.units : ℚ) ≤ (num : ℚ) / den * unitsPerOne) :
    x.readsBack num den = true := by
  have hstep := step_le_units hx
  have hpos : (0 : ℚ) < (Nat.pow 2 x.shift : Nat) := by exact_mod_cast two_pow_pos _
  have habs : |(num : ℚ) / den * unitsPerOne - x.units| < (Nat.pow 2 x.shift : Nat) / 2 := by
    linarith
  obtain ⟨hbelow, habove⟩ := abs_lt.mp habs
  have hupper : 4 * ((num : ℚ) / den * unitsPerOne) < x.upperQuarters := by
    rw [upperQuarters]
    push_cast at habove ⊢
    linarith
  have hlower : (x.lowerQuarters : ℚ) < 4 * ((num : ℚ) / den * unitsPerOne) := by
    -- At the edge the interval reaches down only half as far, but nothing lies below.
    by_cases h : x.IsAtEdge
    · have hnat : x.lowerQuarters + Nat.pow 2 x.shift = 4 * x.units := by
        unfold IsAtEdge at h
        rw [lowerQuarters, if_pos h]
        omega
      have hrat : (x.lowerQuarters : ℚ) + (Nat.pow 2 x.shift : Nat) = 4 * x.units := by
        exact_mod_cast hnat
      have habove' := hedge h
      linarith
    · have hnat : x.lowerQuarters + 2 * Nat.pow 2 x.shift = 4 * x.units := by
        unfold IsAtEdge at h
        rw [lowerQuarters, if_neg h]
        omega
      have hrat : (x.lowerQuarters : ℚ) + 2 * (Nat.pow 2 x.shift : Nat) = 4 * x.units := by
        exact_mod_cast hnat
      linarith
  exact (readsBack_iff hden).mpr ⟨le_of_lt hlower, le_of_lt hupper, fun _ => ⟨hlower, hupper⟩⟩

end interval

/-! ## Candidates -/

section candidates
variable {x : Binary64}

/-- A decimal number as a quotient. -/
theorem powerOfTen_eq (n : Nat) (e : Int) :
    0 < (powerOfTen n e).2 ∧
      ((powerOfTen n e).1 : ℚ) / (powerOfTen n e).2 = (n : ℚ) * (10 : ℚ) ^ e := by
  unfold powerOfTen
  by_cases he : e < 0
  · rw [if_pos he]
    have hexponent : e = -((-e).toNat : Int) := by omega
    generalize (-e).toNat = k at hexponent ⊢
    rw [hexponent, zpow_neg, zpow_natCast]
    refine ⟨Nat.pow_pos (by decide), ?_⟩
    push_cast [Nat.pow_eq]
    exact div_eq_mul_inv _ _
  · rw [if_neg he]
    have hexponent : e = (e.toNat : Int) := by omega
    generalize e.toNat = k at hexponent ⊢
    rw [hexponent, zpow_natCast]
    refine ⟨Nat.one_pos, ?_⟩
    push_cast [Nat.pow_eq]
    exact div_one _

/-- A decimal number reads back. -/
def Reads (x : Binary64) (n : Nat) (e : Int) : Prop :=
  x.readsBack (powerOfTen n e).1 (powerOfTen n e).2 = true

theorem Reads.near {n : Nat} {e : Int} (h : x.Reads n e) : x.Near ((n : ℚ) * (10 : ℚ) ^ e) := by
  obtain ⟨hpos, hvalue⟩ := powerOfTen_eq n e
  rw [← hvalue]
  exact near_of_readsBack hpos h

theorem reads_of_near (hx : 0 < x.units) {n : Nat} {e : Int}
    (hnear : 2 * |(n : ℚ) * (10 : ℚ) ^ e * unitsPerOne - x.units| < (Nat.pow 2 x.shift : Nat))
    (hedge : x.IsAtEdge → (x.units : ℚ) ≤ (n : ℚ) * (10 : ℚ) ^ e * unitsPerOne) : x.Reads n e := by
  obtain ⟨hpos, hvalue⟩ := powerOfTen_eq n e
  rw [← hvalue] at hnear hedge
  exact readsBack_of_near hx hpos hnear hedge

/-- The lower one of the two decimal numbers next to a float. -/
def lowerNeighbour (x : Binary64) (e : Int) : Nat :=
  (Scientific.scale x.units unitsPerOne e).1 / (Scientific.scale x.units unitsPerOne e).2

/-- A candidate is one of the neighbours, and reads back; there is none only if neither
    of them does. -/
theorem candidate?_cases (x : Binary64) (d : Int) (places : Nat) :
    (∃ n, x.candidate? d places = some n ∧ x.Reads n (d - places) ∧
        (n = x.lowerNeighbour (d - places) ∨ n = x.lowerNeighbour (d - places) + 1)) ∨
      x.candidate? d places = none ∧ ¬ x.Reads (x.lowerNeighbour (d - places)) (d - places) ∧
        ¬ x.Reads (x.lowerNeighbour (d - places) + 1) (d - places) := by
  rcases hscale : Scientific.scale x.units unitsPerOne (d - places) with ⟨a, b⟩
  have hneighbour : x.lowerNeighbour (d - places) = a / b := by rw [lowerNeighbour, hscale]
  rw [hneighbour, candidate?, hscale]
  dsimp only
  split
  · next hlow hhigh =>
    left
    by_cases hhalf : 2 * (a % b) < b
    · exact ⟨_, by rw [if_pos hhalf], hlow, .inl rfl⟩
    · exact ⟨_, by rw [if_neg hhalf], hhigh, .inr rfl⟩
  · next hlow hhigh => exact .inl ⟨_, rfl, hlow, .inl rfl⟩
  · next hlow hhigh => exact .inl ⟨_, rfl, hhigh, .inr rfl⟩
  · next hlow hhigh =>
    exact .inr ⟨rfl, Bool.eq_false_iff.mp hlow, Bool.eq_false_iff.mp hhigh⟩

/-- The neighbours are next to the float. -/
theorem lowerNeighbour_bounds (x : Binary64) (e : Int) :
    (x.lowerNeighbour e : ℚ) * (10 : ℚ) ^ e * unitsPerOne ≤ x.units ∧
      (x.units : ℚ) < ((x.lowerNeighbour e + 1 : Nat) : ℚ) * (10 : ℚ) ^ e * unitsPerOne := by
  have hone : 0 < unitsPerOne := by exact_mod_cast unitsPerOne_pos
  have hpos := Scientific.scale_pos hone x.units e
  have hscaled := Scientific.scale_eq hone x.units e
  have hstep : (0 : ℚ) < (10 : ℚ) ^ e := by positivity
  have hpos' : (0 : ℚ) < (Scientific.scale x.units unitsPerOne e).2 := by exact_mod_cast hpos
  have hlower : (x.lowerNeighbour e : ℚ) ≤ (x.units : ℚ) / unitsPerOne / (10 : ℚ) ^ e := by
    rw [← hscaled, le_div_iff₀ hpos']
    exact_mod_cast Nat.div_mul_le_self _ _
  have hupper :
      (x.units : ℚ) / unitsPerOne / (10 : ℚ) ^ e < ((x.lowerNeighbour e + 1 : Nat) : ℚ) := by
    have hnext := (Nat.div_lt_iff_lt_mul hpos).mp (Nat.lt_succ_self (x.lowerNeighbour e))
    rw [← hscaled, div_lt_iff₀ hpos']
    exact_mod_cast hnext
  rw [le_div_iff₀ hstep, le_div_iff₀ unitsPerOne_pos] at hlower
  rw [div_lt_iff₀ hstep, div_lt_iff₀ unitsPerOne_pos] at hupper
  exact ⟨hlower, hupper⟩

/-- The decade of a positive float. -/
def decade (x : Binary64) : Int := Scientific.decade x.units unitsPerOne

section positive
variable (hx : 0 < x.units)
include hx

/-- In steps that show `places` digits behind the first, a float has so many digits in
    front of the point. -/
theorem units_bounds (places : Nat) :
    ((Nat.pow 10 places : Nat) : ℚ) ≤
        (x.units : ℚ) / unitsPerOne / (10 : ℚ) ^ (x.decade - places) ∧
      (x.units : ℚ) / unitsPerOne / (10 : ℚ) ^ (x.decade - places) <
        (Nat.pow 10 (places + 1) : Nat) :=
  Scientific.scaled_bounds hx (by exact_mod_cast unitsPerOne_pos) places

/-- So the lower neighbour shows as many. -/
theorem lowerNeighbour_range (places : Nat) :
    Nat.pow 10 places ≤ x.lowerNeighbour (x.decade - places) ∧
      x.lowerNeighbour (x.decade - places) < Nat.pow 10 (places + 1) := by
  have hone : 0 < unitsPerOne := by exact_mod_cast unitsPerOne_pos
  have hpos := Scientific.scale_pos hone x.units (x.decade - places)
  have hpos' : (0 : ℚ) < (Scientific.scale x.units unitsPerOne (x.decade - places)).2 := by
    exact_mod_cast hpos
  obtain ⟨hlower, hupper⟩ := units_bounds hx places
  rw [← Scientific.scale_eq hone, le_div_iff₀ hpos'] at hlower
  rw [← Scientific.scale_eq hone, div_lt_iff₀ hpos'] at hupper
  constructor
  · exact (Nat.le_div_iff_mul_le hpos).mpr (by exact_mod_cast hlower)
  · exact (Nat.div_lt_iff_lt_mul hpos).mpr (by exact_mod_cast hupper)

/-- **Seventeen digits** always suffice. -/
theorem exists_candidate : ∃ n, x.candidate? x.decade 16 = some n := by
  obtain ⟨hlower, -⟩ := units_bounds hx 16
  obtain ⟨hbelow, habove⟩ := lowerNeighbour_bounds x (x.decade - (16 : Nat))
  have hstep : (0 : ℚ) < (10 : ℚ) ^ (x.decade - (16 : Nat)) := by positivity
  rw [le_div_iff₀ hstep, le_div_iff₀ unitsPerOne_pos] at hlower
  have hpow : ((Nat.pow 10 16 : Nat) : ℚ) = 10000000000000000 := by norm_num
  -- Decimal numbers lie closer than floats do.
  have hunits : (x.units : ℚ) < 9007199254740992 * (Nat.pow 2 x.shift : Nat) := by
    have h := x.units_lt
    have hpow' : Nat.pow 2 53 = 9007199254740992 := rfl
    rw [hpow'] at h
    exact_mod_cast h
  rw [hpow] at hlower
  rcases candidate?_cases x x.decade 16 with ⟨n, hn, -⟩ | ⟨-, hlow, hhigh⟩
  · exact ⟨n, hn⟩
  · exfalso
    generalize x.lowerNeighbour (x.decade - (16 : Nat)) = low at hbelow habove hlow hhigh
    have hnext : ((low + 1 : Nat) : ℚ) = low + 1 := Nat.cast_succ low
    rw [hnext] at habove
    by_cases hedge : x.IsAtEdge
    · -- Then the significand is the least one, and the upper neighbour is near enough.
      have hleast : (x.units : ℚ) = 4503599627370496 * (Nat.pow 2 x.shift : Nat) := by
        have h := units_of_isAtEdge hedge
        have hpow' : Nat.pow 2 52 = 4503599627370496 := rfl
        rw [hpow'] at h
        exact_mod_cast h
      refine hhigh (reads_of_near hx ?_ fun _ => ?_)
      · rw [hnext, abs_of_pos (by linarith)]
        linarith
      · rw [hnext]
        linarith
    · by_cases hhalf : 2 * ((x.units : ℚ) - low * (10 : ℚ) ^ (x.decade - (16 : Nat)) * unitsPerOne) ≤
          (10 : ℚ) ^ (x.decade - (16 : Nat)) * unitsPerOne
      · refine hlow (reads_of_near hx ?_ fun h => absurd h hedge)
        rw [abs_of_nonpos (by linarith)]
        linarith
      · refine hhigh (reads_of_near hx ?_ fun h => absurd h hedge)
        rw [hnext, abs_of_pos (by linarith)]
        linarith

end positive

end candidates

end Binary64

/-! ## Zeros at the end -/

section zeros
variable {m n : Nat}

theorem toDigits_mul_ten (hm : 0 < m) : Nat.toDigits 10 (m * 10) = Nat.toDigits 10 m ++ ['0'] := by
  rw [Nat.toDigits_of_base_le (by decide) (by omega), Nat.mul_div_cancel _ (by decide),
    Nat.mul_mod_left]
  rfl

/-- A power of ten appends zeros. -/
theorem toDigits_mul_pow (hm : 0 < m) (count : Nat) :
    Nat.toDigits 10 (m * Nat.pow 10 count) = Nat.toDigits 10 m ++ List.replicate count '0' := by
  induction count with
  | zero =>
    have hone : Nat.pow 10 0 = 1 := rfl
    rw [hone, Nat.mul_one, List.replicate_zero, List.append_nil]
  | succ count ih =>
    have hpow : m * Nat.pow 10 (count + 1) = m * Nat.pow 10 count * 10 :=
      (Nat.mul_assoc m (Nat.pow 10 count) 10).symm
    have hpos : 0 < m * Nat.pow 10 count := Nat.mul_pos hm (Nat.pow_pos (by decide))
    rw [hpow, toDigits_mul_ten hpos, ih, List.replicate_succ', List.append_assoc]

theorem digitCount_mul_pow (hm : 0 < m) (count : Nat) :
    digitCount (m * Nat.pow 10 count) = digitCount m + count := by
  rw [digitCount, toDigits_mul_pow hm, List.length_append, List.length_replicate]
  rfl

/-- The last digit of a number. -/
theorem exists_toDigits_append (m : Nat) :
    ∃ front, Nat.toDigits 10 m = front ++ [(m % 10).digitChar] := by
  by_cases hm : m < 10
  · exact ⟨[], by rw [Nat.toDigits_of_lt_base hm, Nat.mod_eq_of_lt hm, List.nil_append]⟩
  · exact ⟨_, Nat.toDigits_of_base_le (by decide) (not_lt.mp hm)⟩

/-- A number without zeros at its end, and the zeros. -/
theorem exists_mul_pow (hn : 0 < n) : ∃ m count, n = m * Nat.pow 10 count ∧ m % 10 ≠ 0 := by
  induction n using Nat.strong_induction_on with
  | _ n ih =>
    by_cases hlast : n % 10 = 0
    · obtain ⟨m, count, hm, hmod⟩ := ih (n / 10) (by omega) (by omega)
      refine ⟨m, count + 1, ?_, hmod⟩
      have hpow : m * Nat.pow 10 (count + 1) = m * Nat.pow 10 count * 10 :=
        (Nat.mul_assoc m (Nat.pow 10 count) 10).symm
      rw [hpow, ← hm]
      omega
    · exact ⟨n, 0, (Nat.mul_one n).symm, hlast⟩

/-- **Trimming** drops the zeros, and nothing else. -/
theorem Scientific.trim_eq (hlast : m % 10 ≠ 0) (count : Nat) (e : Int) :
    Scientific.trim ⟨Nat.toDigits 10 (m * Nat.pow 10 count), e⟩ = ⟨Nat.toDigits 10 m, e⟩ := by
  have hne : (m % 10).digitChar ≠ '0' := by
    have hall : ∀ d < 10, d ≠ 0 → Nat.digitChar d ≠ '0' := by decide
    exact hall (m % 10) (Nat.mod_lt m (by decide)) hlast
  obtain ⟨front, hfront⟩ := exists_toDigits_append m
  have hzeros : ∀ c ∈ List.replicate count '0', (c == '0') = true := by
    intro c hc
    rw [List.eq_of_mem_replicate hc]
    rfl
  -- The digits are written in front of the zeros, and the last of them is none.
  have hdropped : ((Nat.toDigits 10 m ++ List.replicate count '0').reverse.dropWhile
      (· == '0')).reverse = Nat.toDigits 10 m := by
    rw [List.reverse_append, List.reverse_replicate, List.dropWhile_append_of_pos hzeros, hfront,
      List.reverse_append, List.reverse_singleton, List.singleton_append,
      List.dropWhile_cons_of_neg (by simpa using hne), List.reverse_cons, List.reverse_reverse]
  rw [toDigits_mul_pow (by omega), trim]
  simp only [hdropped]
  split
  · next hnil => exact absurd hnil Nat.toDigits_ne_nil
  · rfl

end zeros

namespace Binary64

/-! ## What is printed -/

section shortest
variable {x : Binary64}

/-- The search takes the first number of digits that has a candidate. -/
theorem firstCandidate_eq (d : Int) {tries start j n : Nat} (hj : x.candidate? d j = some n)
    (hstart : start ≤ j) (hend : j < start + tries) :
    ∃ places m, places ≤ j ∧ x.candidate? d places = some m ∧
      x.firstCandidate d tries start =
        Scientific.trim ⟨Nat.toDigits 10 m, d + ((digitCount m : Int) - (places + 1))⟩ := by
  induction tries generalizing start with
  | zero => omega
  | succ tries ih =>
    rw [firstCandidate]
    cases hcandidate : x.candidate? d start with
    | some m => exact ⟨start, m, hstart, hcandidate, rfl⟩
    | none =>
      have hne : start ≠ j := by
        rintro rfl
        rw [hj] at hcandidate
        cases hcandidate
      exact ih (by omega) (by omega)

/-- **What is printed** for a positive magnitude: at most seventeen digits, the last
    of them not being zero, of a number that reads back.  Large numbers have no
    digits behind the point. -/
theorem shortest_spec (hx : 0 < x.units) : ∃ (m : Nat) (e : Int),
    x.shortest = ⟨Nat.toDigits 10 m, e⟩ ∧ 0 < m ∧ digitCount m ≤ 17 ∧
      (∃ (n : Nat) (f : Int), x.Reads n f ∧
        (n : ℚ) * (10 : ℚ) ^ f = (m : ℚ) * (10 : ℚ) ^ (e + 1 - digitCount m)) ∧
      (16 ≤ x.decade → (digitCount m : Int) ≤ e + 1) := by
  obtain ⟨k, hk⟩ := exists_candidate hx
  obtain ⟨places, n, hplaces, hn, hfirst⟩ :=
    firstCandidate_eq x.decade hk (Nat.zero_le 16) (show 16 < 0 + 17 by decide)
  have hshortest : x.shortest = x.firstCandidate x.decade 17 0 := by
    have hzero : x.isZero = false := decide_eq_false (Nat.ne_of_gt (units_pos_iff.mp hx))
    rw [shortest, hzero, if_neg Bool.false_ne_true, decade]
  -- What is found is a neighbour of the float, and so has one digit more at most.
  obtain ⟨hreads, hrange⟩ : x.Reads n (x.decade - places) ∧
      Nat.pow 10 places ≤ n ∧ n ≤ Nat.pow 10 (places + 1) := by
    obtain ⟨hlower, hupper⟩ := lowerNeighbour_range hx places
    rcases candidate?_cases x x.decade places with ⟨n', hn', hreads, hneighbour⟩ | ⟨hnone, -⟩
    · obtain rfl := Option.some.inj (hn.symm.trans hn')
      exact ⟨hreads, by omega, by omega⟩
    · rw [hn] at hnone
      cases hnone
  have hpositive : 0 < n := Nat.lt_of_lt_of_le (Nat.pow_pos (by decide)) hrange.1
  obtain ⟨m, count, rfl, hlast⟩ := exists_mul_pow hpositive
  have hm : 0 < m := by omega
  have hdigits := digitCount_mul_pow hm count
  refine ⟨m, x.decade + ((digitCount m + count : Nat) - (places + 1)), ?_, hm, ?_, ?_, ?_⟩
  · rw [hshortest, hfirst, Scientific.trim_eq hlast, hdigits]
  · have hle : m ≤ Nat.pow 10 17 :=
      calc
        m ≤ m * Nat.pow 10 count := Nat.le_mul_of_pos_right m (Nat.pow_pos (by decide))
        _ ≤ Nat.pow 10 (places + 1) := hrange.2
        _ ≤ Nat.pow 10 17 := Nat.pow_le_pow_right (by decide) (by omega)
    have hne : m ≠ Nat.pow 10 17 := by
      rintro rfl
      exact hlast (by decide)
    exact (Nat.length_toDigits_le_iff (by decide) (by decide)).mpr (lt_of_le_of_ne hle hne)
  · have hexponents : x.decade - places + (count : Int) =
        x.decade + ((digitCount m + count : Nat) - (places + 1)) + 1 - digitCount m := by
      clear hx hrange
      generalize x.decade = d
      push_cast
      omega
    refine ⟨_, _, hreads, ?_⟩
    rw [Nat.cast_mul, mul_assoc, natPow_mul_zpow hexponents]
  · intro hdecade
    clear hx hrange
    generalize x.decade = d at hdecade
    push_cast
    omega

end shortest

end Binary64

end DynamicObjects
