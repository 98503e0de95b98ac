import DynamicObjects.Host.Stock
import DynamicObjects.Proofs.Format.Integers
import DynamicObjects.Proofs.Number.Exact
import Mathlib.Data.Rat.Floor

/-! # Floats as integers

    Wherever a float stands for an integer, what is behind its point is cut off.
    Both the construction of an integer and the decimal directives do that, and both
    give the least or the greatest integer if what remains is out of their range.

    The argument:
    1. Units divided by the units in one, without a rest, are the number cut off
       towards zero.
    2. Cutting off and clamping give an integer of 64 bits, which is the number cut
       off exactly if that is one.

    Main results:
    - `Binary64.truncate_eq`: what it means to cut off a float
    - `truncation_exact_iff`: which integer a float gives -/

namespace DynamicObjects

/-! ## Cutting off -/

/-- The integer nearest to a rational number in the direction of zero. -/
def towardZero (q : ℚ) : Int := if 0 ≤ q then ⌊q⌋ else ⌈q⌉

theorem towardZero_neg (q : ℚ) : towardZero (-q) = -towardZero q := by
  unfold towardZero
  rcases lt_trichotomy q 0 with hq | rfl | hq
  · rw [if_pos (by linarith), if_neg (not_le.mpr hq), Int.floor_neg]
  · simp
  · rw [if_neg (by linarith), if_pos hq.le, Int.ceil_neg]

theorem towardZero_div (m n : Nat) : towardZero (m / n) = (m / n : Nat) := by
  rw [towardZero, if_pos (by positivity), Rat.floor_natCast_div_natCast, Int.natCast_ediv]

/-- **Truncation** of a float cuts off the number that it denotes. -/
theorem Binary64.truncate_eq (x : Binary64) : x.truncate = towardZero x.toRat := by
  unfold truncate toRat signedUnits
  by_cases hsign : x.isNegative = true
  · rw [if_pos hsign, if_pos hsign, Int.cast_neg, neg_div, towardZero_neg, Int.cast_natCast,
      towardZero_div]
  · rw [if_neg hsign, if_neg hsign, Int.cast_natCast, towardZero_div]

/-! ## Clamping -/

/-- An integer has sixty-four bits. -/
def FitsInt64 (i : Int) : Prop := Int64.minValue.toInt ≤ i ∧ i ≤ Int64.maxValue.toInt

/-- What is out of the range is brought to its nearer end. -/
theorem toInt_clampedInteger (x : Binary64) :
    (Behaviour.clampedInteger x).toInt =
      max Int64.minValue.toInt (min Int64.maxValue.toInt (towardZero x.toRat)) := by
  rw [Behaviour.clampedInteger, x.truncate_eq]
  have hmin : Int64.minValue.toInt = -2 ^ 63 := Int64.toInt_minValue
  have hmax : Int64.maxValue.toInt = 2 ^ 63 - 1 := Int64.toInt_maxValue
  exact Int64.toInt_ofInt_of_le (by omega) (by omega)

theorem toInt_clampedInteger_eq_iff (x : Binary64) :
    (Behaviour.clampedInteger x).toInt = towardZero x.toRat ↔ FitsInt64 (towardZero x.toRat) := by
  rw [toInt_clampedInteger, FitsInt64]
  have hle : Int64.minValue.toInt ≤ Int64.maxValue.toInt := by decide
  omega

/-! ## The two places -/

section places
variable {w : World} {v : Value} {x : Binary64}

/-- **Construction** of an integer from a float. -/
theorem newObject_of_float (natives : Natives) (h : w.unwrap v = .float x)
    (hfinite : x.isFinite = true) (rest : List Value) :
    ∃ o w₁, natives.newObject .integer (v :: rest) w = .done o w₁ ∧ w₁.typeOf o = .integer ∧
      w₁.payload? o = some (.int (Behaviour.clampedInteger x)) := by
  refine IntegerDirective.newObject_integer natives w ?_
  have hbuilds : World.Builds w.heap.size (fun _ => True) w (w.allocate .integer).2 :=
    World.allocate_builds .integer (Nat.le_refl _)
  have hpayload := (hbuilds.grows (Nat.le_refl _)).unwrap_eq h (by simp)
  rw [Behaviour.integerFrom, hpayload, Behaviour.integerOf, if_pos hfinite]

/-- **Decimal directives** write the same integer. -/
theorem IntegerDirective.format_of_float (natives : Natives) (h : w.unwrap v = .float x)
    (hfinite : x.isFinite = true) (d : IntegerDirective)
    (hdecimal : d.conversion ∈ ['d', 'i', 'u']) :
    ∃ text, natives.format d.spelling [v] w = .done text w ∧
      natives.format d.spelling [.int (Behaviour.clampedInteger x)] w = .done text w ∧
      Literal.integer? text = some (Behaviour.clampedInteger x) := by
  have hinteger : Format.decimalArgument? (w.unwrap v) = some (Behaviour.clampedInteger x) := by
    rw [h, Format.decimalArgument?, if_pos hfinite]
  exact ⟨_, d.format_decimal_eq natives hdecimal hinteger, d.format_eq natives rfl,
    d.integer?_fill hdecimal _⟩

end places

/-- **Floats as integers**: a finite float constructs an integer, and a decimal
    directive writes the same one, which is read back from the text.  It is the
    number that the float denotes, cut off towards zero, exactly if that has
    sixty-four bits; otherwise it is the nearer end of their range. -/
theorem truncation_exact_iff (natives : Natives) {w : World} {v : Value} {x : Binary64}
    (h : w.unwrap v = .float x) (hfinite : x.isFinite = true) : ∃ n : Int64,
    (∀ rest, ∃ o w₁, natives.newObject .integer (v :: rest) w = .done o w₁ ∧
      w₁.typeOf o = .integer ∧ w₁.payload? o = some (.int n)) ∧
    (∀ d : IntegerDirective, d.conversion ∈ ['d', 'i', 'u'] → ∃ text,
      natives.format d.spelling [v] w = .done text w ∧
      natives.format d.spelling [.int n] w = .done text w ∧
      Literal.integer? text = some n) ∧
    (n.toInt = towardZero x.toRat ↔ FitsInt64 (towardZero x.toRat)) ∧
    n.toInt = max Int64.minValue.toInt (min Int64.maxValue.toInt (towardZero x.toRat)) :=
  ⟨Behaviour.clampedInteger x, newObject_of_float natives h hfinite,
    fun d hdecimal => d.format_of_float natives h hfinite hdecimal,
    toInt_clampedInteger_eq_iff x, toInt_clampedInteger x⟩

/-! ## Two floats around the range -/

/-- The directive `%d`. -/
def plainDecimal : IntegerDirective := .plain 'd' (.head _)

/-- The least integer as a float. -/
def leastFloat : Binary64 := .ofInt (-9223372036854775808)

/-- The least integer is still exact, boxed as it is here. -/
theorem truncation_exact_iff_least : ∃ text,
    Stock.host.natives.format plainDecimal.spelling
        [.object (World.initial.toObject (.float leastFloat)).1]
        (World.initial.toObject (.float leastFloat)).2 =
      .done text (World.initial.toObject (.float leastFloat)).2 ∧
    Literal.integer? text = some Int64.minValue := by
  have hpayload : (World.initial.toObject (.float leastFloat)).2.unwrap
      (.object (World.initial.toObject (.float leastFloat)).1) = .float leastFloat := rfl
  obtain ⟨n, -, hformat, hexact, -⟩ :=
    truncation_exact_iff Stock.host.natives hpayload (by decide +kernel)
  obtain ⟨text, htext, -, hread⟩ := hformat plainDecimal (by decide)
  refine ⟨text, htext, ?_⟩
  have htruncate : towardZero leastFloat.toRat = Int64.minValue.toInt := by
    rw [← leastFloat.truncate_eq]
    decide +kernel
  rw [htruncate] at hexact
  have hn : n = Int64.minValue :=
    Int64.toInt_inj.mp (hexact.mpr ⟨le_refl _, by decide⟩)
  rw [hread, hn]

/-- Ten to the nineteenth, which has more than sixty-four bits with its sign. -/
def tenToNineteen : Binary64 := .ofInt 10000000000000000000

/-- Of ten to the nineteenth, the greatest integer is left without an error. -/
theorem large_float_clamped :
    tenToNineteen.isFinite = true ∧ towardZero tenToNineteen.toRat = 10000000000000000000 ∧
    (∃ o w₁, Stock.host.natives.newObject .integer [.float tenToNineteen] World.initial =
        .done o w₁ ∧ w₁.payload? o = some (.int 9223372036854775807)) ∧
    Stock.host.natives.format "%d".toList [.float tenToNineteen] World.initial =
      .done "9223372036854775807".toList World.initial := by
  have hfinite : tenToNineteen.isFinite = true := by decide +kernel
  have htruncate : towardZero tenToNineteen.toRat = 10000000000000000000 := by
    rw [← tenToNineteen.truncate_eq]
    decide +kernel
  have hclamped : Behaviour.clampedInteger tenToNineteen = 9223372036854775807 := by
    decide +kernel
  obtain ⟨o, w₁, hnew, -, hpayload⟩ :=
    newObject_of_float Stock.host.natives (w := World.initial) (v := .float tenToNineteen) rfl
      hfinite []
  refine ⟨hfinite, htruncate, ⟨o, w₁, hnew, by rw [hpayload, hclamped]⟩, ?_⟩
  -- A template clamps in the same way as a construction.
  have hinteger : Format.decimalArgument? (World.initial.unwrap (.float tenToNineteen)) =
      some 9223372036854775807 := by
    rw [World.unwrap, Format.decimalArgument?, if_pos hfinite, hclamped]
    simp
  have hformat := plainDecimal.format_decimal_eq Stock.host.natives (by decide) hinteger
  have hspelling : plainDecimal.spelling = "%d".toList := by decide
  have htext : Format.fill plainDecimal.layout true (Format.integerBody plainDecimal.layout
      plainDecimal.conversion (9223372036854775807 : Int64).toInt) =
        "9223372036854775807".toList := by decide +kernel
  rw [hspelling, htext] at hformat
  exact hformat

end DynamicObjects
