import DynamicObjects.Host.Stock
import DynamicObjects.Proofs.Heap.Converted
import DynamicObjects.Proofs.Number.Correct
import DynamicObjects.Proofs.Safety.Reachable

/-! # Division by zero

    A quotient of numbers is an object unless the divisor is zero.  A complex division
    divides by the squared modulus of its divisor, and that is zero not only if the
    divisor is, but also if the squares of both its components are at most half of
    the least positive float.

    The argument:
    1. A quotient of units becomes zero exactly if it is at most half a unit.
    2. So does the square of a component, and a sum of squares is zero only if both
       of them are.
    3. An operation on number objects combines their payloads, and what comes out
       becomes an object.

    Main results:
    - `Complex.isZero_normSq_iff`: which complex numbers have no modulus
    - `division_by_zero_iff`: which divisions fail, and that all others are those of
      IEEE 754 -/

namespace DynamicObjects

/-! ## What becomes zero -/

namespace Binary64

/-- A number is **negligible** if its square is at most half a unit. -/
def Negligible (x : Binary64) : Prop := x.toRat ^ 2 ≤ 1 / (2 * unitsPerOne)

section zero
variable {x y : Binary64}

theorem isZero_ofUnits_iff (negative : Bool) (num : Nat) {den : Nat} (hden : 0 < den) :
    (ofUnits negative num den).isZero = true ↔ 2 * num ≤ den := by
  rw [isZero, (fields_ofUnits negative num den).2, decide_eq_true_iff,
    nearestMagnitude_eq_zero_iff num hden]

theorem class_of_isFinite (h : x.isFinite = true) : x.isNaN = false ∧ x.isInfinite = false := by
  refine ⟨isNaN_of_isFinite h, ?_⟩
  simp only [isFinite, isInfinite, decide_eq_true_eq, decide_eq_false_iff_not] at h ⊢
  omega

/-- Squares are positive quotients of units. -/
theorem mul_self_eq (hx : x.isFinite = true) :
    x.mul x = ofUnits false (x.units * x.units) unitsPerOne := by
  obtain ⟨hnan, hinf⟩ := class_of_isFinite hx
  simp only [mul, hnan, hinf, Bool.or_self, Bool.false_eq_true, if_false, bne_self_eq_false]

theorem unitsPerOne_pos_nat : 0 < unitsPerOne := unitsPerOne_eq ▸ two_pow_pos _

/-- **Squares** of negligible numbers are zero. -/
theorem isZero_mul_self_iff (hx : x.isFinite = true) :
    (x.mul x).isZero = true ↔ x.Negligible := by
  have hsquare : x.toRat ^ 2 = (x.units * x.units : Nat) / (unitsPerOne * unitsPerOne) := by
    rw [toRat, div_pow, pow_two, pow_two, ← Int.cast_mul, signedUnits_eq_applySign,
      ← applySign_mul_applySign, bne_self_eq_false]
    rfl
  rw [mul_self_eq hx, isZero_ofUnits_iff _ _ unitsPerOne_pos_nat, Negligible, hsquare,
    div_mul_eq_div_div, div_mul_eq_div_div, div_le_div_iff_of_pos_right unitsPerOne_pos,
    div_le_iff₀ unitsPerOne_pos]
  have hcast : 2 * (x.units * x.units) ≤ unitsPerOne ↔
      (2 : ℚ) * (x.units * x.units : Nat) ≤ unitsPerOne := by
    exact_mod_cast Iff.rfl
  rw [hcast]
  constructor <;> intro h <;> linarith

/-- A sum of what is not negative is zero only if both terms are. -/
theorem isZero_add_iff (hx : x.isNaN = false) (hy : y.isNaN = false)
    (hxsign : x.isNegative = false) (hysign : y.isNegative = false) :
    (x.add y).isZero = true ↔ x.isZero = true ∧ y.isZero = true := by
  rw [add, hx, hy, Bool.or_self, if_neg Bool.false_ne_true]
  -- An infinite term makes the sum infinite, and finite ones are added exactly in units.
  cases hxinf : x.isInfinite with
  | true =>
    rw [if_pos rfl, hxsign, hysign, bne_self_eq_false, Bool.and_false, if_neg Bool.false_ne_true]
    simp [isZero_of_isInfinite hxinf]
  | false =>
    rw [if_neg Bool.false_ne_true]
    cases hyinf : y.isInfinite with
    | true =>
      rw [if_pos rfl]
      simp [isZero_of_isInfinite hyinf]
    | false =>
      have hsum : x.signedUnits + y.signedUnits = ((x.units + y.units : Nat) : Int) := by
        rw [signedUnits, signedUnits, hxsign, hysign]
        rfl
      rw [if_neg Bool.false_ne_true, isZero_iff_units (x := x), isZero_iff_units (x := y)]
      simp only [hsum]
      by_cases hzero : ((x.units + y.units : Nat) : Int) = 0
      · rw [if_pos hzero]
        exact iff_of_true (by cases x.isNegative <;> cases y.isNegative <;> decide) (by omega)
      · rw [if_neg hzero, isZero_ofUnits_iff _ _ Nat.one_pos]
        omega

end zero

end Binary64

/-- **The squared modulus** of a complex number is zero if both of its components are
    negligible. -/
theorem Complex.isZero_normSq_iff {z : Complex} (hre : z.re.isFinite = true)
    (him : z.im.isFinite = true) :
    z.normSq.isZero = true ↔ z.re.Negligible ∧ z.im.Negligible := by
  have hsquare : ∀ {x : Binary64}, x.isFinite = true →
      (x.mul x).isNaN = false ∧ (x.mul x).isNegative = false := by
    intro x hx
    rw [Binary64.mul_self_eq hx, Binary64.isNaN_eq_false_iff,
      (Binary64.fields_ofUnits _ _ _).1, (Binary64.fields_ofUnits _ _ _).2]
    exact ⟨Binary64.nearestMagnitude_le _ _, rfl⟩
  rw [normSq, Binary64.isZero_add_iff (hsquare hre).1 (hsquare him).1 (hsquare hre).2
    (hsquare him).2, Binary64.isZero_mul_self_iff hre, Binary64.isZero_mul_self_iff him]

/-! ## Numbers -/

namespace Number

/-- A complex number. -/
def IsComplex : Number → Prop
  | .complex _ => True
  | _ => False

/-- A float. -/
def IsFloat : Number → Prop
  | .float _ => True
  | _ => False

/-- Zero, in both components if it is complex. -/
def IsZero : Number → Prop
  | .int n => n = 0
  | .float x => x.isZero = true
  | .complex z => z.isZero = true

/-- No component is a NaN or infinite. -/
def IsFinite : Number → Prop
  | .int _ => True
  | .float x => x.isFinite = true
  | .complex z => z.re.isFinite = true ∧ z.im.isFinite = true

/-- The type of the objects of a number. -/
def type : Number → TypeDescriptor
  | .int _ => .integer
  | .float _ => .float
  | .complex _ => .complex

/-- A divisor **counts as zero** for a dividend: it is zero, or has no modulus where
    one is needed. -/
def CountsAsZero (b a : Number) : Prop :=
  b.IsZero ∨ (a.IsComplex ∨ b.IsComplex) ∧ b.toComplex.re.Negligible ∧ b.toComplex.im.Negligible

section division
variable {a b : Number} {op : NumberOp}

/-- Only zero becomes a zero. -/
theorem isZero_ofInt_iff {n : Int64} : (Binary64.ofInt n.toInt).isZero = true ↔ n = 0 := by
  rw [Binary64.ofInt_eq_ofQuotient, Binary64.ofQuotient,
    Binary64.isZero_ofUnits_iff _ _ Nat.one_pos]
  constructor
  · intro h
    have hzero : n.toInt.natAbs * Binary64.unitsPerOne = 0 := by omega
    have hn := (Nat.mul_eq_zero.mp hzero).resolve_right Binary64.unitsPerOne_pos_nat.ne'
    exact Int64.toInt_inj.mp (Int.natAbs_eq_zero.mp hn)
  · rintro rfl
    have hzero : (0 : Int64).toInt.natAbs = 0 := rfl
    rw [hzero, Nat.zero_mul]
    exact Nat.zero_le 1

theorem isZero_toFloat_iff (hb : ¬ b.IsComplex) : b.toFloat.isZero = true ↔ b.IsZero := by
  cases b with
  | int n => exact isZero_ofInt_iff
  | float x => exact Iff.rfl
  | complex z => exact absurd trivial hb

/-- The components of a finite number are finite. -/
theorem IsFinite.toComplex (h : b.IsFinite) :
    b.toComplex.re.isFinite = true ∧ b.toComplex.im.isFinite = true := by
  have hzero : (Binary64.zero false).isFinite = true := by decide
  cases b with
  | int n => exact ⟨(Binary64.ofInt_isNearest (natAbs_toInt_le n)).finite, hzero⟩
  | float x => exact ⟨h, hzero⟩
  | complex z => exact h

/-- The components of zero are zero, which is negligible. -/
theorem IsZero.negligible (h : b.IsZero) :
    b.toComplex.re.Negligible ∧ b.toComplex.im.Negligible := by
  have hnegligible : ∀ {x : Binary64}, x.isZero = true → x.Negligible := by
    intro x hx
    rw [Binary64.Negligible, Binary64.toRat_eq_zero_iff.mpr hx]
    have hpos := Binary64.unitsPerOne_pos
    positivity
  have hzero : (Binary64.zero false).isZero = true := by decide
  cases b with
  | int n => exact ⟨hnegligible (isZero_ofInt_iff.mpr h), hnegligible hzero⟩
  | float x => exact ⟨hnegligible h, hnegligible hzero⟩
  | complex z =>
    obtain ⟨hre, him⟩ := Bool.and_eq_true_iff.mp h
    exact ⟨hnegligible hre, hnegligible him⟩

theorem countsAsZero_iff_of_real (ha : ¬ a.IsComplex) (hb : ¬ b.IsComplex) :
    b.CountsAsZero a ↔ b.IsZero := by
  simp [CountsAsZero, ha, hb]

theorem countsAsZero_iff_of_complex (h : a.IsComplex ∨ b.IsComplex) (hb : b.IsFinite) :
    b.CountsAsZero a ↔ b.toComplex.normSq.isZero = true := by
  obtain ⟨hre, him⟩ := hb.toComplex
  rw [Complex.isZero_normSq_iff hre him, CountsAsZero]
  exact ⟨fun hzero => hzero.elim IsZero.negligible And.right,
    fun hnegligible => .inr ⟨h, hnegligible⟩⟩

/-- **Real arithmetic** is float arithmetic, except for sums, differences and products
    of two integers. -/
theorem apply_of_real (ha : ¬ a.IsComplex) (hb : ¬ b.IsComplex)
    (h : op = .div ∨ a.IsFloat ∨ b.IsFloat) :
    a.apply op b = (op.onFloats a.toFloat b.toFloat).map .float := by
  cases a with
  | complex z => exact absurd trivial ha
  | float x =>
    cases b with
    | complex z => exact absurd trivial hb
    | _ => rfl
  | int m =>
    cases b with
    | complex z => exact absurd trivial hb
    | float x => rfl
    | int n =>
      -- Two integers are left, which become floats when they are divided.
      obtain rfl : op = .div := h.resolve_right (by simp [IsFloat])
      rw [apply, NumberOp.onInts, NumberOp.onFloats]
      by_cases hn : n = 0
      · rw [if_pos hn, toFloat, if_pos (isZero_ofInt_iff.mpr hn)]
        rfl
      · rw [if_neg hn, toFloat, if_neg (fun hzero => hn (isZero_ofInt_iff.mp hzero))]
        rfl

/-- **Complex arithmetic** takes over as soon as one number is complex. -/
theorem apply_of_complex (h : a.IsComplex ∨ b.IsComplex) :
    a.apply op b = (op.onComplex a.toComplex b.toComplex).map .complex := by
  cases a with
  | complex z => cases b <;> rfl
  | _ =>
    cases b with
    | complex z => rfl
    | _ => simp [IsComplex] at h

/-- **Quotients** are floats or complex numbers, unless the divisor counts as zero. -/
theorem apply_div (hb : b.IsFinite) :
    (b.CountsAsZero a → a.apply .div b = .error .divisionByZero) ∧
      (¬ b.CountsAsZero a → ∃ c, a.apply .div b = .ok c ∧ (c.IsFloat ∨ c.IsComplex)) := by
  -- Beside a complex number both are complex, and the squared modulus is what counts.
  by_cases hcomplex : a.IsComplex ∨ b.IsComplex
  · rw [apply_of_complex hcomplex, countsAsZero_iff_of_complex hcomplex hb, NumberOp.onComplex,
      Complex.div?]
    by_cases hzero : b.toComplex.normSq.isZero = true
    · exact ⟨fun _ => by rw [if_pos hzero]; rfl, fun hnot => absurd hzero hnot⟩
    · refine ⟨fun h => absurd h hzero, fun _ => ?_⟩
      rw [if_neg hzero]
      exact ⟨_, rfl, .inr trivial⟩
  · rw [not_or] at hcomplex
    obtain ⟨hreal, hreal'⟩ := hcomplex
    rw [apply_of_real hreal hreal' (.inl rfl), countsAsZero_iff_of_real hreal hreal',
      ← isZero_toFloat_iff hreal', NumberOp.onFloats]
    by_cases hzero : b.toFloat.isZero = true
    · exact ⟨fun _ => by rw [if_pos hzero]; rfl, fun hnot => absurd hzero hnot⟩
    · refine ⟨fun h => absurd h hzero, fun _ => ?_⟩
      rw [if_neg hzero]
      exact ⟨_, rfl, .inl trivial⟩

end division

end Number

/-! ## Number objects -/

/-- An object is a number: its type is that of the number, which is its payload. -/
def World.HoldsNumber (w : World) (o : ObjectId) (c : Number) : Prop :=
  w.typeOf o = c.type ∧ w.payload? o = some c.toValue

/-- The types of numbers. -/
def TypeDescriptor.IsNumeric (T : TypeDescriptor) : Prop :=
  T = .integer ∨ T = .float ∨ T = .complex

section objects
variable {host : Host} {w : World} {this : ObjectId} {v : Value} {a b : Number} {op : NumberOp}

/-- What a number becomes is an object that holds it. -/
theorem World.holdsNumber_toObject (w : World) (c : Number) :
    (w.toObject c.toValue).2.HoldsNumber (w.toObject c.toValue).1 c := by
  have h : (w.toObject c.toValue).2.IsConversion w.heap.size (w.toObject c.toValue).1 c.toValue :=
    w.toObject_isConversion c.toValue (Nat.le_refl _)
  cases c <;> exact ⟨(Option.some.inj h.2.1).symm, h.2.2⟩

/-- **An operation** on number objects combines their payloads. -/
theorem Host.dispatch_arithmetic (host : Host) (htype : (w.typeOf this).IsNumeric)
    (ha : Number.ofValue? (w.unwrap (.object this)) = some a)
    (hb : Number.ofValue? (w.unwrap v) = some b) (op : NumberOp) :
    host.dispatch this op.slot [v] w =
      match a.apply op b with
      | .ok c => .done (.object (w.toObject c.toValue).1) (w.toObject c.toValue).2
      | .error f => .raised f w := by
  have hrun : host.dispatch this op.slot [v] w = Behaviour.arithmetic op this [v] w := by
    rcases htype with h | h | h <;> cases op with
    | add => exact host.dispatch_apply (show _ = some Handler.addNumber by rw [h]; rfl)
    | sub => exact host.dispatch_apply (show _ = some Handler.subNumber by rw [h]; rfl)
    | mul => exact host.dispatch_apply (show _ = some Handler.mulNumber by rw [h]; rfl)
    | div => exact host.dispatch_apply (show _ = some Handler.divNumber by rw [h]; rfl)
  have hcombine : Behaviour.combine w op this v = a.apply op b := by
    rw [Behaviour.combine, ha, hb]
  rw [hrun]
  simp only [Behaviour.arithmetic, Arguments.one, Run.lift_ok, Run.bind_apply, Run.read_apply,
    id_eq, hcombine]
  cases a.apply op b <;> rfl

/-- What comes out of it is an object that holds the result. -/
theorem Host.dispatch_of_apply (host : Host) (htype : (w.typeOf this).IsNumeric)
    (ha : Number.ofValue? (w.unwrap (.object this)) = some a)
    (hb : Number.ofValue? (w.unwrap v) = some b) {op : NumberOp} {c : Number}
    (hc : a.apply op b = .ok c) : ∃ o w',
      host.dispatch this op.slot [v] w = .done (.object o) w' ∧ w'.HoldsNumber o c := by
  rw [host.dispatch_arithmetic htype ha hb, hc]
  exact ⟨_, _, rfl, w.holdsNumber_toObject c⟩

end objects

/-- **Division by zero**: an operation on number objects divides by zero exactly if the
    divisor counts as zero; otherwise a division gives an object of a float or of a
    complex number.  Operations on real numbers of which one is a float, and all their
    divisions, give the exact result rounded to nearest, for which integers become the
    nearest floats. -/
theorem division_by_zero_iff (host : Host) {w : World} {this : ObjectId} {v : Value}
    {a b : Number} (htype : (w.typeOf this).IsNumeric)
    (ha : Number.ofValue? (w.unwrap (.object this)) = some a)
    (hb : Number.ofValue? (w.unwrap v) = some b) (hfinite : b.IsFinite) :
    ((∃ f, f.kind = .zeroDivisionError ∧ host.dispatch this .div [v] w = .raised f w) ↔
      b.CountsAsZero a) ∧
    (¬ b.CountsAsZero a → ∃ c o w', host.dispatch this .div [v] w = .done (.object o) w' ∧
      (c.IsFloat ∨ c.IsComplex) ∧ w'.HoldsNumber o c) ∧
    (∀ op : NumberOp, ¬ a.IsComplex → ¬ b.IsComplex → op = .div ∨ a.IsFloat ∨ b.IsFloat →
      (op = .div → ¬ b.IsZero) → ∃ z o w',
        host.dispatch this op.slot [v] w = .done (.object o) w' ∧ w'.HoldsNumber o (.float z) ∧
        (op.exactly a.toFloat.meaning b.toFloat.meaning).Rounds z) ∧
    ∀ n : Int64, Binary64.IsRounded (decide (n.toInt < 0)) n.toInt (Binary64.ofInt n.toInt) := by
  obtain ⟨hzero, hquotient⟩ := Number.apply_div (a := a) hfinite
  have hdispatch := host.dispatch_arithmetic htype ha hb .div
  refine ⟨⟨?_, fun h => ⟨.divisionByZero, rfl, ?_⟩⟩, fun h => ?_,
    fun op hreal hreal' hfloat hdiv => ?_, fun n => Binary64.ofInt_isRounded n.toInt⟩
  · rintro ⟨f, -, hraised⟩
    by_contra hnot
    obtain ⟨c, hc, -⟩ := hquotient hnot
    rw [hc] at hdispatch
    cases hdispatch.symm.trans hraised
  · rw [hzero h] at hdispatch
    exact hdispatch
  · obtain ⟨c, hc, hkind⟩ := hquotient h
    obtain ⟨o, w', hdone, hholds⟩ := host.dispatch_of_apply htype ha hb hc
    exact ⟨c, o, w', hdone, hkind, hholds⟩
  · -- Only a division may be without a result, and its divisor is not zero.
    have hdefined : ∃ z, op.onFloats a.toFloat b.toFloat = .ok z := by
      cases op with
      | div => exact ⟨_, if_neg fun h => hdiv rfl ((Number.isZero_toFloat_iff hreal').mp h)⟩
      | _ => exact ⟨_, rfl⟩
    obtain ⟨z, hz⟩ := hdefined
    have hc : a.apply op b = .ok (.float z) := by
      rw [Number.apply_of_real hreal hreal' hfloat, hz]
      rfl
    obtain ⟨o, w', hdone, hholds⟩ := host.dispatch_of_apply htype ha hb hc
    exact ⟨z, o, w', hdone, hholds, NumberOp.onFloats_rounds hz⟩

/-! ## Divisors of a complex one -/

/-- A complex one, as an object. -/
def complexOne : World := (World.initial.toObject (.complex (.ofReal .one))).2

theorem reachable_complexOne : complexOne.Reachable Stock.host := by
  have hinitial : World.initial.Reachable Stock.host := .initial
  exact hinitial.step (.convert (.complex (.ofReal .one)))
    (by simp [Operation.values]) (.inl rfl)

/-- It can be divided by two. -/
theorem division_by_zero_iff_two : ∃ c o w',
    Stock.host.dispatch ⟨3⟩ .div [.int 2] complexOne = .done (.object o) w' ∧
      w'.HoldsNumber o c := by
  have htype : (complexOne.typeOf ⟨3⟩).IsNumeric := .inr (.inr rfl)
  have hnumber : Number.ofValue? (complexOne.unwrap (.object ⟨3⟩)) =
      some (.complex (.ofReal .one)) := rfl
  obtain ⟨-, hquotient, -⟩ := division_by_zero_iff Stock.host htype hnumber
    (v := .int 2) (b := .int 2) rfl trivial
  have hcomplex : (Number.complex (.ofReal .one)).IsComplex := trivial
  have hfinite : (Number.int 2).IsFinite := trivial
  have hnonzero : ¬ (Number.int 2).CountsAsZero (.complex (.ofReal .one)) := by
    rw [Number.countsAsZero_iff_of_complex (.inl hcomplex) hfinite]
    decide +kernel
  obtain ⟨c, o, w', hdone, -, hholds⟩ := hquotient hnonzero
  exact ⟨c, o, w', hdone, hholds⟩

/-- Two to the minus six hundredth. -/
def tiny : Binary64 := .ofMagnitude false (423 * Nat.pow 2 52)

/-- It cannot be divided by something tiny, which is no zero. -/
theorem tiny_divisor_counts_as_zero :
    complexOne.Reachable Stock.host ∧ (complexOne.typeOf ⟨3⟩).IsNumeric ∧
      Number.ofValue? (complexOne.unwrap (.object ⟨3⟩)) = some (.complex (.ofReal .one)) ∧
      (Number.float tiny).IsFinite ∧ ¬ (Number.float tiny).IsZero ∧
      Stock.host.dispatch ⟨3⟩ .div [.float tiny] complexOne =
        .raised .divisionByZero complexOne := by
  have htype : (complexOne.typeOf ⟨3⟩).IsNumeric := .inr (.inr rfl)
  have hnumber : Number.ofValue? (complexOne.unwrap (.object ⟨3⟩)) =
      some (.complex (.ofReal .one)) := rfl
  have hcomplex : (Number.complex (.ofReal .one)).IsComplex := trivial
  have hfinite : (Number.float tiny).IsFinite := show tiny.isFinite = true by decide
  have hnonzero : ¬ tiny.isZero = true := by decide
  refine ⟨reachable_complexOne, htype, hnumber, hfinite, hnonzero, ?_⟩
  have hcounts : (Number.float tiny).CountsAsZero (.complex (.ofReal .one)) := by
    rw [Number.countsAsZero_iff_of_complex (.inl hcomplex) hfinite]
    decide +kernel
  have hdispatch := Stock.host.dispatch_arithmetic htype hnumber (v := .float tiny) rfl .div
  rw [(Number.apply_div hfinite).1 hcounts] at hdispatch
  exact hdispatch

end DynamicObjects
