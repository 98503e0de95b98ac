import DynamicObjects.Proofs.Comparison.Equivalence
import DynamicObjects.Proofs.Conversion.RoundTrip

/-! # Equality of Scalars

    Two implementations answer whether null, truth values, numbers and texts are
    equal: the structural comparison of the raw values, and the rules of the types
    that the values have as objects.  They agree on each pair of kinds.

    The argument:
    1. Scalars have no elements, so that one level of the structural comparison
       is all of it (`World.structurallyEqual_of_no_elements`).
    2. The rule of each type gives that verdict, as an object or as a fault
       (`EqualityRule.decidesAs_converted`); a fault counts as inequality.
    3. Two conversions are two objects, unless the value has a singleton.  So the
       shortcut for one object on both sides is taken for no NaN.

    Main results:
    - `Host.equals_of_decidesAs`: what the protocol makes of the answer of a rule
    - `Host.equals_converted_scalars` -/

namespace DynamicObjects

/-- Null, a truth value, a number or a text. -/
inductive Value.IsScalar : Value → Prop where
  | null : IsScalar .null
  | bool (b : Bool) : IsScalar (.bool b)
  | int (n : Int64) : IsScalar (.int n)
  | float (x : Binary64) : IsScalar (.float x)
  | complex (z : Complex) : IsScalar (.complex z)
  | text (s : String) : IsScalar (.text s)

/-! ## The structural comparison -/

theorem Comparison.elements?_of_isScalar {a : Value} (ha : a.IsScalar) (b : Value) :
    elements? a b = none := by
  cases ha <;> rfl

namespace World

/-- Values whose payloads have no pairs of elements compare in one step. -/
theorem structurallyEqual_of_no_elements {w : World} {x y : Value}
    (h : Comparison.elements? (w.unwrap x) (w.unwrap y) = none)
    (hsame : ∀ o, x = .object o → y = .object o →
      Comparison.verdict (w.unwrap x) (w.unwrap y) = true) :
    w.structurallyEqual x y = some (Comparison.verdict (w.unwrap x) (w.unwrap y)) := by
  have hvalues : ∃ found, Comparison.values w 1 x y .empty =
      some (Comparison.verdict (w.unwrap x) (w.unwrap y), found) := by
    rw [Comparison.values_succ]
    cases hmeet : Comparison.meet? x y .empty with
    | some met => exact ⟨met, Comparison.payloads_of_no_elements _ _ h⟩
    | none =>
      obtain ⟨o, p, rfl, rfl, rfl | hmet⟩ := Comparison.meet?_eq_none_iff.mp hmeet
      · exact ⟨.empty, by rw [hsame o rfl rfl]⟩
      · rw [PairSet.contains_empty] at hmet
        cases hmet
  obtain ⟨found, hfound⟩ := hvalues
  exact structurallyEqual_of_values hfound

/-- Raw scalars compare alike in every world. -/
theorem structurallyEqual_scalars (w : World) {a b : Value} (ha : a.IsScalar)
    (hb : b.IsScalar) : w.structurallyEqual a b = some (Comparison.verdict a b) := by
  have hunwrap : ∀ {v : Value}, v.IsScalar → w.unwrap v = v := by
    intro v hv
    cases hv <;> rfl
  have hequal : w.structurallyEqual a b =
      some (Comparison.verdict (w.unwrap a) (w.unwrap b)) := by
    apply structurallyEqual_of_no_elements
    · rw [hunwrap ha]
      exact Comparison.elements?_of_isScalar ha _
    · rintro o rfl
      cases ha
  rwa [hunwrap ha, hunwrap hb] at hequal

/-! ## Conversions of scalars -/

section conversions
variable {w : World} {start : Nat} {o p : ObjectId} {a b : Value}

/-- The conversion of a scalar holds it. -/
theorem IsConversion.unwrap_eq (hintact : w.SingletonsIntact) (ha : a.IsScalar)
    (h : w.IsConversion start o a) : w.unwrap (.object o) = a := by
  have hpayload : w.payload? o = some a := by
    cases ha with
    | null =>
      obtain rfl : o = nullObject := h
      exact hintact nullObject (by decide)
    | bool b =>
      obtain rfl : o = boolObject b := h
      cases b
      · exact hintact falseObject (by decide)
      · exact hintact trueObject (by decide)
    | _ => exact h.2.2
  rw [unwrap, hpayload]
  rfl

theorem IsConversion.index_lt (hsingletons : w.HasSingletons) (ha : a.IsScalar)
    (h : w.IsConversion start o a) : o.index < w.heap.size := by
  cases ha with
  | null =>
    obtain rfl : o = nullObject := h
    exact hsingletons.index_lt (by decide)
  | bool b =>
    obtain rfl : o = boolObject b := h
    exact hsingletons.index_lt (by cases b <;> decide)
  | _ => exact index_lt_of_property?_eq_some h.2.2

/-- One object is the conversion of two scalars, the second of which has been
    converted later, only if they are one that has a singleton. -/
theorem verdict_of_same_conversion (hintact : w.SingletonsIntact) (ha : a.IsScalar)
    (hb : b.IsScalar) (hold : o.index < start) (ho : w.IsConversion 0 o a)
    (hp : w.IsConversion start o b) : Comparison.verdict a b = true := by
  obtain rfl : a = b := (ho.unwrap_eq hintact ha).symm.trans (hp.unwrap_eq hintact hb)
  cases ha with
  | null => rfl
  | bool b => cases b <;> decide
  | _ => exact absurd hp.1 (Nat.not_le_of_lt hold)

end conversions

end World

/-! ## The rules of types -/

/-- The rule that the type of a scalar has for equality. -/
def Value.equalityRule : Value → EqualityRule
  | .null => .isNull
  | .text _ => .characters
  | _ => .structural

theorem World.slots_eq_of_isScalar {w : World} {o : ObjectId} {a : Value} (ha : a.IsScalar)
    (htype : w.typeOf o = w.typeOfKind a) :
    (w.typeOf o).slots .eq = some (.eq a.equalityRule) := by
  rw [htype]
  cases ha <;> rfl

/-- The answer of a rule says whether the values are equal, as an object of truth
    or of falsity; to fail is to say no. -/
def EqualityRule.DecidesAs (rule : EqualityRule) (w : World) (o : ObjectId) (y : Value)
    (answer : Bool) : Prop :=
  rule.decideEqual o [y] w = .done (World.boolValue answer) w ∨
    answer = false ∧ ∃ f, rule.decideEqual o [y] w = .raised f w

/-- **The protocol** answers what the rule of the type decides, as long as the
    objects of truth and falsity hold what they stand for. -/
theorem Host.equals_of_decidesAs (host : Host) {w : World} (hintact : w.SingletonsIntact)
    {o : ObjectId} {y : Value} {rule : EqualityRule} {answer : Bool}
    (hslot : (w.typeOf o).slots .eq = some (.eq rule)) (h : rule.DecidesAs w o y answer) :
    host.equals (.object o) y w = .done answer w := by
  unfold Host.equals
  simp only [Run.bind_apply, Run.read_apply, id_eq]
  rw [hslot]
  rcases h with h | ⟨rfl, f, h⟩
  · simp only [Host.invoke, Run.bind_apply, Run.attempt, h, Run.read_apply, id_eq,
      hintact.truth_boolValue, Run.ofTerminating_some]
  · simp only [Host.invoke, Run.bind_apply, Run.attempt, h, Run.pure_apply]

section rules
variable {w : World} {o p : ObjectId} {a b : Value}

theorem EqualityRule.isNull_decidesAs (hp : w.unwrap (.object p) = b) :
    isNull.DecidesAs w o (.object p) (Comparison.verdict .null b) := by
  left
  simp only [decideEqual, Arguments.one, Run.bind_apply, Run.lift_ok, Run.read_apply, id_eq, hp]
  cases b <;> rfl

theorem EqualityRule.structural_decidesAs (ho : w.unwrap (.object o) = a)
    (hp : w.unwrap (.object p) = b) (ha : a.IsScalar)
    (hsame : o = p → Comparison.verdict a b = true) :
    structural.DecidesAs w o (.object p) (Comparison.verdict a b) := by
  left
  have hequal : w.structurallyEqual (.object o) (.object p) =
      some (Comparison.verdict (w.unwrap (.object o)) (w.unwrap (.object p))) := by
    apply World.structurallyEqual_of_no_elements
    · rw [ho]
      exact Comparison.elements?_of_isScalar ha _
    · intro q hq hq'
      rw [ho, hp]
      exact hsame (Value.object.inj (hq.trans hq'.symm))
  rw [ho, hp] at hequal
  simp only [decideEqual, Arguments.one, Run.bind_apply, Run.lift_ok, Run.read_apply, id_eq,
    hequal, Run.ofTerminating_some, Run.pure_apply]

theorem Rendering.textOf_of_unwrap {s : String} (ho : w.unwrap (.object o) = .text s) :
    textOf w o = s := by
  rw [World.unwrap] at ho
  unfold textOf
  cases hpayload : w.payload? o with
  | none =>
    rw [hpayload] at ho
    cases ho
  | some v =>
    rw [hpayload] at ho
    obtain rfl : v = .text s := ho
    rfl

/-- Only a string can be compared with a string. -/
theorem EqualityRule.characters_decidesAs {s : String} (ho : w.unwrap (.object o) = .text s)
    (hp : w.unwrap (.object p) = b) (hb : b.IsScalar) (htype : w.typeOf p = w.typeOfKind b) :
    characters.DecidesAs w o (.object p) (Comparison.verdict (.text s) b) := by
  have hsame : Behaviour.sameCharacters w o (.object p) =
      if w.isInstanceOf p .string then
        .ok (decide ((Rendering.textOf w o).toList = (Rendering.textOf w p).toList))
      else .error (.comparandNotText (w.kindName (.object p))) := rfl
  simp only [DecidesAs, decideEqual, Arguments.one, Run.bind_apply, Run.lift_ok, Run.read_apply,
    id_eq, hsame, World.isInstanceOf, htype]
  cases hb with
  | text t =>
    left
    rw [Rendering.textOf_of_unwrap ho, Rendering.textOf_of_unwrap hp]
    have hverdict : Comparison.verdict (.text s) (.text t) = decide (s = t) := rfl
    have hchars : s.toList = t.toList ↔ s = t := String.toList_inj
    rw [hverdict, ← decide_eq_decide.mpr hchars]
    rfl
  | _ => exact .inr ⟨rfl, _, rfl⟩

end rules

/-! ## Agreement -/

/-- The rule of the type of a scalar decides what its raw comparison says. -/
theorem EqualityRule.decidesAs_converted {w : World} {start : Nat} {o p : ObjectId} {a b : Value}
    (hsingletons : w.HasSingletons) (hintact : w.SingletonsIntact) (ha : a.IsScalar)
    (hb : b.IsScalar) (hold : o.index < start) (ho : w.IsConversion 0 o a)
    (hp : w.IsConversion start p b) :
    a.equalityRule.DecidesAs w o (.object p) (Comparison.verdict a b) := by
  have hleft := ho.unwrap_eq hintact ha
  have hright := hp.unwrap_eq hintact hb
  have hsame : o = p → Comparison.verdict a b = true := by
    rintro rfl
    exact World.verdict_of_same_conversion hintact ha hb hold ho hp
  cases ha with
  | null => exact isNull_decidesAs hright
  | text s => exact characters_decidesAs hleft hright hb (hp.typeOf_eq hsingletons)
  | bool _ | int _ | float _ | complex _ =>
    exact structural_decidesAs hleft hright (by constructor) hsame

/-- **Scalars** are equal for the protocol, once converted, exactly if they are
    structurally equal as raw values; both always have an answer. -/
theorem Host.equals_converted_scalars (host : Host) {w : World} (hsingletons : w.HasSingletons)
    (hintact : w.SingletonsIntact) {a b : Value} (ha : a.IsScalar) (hb : b.IsScalar) :
    ∃ answer w',
      (do
        let o ← Run.step (fun w => w.toObject a)
        let p ← Run.step (fun w => w.toObject b)
        host.equals (.object o) (.object p)) w = .done answer w' ∧
      w.structurallyEqual a b = some answer := by
  let w₁ := (w.toObject a).2
  let w₂ := (w₁.toObject b).2
  refine ⟨Comparison.verdict a b, w₂, ?_, w.structurallyEqual_scalars ha hb⟩
  have hgrows : w.Grows w₁ := w.toObject_grows a
  have hgrows' : w₁.Grows w₂ := w₁.toObject_grows b
  have hsingletons₁ : w₁.HasSingletons := hsingletons.later (w.toObject_later a)
  have hsingletons₂ : w₂.HasSingletons := hsingletons₁.later (w₁.toObject_later b)
  have hintact₂ : w₂.SingletonsIntact :=
    (hintact.grows hsingletons hgrows).grows hsingletons₁ hgrows'
  -- The first object is there before the second value is converted.
  have hfirst : w₁.IsConversion 0 (w.toObject a).1 a :=
    World.toObject_isConversion a (Nat.zero_le _)
  have hold : (w.toObject a).1.index < w₁.heap.size := hfirst.index_lt hsingletons₁ ha
  have ho : w₂.IsConversion 0 (w.toObject a).1 a :=
    hfirst.mono (Nat.le_refl _) (hgrows'.keepsFrom 0) a
  have hp : w₂.IsConversion w₁.heap.size (w₁.toObject b).1 b :=
    World.toObject_isConversion b (Nat.le_refl _)
  exact host.equals_of_decidesAs hintact₂
    (World.slots_eq_of_isScalar ha (ho.typeOf_eq hsingletons₂))
    (EqualityRule.decidesAs_converted hsingletons₂ hintact₂ ha hb hold ho hp)

/-- Two objects that hold a NaN are as different as the NaN is from itself. -/
theorem Host.equals_converted_nan :
    (World.initial.HasSingletons ∧ World.initial.SingletonsIntact ∧
        (Value.float .nan).IsScalar) ∧
      ∃ w', (do
        let o ← Run.step (fun w => w.toObject (.float .nan))
        let p ← Run.step (fun w => w.toObject (.float .nan))
        Stock.host.equals (.object o) (.object p)) World.initial = .done false w' := by
  have hnan : (Value.float .nan).IsScalar := .float .nan
  have hintact : World.initial.SingletonsIntact := fun _ _ => rfl
  obtain ⟨answer, w', hrun, hequal⟩ :=
    Stock.host.equals_converted_scalars World.hasSingletons_initial hintact hnan hnan
  have hfalse : World.initial.structurallyEqual (.float .nan) (.float .nan) = some false := by
    decide +kernel
  obtain rfl : answer = false := Option.some.inj (hequal.symm.trans hfalse)
  exact ⟨⟨World.hasSingletons_initial, hintact, hnan⟩, w', hrun⟩

end DynamicObjects
