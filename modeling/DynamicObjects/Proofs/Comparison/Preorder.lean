import DynamicObjects.Proofs.Array.Numeric
import DynamicObjects.Proofs.Comparison.Equivalence

/-! # The order of payloads

    Two integers are compared exactly, all other real payloads as floats.  Both
    comparisons are orders, and they agree as far as rounding lets them: the floats
    that two integers become are never the wrong way round, but may be the same.
    Then a float stands between the two that is equal to both.

    The argument:
    1. What is not greater does not become a greater float.
    2. So for three payloads in order the floats are in order as well, and the outer
       two are compared as these floats unless both are integers.
    3. Integers that are the wrong way round then become the same float, which the
       payload between them is.

    Main results:
    - `World.compareStructurally_swap`: the comparison is total and symmetric
    - `World.intransitive_iff_blurred`: where it is not transitive
    - `order_transitive_unless_blurred`: both, and what rounding is -/

namespace DynamicObjects

/-! ## Rounded integers -/

section rounded
variable {m n : Int64} {x : Binary64}

theorem isNaN_ofInt (n : Int64) : (Binary64.ofInt n.toInt).isNaN = false :=
  Binary64.isNaN_of_isFinite (Binary64.ofInt_isNearest (natAbs_toInt_le n)).finite

theorem signedUnits_eq_of_numericKey_eq {y : Binary64} (h : x.numericKey = y.numericKey) :
    x.signedUnits = y.signedUnits := by
  have hcompare := Binary64.compare_numericKey x y
  rw [compare_eq_iff_eq.mpr h] at hcompare
  exact compare_eq_iff_eq.mp hcompare.symm

/-- An integer, in units, becomes the nearest float. -/
theorem ofInt_isNearest_units (n : Int64) :
    Binary64.IsNearest ((n.toInt * Binary64.unitsPerOne : Int) / Binary64.unitsPerOne)
      (.ofInt n.toInt) := by
  rw [← Binary64.intCast_eq_units]
  exact Binary64.ofInt_isNearest (natAbs_toInt_le n)

theorem unitsPerOne_pos_int : (0 : Int) < Binary64.unitsPerOne := by
  exact_mod_cast Binary64.unitsPerOne_pos

/-- Only zero becomes a zero. -/
theorem toInt_eq_zero_of_signedUnits_ofInt (h : (Binary64.ofInt n.toInt).signedUnits = 0) :
    n.toInt = 0 := by
  have hzero := (ofInt_isNearest_units n).eq_zero h
  exact (mul_eq_zero.mp hzero).resolve_right unitsPerOne_pos_int.ne'

/-- Rounding keeps integers in order. -/
theorem numericKey_ofInt_le (h : m.toInt ≤ n.toInt) :
    (Binary64.ofInt m.toInt).numericKey ≤ (Binary64.ofInt n.toInt).numericKey := by
  by_contra hlt
  rw [not_le] at hlt
  have hunits : (Binary64.ofInt n.toInt).signedUnits < (Binary64.ofInt m.toInt).signedUnits := by
    have hcompare := Binary64.compare_numericKey (.ofInt n.toInt) (.ofInt m.toInt)
    rw [compare_lt_iff_lt.mpr hlt] at hcompare
    exact compare_lt_iff_lt.mp hcompare.symm
  have hle := (ofInt_isNearest_units n).le_of_lt (ofInt_isNearest_units m) hunits
  -- The integers would be equal, and so would the floats.
  have heq : m.toInt = n.toInt := le_antisymm h (le_of_mul_le_mul_right hle unitsPerOne_pos_int)
  rw [heq] at hlt
  exact lt_irrefl _ hlt

/-- A float that is equal to two different integers is the one that both become. -/
theorem roundedAlike_of_numericKey_eq (hm : (Binary64.ofInt m.toInt).numericKey = x.numericKey)
    (hn : (Binary64.ofInt n.toInt).numericKey = x.numericKey) (hne : m ≠ n) :
    RoundedAlike m n ∧ Binary64.ofInt m.toInt = x := by
  have hum := signedUnits_eq_of_numericKey_eq hm
  have hun := signedUnits_eq_of_numericKey_eq hn
  have hnonzero : x.signedUnits ≠ 0 := by
    intro hzero
    have hm' := toInt_eq_zero_of_signedUnits_ofInt (hum.trans hzero)
    have hn' := toInt_eq_zero_of_signedUnits_ofInt (hun.trans hzero)
    exact hne (Int64.toInt_inj.mp (hm'.trans hn'.symm))
  have hxm := Binary64.eq_of_signedUnits_eq hum (hum ▸ hnonzero)
  have hxn := Binary64.eq_of_signedUnits_eq hun (hun ▸ hnonzero)
  exact ⟨hxm.trans hxn.symm, hxm⟩

/-- Only zero and one become the floats of truth values. -/
theorem natAbs_le_one_of_ofInt_eq_ofBool {p : Bool}
    (h : Binary64.ofInt m.toInt = Binary64.ofBool p) : m.toInt.natAbs ≤ 1 := by
  by_contra hlarge
  have hends : (Binary64.ofInt (-2)).numericKey < (Binary64.ofBool p).numericKey ∧
      (Binary64.ofBool p).numericKey < (Binary64.ofInt 2).numericKey := by
    cases p <;> decide +kernel
  rcases lt_or_ge m.toInt 0 with hneg | hpos
  · have hle : m.toInt ≤ (-2 : Int64).toInt := by
      rw [show (-2 : Int64).toInt = -2 from by decide]
      omega
    have hkeys := numericKey_ofInt_le hle
    rw [h] at hkeys
    exact absurd hends.1 (not_lt.mpr hkeys)
  · have hle : (2 : Int64).toInt ≤ m.toInt := by
      rw [show (2 : Int64).toInt = 2 from by decide]
      omega
    have hkeys := numericKey_ofInt_le hle
    rw [h] at hkeys
    exact absurd hends.2 (not_lt.mpr hkeys)

/-- So no truth value is what two integers become. -/
theorem eq_of_ofInt_eq_ofBool {p : Bool} (hm : Binary64.ofInt m.toInt = Binary64.ofBool p)
    (hn : Binary64.ofInt n.toInt = Binary64.ofBool p) : m = n := by
  have hsmall := (natAbs_le_one_of_ofInt_eq_ofBool hm).trans (by decide : 1 ≤ Nat.pow 2 53)
  have hsmall' := (natAbs_le_one_of_ofInt_eq_ofBool hn).trans (by decide : 1 ≤ Nat.pow 2 53)
  exact (roundedAlike_iff_eq hsmall hsmall').mp (hm.trans hn.symm)

end rounded

/-! ## Real payloads -/

namespace World

/-- A value is **real**: an integer, a truth value or a float that is no NaN, raw or
    as an object. -/
structure IsReal (w : World) (v : Value) : Prop where
  isRealNumber : (w.unwrap v).IsRealNumber
  isNaN_eq_false : (w.unwrap v).isNaN = false

/-- A value **becomes** a float that is no NaN when it is compared with others. -/
structure Becomes (w : World) (v : Value) (a : Binary64) : Prop where
  asReal?_eq : (w.unwrap v).asReal? = some a
  isNaN_eq_false : a.isNaN = false

/-- The first value is an integer that is greater than the third one, but both become
    the same float, which is the second value. -/
def Blurred (w : World) (x y z : Value) : Prop :=
  ∃ m n : Int64, w.unwrap x = .int m ∧ w.unwrap y = .float (.ofInt m.toInt) ∧
    w.unwrap z = .int n ∧ n.toInt < m.toInt ∧ RoundedAlike m n

section comparison
variable {w : World} {x y z v : Value} {a b : Binary64} {m n : Int64}

theorem some_compare_ne_gt_iff {i j : Int} : some (compare i j) ≠ some Ordering.gt ↔ i ≤ j := by
  rw [Ne, Option.some.injEq, compare_gt_iff_gt, not_lt]

theorem IsReal.exists_becomes (h : w.IsReal v) : ∃ a, w.Becomes v a := by
  have hnan := h.isNaN_eq_false
  rcases h.isRealNumber with ⟨n, hv⟩ | ⟨b, hv⟩ | ⟨a, hv⟩
  · exact ⟨_, by rw [hv]; rfl, isNaN_ofInt n⟩
  · exact ⟨_, by rw [hv]; rfl, by cases b <;> decide⟩
  · rw [hv] at hnan
    exact ⟨a, by rw [hv]; rfl, hnan⟩

theorem Becomes.eq_ofInt (h : w.Becomes v a) (hv : w.unwrap v = .int n) : a = .ofInt n.toInt := by
  have ha := h.asReal?_eq
  rw [hv] at ha
  exact (Option.some.inj ha).symm

theorem compareStructurally_integers (hx : w.unwrap x = .int m) (hy : w.unwrap y = .int n) :
    w.compareStructurally x y = some (compare m.toInt n.toInt) := by
  rw [compareStructurally, hx, hy]

/-- Real values are compared as floats unless both of them are integers. -/
theorem compareStructurally_floats (hx : w.Becomes x a) (hy : w.Becomes y b)
    (hmixed : ¬ ∃ m n, w.unwrap x = .int m ∧ w.unwrap y = .int n) :
    w.compareStructurally x y = some (compare a.numericKey b.numericKey) := by
  have ha := hx.asReal?_eq
  have hb := hy.asReal?_eq
  rw [compareStructurally]
  split
  · next s t hs ht =>
    rw [hs] at ha
    cases ha
  · next m n hm hn => exact absurd ⟨m, n, hm, hn⟩ hmixed
  · simp only [ha, hb]
    exact Binary64.compare?_eq_some_iff.mpr ⟨hx.isNaN_eq_false, hy.isNaN_eq_false, rfl⟩

/-- **The comparison** of real values is total, and the other way round it is
    reversed. -/
theorem compareStructurally_swap (hx : w.IsReal x) (hy : w.IsReal y) :
    ∃ o, w.compareStructurally x y = some o ∧ w.compareStructurally y x = some o.swap := by
  by_cases hintegers : ∃ m n, w.unwrap x = .int m ∧ w.unwrap y = .int n
  · obtain ⟨m, n, hm, hn⟩ := hintegers
    refine ⟨_, compareStructurally_integers hm hn, ?_⟩
    rw [compareStructurally_integers hn hm, Std.OrientedOrd.eq_swap]
  · obtain ⟨a, ha⟩ := hx.exists_becomes
    obtain ⟨b, hb⟩ := hy.exists_becomes
    have hintegers' : ¬ ∃ n m, w.unwrap y = .int n ∧ w.unwrap x = .int m :=
      fun ⟨n, m, hn, hm⟩ => hintegers ⟨m, n, hm, hn⟩
    refine ⟨_, compareStructurally_floats ha hb hintegers, ?_⟩
    rw [compareStructurally_floats hb ha hintegers', Std.OrientedOrd.eq_swap]

/-- What is not greater does not become a greater float. -/
theorem Becomes.numericKey_le (hx : w.Becomes x a) (hy : w.Becomes y b)
    (h : w.compareStructurally x y ≠ some .gt) : a.numericKey ≤ b.numericKey := by
  by_cases hintegers : ∃ m n, w.unwrap x = .int m ∧ w.unwrap y = .int n
  · obtain ⟨m, n, hm, hn⟩ := hintegers
    rw [compareStructurally_integers hm hn, some_compare_ne_gt_iff] at h
    rw [hx.eq_ofInt hm, hy.eq_ofInt hn]
    exact numericKey_ofInt_le h
  · rw [compareStructurally_floats hx hy hintegers, some_compare_ne_gt_iff] at h
    exact h

/-- A float is equal to both integers that become it. -/
theorem Blurred.compareStructurally (h : w.Blurred x y z) :
    w.compareStructurally x y = some .eq ∧ w.compareStructurally y z = some .eq ∧
      w.compareStructurally x z = some .gt := by
  obtain ⟨m, n, hm, hy, hn, hlt, halike⟩ := h
  have hself : (Binary64.ofInt m.toInt).compare? (.ofInt m.toInt) = some .eq :=
    Binary64.compare?_eq_some_iff.mpr ⟨isNaN_ofInt m, isNaN_ofInt m, compare_eq_iff_eq.mpr rfl⟩
  refine ⟨?_, ?_, ?_⟩
  · rw [World.compareStructurally, hm, hy]
    exact hself
  · rw [World.compareStructurally, hy, hn]
    show (Binary64.ofInt m.toInt).compare? (.ofInt n.toInt) = some .eq
    rw [← halike, hself]
  · rw [compareStructurally_integers hm hn, compare_gt_iff_gt.mpr hlt]

/-- What becomes a float between those of two integers, which are the wrong way round,
    is a float that both become, unless it is an integer as well. -/
theorem blurred_of_between (hx : w.unwrap x = .int m) (hy : w.IsReal y) (hb : w.Becomes y b)
    (hz : w.unwrap z = .int n) (hlt : n.toInt < m.toInt) (hinteger : ∀ k, w.unwrap y ≠ .int k)
    (hxy : (Binary64.ofInt m.toInt).numericKey ≤ b.numericKey)
    (hyz : b.numericKey ≤ (Binary64.ofInt n.toInt).numericKey) : w.Blurred x y z := by
  have hzx := numericKey_ofInt_le hlt.le
  have hne : m ≠ n := fun heq => lt_irrefl _ (heq ▸ hlt)
  obtain ⟨halike, rfl⟩ := roundedAlike_of_numericKey_eq (le_antisymm hxy (hyz.trans hzx))
    (le_antisymm (hzx.trans hxy) hyz) hne
  refine ⟨m, n, hx, ?_, hz, hlt, halike⟩
  have hfloat := hb.asReal?_eq
  rcases hy.isRealNumber with ⟨k, hk⟩ | ⟨p, hp⟩ | ⟨f, hf⟩
  · exact absurd hk (hinteger k)
  · rw [hp] at hfloat
    have heq := (Option.some.inj hfloat).symm
    exact absurd (eq_of_ofInt_eq_ofBool heq (halike.symm.trans heq)) hne
  · rw [hf] at hfloat ⊢
    rw [Option.some.inj hfloat]

/-- **Where the order is not transitive**: two integers and a float between them that
    both become. -/
theorem intransitive_iff_blurred (hx : w.IsReal x) (hy : w.IsReal y) (hz : w.IsReal z) :
    (w.compareStructurally x y ≠ some .gt ∧ w.compareStructurally y z ≠ some .gt ∧
      w.compareStructurally x z = some .gt) ↔ w.Blurred x y z := by
  refine ⟨fun ⟨hxy, hyz, hxz⟩ => ?_, fun h => ?_⟩
  · obtain ⟨a, ha⟩ := hx.exists_becomes
    obtain ⟨b, hb⟩ := hy.exists_becomes
    obtain ⟨c, hc⟩ := hz.exists_becomes
    have hab := ha.numericKey_le hb hxy
    have hbc := hb.numericKey_le hc hyz
    by_cases hintegers : ∃ m n, w.unwrap x = .int m ∧ w.unwrap z = .int n
    · obtain ⟨m, n, hm, hn⟩ := hintegers
      rw [compareStructurally_integers hm hn, Option.some.injEq, compare_gt_iff_gt] at hxz
      rw [ha.eq_ofInt hm] at hab
      rw [hc.eq_ofInt hn] at hbc
      refine blurred_of_between hm hy hb hn hxz (fun k hk => ?_) hab hbc
      -- An integer between the two would have been compared exactly with both.
      rw [compareStructurally_integers hm hk, some_compare_ne_gt_iff] at hxy
      rw [compareStructurally_integers hk hn, some_compare_ne_gt_iff] at hyz
      exact absurd (hxy.trans hyz) (not_le.mpr hxz)
    · rw [compareStructurally_floats ha hc hintegers, Option.some.injEq, compare_gt_iff_gt] at hxz
      exact absurd (hab.trans hbc) (not_le.mpr hxz)
  · obtain ⟨hxy, hyz, hxz⟩ := h.compareStructurally
    exact ⟨by rw [hxy]; decide, by rw [hyz]; decide, hxz⟩

/-- Integers that floats distinguish are never blurred. -/
theorem not_blurred_of_isSmall (hx : (w.unwrap x).IsSmall) (hz : (w.unwrap z).IsSmall) :
    ¬ w.Blurred x y z := by
  rintro ⟨m, n, hm, -, hn, hlt, halike⟩
  rw [(roundedAlike_iff_eq (hx m hm) (hz n hn)).mp halike] at hlt
  exact lt_irrefl _ hlt

end comparison

end World

/-- **The order of numbers**: an integer becomes the nearest float, of two that are as
    near the one with an even significand.  Real values always compare, and the other
    way round they compare the other way round.  The order is transitive, unless the
    outer two values are integers which are rounded to the float between them; in
    particular if they lie between minus and plus `2 ^ 53`. -/
theorem order_transitive_unless_blurred (w : World) :
    (∀ n : Int64, Binary64.IsNearest n.toInt (Binary64.ofInt n.toInt)) ∧
    (∀ x y, w.IsReal x → w.IsReal y →
      ∃ o, w.compareStructurally x y = some o ∧ w.compareStructurally y x = some o.swap) ∧
    (∀ x y z, w.IsReal x → w.IsReal y → w.IsReal z →
      ((w.compareStructurally x y ≠ some .gt ∧ w.compareStructurally y z ≠ some .gt ∧
        w.compareStructurally x z = some .gt) ↔ w.Blurred x y z)) ∧
    (∀ x y z, (w.unwrap x).IsSmall → (w.unwrap z).IsSmall → ¬ w.Blurred x y z) :=
  ⟨fun n => Binary64.ofInt_isNearest (natAbs_toInt_le n),
    fun _ _ => World.compareStructurally_swap,
    fun _ _ _ => World.intransitive_iff_blurred,
    fun _ _ _ => World.not_blurred_of_isSmall⟩

/-! ## The first integers that are blurred -/

/-- The float `2 ^ 53`. -/
def largeFloat : Binary64 := .ofInt 9007199254740992

/-- The singleton for true, the float and an integer that becomes it are in order. -/
theorem order_transitive_unless_blurred_singleton :
    World.initial.IsReal (.object World.trueObject) ∧ World.initial.IsReal (.float largeFloat) ∧
      World.initial.IsReal (.int 9007199254740993) ∧
      World.initial.compareStructurally (.object World.trueObject) (.int 9007199254740993) ≠
        some .gt := by
  have hx : World.initial.IsReal (.object World.trueObject) := ⟨.inr (.inl ⟨true, rfl⟩), rfl⟩
  have hy : World.initial.IsReal (.float largeFloat) :=
    ⟨.inr (.inr ⟨_, rfl⟩), by decide +kernel⟩
  have hz : World.initial.IsReal (.int 9007199254740993) := ⟨.inl ⟨_, rfl⟩, rfl⟩
  refine ⟨hx, hy, hz, fun hgreater => ?_⟩
  have hxy : World.initial.compareStructurally (.object World.trueObject) (.float largeFloat) =
      some .lt := by
    show (Binary64.ofBool true).compare? largeFloat = some .lt
    decide +kernel
  have hyz : World.initial.compareStructurally (.float largeFloat) (.int 9007199254740993) =
      some .eq := by
    show largeFloat.compare? (.ofInt (9007199254740993 : Int64).toInt) = some .eq
    decide +kernel
  obtain ⟨-, -, htransitive, -⟩ := order_transitive_unless_blurred World.initial
  -- Only an integer may come out of order, and the first of these values is none.
  obtain ⟨m, -, hm, -⟩ := (htransitive _ _ _ hx hy hz).mp
    ⟨by rw [hxy]; decide, by rw [hyz]; decide, hgreater⟩
  cases hm

/-- The float is equal to both integers, one of which is greater than the other. -/
theorem large_integers_intransitive :
    World.initial.IsReal (.int 9007199254740993) ∧ World.initial.IsReal (.float largeFloat) ∧
      World.initial.IsReal (.int 9007199254740992) ∧
      World.initial.compareStructurally (.int 9007199254740993) (.float largeFloat) = some .eq ∧
      World.initial.compareStructurally (.float largeFloat) (.int 9007199254740992) = some .eq ∧
      World.initial.compareStructurally (.int 9007199254740993) (.int 9007199254740992) =
        some .gt := by
  have hblurred : World.initial.Blurred (.int 9007199254740993) (.float largeFloat)
      (.int 9007199254740992) := by
    have halike : RoundedAlike 9007199254740993 9007199254740992 := by decide +kernel
    refine ⟨9007199254740993, 9007199254740992, rfl, ?_, rfl, by decide, halike⟩
    exact congrArg Value.float halike.symm
  refine ⟨⟨.inl ⟨_, rfl⟩, rfl⟩, ⟨.inr (.inr ⟨_, rfl⟩), by decide +kernel⟩, ⟨.inl ⟨_, rfl⟩, rfl⟩, ?_⟩
  exact hblurred.compareStructurally

end DynamicObjects
