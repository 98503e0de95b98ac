import DynamicObjects.Proofs.Comparison.Integers

/-! # Laws of Structural Equality

    Structural equality is an equivalence as far as its comparisons end, except
    that a raw NaN is not equal to itself.

    The argument:
    1. Floats are equal if neither is a NaN and their keys agree, so that equal
       numbers of any kind can be exchanged and chained.
    2. Payloads that match can be exchanged and chained if their elements can.
       So the converse of a bisimulation is a bisimulation, and the values that
       two of them relate in one step or in two are related by a third one.
    3. A value beside itself leads to pairs of equal sides only.  They get
       smaller, or are one object on both sides, where the comparison stops
       without a look at the payload.

    Main results:
    - `World.Bisimilar.symm`, `World.Bisimilar.trans`
    - `Comparison.values_self`: what a value compares as with itself
    - `World.structuralEquality_laws` -/

namespace DynamicObjects

/-! ## Numbers -/

namespace Binary64

theorem equals_iff {x y : Binary64} :
    x.equals y = true ↔
      x.isNaN = false ∧ y.isNaN = false ∧ x.numericKey = y.numericKey := by
  unfold equals compare?
  cases hx : x.isNaN <;> cases hy : y.isNaN <;> simp

theorem equals_symm {x y : Binary64} (h : x.equals y = true) : y.equals x = true := by
  obtain ⟨hx, hy, hkey⟩ := equals_iff.mp h
  exact equals_iff.mpr ⟨hy, hx, hkey.symm⟩

theorem equals_trans {x y z : Binary64} (h : x.equals y = true) (h' : y.equals z = true) :
    x.equals z = true := by
  obtain ⟨hx, -, hkey⟩ := equals_iff.mp h
  obtain ⟨-, hz, hkey'⟩ := equals_iff.mp h'
  exact equals_iff.mpr ⟨hx, hz, hkey.trans hkey'⟩

theorem equals_self (x : Binary64) : x.equals x = !x.isNaN := by
  rw [Bool.eq_iff_iff, equals_iff]
  simp

end Binary64

namespace Complex

/-- One of the components is not a number. -/
def isNaN (z : Complex) : Bool := z.re.isNaN || z.im.isNaN

theorem equals_iff {z u : Complex} :
    z.equals u = true ↔ z.re.equals u.re = true ∧ z.im.equals u.im = true := by
  rw [equals, Bool.and_eq_true]

theorem equals_symm {z u : Complex} (h : z.equals u = true) : u.equals z = true := by
  obtain ⟨hre, him⟩ := equals_iff.mp h
  exact equals_iff.mpr ⟨Binary64.equals_symm hre, Binary64.equals_symm him⟩

theorem equals_trans {z u v : Complex} (h : z.equals u = true) (h' : u.equals v = true) :
    z.equals v = true := by
  obtain ⟨hre, him⟩ := equals_iff.mp h
  obtain ⟨hre', him'⟩ := equals_iff.mp h'
  exact equals_iff.mpr ⟨Binary64.equals_trans hre hre', Binary64.equals_trans him him'⟩

theorem equals_self (z : Complex) : z.equals z = !z.isNaN := by
  rw [equals, Binary64.equals_self, Binary64.equals_self, isNaN, Bool.not_or]

end Complex

/-! ## Payloads -/

section payloads
variable {R S : Value → Value → Prop}

theorem Bindings.Matches.swap {xs ys : Bindings Value} (h : Matches R xs ys) :
    Matches (fun y x => R x y) ys xs := by
  intro name
  have hrel := h name
  generalize get? name xs = a at hrel ⊢
  generalize get? name ys = b at hrel ⊢
  cases hrel with
  | some hab => exact .some hab
  | none => exact .none

theorem Bindings.Matches.comp {xs ys zs : Bindings Value} (h : Matches R xs ys)
    (h' : Matches S ys zs) : Matches (Relation.Comp R S) xs zs := by
  intro name
  have hrel := h name
  have hrel' := h' name
  generalize get? name xs = a at hrel ⊢
  generalize get? name ys = b at hrel hrel'
  generalize get? name zs = c at hrel' ⊢
  cases hrel with
  | some hab =>
    cases hrel' with
    | some hbc => exact .some ⟨_, hab, hbc⟩
  | none =>
    cases hrel' with
    | none => exact .none

theorem forall₂_comp {xs ys zs : List Value} (h : List.Forall₂ R xs ys)
    (h' : List.Forall₂ S ys zs) : List.Forall₂ (Relation.Comp R S) xs zs := by
  induction h generalizing zs with
  | nil =>
    cases h'
    exact .nil
  | cons hxy _ ih =>
    cases h' with
    | cons hyz hrest => exact .cons ⟨_, hxy, hyz⟩ (ih hrest)

theorem PayloadMatch.mono {x y : Value} (hRS : ∀ a b, R a b → S a b) (h : PayloadMatch R x y) :
    PayloadMatch S x y := by
  cases h with
  | number hx hy heq => exact .number hx hy heq
  | null => exact .null
  | text s => exact .text s
  | list hall => exact .list (hall.imp fun a b hab => hRS a b hab)
  | dict hall =>
    refine .dict fun name => ?_
    have hrel := hall name
    revert hrel
    generalize Bindings.get? name _ = a
    generalize Bindings.get? name _ = b
    rintro (hab | _)
    · exact .some (hRS _ _ hab)
    · exact .none
  | function heq => exact .function heq
  | foreign heq => exact .foreign heq
  | object o => exact .object o

theorem PayloadMatch.swap {x y : Value} (h : PayloadMatch R x y) :
    PayloadMatch (fun b a => R a b) y x := by
  cases h with
  | number hx hy heq => exact .number hy hx (Complex.equals_symm heq)
  | null => exact .null
  | text s => exact .text s
  | list hall => exact .list hall.flip
  | dict hall => exact .dict hall.swap
  | function heq => exact .function heq.symm
  | foreign heq => exact .foreign heq.symm
  | object o => exact .object o

/-- What matches a number is a number, whatever is related. -/
theorem PayloadMatch.exists_number {x y : Value} {z : Complex} (hx : x.asComplex? = some z)
    (h : PayloadMatch R x y) : ∃ u, y.asComplex? = some u ∧ z.equals u = true := by
  cases h with
  | number hx' hy heq =>
    obtain rfl := Option.some.inj (hx'.symm.trans hx)
    exact ⟨_, hy, heq⟩
  | _ => simp [Value.asComplex?, Value.asReal?] at hx

theorem PayloadMatch.comp {x y z : Value} (h : PayloadMatch R x y) (h' : PayloadMatch S y z) :
    PayloadMatch (Relation.Comp R S) x z := by
  cases h with
  | number hx hy heq =>
    obtain ⟨u, hz, heq'⟩ := h'.exists_number hy
    exact .number hx hz (Complex.equals_trans heq heq')
  -- In all other cases the kind of the payload decides; a number is none of them.
  | null =>
    cases h' with
    | number hy => cases hy
    | null => exact .null
  | text s =>
    cases h' with
    | number hy => cases hy
    | text => exact .text s
  | list hall =>
    cases h' with
    | number hy => cases hy
    | list hall' => exact .list (forall₂_comp hall hall')
  | dict hall =>
    cases h' with
    | number hy => cases hy
    | dict hall' => exact .dict (hall.comp hall')
  | function heq =>
    cases h' with
    | number hy => cases hy
    | function heq' => exact .function (heq.trans heq')
  | foreign heq =>
    cases h' with
    | number hy => cases hy
    | foreign heq' => exact .foreign (heq.trans heq')
  | object o =>
    cases h' with
    | number hy => cases hy
    | object => exact .object o

end payloads

/-! ## Bisimilar values -/

namespace World

variable {w : World} {x y z : Value}

/-- Bisimilarity is itself a bisimulation, the greatest one. -/
theorem isBisimulation_bisimilar : w.IsBisimulation w.Bisimilar := by
  rintro x y ⟨R, hR, hxy⟩
  exact (hR x y hxy).imp_right (PayloadMatch.mono fun a b hab => ⟨R, hR, hab⟩)

theorem Bisimilar.symm (h : w.Bisimilar x y) : w.Bisimilar y x := by
  refine ⟨fun b a => w.Bisimilar a b, ?_, h⟩
  intro b a hab
  rcases isBisimulation_bisimilar a b hab with ⟨o, rfl, rfl⟩ | hmatch
  · exact .inl ⟨o, rfl, rfl⟩
  · exact .inr hmatch.swap

/-- One object on both sides need not match itself, since it may hold a NaN.  So
    the composition alone is no bisimulation: where one step stops at an object,
    the other one goes on by itself. -/
theorem Bisimilar.trans (h : w.Bisimilar x y) (h' : w.Bisimilar y z) : w.Bisimilar x z := by
  let T := fun a c => w.Bisimilar a c ∨ Relation.Comp w.Bisimilar w.Bisimilar a c
  have honce : ∀ a c, w.Bisimilar a c →
      (∃ o, a = .object o ∧ c = .object o) ∨ PayloadMatch T (w.unwrap a) (w.unwrap c) :=
    fun a c hac =>
      (isBisimulation_bisimilar a c hac).imp_right (PayloadMatch.mono fun _ _ => .inl)
  refine ⟨T, ?_, .inr ⟨y, h, h'⟩⟩
  rintro a c (hac | ⟨b, hab, hbc⟩)
  · exact honce a c hac
  · rcases isBisimulation_bisimilar a b hab with ⟨o, rfl, rfl⟩ | hmatch
    · exact honce _ c hbc
    rcases isBisimulation_bisimilar b c hbc with ⟨o, rfl, rfl⟩ | hmatch'
    · exact honce a _ hab
    · exact .inr ((hmatch.comp hmatch').mono fun _ _ => .inr)

/-- A comparison that says yes makes the values bisimilar, -/
theorem bisimilar_of_structurallyEqual (hw : w.DistinctNames) (hx : x.DistinctNames)
    (hy : y.DistinctNames) (h : w.structurallyEqual x y = some true) : w.Bisimilar x y := by
  obtain ⟨depth, found, hvalues⟩ := structurallyEqual_eq_some h
  exact Comparison.bisimilar_of_values hw hx hy hvalues

/-- and bisimilar values never compare as different. -/
theorem structurallyEqual_ne_false (hw : w.DistinctNames) (hx : x.DistinctNames)
    (hy : y.DistinctNames) (h : w.Bisimilar x y) : w.structurallyEqual x y ≠ some false := by
  intro hfalse
  obtain ⟨depth, found, hvalues⟩ := structurallyEqual_eq_some hfalse
  obtain ⟨R, hR, hxy⟩ := h
  exact Comparison.values_ne_false hw hR hxy hx hy hvalues

end World

/-! ## A value beside itself -/

namespace Value

/-- A float that is not a number, or a complex number with such a component. -/
def isNaN : Value → Bool
  | .float x => x.isNaN
  | .complex z => z.isNaN
  | _ => false

/-- The elements of a list, or the values of a mapping. -/
def parts : Value → List Value
  | .list items => items
  | .dict entries => entries.map Prod.snd
  | _ => []

theorem isElement_of_mem_parts {a v : Value} (h : a ∈ v.parts) : a.IsElement v := by
  cases v with
  | list items => exact .list h
  | dict entries =>
    obtain ⟨⟨name, u⟩, hentry, rfl⟩ := List.mem_map.mp h
    exact .dict hentry
  | _ => cases h

theorem nodes_eq_parts (v : Value) : v.nodes = v :: v.parts.flatMap nodes := by
  cases v with
  | list items => rw [nodes, nodesList_eq_flatMap, parts]
  | dict entries => rw [nodes, nodesEntries_eq_flatMap, parts, List.flatMap_map]
  | _ => rfl

theorem distinctNames_object (o : ObjectId) : (Value.object o).DistinctNames := by
  intro entries h
  simp [nodes] at h

end Value

namespace Comparison

/-- Both sides of each pair of elements are the same. -/
theorem elements?_self {v : Value} (hv : v.DistinctNames) {ps : List (Option (Value × Value))}
    (h : elements? v v = some ps) : ps = v.parts.map fun a => some (a, a) := by
  cases v with
  | list items =>
    simp only [elements?, ↓reduceIte, Option.some.injEq] at h
    rw [← h, List.zip_eq_zipWith, List.zipWith_self, List.map_map]
    rfl
  | dict entries =>
    simp only [elements?, ↓reduceIte, Option.some.injEq] at h
    rw [← h, Value.parts, List.map_map]
    apply List.map_congr_left
    intro entry hentry
    -- A name that is bound once is looked up where it stands.
    rw [Bindings.get?_eq_some_of_mem (names_nodup_of_distinctNames hv) hentry]
    rfl
  | _ => simp [elements?] at h

/-- Promoted to a complex number, a value is a NaN only if it is one itself:
    neither truth values nor integers become one. -/
theorem equals_self_of_asComplex? {v : Value} {z : Complex} (h : v.asComplex? = some z) :
    z.equals z = !v.isNaN := by
  have hzero : (Binary64.zero false).equals (.zero false) = true := by decide
  cases v with
  | bool b =>
    obtain rfl := Option.some.inj h
    cases b <;> decide
  | int n =>
    obtain rfl := Option.some.inj h
    have hself := Binary64.equals_ofInt (natAbs_toInt_le n) (natAbs_toInt_le n)
    rw [Complex.equals, Complex.ofReal, hself, hzero, decide_eq_true rfl]
    rfl
  | float x =>
    obtain rfl := Option.some.inj h
    rw [Complex.equals, Complex.ofReal, Binary64.equals_self, hzero, Bool.and_true, Value.isNaN]
  | complex z =>
    obtain rfl := Option.some.inj h
    rw [Complex.equals_self, Value.isNaN]
  | _ => cases h

theorem parts_eq_nil {v : Value} (h : elements? v v = none) : v.parts = [] := by
  cases v <;> simp_all [elements?, Value.parts]

theorem isNaN_eq_false {v : Value} {ps : List (Option (Value × Value))}
    (h : elements? v v = some ps) : v.isNaN = false := by
  cases v <;> simp_all [elements?, Value.isNaN]

/-- Without pairs of elements, only a NaN differs. -/
theorem verdict_self {v : Value} (h : elements? v v = none) : verdict v v = !v.isNaN := by
  cases hz : v.asComplex? with
  | some z =>
    rw [← equals_self_of_asComplex? hz]
    simp [verdict, payloads, hz]
  | none =>
    cases v <;> simp_all [elements?, Value.asComplex?, Value.asReal?, Value.isNaN, verdict,
      payloads]

/-- Each pair of equal sides says whether there is a NaN in it. -/
theorem sequence_self {compare : Value → Value → PairSet → Comparison} {met : PairSet}
    {vs : List Value}
    (h : ∀ v ∈ vs, compare v v met = some (!v.nodes.any Value.isNaN, met)) :
    sequence compare (vs.map fun v => some (v, v)) met =
      some (!(vs.flatMap Value.nodes).any Value.isNaN, met) := by
  induction vs with
  | nil => rfl
  | cons v rest ih =>
    obtain ⟨hv, hrest⟩ := List.forall_mem_cons.mp h
    rw [List.map_cons, List.flatMap_cons, List.any_append]
    cases hnan : v.nodes.any Value.isNaN with
    | true =>
      rw [hnan] at hv
      exact sequence_cons_of_false hv
    | false =>
      rw [hnan] at hv
      rw [sequence_cons_of_true hv, ih hrest, Bool.false_or]

/-- **A value beside itself** is equal unless there is a raw NaN in it, and no
    pair is met on the way. -/
theorem values_self {w : World} {v : Value} (hv : v.DistinctNames) {depth : Nat}
    (hdepth : v.size ≤ depth) (met : PairSet) :
    values w depth v v met = some (!v.nodes.any Value.isNaN, met) := by
  induction depth generalizing v with
  | zero => exact absurd v.size_pos (by omega)
  | succ depth ih =>
    rw [values_succ]
    match hmeet : meet? v v met with
    | none =>
      obtain ⟨o, -, rfl, -, -⟩ := meet?_eq_none_iff.mp hmeet
      rfl
    | some met₁ =>
      -- An object beside itself is not compared, so that the value is raw.
      have hraw : w.unwrap v = v ∧ met₁ = met := by
        rcases meet?_eq_some hmeet with ⟨o, p, rfl, hp, hne, -⟩ | ⟨hno, rfl⟩
        · exact absurd (Value.object.inj hp) hne
        · cases v with
          | object o => exact absurd ⟨rfl, rfl⟩ (hno o o)
          | _ => exact ⟨rfl, rfl⟩
      obtain ⟨hunwrap, rfl⟩ := hraw
      simp only [hunwrap]
      rw [Value.nodes_eq_parts, List.any_cons]
      cases hps : elements? v v with
      | none =>
        rw [payloads_of_no_elements _ _ hps, verdict_self hps, parts_eq_nil hps]
        simp
      | some ps =>
        rw [payloads_of_elements _ _ hps, elements?_self hv hps, isNaN_eq_false hps,
          Bool.false_or]
        apply sequence_self
        intro a ha
        have helement := Value.isElement_of_mem_parts ha
        have hsize := helement.size_lt
        exact ih (hv.of_mem_nodes helement.mem_nodes) (by omega)

end Comparison

/-! ## The laws -/

namespace World

/-- An answer at any depth is the answer. -/
theorem structurallyEqual_of_values {w : World} {x y : Value} {depth : Nat} {answer : Bool}
    {found : PairSet} (h : Comparison.values w depth x y .empty = some (answer, found)) :
    w.structurallyEqual x y = some answer := by
  cases hequal : w.structurallyEqual x y with
  | none =>
    have hnone := Comparison.none_of_endless (structurallyEqual_eq_none_iff_endless.mp hequal) depth
    rw [hnone] at h
    cases h
  | some other =>
    obtain ⟨depth', found', h'⟩ := structurallyEqual_eq_some hequal
    -- At the greater of the two depths both answers are given.
    have hmax := Comparison.values_mono (Nat.le_max_left depth depth') h
    have hmax' := Comparison.values_mono (Nat.le_max_right depth depth') h'
    rw [hmax] at hmax'
    obtain ⟨rfl, -⟩ := Prod.mk.inj (Option.some.inj hmax')
    rfl

/-- Whoever is asked, equal values are never called different. -/
theorem eq_true_of_bisimilar {w : World} (hw : w.DistinctNames) {x y : Value}
    (hx : x.DistinctNames) (hy : y.DistinctNames) (hxy : w.Bisimilar x y) {answer : Bool}
    (h : w.structurallyEqual x y = some answer) : answer = true := by
  cases answer with
  | true => rfl
  | false => exact absurd h (structurallyEqual_ne_false hw hx hy hxy)

/-- **Laws of structural equality.**  On any heap, whenever the comparisons end:
    it is symmetric and transitive, each object is equal to itself whatever it
    holds, and a value is equal to itself exactly if no raw NaN is inside it,
    objects in it not being opened. -/
theorem structuralEquality_laws {w : World} (hw : w.DistinctNames) :
    (∀ x y : Value, x.DistinctNames → y.DistinctNames → ∀ answer answer' : Bool,
      w.structurallyEqual x y = some answer → w.structurallyEqual y x = some answer' →
        answer = answer') ∧
    (∀ x y z : Value, x.DistinctNames → y.DistinctNames → z.DistinctNames →
      w.structurallyEqual x y = some true → w.structurallyEqual y z = some true →
        ∀ answer : Bool, w.structurallyEqual x z = some answer → answer = true) ∧
    (∀ o : ObjectId, w.structurallyEqual (.object o) (.object o) = some true) ∧
    (∀ v : Value, v.DistinctNames →
      w.structurallyEqual v v = some (!v.nodes.any Value.isNaN)) := by
  have hself : ∀ v : Value, v.DistinctNames →
      w.structurallyEqual v v = some (!v.nodes.any Value.isNaN) :=
    fun v hv => structurallyEqual_of_values (Comparison.values_self hv (Nat.le_refl _) .empty)
  refine ⟨?_, ?_, ?_, hself⟩
  · intro x y hx hy answer answer' h h'
    -- A yes to one of the questions is a yes to both.
    cases answer with
    | true =>
      have hxy := bisimilar_of_structurallyEqual hw hx hy h
      exact (eq_true_of_bisimilar hw hy hx hxy.symm h').symm
    | false =>
      cases answer' with
      | true =>
        have hyx := bisimilar_of_structurallyEqual hw hy hx h'
        exact eq_true_of_bisimilar hw hx hy hyx.symm h
      | false => rfl
  · intro x y z hx hy hz hxy hyz answer h
    have hfirst := bisimilar_of_structurallyEqual hw hx hy hxy
    have hsecond := bisimilar_of_structurallyEqual hw hy hz hyz
    exact eq_true_of_bisimilar hw hx hz (hfirst.trans hsecond) h
  · exact fun o => hself (.object o) (Value.distinctNames_object o)

/-- An array of itself and a NaN, and three arrays of themselves alone. -/
def knots : World :=
  ofArrays [.list [.object ⟨0⟩, .float .nan], .list [.object ⟨1⟩], .list [.object ⟨2⟩],
    .list [.object ⟨3⟩]]

/-- The first array is equal to itself although what it holds, taken raw, is not;
    the others are equal to each other in either order. -/
theorem structuralEquality_laws_knots :
    knots.DistinctNames ∧
      knots.structurallyEqual (.object ⟨0⟩) (.object ⟨0⟩) = some true ∧
      knots.payload? ⟨0⟩ = some (.list [.object ⟨0⟩, .float .nan]) ∧
      knots.structurallyEqual (.list [.object ⟨0⟩, .float .nan])
        (.list [.object ⟨0⟩, .float .nan]) = some false ∧
      knots.structurallyEqual (.object ⟨1⟩) (.object ⟨2⟩) = some true ∧
      (∀ answer, knots.structurallyEqual (.object ⟨2⟩) (.object ⟨1⟩) = some answer →
        true = answer) ∧
      knots.structurallyEqual (.object ⟨2⟩) (.object ⟨3⟩) = some true ∧
      (∀ answer, knots.structurallyEqual (.object ⟨1⟩) (.object ⟨3⟩) = some answer →
        answer = true) := by
  have hw : knots.DistinctNames := by
    intro entries h
    simp [knots, nodes, ofArrays, Object.nodes, Object.setProperty, Object.bare, Bindings.set,
      Value.nodes, Value.nodesList] at h
  have hobject := Value.distinctNames_object
  have hlist : (Value.list [.object ⟨0⟩, .float .nan]).DistinctNames := by
    intro entries h
    simp [Value.nodes, Value.nodesList] at h
  -- Arrays that hold themselves and each other have the same unfolding.
  have hfirst : knots.structurallyEqual (.object ⟨1⟩) (.object ⟨2⟩) = some true := by
    decide +kernel
  have hsecond : knots.structurallyEqual (.object ⟨2⟩) (.object ⟨3⟩) = some true := by
    decide +kernel
  obtain ⟨hsymm, htrans, hrefl, hself⟩ := structuralEquality_laws hw
  refine ⟨hw, hrefl _, rfl, hself _ hlist, hfirst, ?_, hsecond, ?_⟩
  · exact fun answer => hsymm _ _ (hobject _) (hobject _) true answer hfirst
  · exact htrans _ _ _ (hobject _) (hobject _) (hobject _) hfirst hsecond

end World

end DynamicObjects
