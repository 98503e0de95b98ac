import DynamicObjects.Proofs.Heap.Bindings
import DynamicObjects.Proofs.Comparison.Elements
import Mathlib.Data.List.Forall2
import Mathlib.Data.List.Perm.Subperm

/-! # Structural Equality Is Bisimilarity

    Objects may contain each other in cycles, so what it means for two values
    to have the same structure is a greatest fixed point: they are related by
    a *bisimulation*, a relation that only relates the same object to itself
    or values whose payloads match one level deep, with related elements.

    The comparison keeps one set of pairs of objects that it has met, takes
    every pair in it to be equal and never removes one.  That is sound since a
    difference ends the whole comparison: if the answer is yes, each pair in
    the final set has had its payloads compared, up to pairs of that same set
    (`values_justified`).  So the set is itself the core of a bisimulation. -/

namespace DynamicObjects

/-! ## Mappings -/

namespace Bindings

variable {α β : Type}

/-- Two mappings bind the same names, to related values. -/
def Matches (R : α → β → Prop) (xs : Bindings α) (ys : Bindings β) : Prop :=
  ∀ name, Option.Rel R (get? name xs) (get? name ys)

theorem get?_eq_some_of_mem {name : String} {a : α} {xs : Bindings α} (hnd : (names xs).Nodup)
    (h : (name, a) ∈ xs) : get? name xs = some a := by
  induction xs with
  | nil => cases h
  | cons entry rest ih =>
    obtain ⟨key, b⟩ := entry
    have hnotin : key ∉ names rest := (List.nodup_cons.mp hnd).1
    rcases List.mem_cons.mp h with heq | hrest
    · obtain ⟨rfl, rfl⟩ := Prod.mk.inj heq
      simp [get?]
    · have hne : key ≠ name := by
        intro heq
        exact hnotin (heq ▸ List.mem_map_of_mem hrest)
      rw [get?, if_neg hne]
      exact ih (List.nodup_cons.mp hnd).2 hrest

theorem Matches.mem_names_iff {R : α → β → Prop} {xs : Bindings α} {ys : Bindings β}
    (h : Matches R xs ys) {name : String} : name ∈ names xs ↔ name ∈ names ys := by
  have hrel := h name
  rw [← not_iff_not, ← get?_eq_none_iff, ← get?_eq_none_iff]
  cases hx : get? name xs <;> cases hy : get? name ys <;> rw [hx, hy] at hrel <;> cases hrel <;>
    simp

/-- For mappings that bind each name once, it is enough to count the names and
    to look up those of one side. -/
theorem matches_iff {R : α → β → Prop} {xs : Bindings α} {ys : Bindings β}
    (hxs : (names xs).Nodup) (hys : (names ys).Nodup) :
    Matches R xs ys ↔
      xs.length = ys.length ∧ ∀ entry ∈ xs, ∃ b, get? entry.1 ys = some b ∧ R entry.2 b := by
  have hlen : ∀ {γ : Type} (zs : Bindings γ), (names zs).length = zs.length := by
    intro γ zs
    exact List.length_map _
  constructor
  · intro h
    constructor
    · rw [← hlen xs, ← hlen ys]
      exact Nat.le_antisymm (hxs.subperm fun name => h.mem_names_iff.mp).length_le
        (hys.subperm fun name => h.mem_names_iff.mpr).length_le
    · intro entry hentry
      have hrel := h entry.1
      rw [get?_eq_some_of_mem hxs hentry] at hrel
      cases hget : get? entry.1 ys with
      | none =>
        rw [hget] at hrel
        cases hrel
      | some b =>
        rw [hget] at hrel
        cases hrel with
        | some hab => exact ⟨b, rfl, hab⟩
  · rintro ⟨hlength, hall⟩ name
    cases hget : get? name xs with
    | some a =>
      obtain ⟨b, hb, hab⟩ := hall (name, a) (mem_of_get?_eq_some hget)
      rw [hb]
      exact Option.Rel.some hab
    | none =>
      -- A name of the right side alone would be one name too many.
      have hxy : names xs ⊆ names ys := by
        intro key hkey
        obtain ⟨entry, hentry, rfl⟩ := List.mem_map.mp hkey
        obtain ⟨b, hb, -⟩ := hall entry hentry
        by_contra hnot
        rw [get?_eq_none_iff.mpr hnot] at hb
        cases hb
      have hperm : (names xs).Perm (names ys) := by
        apply (hxs.subperm hxy).perm_of_length_le
        rw [hlen, hlen]
        exact Nat.le_of_eq hlength.symm
      have hnone : get? name ys = none := by
        rw [get?_eq_none_iff, ← hperm.mem_iff, ← get?_eq_none_iff]
        exact hget
      rw [hnone]
      exact Option.Rel.none

end Bindings

/-! ## Values whose mappings bind each name once -/

/-- Every mapping inside a value binds each of its names once. -/
def Value.DistinctNames (v : Value) : Prop :=
  ∀ entries, Value.dict entries ∈ v.nodes → (Bindings.names entries).Nodup

/-- Every mapping in a property binds each of its names once. -/
def World.DistinctNames (w : World) : Prop :=
  ∀ entries, Value.dict entries ∈ w.nodes → (Bindings.names entries).Nodup

theorem Value.DistinctNames.of_mem_nodes {v u : Value} (h : v.DistinctNames) (hu : u ∈ v.nodes) :
    u.DistinctNames :=
  fun entries hentries => h entries (Value.nodes_subset_of_mem u hu hentries)

theorem World.DistinctNames.unwrap {w : World} (hw : w.DistinctNames) {v : Value}
    (hv : v.DistinctNames) : (w.unwrap v).DistinctNames := by
  cases v with
  | object o =>
    rw [World.unwrap]
    cases hp : w.payload? o with
    | none => exact hv
    | some u => exact fun entries hentries => hw entries (World.nodes_property_subset hp hentries)
  | _ => exact hv

/-! ## Bisimulations -/

/-- Two payloads match one level deep if they are of one kind and hold the
    same, elements being the same if `R` relates them.  Numbers of all kinds
    are promoted to complex numbers first. -/
inductive PayloadMatch (R : Value → Value → Prop) : Value → Value → Prop where
  | number {x y : Value} {z u : Complex} (hx : x.asComplex? = some z) (hy : y.asComplex? = some u)
      (h : z.equals u = true) : PayloadMatch R x y
  | null : PayloadMatch R .null .null
  | text (s : String) : PayloadMatch R (.text s) (.text s)
  | list {xs ys : List Value} (h : List.Forall₂ R xs ys) : PayloadMatch R (.list xs) (.list ys)
  | dict {xs ys : Bindings Value} (h : Bindings.Matches R xs ys) :
      PayloadMatch R (.dict xs) (.dict ys)
  | function {f g : Function} (h : f.ident = g.ident) : PayloadMatch R (.function f) (.function g)
  | foreign {v u : Foreign} (h : v.ident = u.ident) : PayloadMatch R (.foreign v) (.foreign u)
  | object (o : ObjectId) : PayloadMatch R (.object o) (.object o)

namespace World

/-- Related values are the same object, or their payloads match. -/
def IsBisimulation (w : World) (R : Value → Value → Prop) : Prop :=
  ∀ x y, R x y →
    (∃ o, x = .object o ∧ y = .object o) ∨ PayloadMatch R (w.unwrap x) (w.unwrap y)

/-- Some bisimulation relates the two values. -/
def Bisimilar (w : World) (x y : Value) : Prop := ∃ R, w.IsBisimulation R ∧ R x y

end World

namespace Comparison

section payloads
variable {R : Value → Value → Prop} {x y : Value} {ps : List (Option (Value × Value))}

theorem distinctNames_of_elements (hx : x.DistinctNames) (hy : y.DistinctNames)
    (h : elements? x y = some ps) {a b : Value} (hab : some (a, b) ∈ ps) :
    a.DistinctNames ∧ b.DistinctNames := by
  obtain ⟨ha, hb⟩ := isElement_of_elements h hab
  exact ⟨hx.of_mem_nodes ha.mem_nodes, hy.of_mem_nodes hb.mem_nodes⟩

theorem names_nodup_of_distinctNames {entries : Bindings Value}
    (h : (Value.dict entries).DistinctNames) : (Bindings.names entries).Nodup :=
  h entries (Value.self_mem_nodes _)

/-- Payloads with pairs of elements match if no pair is missing and each one
    is related. -/
theorem payloadMatch_iff_of_elements (hx : x.DistinctNames) (hy : y.DistinctNames)
    (h : elements? x y = some ps) :
    PayloadMatch R x y ↔ ∀ q ∈ ps, ∃ a b, q = some (a, b) ∧ R a b := by
  unfold elements? at h
  split at h
  · next xs ys =>
    -- Lists: the pairs are those of the zip, none of which is missing.
    split at h
    · next hlen =>
      obtain rfl := Option.some.inj h
      constructor
      · intro hm
        cases hm with
        | number hx => cases hx
        | list hall =>
          intro q hq
          obtain ⟨⟨a, b⟩, hmem, rfl⟩ := List.mem_map.mp hq
          exact ⟨a, b, rfl, (List.forall₂_iff_zip.mp hall).2 hmem⟩
      · intro hall
        apply PayloadMatch.list
        apply List.forall₂_iff_zip.mpr
        refine ⟨hlen, ?_⟩
        intro a b hmem
        obtain ⟨a', b', heq, hR⟩ := hall (some (a, b)) (List.mem_map_of_mem hmem)
        obtain ⟨rfl, rfl⟩ := Prod.mk.inj (Option.some.inj heq)
        exact hR
    · cases h
  · next xs ys =>
    -- Mappings: a name that the right side does not bind is a missing pair.
    have hmatches := Bindings.matches_iff (R := R) (names_nodup_of_distinctNames hx)
      (names_nodup_of_distinctNames hy)
    split at h
    · next hlen =>
      obtain rfl := Option.some.inj h
      constructor
      · intro hm
        cases hm with
        | number hx => cases hx
        | dict hall =>
          intro q hq
          obtain ⟨entry, hmem, rfl⟩ := List.mem_map.mp hq
          obtain ⟨b, hb, hR⟩ := (hmatches.mp hall).2 entry hmem
          exact ⟨entry.2, b, by rw [hb]; rfl, hR⟩
      · intro hall
        apply PayloadMatch.dict
        apply hmatches.mpr
        refine ⟨hlen, ?_⟩
        intro entry hmem
        obtain ⟨a, b, heq, hR⟩ := hall _ (List.mem_map_of_mem hmem)
        obtain ⟨b', hget, heq⟩ := Option.map_eq_some_iff.mp heq
        obtain ⟨rfl, rfl⟩ := Prod.mk.inj heq
        exact ⟨_, hget, hR⟩
    · cases h
  · cases h

/-- Other payloads match if the verdict says so, whatever is related. -/
theorem payloadMatch_iff_of_no_elements (hx : x.DistinctNames) (hy : y.DistinctNames)
    (h : elements? x y = none) : PayloadMatch R x y ↔ verdict x y = true := by
  constructor
  · intro hm
    cases hm with
    | number hz hu heq => simp [verdict, payloads, hz, hu, heq]
    | null => rfl
    | text s => simp [verdict, payloads, Value.asComplex?, Value.asReal?]
    -- Lists and mappings that match are of one length, so that there would be pairs.
    | list hall => simp [elements?, hall.length_eq] at h
    | dict hall =>
      have hlen := ((Bindings.matches_iff (names_nodup_of_distinctNames hx)
        (names_nodup_of_distinctNames hy)).mp hall).1
      simp [elements?, hlen] at h
    | function heq => simp [verdict, payloads, Value.asComplex?, Value.asReal?, heq]
    | foreign heq => simp [verdict, payloads, Value.asComplex?, Value.asReal?, heq]
    | object o => simp [verdict, payloads, Value.asComplex?, Value.asReal?]
  · intro hv
    cases hz : x.asComplex? with
    | some z =>
      cases hu : y.asComplex? with
      | some u =>
        apply PayloadMatch.number hz hu
        simpa [verdict, payloads, hz, hu] using hv
      | none =>
        cases x <;> cases y <;> simp_all [verdict, payloads, Value.asComplex?, Value.asReal?]
    | none =>
      -- What is left are two payloads of one kind, or a verdict that is no.
      cases x <;> cases y <;>
        simp_all [verdict, payloads, elements?, Value.asComplex?, Value.asReal?]
      · exact .null
      · exact .text _
      · exact .function hv
      · exact .foreign hv
      · exact .object _

end payloads

/-! ## The set of met pairs -/

instance : HasSubset PairSet := ⟨fun s t => ∀ o p, s.contains o p = true → t.contains o p = true⟩

theorem PairSet.Subset.refl (s : PairSet) : s ⊆ s := fun _ _ h => h

theorem PairSet.Subset.trans {s t u : PairSet} (hst : s ⊆ t) (htu : t ⊆ u) : s ⊆ u :=
  fun o p h => htu o p (hst o p h)

theorem PairSet.subset_insert (s : PairSet) (o p : ObjectId) : s ⊆ s.insert o p := by
  intro o' p' h
  rw [PairSet.contains_insert, h, Bool.or_true]

section met
variable {w : World} {depth : Nat} {x y : Value} {met met' : PairSet}

/-- Nothing is left to compare of two values: they are the same object, or a
    pair that has been met. -/
theorem meet?_eq_none_iff :
    meet? x y met = none ↔
      ∃ o p, x = .object o ∧ y = .object p ∧ (o = p ∨ met.contains o p = true) := by
  cases x <;> cases y <;> simp [meet?, or_iff_not_imp_left]

/-- A pair of values that is noted is a new pair of objects, or no pair of
    objects. -/
theorem meet?_eq_some (h : meet? x y met = some met') :
    (∃ o p, x = .object o ∧ y = .object p ∧ o ≠ p ∧ met.contains o p = false ∧
      met' = met.insert o p) ∨
    ((∀ o p, ¬ (x = .object o ∧ y = .object p)) ∧ met' = met) := by
  unfold meet? at h
  split at h
  · next o p =>
    split at h
    · cases h
    · next hnew =>
      obtain rfl := Option.some.inj h
      rw [not_or, Bool.not_eq_true] at hnew
      exact .inl ⟨o, p, rfl, rfl, hnew.1, hnew.2, rfl⟩
  · next hno =>
    obtain rfl := Option.some.inj h
    exact .inr ⟨fun o p heq => hno o p heq.1 heq.2, rfl⟩

theorem subset_of_meet?_eq_some (h : meet? x y met = some met') : met ⊆ met' := by
  rcases meet?_eq_some h with ⟨o, p, -, -, -, -, rfl⟩ | ⟨-, rfl⟩
  · exact PairSet.subset_insert _ o p
  · exact PairSet.Subset.refl _

/-- A sequence of comparisons keeps what each of them keeps. -/
theorem sequence_keeps {R : PairSet → PairSet → Prop} (hrefl : ∀ met, R met met)
    (htrans : ∀ {met₁ met₂ met₃}, R met₁ met₂ → R met₂ met₃ → R met₁ met₃)
    {compare : Value → Value → PairSet → Comparison} {ps : List (Option (Value × Value))}
    (hcompare : ∀ x y met b met', some (x, y) ∈ ps → compare x y met = some (b, met') →
      R met met') {b : Bool} (h : sequence compare ps met = some (b, met')) : R met met' := by
  induction ps generalizing met with
  | nil =>
    obtain ⟨-, rfl⟩ := Prod.mk.inj (Option.some.inj h)
    exact hrefl met
  | cons q rest ih =>
    match q with
    | none =>
      obtain ⟨-, rfl⟩ := Prod.mk.inj (Option.some.inj h)
      exact hrefl met
    | some (x, y) =>
      -- The sequence goes on only behind a pair that is equal.
      match hxy : compare x y met with
      | some (true, met₁) =>
        rw [sequence_cons_of_true hxy] at h
        have hfirst := hcompare x y met true met₁ List.mem_cons_self hxy
        have hrest := ih (fun x y met b met' hmem =>
          hcompare x y met b met' (List.mem_cons_of_mem _ hmem)) h
        exact htrans hfirst hrest
      | some (false, met₁) =>
        rw [sequence_cons_of_false hxy] at h
        obtain ⟨-, rfl⟩ := Prod.mk.inj (Option.some.inj h)
        exact hcompare x y met false met₁ List.mem_cons_self hxy
      | none =>
        rw [sequence_cons_of_none hxy] at h
        cases h

theorem sequence_subset {compare : Value → Value → PairSet → Comparison}
    (hcompare : ∀ x y met b met', compare x y met = some (b, met') → met ⊆ met')
    {ps : List (Option (Value × Value))} {b : Bool}
    (h : sequence compare ps met = some (b, met')) : met ⊆ met' :=
  sequence_keeps PairSet.Subset.refl PairSet.Subset.trans
    (fun x y met b met' _ => hcompare x y met b met') h

theorem values_subset {b : Bool} (h : values w depth x y met = some (b, met')) : met ⊆ met' := by
  induction depth generalizing x y met b met' with
  | zero => cases h
  | succ depth ih =>
    rw [values_succ] at h
    match hmeet : meet? x y met with
    | none =>
      rw [hmeet] at h
      obtain ⟨-, rfl⟩ := Prod.mk.inj (Option.some.inj h)
      exact PairSet.Subset.refl met
    | some met₁ =>
      rw [hmeet] at h
      -- The pair of this level is noted first, then those of the elements are.
      apply PairSet.Subset.trans (subset_of_meet?_eq_some hmeet)
      cases hps : elements? (w.unwrap x) (w.unwrap y) with
      | none =>
        simp only [payloads_of_no_elements _ _ hps, Option.some.injEq, Prod.mk.injEq] at h
        exact h.2 ▸ PairSet.Subset.refl met₁
      | some ps =>
        simp only [payloads_of_elements _ _ hps] at h
        exact sequence_subset (fun _ _ _ _ _ => ih) h

end met

/-! ## Soundness -/

/-- The comparison of two values has said yes, without meeting a pair outside
    the given set. -/
def Agreed (w : World) (found : PairSet) (x y : Value) : Prop :=
  ∃ depth met met', values w depth x y met = some (true, met') ∧ met' ⊆ found

/-- The comparison of what two values hold has said yes, without meeting a
    pair outside the given set. -/
def Justified (w : World) (found : PairSet) (x y : Value) : Prop :=
  ∃ depth met met',
    payloads (values w depth) (w.unwrap x) (w.unwrap y) met = some (true, met') ∧ met' ⊆ found

section soundness
variable {w : World} {depth : Nat} {x y : Value} {met met' found : PairSet}

theorem Justified.mono {found' : PairSet} (h : Justified w found x y) (hsub : found ⊆ found') :
    Justified w found' x y := by
  obtain ⟨depth, met, met', hyes, hmet'⟩ := h
  exact ⟨depth, met, met', hyes, PairSet.Subset.trans hmet' hsub⟩

/-- If a sequence of comparisons says yes, then so does each of them. -/
theorem agreed_of_sequence {ps : List (Option (Value × Value))}
    (h : sequence (values w depth) ps met = some (true, met')) :
    ∀ q ∈ ps, ∃ a b, q = some (a, b) ∧ Agreed w met' a b := by
  induction ps generalizing met with
  | nil =>
    intro q hq
    cases hq
  | cons q rest ih =>
    obtain ⟨a, b, met₁, rfl, hab, hrest⟩ := sequence_cons_eq_true h
    intro q hq
    rcases List.mem_cons.mp hq with rfl | hq
    · have hsub : met₁ ⊆ met' := sequence_subset (fun _ _ _ _ _ => values_subset) hrest
      exact ⟨a, b, rfl, depth, met, met₁, hab, hsub⟩
    · exact ih hrest q hq

/-- If a sequence of comparisons says yes, then each pair it has met is
    justified, provided that each comparison justifies the pairs it meets. -/
theorem sequence_justified {compare : Value → Value → PairSet → Comparison}
    (hcompare : ∀ x y met b met', compare x y met = some (b, met') → met ⊆ met')
    (hjust : ∀ x y met met', compare x y met = some (true, met') → ∀ o p,
      met'.contains o p = true → met.contains o p = true ∨
        Justified w met' (.object o) (.object p))
    {ps : List (Option (Value × Value))} (h : sequence compare ps met = some (true, met'))
    (o p : ObjectId) (hop : met'.contains o p = true) :
    met.contains o p = true ∨ Justified w met' (.object o) (.object p) := by
  induction ps generalizing met with
  | nil =>
    obtain ⟨-, rfl⟩ := Prod.mk.inj (Option.some.inj h)
    exact .inl hop
  | cons q rest ih =>
    obtain ⟨a, b, met₁, -, hab, hrest⟩ := sequence_cons_eq_true h
    -- The induction justifies the pairs of the rest, up to those of the first one.
    rcases ih hrest with hmet₁ | hj
    · rcases hjust a b met met₁ hab o p hmet₁ with hmet | hj
      · exact .inl hmet
      · exact .inr (hj.mono (sequence_subset hcompare hrest))
    · exact .inr hj

/-- **The invariant of the met pairs**: if a comparison says yes, then every
    pair that it leaves in the set was there before or is justified, up to
    pairs of that same set. -/
theorem values_justified (h : values w depth x y met = some (true, met')) (o p : ObjectId)
    (hop : met'.contains o p = true) :
    met.contains o p = true ∨ Justified w met' (.object o) (.object p) := by
  induction depth generalizing x y met met' o p with
  | zero => cases h
  | succ depth ih =>
    rw [values_succ] at h
    match hmeet : meet? x y met with
    | none =>
      rw [hmeet] at h
      obtain ⟨-, rfl⟩ := Prod.mk.inj (Option.some.inj h)
      exact .inl hop
    | some met₁ =>
      rw [hmeet] at h
      -- The pair noted at this level is justified by the comparison at this level.
      have hthis : met₁.contains o p = true →
          met.contains o p = true ∨ Justified w met' (.object o) (.object p) := by
        intro hmet₁
        rcases meet?_eq_some hmeet with ⟨o', p', rfl, rfl, -, -, rfl⟩ | ⟨-, rfl⟩
        · rw [PairSet.contains_insert, Bool.or_eq_true, decide_eq_true_iff] at hmet₁
          rcases hmet₁ with ⟨rfl, rfl⟩ | hmet
          · exact .inr ⟨depth, _, met', h, PairSet.Subset.refl met'⟩
          · exact .inl hmet
        · exact .inl hmet₁
      cases hps : elements? (w.unwrap x) (w.unwrap y) with
      | none =>
        simp only [payloads_of_no_elements _ _ hps, Option.some.injEq, Prod.mk.injEq] at h
        exact hthis (h.2 ▸ hop)
      | some ps =>
        have hseq := h
        simp only [payloads_of_elements _ _ hps] at hseq
        rcases sequence_justified (fun _ _ _ _ _ => values_subset)
          (fun _ _ _ _ h o p hop => ih h o p hop) hseq o p hop with hmet₁ | hj
        · exact hthis hmet₁
        · exact .inr hj

/-- Justified payloads match, their elements being related as agreed on. -/
theorem payloadMatch_of_justified (hw : w.DistinctNames) (hx : x.DistinctNames)
    (hy : y.DistinctNames) (h : Justified w found x y) :
    PayloadMatch (fun a b => a.DistinctNames ∧ b.DistinctNames ∧ Agreed w found a b)
      (w.unwrap x) (w.unwrap y) := by
  obtain ⟨depth, met, met', hyes, hsub⟩ := h
  have hux := hw.unwrap hx
  have huy := hw.unwrap hy
  cases hps : elements? (w.unwrap x) (w.unwrap y) with
  | none =>
    simp only [payloads_of_no_elements _ _ hps, Option.some.injEq, Prod.mk.injEq] at hyes
    exact (payloadMatch_iff_of_no_elements hux huy hps).mpr hyes.1
  | some ps =>
    rw [payloads_of_elements _ _ hps] at hyes
    apply (payloadMatch_iff_of_elements hux huy hps).mpr
    intro q hq
    obtain ⟨a, b, rfl, depth, met₁, met₂, hab, hsub₂⟩ := agreed_of_sequence hyes q hq
    have hdistinct := distinctNames_of_elements hux huy hps hq
    exact ⟨a, b, rfl, hdistinct.1, hdistinct.2, depth, met₁, met₂, hab,
      PairSet.Subset.trans hsub₂ hsub⟩

/-- A yes that starts without any pair relates the values by a bisimulation. -/
theorem bisimilar_of_values (hw : w.DistinctNames) (hx : x.DistinctNames) (hy : y.DistinctNames)
    (h : values w depth x y .empty = some (true, found)) : w.Bisimilar x y := by
  have hclosed : ∀ o p, found.contains o p = true →
      Justified w found (.object o) (.object p) := by
    intro o p hop
    rcases values_justified h o p hop with hempty | hj
    · rw [PairSet.contains_empty] at hempty
      cases hempty
    · exact hj
  -- The candidate relates what has been agreed on within the final set.
  refine ⟨fun a b => a.DistinctNames ∧ b.DistinctNames ∧ Agreed w found a b, ?_,
    hx, hy, depth, .empty, found, h, PairSet.Subset.refl found⟩
  rintro a b ⟨ha, hb, depth, met, met', hab, hsub⟩
  cases depth with
  | zero => cases hab
  | succ depth =>
    rw [values_succ] at hab
    match hmeet : meet? a b met with
    | none =>
      obtain ⟨o, p, rfl, rfl, rfl | hop⟩ := meet?_eq_none_iff.mp hmeet
      · exact .inl ⟨o, rfl, rfl⟩
      · -- A pair that had been met was compared then, though not here.
        rw [hmeet] at hab
        obtain ⟨-, rfl⟩ := Prod.mk.inj (Option.some.inj hab)
        exact .inr (payloadMatch_of_justified hw ha hb (hclosed o p (hsub o p hop)))
    | some met₁ =>
      rw [hmeet] at hab
      exact .inr (payloadMatch_of_justified hw ha hb ⟨depth, met₁, met', hab, hsub⟩)

end soundness

/-! ## Completeness -/

section completeness
variable {w : World} {R : Value → Value → Prop} {depth : Nat} {x y : Value} {met met' : PairSet}

/-- A sequence of comparisons says no only if a pair is missing or one of them
    says no. -/
theorem sequence_ne_false {compare : Value → Value → PairSet → Comparison}
    {ps : List (Option (Value × Value))}
    (hps : ∀ q ∈ ps, ∃ a b, q = some (a, b) ∧ ∀ met met', compare a b met ≠ some (false, met')) :
    sequence compare ps met ≠ some (false, met') := by
  induction ps generalizing met with
  | nil =>
    intro h
    cases h
  | cons q rest ih =>
    obtain ⟨a, b, rfl, hab⟩ := hps q List.mem_cons_self
    have hrest := fun q hq => hps q (List.mem_cons_of_mem _ hq)
    match h : compare a b met with
    | some (true, met₁) =>
      rw [sequence_cons_of_true h]
      exact ih hrest
    | some (false, met₁) => exact absurd h (hab met met₁)
    | none =>
      rw [sequence_cons_of_none h]
      exact nofun

/-- Values that a bisimulation relates never compare as different, whatever
    pairs have been met. -/
theorem values_ne_false (hw : w.DistinctNames) (hR : w.IsBisimulation R) (hxy : R x y)
    (hx : x.DistinctNames) (hy : y.DistinctNames) :
    values w depth x y met ≠ some (false, met') := by
  induction depth generalizing x y met met' with
  | zero =>
    intro h
    cases h
  | succ depth ih =>
    rw [values_succ]
    match hmeet : meet? x y met with
    | none =>
      intro h
      cases h
    | some met₁ =>
      have hux := hw.unwrap hx
      have huy := hw.unwrap hy
      have hmatch : PayloadMatch R (w.unwrap x) (w.unwrap y) := by
        rcases hR x y hxy with ⟨o, rfl, rfl⟩ | hmatch
        · -- The same object on both sides would not have been noted.
          have hnone : meet? (.object o) (.object o) met = none :=
            meet?_eq_none_iff.mpr ⟨o, o, rfl, rfl, .inl rfl⟩
          rw [hmeet] at hnone
          cases hnone
        · exact hmatch
      cases hps : elements? (w.unwrap x) (w.unwrap y) with
      | none =>
        have hyes := (payloadMatch_iff_of_no_elements hux huy hps).mp hmatch
        simp [payloads_of_no_elements _ _ hps, hyes]
      | some ps =>
        simp only [payloads_of_elements _ _ hps]
        apply sequence_ne_false
        intro q hq
        obtain ⟨a, b, rfl, hab⟩ := (payloadMatch_iff_of_elements hux huy hps).mp hmatch q hq
        have hdistinct := distinctNames_of_elements hux huy hps hq
        exact ⟨a, b, rfl, fun met met' => ih hab hdistinct.1 hdistinct.2⟩

end completeness

end Comparison

/-! ## Structural equality -/

namespace World

/-- An answer of the comparison is the answer at some depth. -/
theorem structurallyEqual_eq_some {w : World} {x y : Value} {answer : Bool}
    (h : w.structurallyEqual x y = some answer) :
    ∃ depth found, Comparison.values w depth x y .empty = some (answer, found) := by
  simp only [structurallyEqual, Option.orElse_eq_orElse, Option.orElse_eq_or,
    Option.or_eq_some_iff] at h
  -- The answer is that of the usual depth, or else that of the greatest one.
  rcases h with h | ⟨-, h⟩
  · obtain ⟨⟨b, found⟩, hvalues, rfl⟩ := Option.map_eq_some_iff.mp h
    exact ⟨_, found, hvalues⟩
  · obtain ⟨⟨b, found⟩, hvalues, rfl⟩ := Option.map_eq_some_iff.mp h
    exact ⟨_, found, hvalues⟩

/-- **Structural equality is bisimilarity**: whenever the comparison of two
    values over a heap ends, on cycles or not, it says yes exactly if some
    bisimulation relates them.  So the one set of met pairs makes no two
    values equal that are not bisimilar, and no two bisimilar ones different. -/
theorem structurallyEqual_iff_bisimilar {w : World} (hw : w.DistinctNames) {x y : Value}
    (hx : x.DistinctNames) (hy : y.DistinctNames) {answer : Bool}
    (h : w.structurallyEqual x y = some answer) :
    answer = true ↔ ∃ R, w.IsBisimulation R ∧ R x y := by
  obtain ⟨depth, found, hvalues⟩ := structurallyEqual_eq_some h
  constructor
  · rintro rfl
    exact Comparison.bisimilar_of_values hw hx hy hvalues
  · rintro ⟨R, hR, hxy⟩
    cases answer with
    | true => rfl
    | false => exact absurd hvalues (Comparison.values_ne_false hw hR hxy hx hy)

/-- A world of arrays that hold the given payloads. -/
def ofArrays (payloads : List Value) : World where
  heap := (payloads.map fun v => some ((Object.bare .array).setProperty payloadName v)).toArray
  declared := []
  nextIdent := 0

/-- A cycle of two mappings and a cycle of one have the same structure. -/
theorem structurallyEqual_iff_bisimilar_cycles :
    let w := ofArrays [.dict [("next", .object ⟨1⟩)], .dict [("next", .object ⟨0⟩)],
      .dict [("next", .object ⟨2⟩)]]
    w.DistinctNames ∧ w.structurallyEqual (.object ⟨0⟩) (.object ⟨2⟩) = some true ∧
      (true = true ↔ ∃ R, w.IsBisimulation R ∧ R (.object ⟨0⟩) (.object ⟨2⟩)) := by
  intro w
  have hw : w.DistinctNames := by
    intro entries h
    simp [w, nodes, ofArrays, Object.nodes, Object.setProperty, Object.bare, Bindings.set,
      Value.nodes, Value.nodesEntries] at h
    rcases h with rfl | rfl | rfl <;> decide
  have hobject : ∀ o, (Value.object o).DistinctNames := by
    intro o entries h
    simp [Value.nodes] at h
  have heq : w.structurallyEqual (.object ⟨0⟩) (.object ⟨2⟩) = some true := by decide +kernel
  exact ⟨hw, heq, structurallyEqual_iff_bisimilar hw (hobject _) (hobject _) heq⟩

end World

end DynamicObjects
