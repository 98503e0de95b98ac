import DynamicObjects.Behaviour.Array
import DynamicObjects.Host.Stock
import DynamicObjects.Proofs.Comparison.Bisimulation
import Mathlib.Data.Finset.Prod
import Mathlib.Data.Finset.Card
import Mathlib.Logic.Relation
import Mathlib.Combinatorics.Pigeonhole

/-! # When a Comparison Ends

    A comparison keeps the pairs of objects that it has met, but no pair of
    which only one side is an object, or none.  It runs for ever exactly if it
    comes back to such a pair from inside that pair
    (`structurallyEqual_eq_none_iff_endless`).

    * `Point`: two values that are being compared, and the pairs met so far.
    * `Descends`: the comparison of one point goes on to another one inside it.
    * A run that exhausts its depth has gone down a path of that many points
      (`exists_path_of_none`).  The pairs on the path are pairs of nodes, and
      the set of met pairs can only change so often, so that a path as long
      as `World.comparisonDepth` passes through a point twice.
    * A point that is reached from itself is never done (`none_of_loop`). -/

namespace DynamicObjects

namespace Comparison

/-! ## Depth -/

section depth
variable {w : World} {x y : Value} {met met' : PairSet}

theorem sequence_mono {compare compare' : Value → Value → PairSet → Comparison}
    (h : ∀ x y met answer, compare x y met = some answer → compare' x y met = some answer)
    {ps : List (Option (Value × Value))} {answer : Bool × PairSet}
    (hs : sequence compare ps met = some answer) : sequence compare' ps met = some answer := by
  induction ps generalizing met with
  | nil => exact hs
  | cons q rest ih =>
    match q with
    | none => exact hs
    | some (a, b) =>
      -- Each answer that the first comparison gives is one of the second, in the same
      -- place.
      match hab : compare a b met with
      | some (true, met₁) =>
        rw [sequence_cons_of_true hab] at hs
        rw [sequence_cons_of_true (h a b met _ hab)]
        exact ih hs
      | some (false, met₁) =>
        rw [sequence_cons_of_false hab] at hs
        rw [sequence_cons_of_false (h a b met _ hab)]
        exact hs
      | none =>
        rw [sequence_cons_of_none hab] at hs
        cases hs

/-- An answer stays the same at greater depths. -/
theorem values_mono {depth depth' : Nat} (hle : depth ≤ depth') {answer : Bool × PairSet}
    (h : values w depth x y met = some answer) : values w depth' x y met = some answer := by
  induction depth generalizing x y met answer depth' with
  | zero => cases h
  | succ depth ih =>
    obtain ⟨depth', rfl⟩ : ∃ d, depth' = d + 1 := ⟨depth' - 1, by omega⟩
    rw [values_succ] at h ⊢
    match hmeet : meet? x y met with
    | none =>
      rw [hmeet] at h
      exact h
    | some met₁ =>
      rw [hmeet] at h
      -- What is noted at this level is the same at any depth; only the elements go deeper.
      cases hps : elements? (w.unwrap x) (w.unwrap y) with
      | none =>
        simp only [payloads_of_no_elements _ _ hps] at h ⊢
        exact h
      | some ps =>
        simp only [payloads_of_elements _ _ hps] at h ⊢
        exact sequence_mono (fun _ _ _ _ => ih (Nat.le_of_succ_le_succ hle)) h

theorem sequence_append (compare : Value → Value → PairSet → Comparison)
    (front rest : List (Option (Value × Value))) (met : PairSet) :
    sequence compare (front ++ rest) met =
      match sequence compare front met with
      | some (true, met) => sequence compare rest met
      | answer => answer := by
  induction front generalizing met with
  | nil => rfl
  | cons q front ih =>
    match q with
    | none => rfl
    | some (a, b) =>
      rw [List.cons_append]
      match hab : compare a b met with
      | some (true, met₁) => rw [sequence_cons_of_true hab, sequence_cons_of_true hab, ih]
      | some (false, met₁) => rw [sequence_cons_of_false hab, sequence_cons_of_false hab]
      | none => rw [sequence_cons_of_none hab, sequence_cons_of_none hab]

end depth

/-! ## Points of a comparison -/

/-- Two values that are being compared, and the pairs of objects met so far. -/
@[ext] structure Point where
  left : Value
  right : Value
  met : PairSet

namespace Point

/-- The comparison of a point to a limited depth. -/
def run (w : World) (depth : Nat) (p : Point) : Comparison := values w depth p.left p.right p.met

/-- At most one side is an object, so that the pair is not kept. -/
def IsMixed (p : Point) : Prop := ∀ o o', ¬ (p.left = .object o ∧ p.right = .object o')

end Point

/-- The comparison of one point goes on to another one: a pair of elements,
    after all pairs in front of it have compared as equal. -/
def Descends (w : World) (p q : Point) : Prop :=
  ∃ met front rest depth,
    meet? p.left p.right p.met = some met ∧
    elements? (w.unwrap p.left) (w.unwrap p.right) =
      some (front ++ some (q.left, q.right) :: rest) ∧
    sequence (values w depth) front met = some (true, q.met)

section points
variable {w : World} {p q : Point} {depth : Nat}

/-- A sequence without an answer has a first pair without an answer. -/
theorem exists_of_sequence_eq_none {compare : Value → Value → PairSet → Comparison}
    {ps : List (Option (Value × Value))} {met : PairSet} (h : sequence compare ps met = none) :
    ∃ front a b rest met', ps = front ++ some (a, b) :: rest ∧
      sequence compare front met = some (true, met') ∧ compare a b met' = none := by
  induction ps generalizing met with
  | nil => cases h
  | cons q rest ih =>
    match q with
    | none => cases h
    | some (a, b) =>
      match hab : compare a b met with
      | some (true, met₁) =>
        rw [sequence_cons_of_true hab] at h
        -- An equal pair is passed, and becomes part of the front.
        obtain ⟨front, a', b', rest', met', rfl, hfront, hnone⟩ := ih h
        refine ⟨some (a, b) :: front, a', b', rest', met', rfl, ?_, hnone⟩
        rw [sequence_cons_of_true hab]
        exact hfront
      | some (false, met₁) =>
        rw [sequence_cons_of_false hab] at h
        cases h
      | none => exact ⟨[], a, b, rest, met, rfl, rfl, hab⟩

/-- A point without an answer has a point without an answer inside it. -/
theorem exists_descends_of_none (h : p.run w (depth + 1) = none) :
    ∃ q, Descends w p q ∧ q.run w depth = none := by
  rw [Point.run, values_succ] at h
  match hmeet : meet? p.left p.right p.met with
  | none =>
    rw [hmeet] at h
    cases h
  | some met =>
    rw [hmeet] at h
    cases hps : elements? (w.unwrap p.left) (w.unwrap p.right) with
    | none =>
      simp only [payloads_of_no_elements _ _ hps] at h
      cases h
    | some ps =>
      simp only [payloads_of_elements _ _ hps] at h
      obtain ⟨front, a, b, rest, met', rfl, hfront, hnone⟩ := exists_of_sequence_eq_none h
      exact ⟨⟨a, b, met'⟩, ⟨met, front, rest, depth, hmeet, hps, hfront⟩, hnone⟩

/-- A point has no answer one level above a point inside it that has none. -/
theorem none_of_descends (hpq : Descends w p q) (h : q.run w depth = none) :
    p.run w (depth + 1) = none := by
  obtain ⟨met, front, rest, depth', hmeet, hps, hfront⟩ := hpq
  rw [Point.run, values_succ, hmeet]
  simp only [payloads_of_elements _ _ hps, sequence_append]
  cases hseq : sequence (values w depth) front met with
  | none => rfl
  | some answer =>
    -- At this depth or not, the pairs in front have only one answer.
    have hdepth := sequence_mono (fun _ _ _ _ => values_mono (Nat.le_max_left depth depth')) hseq
    have hdepth' :=
      sequence_mono (fun _ _ _ _ => values_mono (Nat.le_max_right depth depth')) hfront
    rw [hdepth] at hdepth'
    obtain rfl := Option.some.inj hdepth'
    exact sequence_cons_of_none h

theorem none_of_le {depth' : Nat} (hle : depth ≤ depth') (h : p.run w depth' = none) :
    p.run w depth = none := by
  cases hrun : p.run w depth with
  | none => rfl
  | some answer =>
    rw [Point.run, values_mono hle hrun] at h
    cases h

/-- Without an answer, the comparison goes down a path as long as its depth. -/
theorem exists_path_of_none (h : p.run w depth = none) :
    ∃ path : Nat → Point, path 0 = p ∧ ∀ i < depth, Descends w (path i) (path (i + 1)) := by
  induction depth generalizing p with
  | zero => exact ⟨fun _ => p, rfl, fun i hi => absurd hi (Nat.not_lt_zero i)⟩
  | succ depth ih =>
    -- The path of the point inside, with this one in front.
    obtain ⟨q, hpq, hq⟩ := exists_descends_of_none h
    obtain ⟨path, rfl, hpath⟩ := ih hq
    refine ⟨fun i => match i with | 0 => p | i + 1 => path i, rfl, ?_⟩
    intro i hi
    cases i with
    | zero => exact hpq
    | succ i => exact hpath i (Nat.lt_of_succ_lt_succ hi)

/-! ## Loops -/

theorem none_of_reach (hpq : Relation.ReflTransGen (Descends w) p q)
    (h : ∀ depth, q.run w depth = none) (depth : Nat) : p.run w depth = none := by
  induction hpq using Relation.ReflTransGen.head_induction_on generalizing depth with
  | refl => exact h depth
  | head hstep _ ih => exact none_of_le (Nat.le_succ depth) (none_of_descends hstep (ih depth))

/-- A point that is reached from inside itself has no answer at any depth. -/
theorem none_of_loop (h : Relation.TransGen (Descends w) p p) (depth : Nat) :
    p.run w depth = none := by
  have hstep : ∀ {q r : Point} {depth}, Relation.TransGen (Descends w) q r →
      r.run w depth = none → q.run w (depth + 1) = none := by
    intro q r depth hqr hr
    induction hqr using Relation.TransGen.head_induction_on with
    | single hqr => exact none_of_descends hqr hr
    | head hqr _ ih => exact none_of_le (Nat.le_succ _) (none_of_descends hqr ih)
  -- Once around the loop costs a level, so no number of levels is enough.
  induction depth with
  | zero => rfl
  | succ depth ih => exact hstep h ih

theorem subset_of_descends (h : Descends w p q) : p.met ⊆ q.met := by
  obtain ⟨met, front, rest, depth, hmeet, -, hfront⟩ := h
  apply PairSet.Subset.trans (subset_of_meet?_eq_some hmeet)
  exact sequence_subset (fun _ _ _ _ _ => values_subset) hfront

/-- A pair of objects is kept, so that it cannot be reached from inside itself. -/
theorem isMixed_of_loop (h : Relation.TransGen (Descends w) p p) : p.IsMixed := by
  rintro o o' ⟨hleft, hright⟩
  obtain ⟨q, hpq, hqp⟩ := Relation.TransGen.head'_iff.mp h
  -- Around the loop the set can only have grown, so it has not changed at all.
  have hback : q.met ⊆ p.met := by
    clear h hpq hleft hright
    induction hqp with
    | refl => exact PairSet.Subset.refl _
    | tail _ hstep ih => exact PairSet.Subset.trans ih (subset_of_descends hstep)
  obtain ⟨met, front, rest, depth, hmeet, -, hfront⟩ := hpq
  have hq : met ⊆ q.met := sequence_subset (fun _ _ _ _ _ => values_subset) hfront
  rcases meet?_eq_some hmeet with ⟨o₁, o₂, hl, hr, -, hnew, rfl⟩ | ⟨hmixed, -⟩
  · -- But the pair itself was new to the set, and is in it from here on.
    have hin : (p.met.insert o₁ o₂).contains o₁ o₂ = true := by
      rw [PairSet.contains_insert]
      simp
    have hold := hback o₁ o₂ (hq o₁ o₂ hin)
    rw [hnew] at hold
    cases hold
  · exact hmixed o o' ⟨hleft, hright⟩

end points

/-! ## Counting

    `all` is a list of values that holds the nodes of the world and of both
    sides.  Every pair on a path is a pair of its members, and every pair of
    objects that is met is a pair of its objects. -/

/-- The objects among some values. -/
def objectsOf (all : List Value) : Finset ObjectId :=
  (all.filterMap fun v =>
    match v with
    | .object o => some o
    | _ => none).toFinset

theorem mem_objectsOf {all : List Value} {o : ObjectId} (h : Value.object o ∈ all) :
    o ∈ objectsOf all :=
  List.mem_toFinset.mpr (List.mem_filterMap.mpr ⟨.object o, h, rfl⟩)

theorem card_objectsOf_le (all : List Value) : (objectsOf all).card ≤ all.length :=
  Nat.le_trans (List.toFinset_card_le _) (List.length_filterMap_le _ _)

/-- How many pairs of objects among some values have been met. -/
def metCount (all : List Value) (met : PairSet) : Nat :=
  ((objectsOf all ×ˢ objectsOf all).filter (fun op => met.contains op.1 op.2 = true)).card

theorem metCount_le (all : List Value) (met : PairSet) :
    metCount all met ≤ all.length * all.length :=
  calc
    metCount all met ≤ (objectsOf all ×ˢ objectsOf all).card := Finset.card_filter_le _ _
    _ = (objectsOf all).card * (objectsOf all).card := Finset.card_product _ _
    _ ≤ all.length * all.length :=
      Nat.mul_le_mul (card_objectsOf_le all) (card_objectsOf_le all)

/-- Nothing has been added to the set of met pairs, or it has more pairs. -/
def Grown (all : List Value) (met met' : PairSet) : Prop :=
  met' = met ∨ metCount all met < metCount all met'

theorem Grown.trans {all : List Value} {met met₁ met₂ : PairSet} (h₁ : Grown all met met₁)
    (h₂ : Grown all met₁ met₂) : Grown all met met₂ := by
  rcases h₁ with rfl | h₁
  · exact h₂
  · rcases h₂ with rfl | h₂
    · exact .inr h₁
    · exact .inr (Nat.lt_trans h₁ h₂)

theorem grown_insert {all : List Value} {met : PairSet} {o p : ObjectId}
    (ho : Value.object o ∈ all) (hp : Value.object p ∈ all) (hnew : met.contains o p = false) :
    Grown all met (met.insert o p) := by
  right
  apply Finset.card_lt_card
  rw [Finset.ssubset_iff_of_subset]
  · refine ⟨(o, p), ?_, ?_⟩
    · rw [Finset.mem_filter, Finset.mem_product, PairSet.contains_insert]
      exact ⟨⟨mem_objectsOf ho, mem_objectsOf hp⟩, by simp⟩
    · rw [Finset.mem_filter, hnew]
      simp
  · intro op hop
    rw [Finset.mem_filter] at hop ⊢
    exact ⟨hop.1, PairSet.subset_insert met o p op.1 op.2 hop.2⟩

theorem grown_of_meet?_eq_some {all : List Value} {x y : Value} {met met' : PairSet}
    (hx : x ∈ all) (hy : y ∈ all) (h : meet? x y met = some met') : Grown all met met' := by
  rcases meet?_eq_some h with ⟨o, p, rfl, rfl, -, hnew, rfl⟩ | ⟨-, rfl⟩
  · exact grown_insert hx hy hnew
  · exact .inl rfl

theorem grown_of_sequence {all : List Value} {compare : Value → Value → PairSet → Comparison}
    (hcompare : ∀ x y met b met', x ∈ all → y ∈ all → compare x y met = some (b, met') →
      Grown all met met')
    {ps : List (Option (Value × Value))} (hps : ∀ a b, some (a, b) ∈ ps → a ∈ all ∧ b ∈ all)
    {met met' : PairSet} {b : Bool} (h : sequence compare ps met = some (b, met')) :
    Grown all met met' := by
  refine sequence_keeps (fun _ => .inl rfl) Grown.trans (fun x y met b met' hxy => ?_) h
  obtain ⟨hx, hy⟩ := hps x y hxy
  exact hcompare x y met b met' hx hy

/-- A list of values from which elements and payloads do not lead away. -/
structure Covers (w : World) (all : List Value) : Prop where
  world : w.nodes ⊆ all
  nodes : ∀ v ∈ all, v.nodes ⊆ all

theorem Covers.elements {w : World} {all : List Value} (hall : Covers w all) {x y : Value}
    (hx : x ∈ all) (hy : y ∈ all) {ps : List (Option (Value × Value))}
    (hps : elements? x y = some ps) {a b : Value} (hab : some (a, b) ∈ ps) :
    a ∈ all ∧ b ∈ all := by
  obtain ⟨ha, hb⟩ := isElement_of_elements hps hab
  exact ⟨hall.nodes x hx ha.mem_nodes, hall.nodes y hy hb.mem_nodes⟩

section bound
variable {w : World} {all : List Value} (hall : Covers w all) {x y : Value} {p q : Point}
include hall

theorem grown_of_values {depth : Nat} {met met' : PairSet} {b : Bool} (hx : x ∈ all)
    (hy : y ∈ all) (h : values w depth x y met = some (b, met')) : Grown all met met' := by
  induction depth generalizing x y met b met' with
  | zero => cases h
  | succ depth ih =>
    rw [values_succ] at h
    match hmeet : meet? x y met with
    | none =>
      rw [hmeet] at h
      obtain ⟨-, rfl⟩ := Prod.mk.inj (Option.some.inj h)
      exact .inl rfl
    | some met₁ =>
      rw [hmeet] at h
      -- What is noted at this level makes the set grow, then what the elements note does.
      apply (grown_of_meet?_eq_some hx hy hmeet).trans
      have hux := World.unwrap_mem_nodes hall.world hx
      have huy := World.unwrap_mem_nodes hall.world hy
      cases hps : elements? (w.unwrap x) (w.unwrap y) with
      | none =>
        simp only [payloads_of_no_elements _ _ hps, Option.some.injEq, Prod.mk.injEq] at h
        exact .inl h.2.symm
      | some ps =>
        simp only [payloads_of_elements _ _ hps] at h
        exact grown_of_sequence (fun _ _ _ _ _ hx hy h => ih hx hy h)
          (fun _ _ hab => hall.elements hux huy hps hab) h

/-- One step down stays among the nodes, and it meets a new pair or keeps the
    set of met pairs. -/
theorem step_within (hleft : p.left ∈ all) (hright : p.right ∈ all) (h : Descends w p q) :
    q.left ∈ all ∧ q.right ∈ all ∧ Grown all p.met q.met := by
  obtain ⟨met, front, rest, depth, hmeet, hps, hfront⟩ := h
  have hux := World.unwrap_mem_nodes hall.world hleft
  have huy := World.unwrap_mem_nodes hall.world hright
  have hq := hall.elements hux huy hps (List.mem_append_right _ List.mem_cons_self)
  refine ⟨hq.1, hq.2, (grown_of_meet?_eq_some hleft hright hmeet).trans ?_⟩
  apply grown_of_sequence (fun _ _ _ _ _ hx hy h => grown_of_values hall hx hy h) _ hfront
  exact fun _ _ hab => hall.elements hux huy hps (List.mem_append_left _ hab)

/-- Along a path, all points stay among the nodes, and as long as no new pair
    is met, the set of met pairs is the same. -/
theorem path_within {path : Nat → Point} {length : Nat} (hleft : (path 0).left ∈ all)
    (hright : (path 0).right ∈ all)
    (hpath : ∀ i < length, Descends w (path i) (path (i + 1))) :
    ∀ j ≤ length, (path j).left ∈ all ∧ (path j).right ∈ all ∧
      ∀ i ≤ j, Grown all (path i).met (path j).met := by
  intro j
  induction j with
  | zero =>
    intro _
    refine ⟨hleft, hright, fun i hi => ?_⟩
    obtain rfl := Nat.le_zero.mp hi
    exact .inl rfl
  | succ j ih =>
    intro hj
    obtain ⟨hl, hr, hgrown⟩ := ih (by omega)
    obtain ⟨hl', hr', hstep⟩ := step_within hall hl hr (hpath j (by omega))
    -- One more step: up to the last point by induction, from there by the step.
    refine ⟨hl', hr', fun i hi => ?_⟩
    rcases Nat.le_succ_iff.mp hi with hi | rfl
    · exact (hgrown i hi).trans hstep
    · exact .inl rfl

/-- **A long path passes through a point twice**: there are only so many pairs
    of nodes, and only so many times can a new pair be met. -/
theorem exists_loop_of_path {path : Nat → Point} {length : Nat}
    (hlength : (all.length * all.length + 1) * (all.length * all.length) ≤ length)
    (hleft : (path 0).left ∈ all) (hright : (path 0).right ∈ all)
    (hpath : ∀ i < length, Descends w (path i) (path (i + 1))) :
    ∃ i j, i < j ∧ j ≤ length ∧ path i = path j := by
  classical
  have hwithin := path_within hall hleft hright hpath
  let places := Finset.range (all.length * all.length + 1) ×ˢ (all.toFinset ×ˢ all.toFinset)
  let place := fun i => (metCount all (path i).met, (path i).left, (path i).right)
  -- More points than places: one place is taken twice.
  have hcard : places.card < (Finset.range (length + 1)).card := by
    rw [Finset.card_product, Finset.card_product, Finset.card_range, Finset.card_range]
    have hall := List.toFinset_card_le all
    have hpairs := Nat.mul_le_mul hall hall
    have hplaces := Nat.mul_le_mul_left (all.length * all.length + 1) hpairs
    omega
  have hmaps : ∀ i ∈ Finset.range (length + 1), place i ∈ places := by
    intro i hi
    obtain ⟨hl, hr, -⟩ := hwithin i (Nat.le_of_lt_succ (Finset.mem_range.mp hi))
    rw [Finset.mem_product, Finset.mem_product, Finset.mem_range, List.mem_toFinset,
      List.mem_toFinset]
    exact ⟨Nat.lt_succ_of_le (metCount_le all _), hl, hr⟩
  -- And a place determines the point, as sets of the same size are the same.
  have hsame : ∀ i j, i < j → j ≤ length → place i = place j → path i = path j := by
    intro i j hij hj heq
    obtain ⟨hcount, hsides⟩ := Prod.mk.inj heq
    obtain ⟨hl, hr⟩ := Prod.mk.inj hsides
    have hmet : (path i).met = (path j).met := by
      rcases (hwithin j hj).2.2 i (Nat.le_of_lt hij) with hmet | hlt
      · exact hmet.symm
      · exact absurd hcount (Nat.ne_of_lt hlt)
    exact Point.ext hl hr hmet
  obtain ⟨i, hi, j, hj, hne, heq⟩ := Finset.exists_ne_map_eq_of_card_lt_of_maps_to hcard hmaps
  have hi' := Nat.le_of_lt_succ (Finset.mem_range.mp hi)
  have hj' := Nat.le_of_lt_succ (Finset.mem_range.mp hj)
  rcases Nat.lt_or_gt_of_ne hne with hlt | hlt
  · exact ⟨i, j, hlt, hj', hsame i j hlt hj' heq⟩
  · exact ⟨j, i, hlt, hi', hsame j i hlt hi' heq.symm⟩

end bound

theorem reach_of_path {w : World} {path : Nat → Point} {length : Nat}
    (hpath : ∀ i < length, Descends w (path i) (path (i + 1))) {i j : Nat} (hij : i ≤ j)
    (hj : j ≤ length) : Relation.ReflTransGen (Descends w) (path i) (path j) := by
  induction j with
  | zero =>
    obtain rfl := Nat.le_zero.mp hij
    exact .refl
  | succ j ih =>
    rcases Nat.le_succ_iff.mp hij with hij | rfl
    · exact (ih hij (by omega)).tail (hpath j (by omega))
    · exact .refl

/-- A comparison runs for ever if it comes back to a pair, at most one side of
    which is an object, from inside that pair. -/
def Endless (w : World) (x y : Value) : Prop :=
  ∃ p : Point, Relation.ReflTransGen (Descends w) ⟨x, y, .empty⟩ p ∧ p.IsMixed ∧
    Relation.TransGen (Descends w) p p

/-- The depth bound is only exhausted by a comparison that runs for ever. -/
theorem endless_of_none {w : World} {x y : Value}
    (h : values w (w.comparisonDepth x y) x y .empty = none) : Endless w x y := by
  -- The values that can be compared: those of the world and those of the two sides.
  let all := w.nodes ++ (x.nodes ++ y.nodes)
  have hall : Covers w all := by
    refine ⟨List.subset_append_left _ _, ?_⟩
    intro v hv u hu
    rcases List.mem_append.mp hv with hv | hv
    · obtain ⟨slot, hslot, hv⟩ := List.mem_flatMap.mp hv
      apply List.mem_append_left
      apply List.mem_flatMap.mpr
      refine ⟨slot, hslot, ?_⟩
      cases slot with
      | none => cases hv
      | some x =>
        obtain ⟨entry, hentry, hv⟩ := List.mem_flatMap.mp hv
        exact List.mem_flatMap.mpr ⟨entry, hentry, Value.nodes_subset_of_mem v hv hu⟩
    · apply List.mem_append_right
      rcases List.mem_append.mp hv with hv | hv
      · exact List.mem_append_left _ (Value.nodes_subset_of_mem v hv hu)
      · exact List.mem_append_right _ (Value.nodes_subset_of_mem v hv hu)
  have hlength : all.length = w.weight + x.size + y.size := by
    rw [List.length_append, List.length_append, World.length_nodes, Value.length_nodes,
      Value.length_nodes, Nat.add_assoc]
  have hx : x ∈ all := List.mem_append_right _ (List.mem_append_left _ x.self_mem_nodes)
  have hy : y ∈ all := List.mem_append_right _ (List.mem_append_right _ y.self_mem_nodes)
  obtain ⟨path, hstart, hpath⟩ := exists_path_of_none (p := ⟨x, y, .empty⟩) h
  obtain ⟨i, j, hij, hj, heq⟩ := exists_loop_of_path hall
    (by rw [hlength, World.comparisonDepth]) (by rw [hstart]; exact hx) (by rw [hstart]; exact hy)
    hpath
  -- Two points of the path are the same, so that the steps between them form a loop.
  have hloop : Relation.TransGen (Descends w) (path i) (path i) := by
    have hback := reach_of_path hpath (Nat.succ_le_of_lt hij) hj
    rw [← heq] at hback
    exact Relation.TransGen.head' (hpath i (by omega)) hback
  refine ⟨path i, ?_, isMixed_of_loop hloop, hloop⟩
  rw [← hstart]
  exact reach_of_path hpath (Nat.zero_le i) (by omega)

theorem none_of_endless {w : World} {x y : Value} (h : Endless w x y) (depth : Nat) :
    values w depth x y .empty = none := by
  obtain ⟨p, hreach, -, hloop⟩ := h
  exact none_of_reach hreach (none_of_loop hloop) depth

end Comparison

namespace World

theorem structurallyEqual_eq_none_iff_endless {w : World} {x y : Value} :
    w.structurallyEqual x y = none ↔ Comparison.Endless w x y := by
  simp only [structurallyEqual, Option.orElse_eq_orElse, Option.orElse_eq_or,
    Option.or_eq_none_iff, Option.map_eq_none_iff]
  constructor
  · rintro ⟨-, h⟩
    exact Comparison.endless_of_none h
  · intro h
    exact ⟨Comparison.none_of_endless h _, Comparison.none_of_endless h _⟩

/-! ## Searches -/

/-- A search for a payload runs for ever: its comparison with some element
    does, after every element in front has turned out to be different. -/
def SearchEndless (w : World) (items : List Value) (target : Value) : Prop :=
  ∃ front item rest, items = front ++ item :: rest ∧
    (∀ other ∈ front, w.structurallyEqual other target = some false) ∧
    Comparison.Endless w item target

theorem positionOf_eq_none_iff {w : World} {items : List Value} {target : Value} :
    w.positionOf items target = none ↔ w.SearchEndless items target := by
  induction items with
  | nil =>
    constructor
    · intro h
      cases h
    · rintro ⟨front, item, rest, h, -⟩
      simp at h
  | cons first items ih =>
    rw [positionOf]
    constructor
    · intro h
      -- The search ends at an equal element and goes on behind a different one.
      match hfirst : w.structurallyEqual first target with
      | none =>
        have hitem := structurallyEqual_eq_none_iff_endless.mp hfirst
        exact ⟨[], first, items, rfl, nofun, hitem⟩
      | some true =>
        rw [hfirst] at h
        cases h
      | some false =>
        rw [hfirst] at h
        obtain ⟨front, item, rest, rfl, hfront, hitem⟩ := ih.mp (Option.map_eq_none_iff.mp h)
        refine ⟨first :: front, item, rest, rfl, ?_, hitem⟩
        intro other hother
        rcases List.mem_cons.mp hother with rfl | hother
        · exact hfirst
        · exact hfront other hother
    · rintro ⟨front, item, rest, heq, hfront, hitem⟩
      cases front with
      | nil =>
        obtain ⟨rfl, rfl⟩ := List.cons.inj heq
        rw [structurallyEqual_eq_none_iff_endless.mpr hitem]
      | cons other front =>
        obtain ⟨rfl, rfl⟩ := List.cons.inj heq
        rw [hfront first List.mem_cons_self]
        apply Option.map_eq_none_iff.mpr
        exact ih.mpr ⟨front, item, rest, rfl, fun o ho => hfront o (List.mem_cons_of_mem _ ho),
          hitem⟩

theorem occurrences_eq_none_iff {w : World} {items : List Value} {target : Value} :
    w.occurrences items target = none ↔ ∃ item ∈ items, Comparison.Endless w item target := by
  induction items with
  | nil => simp [occurrences]
  | cons first items ih =>
    rw [occurrences, List.exists_mem_cons_iff, ← structurallyEqual_eq_none_iff_endless, ← ih]
    cases w.structurallyEqual first target with
    | none => simp
    | some found => simp

end World

namespace ArrayMethod

section searches
variable {w : World} {this : ObjectId} {v : Value}

theorem find_eq_diverged_iff :
    Behaviour.find this v w = .diverged ↔
      ∃ items, w.items this = .ok items ∧ w.SearchEndless items (w.unwrap v) := by
  simp only [← World.positionOf_eq_none_iff, Behaviour.find, Run.bind_apply, Run.read_apply, id_eq]
  cases hitems : w.items this with
  | error f => simp
  | ok items =>
    simp only [Run.lift_ok, Except.ok.injEq, exists_eq_left']
    cases w.positionOf items (w.unwrap v) <;> simp

theorem occurrencesOf_eq_diverged_iff :
    Behaviour.occurrencesOf this v w = .diverged ↔
      ∃ items, w.items this = .ok items ∧
        ∃ item ∈ items, Comparison.Endless w item (w.unwrap v) := by
  simp only [← World.occurrences_eq_none_iff, Behaviour.occurrencesOf, Run.bind_apply,
    Run.read_apply, id_eq]
  cases hitems : w.items this with
  | error f => simp
  | ok items =>
    simp only [Run.lift_ok, Except.ok.injEq, exists_eq_left']
    cases w.occurrences items (w.unwrap v) <;> simp

theorem invoke_contains_eq_diverged_iff :
    contains.invoke this [v] w = .diverged ↔ Behaviour.find this v w = .diverged := by
  simp only [invoke, Arguments.one, Run.bind_apply, Run.lift_ok]
  cases Behaviour.find this v w <;> simp

theorem invoke_index_eq_diverged_iff :
    index.invoke this [v] w = .diverged ↔ Behaviour.find this v w = .diverged := by
  simp only [invoke, Arguments.one, Run.bind_apply, Run.lift_ok]
  cases Behaviour.find this v w with
  | done found w₁ => cases found <;> simp
  | raised f w₁ => simp
  | diverged => simp

theorem invoke_count_eq_diverged_iff :
    count.invoke this [v] w = .diverged ↔ Behaviour.occurrencesOf this v w = .diverged := by
  simp only [invoke, Arguments.one, Run.bind_apply, Run.lift_ok]
  cases Behaviour.occurrencesOf this v w <;> simp

theorem itemsOf_ne_diverged : Behaviour.itemsOf this w ≠ .diverged := by
  simp only [Behaviour.itemsOf, Run.bind_apply, Run.read_apply, id_eq]
  cases w.items this <;> simp

theorem invoke_remove_eq_diverged_iff :
    remove.invoke this [v] w = .diverged ↔ Behaviour.find this v w = .diverged := by
  simp only [invoke, Arguments.one, Run.bind_apply, Run.lift_ok]
  cases Behaviour.find this v w with
  | done found w₁ =>
    cases found with
    | none => simp
    | some place =>
      simp only [Run.bind_apply]
      cases hitems : Behaviour.itemsOf this w₁ with
      | done items w₂ => simp [Behaviour.storeItems]
      | raised f w₂ => simp
      | diverged => exact absurd hitems itemsOf_ne_diverged
  | raised f w₁ => simp
  | diverged => simp

end searches

end ArrayMethod

/-! ## The exact condition -/

namespace World

/-- **When comparisons and searches end**: a comparison gives an answer unless
    it is endless.  The searches of an array give one unless their comparison
    with an element is: any element when counting, one behind elements that
    are all different otherwise. -/
theorem comparison_ends_iff (w : World) :
    (∀ x y, (∃ answer, w.structurallyEqual x y = some answer) ↔ ¬ Comparison.Endless w x y) ∧
    ∀ this v,
      (ArrayMethod.contains.invoke this [v] w = .diverged ↔
        ∃ items, w.items this = .ok items ∧ w.SearchEndless items (w.unwrap v)) ∧
      (ArrayMethod.index.invoke this [v] w = .diverged ↔
        ∃ items, w.items this = .ok items ∧ w.SearchEndless items (w.unwrap v)) ∧
      (ArrayMethod.remove.invoke this [v] w = .diverged ↔
        ∃ items, w.items this = .ok items ∧ w.SearchEndless items (w.unwrap v)) ∧
      (ArrayMethod.count.invoke this [v] w = .diverged ↔
        ∃ items, w.items this = .ok items ∧
          ∃ item ∈ items, Comparison.Endless w item (w.unwrap v)) := by
  constructor
  · intro x y
    rw [← structurallyEqual_eq_none_iff_endless, ← Option.ne_none_iff_exists']
  · intro this v
    -- The first three methods search for a position, the last one counts.
    refine ⟨?_, ?_, ?_, ?_⟩
    · rw [ArrayMethod.invoke_contains_eq_diverged_iff, ArrayMethod.find_eq_diverged_iff]
    · rw [ArrayMethod.invoke_index_eq_diverged_iff, ArrayMethod.find_eq_diverged_iff]
    · rw [ArrayMethod.invoke_remove_eq_diverged_iff, ArrayMethod.find_eq_diverged_iff]
    · rw [ArrayMethod.invoke_count_eq_diverged_iff, ArrayMethod.occurrencesOf_eq_diverged_iff]

/-- A wrapper is given a mapping to a mapping to itself, and then compared with
    a mapping to itself: the two sides stay out of step, so that every other
    pair is the first one again. -/
theorem comparison_of_wrapper_endless :
    ∃ w o a, (do
        let o ← Run.step (fun w => w.toObject (.dict []))
        let _ ← Stock.host.dispatch o .init [.dict [("k", .dict [("k", .object o)])]]
        let a ← Run.step (fun w => w.toObject (.list [.object o]))
        return (o, a)) World.initial = .done (o, a) w ∧
      w.structurallyEqual (.object o) (.dict [("k", .object o)]) = none ∧
      ArrayMethod.contains.invoke a [.dict [("k", .object o)]] w = .diverged := by
  refine ⟨_, ⟨3⟩, ⟨4⟩, rfl, ?_⟩
  have hendless : ∀ w : World, w.payload? ⟨3⟩ = some (.dict [("k", .dict [("k", .object ⟨3⟩)])]) →
      Comparison.Endless w (.object ⟨3⟩) (.dict [("k", .object ⟨3⟩)]) := by
    intro w hpayload
    have hunwrap : w.unwrap (.object ⟨3⟩) = .dict [("k", .dict [("k", .object ⟨3⟩)])] := by
      rw [unwrap, hpayload]
      rfl
    -- Two steps lead back to the first pair, with the set still empty.
    refine ⟨⟨.object ⟨3⟩, .dict [("k", .object ⟨3⟩)], .empty⟩, .refl, ?_, ?_⟩
    · rintro _ _ ⟨_, h⟩
      cases h
    apply Relation.TransGen.head (b := ⟨.dict [("k", .object ⟨3⟩)], .object ⟨3⟩, .empty⟩)
    · exact ⟨.empty, [], [], 0, rfl, by rw [hunwrap]; rfl, rfl⟩
    · exact .single ⟨.empty, [], [], 0, rfl, by rw [hunwrap]; rfl, rfl⟩
  constructor
  · rw [structurallyEqual_eq_none_iff_endless]
    exact hendless _ rfl
  · rw [ArrayMethod.invoke_contains_eq_diverged_iff, ArrayMethod.find_eq_diverged_iff]
    exact ⟨[.object ⟨3⟩], rfl, [], .object ⟨3⟩, [], rfl,
      fun _ h => absurd h List.not_mem_nil, hendless _ rfl⟩

/-! ## Payloads of objects only -/

/-- All elements of payloads are objects, as those of arrays are. -/
def HoldsObjects (w : World) : Prop :=
  ∀ (o : ObjectId) (v : Value), w.payload? o = some v →
    ∀ u : Value, u.IsElement v → ∃ p, u = Value.object p

end World

namespace Comparison

/-- The part of a value that is outside of any object. -/
def rawSize : Value → Nat
  | .object _ => 0
  | v => v.size

theorem rawSize_le_size (v : Value) : rawSize v ≤ v.size := by
  cases v <;> simp [rawSize]

section flat
variable {w : World} (hw : w.HoldsObjects) {p q : Point} {a v : Value}
include hw

/-- From a raw value the elements lead to smaller values, from an object to
    objects. -/
theorem rawSize_element (h : a.IsElement (w.unwrap v)) :
    rawSize a < rawSize v ∨ (rawSize a = 0 ∧ ∃ o, v = .object o) := by
  match v with
  | .object o =>
    right
    rw [World.unwrap] at h
    cases hpayload : w.payload? o with
    | none =>
      rw [hpayload] at h
      cases h
    | some u =>
      rw [hpayload] at h
      obtain ⟨o', rfl⟩ := hw o u hpayload a h
      exact ⟨rfl, o, rfl⟩
  | .list items => exact .inl (Nat.lt_of_le_of_lt (rawSize_le_size a) h.size_lt)
  | .dict entries => exact .inl (Nat.lt_of_le_of_lt (rawSize_le_size a) h.size_lt)
  | .null | .bool _ | .int _ | .float _ | .complex _ | .text _ | .function _ | .foreign _ => cases h

theorem rawSize_lt_of_descends (hmixed : p.IsMixed) (h : Descends w p q) :
    rawSize q.left + rawSize q.right < rawSize p.left + rawSize p.right := by
  obtain ⟨met, front, rest, depth, -, hps, -⟩ := h
  obtain ⟨hleft, hright⟩ :=
    isElement_of_elements hps (List.mem_append_right _ List.mem_cons_self)
  -- A raw side loses size; an object on one side leaves the other one raw.
  rcases rawSize_element hw hleft with hl | ⟨hl, o, ho⟩
  · rcases rawSize_element hw hright with hr | ⟨hr, -⟩ <;> omega
  · rcases rawSize_element hw hright with hr | ⟨-, o', ho'⟩
    · omega
    · exact absurd ⟨ho, ho'⟩ (hmixed o o')

/-- **Arrays always compare**: over payloads whose elements are all objects, no
    comparison is endless, cyclic or not, of raw values or objects. -/
theorem not_endless_of_holdsObjects (x y : Value) : ¬ Endless w x y := by
  rintro ⟨p, -, -, hloop⟩
  have hstep : ∀ {q}, Relation.ReflTransGen (Descends w) p q →
      Relation.ReflTransGen (Descends w) q p →
      rawSize q.left + rawSize q.right ≤ rawSize p.left + rawSize p.right := by
    intro q hpq
    induction hpq with
    | refl => exact fun _ => Nat.le_refl _
    | @tail q r hpq hqr ih =>
      intro hrp
      -- Every point on a loop is on a loop itself, so it is mixed.
      have hq : q.IsMixed := isMixed_of_loop (.head' hqr (hrp.trans hpq))
      have hlt := rawSize_lt_of_descends hw hq hqr
      have hle := ih (.head hqr hrp)
      omega
  -- The last step of the loop is down as well, which leads back to the same size.
  obtain ⟨q, hpq, hqp⟩ := Relation.TransGen.tail'_iff.mp hloop
  have hq : q.IsMixed := isMixed_of_loop (.head' hqp hpq)
  have hlt := rawSize_lt_of_descends hw hq hqp
  have hle := hstep hpq (.single hqp)
  omega

end flat

end Comparison

end DynamicObjects
