import DynamicObjects.Proofs.Heap.Objects
import DynamicObjects.Reachability

/-! # What a release spares

    An object keeps an owner if it is a root, or if an object owns it that keeps
    an owner itself.  The second case may go round in a circle, or back for ever:
    a set of objects is kept if each of them is a root or owned from the set.

    The argument:
    1. Along a release the counts are those of the owners that are left, and each
       object that is alive without an owner is still to be visited.
    2. No object of such a set is ever without an owner, so that none is released.
    3. When nothing is left to be visited, all objects that are alive have owners,
       which are alive: they are such a set themselves.

    Main results:
    - `World.isAlive_collect_iff`: alive after a release is what was alive and has
      been kept
    - `World.Kept.hasOwner`: what has no owner is not kept -/

namespace DynamicObjects

namespace World

/-! ## Counts -/

theorem getD_modify (counts : Array Nat) (f : Nat → Nat) (i j : Nat) :
    (counts.modify i f).getD j 0 =
      if i = j ∧ j < counts.size then f (counts.getD j 0) else counts.getD j 0 := by
  simp only [Array.getD_eq_getD_getElem?, Array.getElem?_modify]
  by_cases hj : j < counts.size
  · by_cases hij : i = j <;> simp [hij, hj]
  · simp [hj]

theorem getD_increase {counts : Array Nat} {o : ObjectId} (ho : o.index < counts.size)
    (os : List ObjectId) :
    (increase counts os).getD o.index 0 = counts.getD o.index 0 + os.count o := by
  induction os generalizing counts with
  | nil => rfl
  | cons p rest ih =>
    have hp : p = o ↔ p.index = o.index := by cases p; cases o; simp
    have ho' : o.index < (counts.modify p.index (· + 1)).size := by simpa using ho
    rw [increase, List.foldl_cons, ← increase, ih ho', getD_modify, List.count_cons]
    by_cases hpo : p = o
    · simp [hpo, ho]
      omega
    · simp [hpo, mt hp.mpr hpo]

theorem getD_decrease (counts : Array Nat) (o : ObjectId) (os : List ObjectId) :
    (decrease counts os).getD o.index 0 = counts.getD o.index 0 - os.count o := by
  induction os generalizing counts with
  | nil => rfl
  | cons p rest ih =>
    have hp : p = o ↔ p.index = o.index := by cases p; cases o; simp
    rw [decrease, List.foldl_cons, ← decrease, ih, getD_modify, List.count_cons]
    by_cases hpo : p = o
    · by_cases ho : o.index < counts.size
      · simp [hpo, ho]
        omega
      · simp [hpo, ho]
    · simp [hpo, mt hp.mpr hpo]

theorem count_flatMap_set {α β : Type} [BEq β] {f : α → List β} {xs : List α} {i : Nat} {a b : α}
    (ha : xs[i]? = some a) (hb : f b = []) (y : β) :
    ((xs.set i b).flatMap f).count y + (f a).count y = (xs.flatMap f).count y := by
  induction xs generalizing i with
  | nil => cases ha
  | cons x rest ih =>
    cases i with
    | zero =>
      obtain rfl : x = a := by simpa using ha
      simp [hb, Nat.add_comm]
    | succ i =>
      have hrest := ih (i := i) (by simpa using ha)
      simp only [List.set_cons_succ, List.flatMap_cons, List.count_append]
      omega

/-! ## Objects that are released -/

section free
variable {w : World} {roots : List ObjectId} {o p : ObjectId} {x : Object}

theorem object?_free (w : World) (o p : ObjectId) :
    (w.free o).object? p = if p = o then none else w.object? p := by
  have hp : p = o ↔ o.index = p.index := by cases p; cases o; simp [eq_comm]
  simp only [object?, free, Array.getElem?_setIfInBounds, hp]
  split
  · split <;> rfl
  · rfl

theorem mem_owned_iff : o ∈ w.owned p ↔ ∃ x, w.object? p = some x ∧ o ∈ x.references := by
  rw [owned]
  cases hp : w.object? p with
  | none => simp [ownedFrom]
  | some x => simp [ownedFrom]

theorem mem_ownings_iff :
    o ∈ w.ownings roots ↔ o ∈ w.ownRoots ++ roots ∨ ∃ p, o ∈ w.owned p := by
  rw [ownings, List.mem_append, List.mem_flatMap]
  refine or_congr_right ?_
  constructor
  · rintro ⟨slot, hslot, ho⟩
    obtain ⟨i, hi⟩ := List.mem_iff_getElem?.mp hslot
    refine ⟨⟨i⟩, ?_⟩
    rw [Array.getElem?_toList] at hi
    rw [owned, object?, hi]
    exact ho
  · rintro ⟨p, ho⟩
    obtain ⟨x, hx, href⟩ := mem_owned_iff.mp ho
    exact ⟨some x, Array.mem_toList_iff.mpr (Array.mem_of_getElem? (Option.join_eq_some_iff.mp hx)),
      href⟩

/-- What is released gives up what it has owned. -/
theorem count_ownings_free (roots : List ObjectId) (hx : w.object? o = some x) (p : ObjectId) :
    ((w.free o).ownings roots).count p + x.references.count p = (w.ownings roots).count p := by
  have hslot : w.heap.toList[o.index]? = some (some x) := by
    rw [Array.getElem?_toList]
    exact Option.join_eq_some_iff.mp hx
  have hheap : (w.free o).heap.toList = w.heap.toList.set o.index none :=
    Array.toList_setIfInBounds ..
  have hcount := count_flatMap_set (f := ownedFrom) (b := none) hslot rfl p
  have howned : ownedFrom (some x) = x.references := rfl
  have hroots : (w.free o).ownRoots = w.ownRoots := rfl
  rw [howned] at hcount
  simp only [ownings, hheap, hroots, List.count_append]
  omega

end free

/-! ## Releases -/

/-- The counts of a release are those of the owners that are left, and what is
    alive without an owner is still to be visited. -/
structure Counted (w : World) (roots : List ObjectId) (counts : Array Nat) (work : List ObjectId) :
    Prop where
  count_eq : ∀ o : ObjectId, o.index < w.heap.size →
    counts.getD o.index 0 = (w.ownings roots).count o
  pending : ∀ o, w.isAlive o = true → o ∉ w.ownings roots → o ∈ work

/-- A set of objects each of which is a root or **owned from the set**. -/
def OwnedWithin (w : World) (roots : List ObjectId) (P : ObjectId → Prop) : Prop :=
  ∀ o, P o → o ∈ w.ownRoots ++ roots ∨ ∃ p, P p ∧ o ∈ w.owned p

section release
variable {w : World} {roots work : List ObjectId} {counts : Array Nat} {o : ObjectId} {x : Object}
  {P : ObjectId → Prop}

theorem index_lt_of_isAlive (h : w.isAlive o = true) : o.index < w.heap.size := by
  obtain ⟨x, hx⟩ := Option.isSome_iff_exists.mp h
  exact index_lt_of_object?_eq_some hx

theorem counted_start (w : World) (roots : List ObjectId) :
    w.Counted roots (w.ownerCounts roots) ((List.range w.heap.size).map ObjectId.mk) where
  count_eq o ho := by
    rw [ownerCounts, getD_increase (by simpa using ho)]
    simp [Array.getD_eq_getD_getElem?, ho]
  pending o halive _ := by
    refine List.mem_map.mpr ⟨o.index, ?_, rfl⟩
    exact List.mem_range.mpr (index_lt_of_isAlive halive)

/-- **Step**: an object without an owner is released. -/
theorem Counted.free (h : w.Counted roots counts (o :: work)) (hx : w.object? o = some x) :
    (w.free o).Counted roots (decrease counts x.references) (x.references ++ work) where
  count_eq p hp := by
    have hsize : (w.free o).heap.size = w.heap.size := Array.size_setIfInBounds
    have hgiven := count_ownings_free roots hx p
    rw [getD_decrease, h.count_eq p (hsize ▸ hp)]
    omega
  pending p halive hnone := by
    rw [isAlive, object?_free] at halive
    by_cases hpo : p = o
    · simp [hpo] at halive
    · rw [if_neg hpo] at halive
      -- What has lost its last owner now has been owned by the object.
      by_cases hbefore : p ∈ w.ownings roots
      · have hgiven := count_ownings_free roots hx p
        rw [List.count_eq_zero.mpr hnone, Nat.zero_add] at hgiven
        have hpos : 0 < x.references.count p := hgiven ▸ List.count_pos_iff.mpr hbefore
        exact List.mem_append_left _ (List.count_pos_iff.mp hpos)
      · have hmem := h.pending p halive hbefore
        exact List.mem_append_right _ ((List.mem_cons.mp hmem).resolve_left hpo)

/-- **Step**: an object that is not to be released is passed over. -/
theorem Counted.skip (h : w.Counted roots counts (o :: work))
    (hspared : w.isAlive o = true → o ∈ w.ownings roots) : w.Counted roots counts work where
  count_eq := h.count_eq
  pending p halive hnone := by
    refine (List.mem_cons.mp (h.pending p halive hnone)).resolve_left ?_
    rintro rfl
    exact hnone (hspared halive)

theorem Counted.mem_ownings_iff (h : w.Counted roots counts work) (hx : w.object? o = some x) :
    o ∈ w.ownings roots ↔ counts.getD o.index 0 ≠ 0 := by
  rw [h.count_eq o (index_lt_of_object?_eq_some hx), Ne, List.count_eq_zero, not_not]

/-- **Invariant**: in the end nothing is left without an owner. -/
theorem Counted.release (h : w.Counted roots counts work) :
    ∃ counts', (w.release counts work).Counted roots counts' [] := by
  -- The cases of a release: nothing left to visit, an object without an owner, one that
  -- has owners, one that has been released before.
  fun_induction World.release w counts work with
  | case1 w counts => exact ⟨counts, h⟩
  | case2 w counts o rest x hx hzero ih => exact ih (h.free hx)
  | case3 w counts o rest x hx hcount ih =>
    exact ih (h.skip fun _ => (h.mem_ownings_iff hx).mpr hcount)
  | case4 w counts o rest hnone ih =>
    refine ih (h.skip fun halive => ?_)
    rw [isAlive, hnone] at halive
    cases halive

/-- **Soundness**: objects that are owned within a set are not released. -/
theorem Counted.object?_release_of_mem (h : w.Counted roots counts work)
    (hP : w.OwnedWithin roots P) {p : ObjectId} (hp : P p) :
    (w.release counts work).object? p = w.object? p := by
  fun_induction World.release w counts work with
  | case1 w counts => rfl
  | case2 w counts o rest x hx hzero ih =>
    -- What is released has no owner at all, so that it does not belong to the set.
    have hout : ¬ P o := by
      intro ho
      have hmem : o ∈ w.ownings roots :=
        World.mem_ownings_iff.mpr ((hP o ho).imp_right fun ⟨q, _, hq⟩ => ⟨q, hq⟩)
      exact (h.mem_ownings_iff hx).mp hmem hzero
    have hsame : ∀ {q}, P q → (w.free o).object? q = w.object? q := by
      intro q hq
      rw [object?_free, if_neg]
      rintro rfl
      exact hout hq
    have hwithin : (w.free o).OwnedWithin roots P := by
      refine fun q hq => (hP q hq).imp_right ?_
      rintro ⟨r, hr, howned⟩
      exact ⟨r, hr, by rwa [owned, hsame hr, ← owned]⟩
    exact (ih (h.free hx) hwithin).trans (hsame hp)
  | case3 w counts o rest x hx hcount ih =>
    exact ih (h.skip fun _ => (h.mem_ownings_iff hx).mpr hcount) hP
  | case4 w counts o rest hnone ih =>
    refine ih (h.skip fun halive => ?_) hP
    rw [isAlive, hnone] at halive
    cases halive

/-- A release changes nothing but that objects are no longer there. -/
theorem release_spares (w : World) (counts : Array Nat) (work : List ObjectId) :
    (w.release counts work).heap.size = w.heap.size ∧
      (w.release counts work).declared = w.declared ∧
      (w.release counts work).nextIdent = w.nextIdent ∧
      ∀ {o x}, (w.release counts work).object? o = some x → w.object? o = some x := by
  fun_induction World.release w counts work with
  | case1 w counts => exact ⟨rfl, rfl, rfl, id⟩
  | case2 w counts o rest x hx hzero ih =>
    obtain ⟨hsize, hdeclared, hident, hobjects⟩ := ih
    refine ⟨hsize.trans Array.size_setIfInBounds, hdeclared, hident, fun {p y} hy => ?_⟩
    have hbefore := hobjects hy
    rw [object?_free] at hbefore
    split at hbefore
    · cases hbefore
    · exact hbefore
  | case3 w counts o rest x hx hcount ih => exact ih
  | case4 w counts o rest hnone ih => exact ih

end release

/-! ## What is kept -/

/-- An object is **kept** if it belongs to a set of objects each of which is a root
    or owned from the set. -/
def Kept (w : World) (roots : List ObjectId) (o : ObjectId) : Prop :=
  ∃ P : ObjectId → Prop, w.OwnedWithin roots P ∧ P o

/-- An object **has an owner**: the world, a root, or an object that is alive. -/
def HasOwner (w : World) (roots : List ObjectId) (o : ObjectId) : Prop :=
  o ∈ w.ownRoots ++ roots ∨ ∃ p, w.isAlive p = true ∧ o ∈ w.owned p

section collect
variable {w : World} {roots : List ObjectId} {o p : ObjectId} {x : Object}

theorem ownedWithin_kept (w : World) (roots : List ObjectId) :
    w.OwnedWithin roots (w.Kept roots) := by
  rintro o ⟨P, hP, ho⟩
  exact (hP o ho).imp_right fun ⟨p, hp, howned⟩ => ⟨p, ⟨P, hP, hp⟩, howned⟩

theorem Kept.root (h : o ∈ w.ownRoots ++ roots) : w.Kept roots o :=
  ⟨(· ∈ w.ownRoots ++ roots), fun _ hp => .inl hp, h⟩

/-- **Coinduction**: objects are kept if each of them is known to be, or is owned by
    one of them. -/
theorem Kept.of_each {P : ObjectId → Prop}
    (hP : ∀ o, P o → w.Kept roots o ∨ ∃ p, P p ∧ o ∈ w.owned p) (ho : P o) :
    w.Kept roots o := by
  refine ⟨fun q => P q ∨ w.Kept roots q, ?_, .inl ho⟩
  have hkept : ∀ q, w.Kept roots q →
      q ∈ w.ownRoots ++ roots ∨ ∃ p, (P p ∨ w.Kept roots p) ∧ q ∈ w.owned p := fun q hq =>
    (ownedWithin_kept w roots q hq).imp_right fun ⟨p, hp, howned⟩ => ⟨p, .inr hp, howned⟩
  rintro q (hq | hq)
  · rcases hP q hq with hq | ⟨p, hp, howned⟩
    · exact hkept q hq
    · exact .inr ⟨p, .inl hp, howned⟩
  · exact hkept q hq

theorem isAlive_of_mem_owned (h : o ∈ w.owned p) : w.isAlive p = true := by
  obtain ⟨x, hx, -⟩ := mem_owned_iff.mp h
  exact Option.isSome_iff_exists.mpr ⟨x, hx⟩

/-- **Without an owner** an object is not kept. -/
theorem Kept.hasOwner (h : w.Kept roots o) : w.HasOwner roots o :=
  (ownedWithin_kept w roots o h).imp_right fun ⟨p, _, ho⟩ => ⟨p, isAlive_of_mem_owned ho, ho⟩

theorem not_kept_of_unowned (hroot : o ∉ w.ownRoots ++ roots)
    (howned : ∀ i : Fin w.heap.size, o ∉ w.owned ⟨i⟩) : ¬ w.Kept roots o := by
  intro hkept
  rcases hkept.hasOwner with h | ⟨p, hp, h⟩
  · exact hroot h
  · exact howned ⟨p.index, index_lt_of_isAlive hp⟩ h

@[simp] theorem size_collect (w : World) (roots : List ObjectId) :
    (w.collect roots).heap.size = w.heap.size := (release_spares ..).1

@[simp] theorem declared_collect (w : World) (roots : List ObjectId) :
    (w.collect roots).declared = w.declared := (release_spares ..).2.1

@[simp] theorem nextIdent_collect (w : World) (roots : List ObjectId) :
    (w.collect roots).nextIdent = w.nextIdent := (release_spares ..).2.2.1

theorem object?_collect (h : (w.collect roots).object? o = some x) : w.object? o = some x :=
  (release_spares ..).2.2.2 h

/-- **Releases** spare what is kept, as it is, and nothing else. -/
theorem object?_collect_of_kept (h : w.Kept roots o) :
    (w.collect roots).object? o = w.object? o :=
  (counted_start w roots).object?_release_of_mem (ownedWithin_kept w roots) h

theorem kept_of_isAlive_collect (h : (w.collect roots).isAlive o = true) : w.Kept roots o := by
  refine ⟨fun p => (w.collect roots).isAlive p = true, fun p hp => ?_, h⟩
  obtain ⟨counts, hcounted⟩ := (counted_start w roots).release
  -- Nothing is left to be visited, so that what is alive has an owner.
  have hmem : p ∈ (w.collect roots).ownings roots :=
    not_not.mp fun hnone => List.not_mem_nil (hcounted.pending p hp hnone)
  rcases mem_ownings_iff.mp hmem with hroot | ⟨q, howned⟩
  · rw [ownRoots, declared_collect, ← ownRoots] at hroot
    exact .inl hroot
  · obtain ⟨x, hx, href⟩ := mem_owned_iff.mp howned
    exact .inr ⟨q, isAlive_of_mem_owned howned, mem_owned_iff.mpr ⟨x, object?_collect hx, href⟩⟩

theorem isAlive_collect_iff :
    (w.collect roots).isAlive o = true ↔ w.isAlive o = true ∧ w.Kept roots o := by
  constructor
  · intro h
    obtain ⟨x, hx⟩ := Option.isSome_iff_exists.mp h
    exact ⟨Option.isSome_iff_exists.mpr ⟨x, object?_collect hx⟩, kept_of_isAlive_collect h⟩
  · rintro ⟨halive, hkept⟩
    rwa [isAlive, object?_collect_of_kept hkept]

/-- A release leaves what is still alive as it is. -/
theorem object_collect (halive : (w.collect roots).isAlive o = true) :
    (w.collect roots).object o = w.object o := by
  obtain ⟨x, hx⟩ := Option.isSome_iff_exists.mp halive
  rw [object, object, hx, object?_collect hx]

theorem typeOf_collect (halive : (w.collect roots).isAlive o = true) :
    (w.collect roots).typeOf o = w.typeOf o := by
  rw [typeOf, typeOf, object_collect halive]

theorem property?_collect (halive : (w.collect roots).isAlive o = true) (name : String) :
    (w.collect roots).property? o name = w.property? o name := by
  rw [property?, property?, object_collect halive]

theorem object?_collect_of_none (h : w.object? o = none) : (w.collect roots).object? o = none := by
  rw [Option.eq_none_iff_forall_ne_some]
  intro x hx
  cases h.symm.trans (object?_collect hx)

theorem object?_collect_of_not_kept (h : ¬ w.Kept roots o) :
    (w.collect roots).object? o = none := by
  rw [← Option.not_isSome_iff_eq_none]
  exact fun hlives => h (kept_of_isAlive_collect hlives)

end collect

end World

end DynamicObjects
