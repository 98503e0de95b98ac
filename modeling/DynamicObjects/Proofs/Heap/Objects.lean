import DynamicObjects.Proofs.Heap.Bindings
import DynamicObjects.World
import Mathlib.Order.Basic

/-! # Objects of a changed world

    What adding an object and changing one leaves of a world, read through
    `World.object?`.  Neither takes an object away or gives it another type:
    `World.Later`. -/

namespace DynamicObjects

namespace World

@[simp] theorem size_update (w : World) (o : ObjectId) (f : Object → Object) :
    (w.update o f).heap.size = w.heap.size := Array.size_modify

@[simp] theorem size_add (w : World) (x : Object) : (w.add x).2.heap.size = w.heap.size + 1 :=
  Array.size_push _

theorem size_setProperty (w : World) (o : ObjectId) (name : String) (v : Value) :
    (w.setProperty o name v).heap.size = w.heap.size := size_update _ _ _

/-- There is no object behind the end of the heap. -/
theorem index_lt_of_object?_eq_some {w : World} {o : ObjectId} {x : Object}
    (h : w.object? o = some x) : o.index < w.heap.size := by
  rw [object?, Option.join_eq_some_iff] at h
  exact (Array.getElem?_eq_some_iff.mp h).1

theorem object?_eq_none_of_size_le {w : World} {o : ObjectId} (h : w.heap.size ≤ o.index) :
    w.object? o = none := by
  cases hx : w.object? o with
  | none => rfl
  | some x =>
    have hlt := index_lt_of_object?_eq_some hx
    omega

theorem object?_of_property?_eq_some {w : World} {o : ObjectId} {name : String} {v : Value}
    (h : w.property? o name = some v) : ∃ x, w.object? o = some x ∧ x.property? name = some v := by
  rw [property?, object] at h
  cases hx : w.object? o with
  | none =>
    rw [hx] at h
    cases h
  | some x =>
    rw [hx] at h
    exact ⟨x, rfl, h⟩

theorem index_lt_of_property?_eq_some {w : World} {o : ObjectId} {name : String} {v : Value}
    (h : w.property? o name = some v) : o.index < w.heap.size := by
  obtain ⟨x, hx, -⟩ := object?_of_property?_eq_some h
  exact index_lt_of_object?_eq_some hx

theorem object?_add (w : World) (x : Object) (o : ObjectId) :
    (w.add x).2.object? o = if o.index = w.heap.size then some x else w.object? o := by
  simp only [object?, add, Array.getElem?_push]
  split <;> rfl

theorem object?_update (w : World) (o p : ObjectId) (f : Object → Object) :
    (w.update o f).object? p = if p = o then (w.object? p).map f else w.object? p := by
  split
  · next h => rw [h, object?_update_self]
  · next h => rw [object?_update_ne _ h]

/-- To set one property is to set a list of them. -/
theorem setProperty_eq_setProperties (w : World) (o : ObjectId) (name : String) (v : Value) :
    w.setProperty o name v = w.setProperties o [(name, v)] := by
  simp only [setProperty, setProperties, Object.setProperty, Bindings.setAll, List.foldl_cons,
    List.foldl_nil]

/-- The properties of an object are overridden by those that are set. -/
theorem property?_setProperties {w : World} {o : ObjectId} (halive : ∃ x, w.object? o = some x)
    (name : String) (entries : Bindings Value) :
    (w.setProperties o entries).property? o name =
      (Bindings.last? name entries).or (w.property? o name) := by
  obtain ⟨x, hx⟩ := halive
  unfold property? object setProperties
  rw [object?_update_self, hx]
  exact Bindings.get?_setAll name x.properties entries

theorem update_update (w : World) (o : ObjectId) (f g : Object → Object) :
    (w.update o f).update o g = w.update o (g ∘ f) := by
  rw [update, update, update]
  congr 1
  apply Array.ext_getElem?
  intro i
  simp only [Array.getElem?_modify]
  by_cases hi : o.index = i
  · simp only [if_pos hi, Option.map_map]
    congr 1
    funext slot
    exact Option.map_map g f slot
  · simp only [if_neg hi]

/-- A change that leaves the object as it is leaves the world as it is. -/
theorem update_eq_self {w : World} {o : ObjectId} {f : Object → Object}
    (h : ∀ x, w.object? o = some x → f x = x) : w.update o f = w := by
  have hheap : w.heap.modify o.index (Option.map f) = w.heap := by
    apply Array.ext_getElem?
    intro i
    rw [Array.getElem?_modify]
    by_cases hi : o.index = i
    · subst hi
      rw [if_pos rfl]
      match hslot : w.heap[o.index]? with
      | none | some none => rfl
      | some (some x) =>
        have hx : w.object? o = some x := by rw [object?, hslot, Option.join_some]
        simp [h x hx]
    · rw [if_neg hi]
  rw [update, hheap]

/-! ## Later worlds -/

/-- A **later** world has the same places with objects of the same types. -/
structure Later (w w' : World) : Prop where
  size_le : w.heap.size ≤ w'.heap.size
  type_eq : ∀ {o : ObjectId}, o.index < w.heap.size →
    (w'.object? o).map Object.type = (w.object? o).map Object.type

section later
variable {w w₁ w₂ : World}

protected theorem Later.refl (w : World) : w.Later w := ⟨Nat.le_refl _, fun _ => rfl⟩

theorem Later.trans (h₁ : w.Later w₁) (h₂ : w₁.Later w₂) : w.Later w₂ where
  size_le := Nat.le_trans h₁.size_le h₂.size_le
  type_eq ho := (h₂.type_eq (Nat.lt_of_lt_of_le ho h₁.size_le)).trans (h₁.type_eq ho)

theorem Later.typeOf_eq (h : w.Later w₁) {o : ObjectId} (ho : o.index < w.heap.size) :
    w₁.typeOf o = w.typeOf o := by
  have htype := h.type_eq ho
  rw [typeOf, typeOf, object, object]
  cases hx : w.object? o with
  | none =>
    rw [hx, Option.map_none, Option.map_eq_none_iff] at htype
    rw [htype]
  | some x =>
    rw [hx, Option.map_some, Option.map_eq_some_iff] at htype
    obtain ⟨x', hx', htype⟩ := htype
    rw [hx', Option.getD_some, Option.getD_some, htype]

theorem Later.isAlive_eq (h : w.Later w₁) {o : ObjectId} (ho : o.index < w.heap.size) :
    w₁.isAlive o = w.isAlive o := by
  have htype := congrArg Option.isSome (h.type_eq ho)
  rw [Option.isSome_map, Option.isSome_map] at htype
  exact htype

theorem later_add (w : World) (x : Object) : w.Later (w.add x).2 := by
  refine ⟨Nat.le_of_lt (by rw [size_add]; exact Nat.lt_succ_self _), fun {o} ho => ?_⟩
  rw [object?_add_old w x ho]

theorem later_update (w : World) (o : ObjectId) {f : Object → Object}
    (hf : ∀ x, (f x).type = x.type) : w.Later (w.update o f) := by
  refine ⟨Nat.le_of_eq (size_update w o f).symm, fun {p} _ => ?_⟩
  rw [object?_update]
  split
  · rw [Option.map_map]
    exact congrArg (fun g => (w.object? p).map g) (funext hf)
  · rfl

end later

end World

end DynamicObjects
