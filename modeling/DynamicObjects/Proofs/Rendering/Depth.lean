import DynamicObjects.Proofs.Heap.Converted
import DynamicObjects.Proofs.Rendering.Guard
import Mathlib.Data.Finset.Card

/-! # The depth of a rendering

    Rendering cannot go on for ever, for a host that leaves arrays alone.

    The argument:
    1. Arrays stay what they are while something is shown: `World.Steady`.
    2. What is met is an object that existed at the start, or it has been made by a
       conversion; from the latter, lists lead back to the former after as many
       levels as the raw value goes deep: `World.Within`.
    3. Between two levels of the second kind an old array has joined the path, and
       there are as many of those as `World.unshown` counts. -/

namespace DynamicObjects

/-! ## Arrays stay -/

/-- The objects of a type show their elements in some form. -/
def TypeDescriptor.ShowsElements (T : TypeDescriptor) : Prop :=
  ∃ (form : TextForm) (slot : Slot), form.handler? T = some (slot, .rendering .array)

/-- They do, and in no form does the host show them. -/
def TypeDescriptor.IsArrayType (T : TypeDescriptor) : Prop :=
  T.ShowsElements ∧ ∀ (form : TextForm) (slot : Slot) (name : String),
    form.handler? T ≠ some (slot, .native name)

theorem isArrayType_array : TypeDescriptor.array.IsArrayType := by
  refine ⟨⟨.plain, .str, rfl⟩, ?_⟩
  rintro (_ | _) slot name h <;> cases h

namespace World

/-- From one world to the other no type has changed and no array. -/
structure Steady (w w' : World) : Prop where
  later : w.Later w'
  payload?_eq : ∀ {o : ObjectId}, o.index < w.heap.size → (w.typeOf o).IsArrayType →
    w'.payload? o = w.payload? o

variable {w w₁ w₂ : World}

protected theorem Steady.refl (w : World) : w.Steady w := ⟨.refl w, fun _ _ => rfl⟩

theorem Steady.trans (h₁ : w.Steady w₁) (h₂ : w₁.Steady w₂) : w.Steady w₂ where
  later := h₁.later.trans h₂.later
  payload?_eq {o} ho htype := by
    have htype₁ : (w₁.typeOf o).IsArrayType := by rwa [h₁.later.typeOf_eq ho]
    rw [h₂.payload?_eq (Nat.lt_of_lt_of_le ho h₁.later.size_le) htype₁, h₁.payload?_eq ho htype]

theorem Builds.steady {given : Value → Prop} (h : Builds w.heap.size given w w₁) :
    w.Steady w₁ where
  later := h.later
  payload?_eq ho _ := (h.grows (Nat.le_refl _)).property?_eq ho _

theorem steady_toObject (w : World) (v : Value) : w.Steady (w.toObject v).2 := by
  have h : Builds w.heap.size (fun _ => True) w (w.toObject v).2 :=
    toObject_builds v (Nat.le_refl _) fun _ _ => trivial
  exact h.steady

/-- A write to a property is steady, unless it replaces the elements of an array. -/
theorem steady_setProperty {o : ObjectId} {name : String}
    (h : name ≠ payloadName ∨ ¬ (w.typeOf o).IsArrayType) (v : Value) :
    w.Steady (w.setProperty o name v) where
  later := later_update w o fun _ => rfl
  payload?_eq {p} _ htype := by
    by_cases hp : p = o
    · subst hp
      exact property?_setProperty_ne w p (h.resolve_right fun hno => hno htype).symm v
    · exact property?_setProperty_other w hp name payloadName v

end World

/-- A run comes to an end, and leaves types and arrays alone. -/
def Run.EndsSteadily {α : Type} (r : Run α) (w : World) : Prop :=
  (∃ a w', r w = .done a w' ∧ w.Steady w') ∨ ∃ f w', r w = .raised f w' ∧ w.Steady w'

/-- A host **leaves arrays alone** if its handlers do, when they show an object. -/
def Natives.LeaveArrays (natives : Natives) : Prop :=
  ∀ {form : TextForm} {w : World} {this : ObjectId} {slot : Slot} {name : String},
    form.handler? (w.typeOf this) = some (slot, .native name) →
      (natives name this []).EndsSteadily w

theorem Run.EndsSteadily.ne_diverged {α : Type} {r : Run α} {w : World} (h : r.EndsSteadily w) :
    r w ≠ .diverged := by
  rcases h with ⟨a, w', hr, -⟩ | ⟨f, w', hr, -⟩ <;> simp [hr]

theorem Natives.LeaveArrays.change {natives : Natives} (h : natives.LeaveArrays) :
    natives.Change World.Steady where
  refl := .refl
  trans := .trans
  convert := World.steady_toObject
  native hhandler hend := by
    rcases h hhandler with ⟨a, w', hr, hsteady⟩ | ⟨f, w', hr, hsteady⟩ <;>
      rcases hend with ⟨b, hb⟩ | ⟨g, hg⟩ <;> simp_all

/-! ## What is met -/

namespace World

/-- An object that has been made since there were `n` objects, as far as it shows
    elements, has those that existed then **within** some levels of lists. -/
inductive Within (n : Nat) (w : World) : Nat → ObjectId → Prop where
  | old {levels : Nat} {o : ObjectId} (h : o.index < n) : Within n w levels o
  | alone {levels : Nat} {o : ObjectId} (hlt : o.index < w.heap.size)
      (h : ¬ (w.typeOf o).ShowsElements) : Within n w levels o
  | array {levels : Nat} {o : ObjectId} {os : List ObjectId} (hlt : o.index < w.heap.size)
      (htype : w.typeOf o = .array) (hpayload : w.payload? o = some (.list (os.map .object)))
      (hos : ∀ p ∈ os, Within n w levels p) : Within n w (levels + 1) o

variable {n : Nat} {w w' : World}

theorem Within.mono {levels levels' : Nat} {o : ObjectId} (h : w.Within n levels o)
    (hle : levels ≤ levels') : w.Within n levels' o := by
  induction h generalizing levels' with
  | old h => exact .old h
  | alone hlt h => exact .alone hlt h
  | @array levels o os hlt htype hpayload _ ih =>
    obtain ⟨levels', rfl⟩ : ∃ k, levels' = k + 1 := ⟨levels' - 1, by omega⟩
    exact .array hlt htype hpayload fun p hp => ih p hp (by omega)

theorem Within.steady {levels : Nat} {o : ObjectId} (h : w.Within n levels o)
    (hsteady : w.Steady w') : w'.Within n levels o := by
  induction h with
  | old h => exact .old h
  | alone hlt h =>
    refine .alone (Nat.lt_of_lt_of_le hlt hsteady.later.size_le) ?_
    rwa [hsteady.later.typeOf_eq hlt]
  | array hlt htype hpayload _ ih =>
    refine .array (Nat.lt_of_lt_of_le hlt hsteady.later.size_le) ?_ ?_ ih
    · rw [hsteady.later.typeOf_eq hlt, htype]
    · rw [hsteady.payload?_eq hlt (htype ▸ isArrayType_array), hpayload]

/-- Of what is made in a conversion, only arrays show elements. -/
theorem not_showsElements_of_typeFor? {v : Value} {T : TypeDescriptor} (h : typeFor? v = some T)
    (hlist : ∀ items, v ≠ .list items) : ¬ T.ShowsElements := by
  rintro ⟨form, slot, hhandler⟩
  cases v with
  | list items => exact hlist items rfl
  | null | bool _ | object _ => cases h
  | int _ | float _ | complex _ | text _ | function _ | dict _ | foreign _ =>
    obtain rfl := Option.some.inj h
    cases form <;> cases hhandler

/-- Only a list adds a level: what becomes of any other value is old, or it shows no
    elements. -/
theorem within_of_not_list (hsingletons : ∀ s ∈ singletons, s.index < n) {levels : Nat}
    {o : ObjectId} {v : Value} (hlist : ∀ items, v ≠ .list items)
    (hv : ∀ p ∈ v.references, p.index < n) (ho : w.IsConversion n o v) : w.Within n levels o := by
  cases v with
  | null => exact .old (ho ▸ hsingletons nullObject (by decide))
  | bool b => exact .old (ho ▸ hsingletons (boolObject b) (by cases b <;> decide))
  | object p => exact .old (ho ▸ hv p (by simp [Value.references]))
  | list items => exact absurd rfl (hlist items)
  | _ =>
    obtain ⟨-, htype, hpayload⟩ := ho
    exact .alone (index_lt_of_property?_eq_some hpayload)
      (not_showsElements_of_typeFor? htype hlist)

mutual

/-- What a value becomes has old objects within as many levels as it has nodes. -/
theorem within_of_isConversion (hsingletons : ∀ s ∈ singletons, s.index < n) {o : ObjectId}
    (v : Value) (hv : ∀ p ∈ v.references, p.index < n) (ho : w.IsConversion n o v) :
    w.Within n v.size o := by
  match v with
  | .null | .bool _ | .object _ | .int _ | .float _ | .complex _ | .text _ | .function _
  | .dict _ | .foreign _ => exact within_of_not_list hsingletons (by simp) hv ho
  | .list items =>
    rw [IsConversion] at ho
    obtain ⟨-, htype, os, hpayload, hos⟩ := ho
    rw [Value.references] at hv
    exact .array (index_lt_of_property?_eq_some hpayload) htype hpayload
      (within_of_areConversions hsingletons items hv hos)

theorem within_of_areConversions (hsingletons : ∀ s ∈ singletons, s.index < n)
    {os : List ObjectId} (items : List Value)
    (hitems : ∀ p ∈ Value.referencesList items, p.index < n) (hos : w.AreConversions n os items) :
    ∀ o ∈ os, w.Within n (Value.sizeList items) o := by
  match items with
  | [] =>
    obtain rfl : os = [] := hos
    exact fun _ h => absurd h List.not_mem_nil
  | v :: rest =>
    rw [AreConversions] at hos
    obtain ⟨o, os', rfl, hfirst, hrest⟩ := hos
    simp only [Value.referencesList, List.mem_append] at hitems
    intro p hp
    rw [Value.sizeList]
    rcases List.mem_cons.mp hp with rfl | hp
    · -- The bound of a list is the sum of those of its items, so each item is within it.
      exact (within_of_isConversion hsingletons v (fun p hp => hitems p (.inl hp)) hfirst).mono
        (by omega)
    · exact (within_of_areConversions hsingletons rest (fun p hp => hitems p (.inr hp)) hrest p
        hp).mono (by omega)

end

/-! ## Old arrays -/

/-- Among `n` old objects all arrays hold values of limited size, which refer to old
    objects only. -/
structure Bounded (n limit : Nat) (w : World) : Prop where
  size_le : n ≤ w.heap.size
  singletons : ∀ s ∈ World.singletons, s.index < n
  isArrayType : ∀ {o : ObjectId}, o.index < n → (w.typeOf o).ShowsElements →
    (w.typeOf o).IsArrayType
  items : ∀ {o : ObjectId} {items : List Value}, o.index < n → (w.typeOf o).ShowsElements →
    w.items o = .ok items → ∀ v ∈ items, v.size ≤ limit ∧ ∀ p ∈ v.references, p.index < n

variable {limit : Nat}

theorem Bounded.steady (h : w.Bounded n limit) (hsteady : w.Steady w') : w'.Bounded n limit := by
  have htype : ∀ {o : ObjectId}, o.index < n → w'.typeOf o = w.typeOf o :=
    fun ho => hsteady.later.typeOf_eq (Nat.lt_of_lt_of_le ho h.size_le)
  refine ⟨Nat.le_trans h.size_le hsteady.later.size_le, h.singletons, fun ho => ?_, ?_⟩
  · rw [htype ho]
    exact h.isArrayType ho
  · intro o items ho hshows hitems
    rw [htype ho] at hshows
    have hpayload := hsteady.payload?_eq (Nat.lt_of_lt_of_le ho h.size_le)
      (h.isArrayType ho hshows)
    rw [World.items, hpayload] at hitems
    exact h.items ho hshows hitems

/-- The elements of what is met, when they are shown in a later world: an old object
    may have `limit` levels of lists again, and of a new one there is one level
    less. -/
theorem Within.elements {levels : Nat} {o : ObjectId} {items : List Value}
    (h : w.Within n levels o) (hbounded : w.Bounded n limit)
    (hshows : (w.typeOf o).ShowsElements) (hitems : w.items o = .ok items) :
    ∃ levels', (o.index < n ∧ levels' = limit ∨ levels = levels' + 1) ∧
      ∀ v ∈ items, ∀ {w'}, w.Steady w' →
        (w'.toObject v).2.Within n levels' (w'.toObject v).1 := by
  cases h with
  | old ho =>
    -- Its elements are converted when they are shown, from values of limited size.
    refine ⟨limit, .inl ⟨ho, rfl⟩, fun v hv w' hsteady => ?_⟩
    obtain ⟨hsize, hreferences⟩ := hbounded.items ho hshows hitems v hv
    have hconversion : (w'.toObject v).2.IsConversion n (w'.toObject v).1 v :=
      toObject_isConversion v (hbounded.steady hsteady).size_le
    exact (within_of_isConversion hbounded.singletons v hreferences hconversion).mono hsize
  | alone _ h => exact absurd hshows h
  | @array levels _ os hlt htype hpayload hos =>
    refine ⟨levels, .inr rfl, fun v hv w' hsteady => ?_⟩
    rw [World.items, hpayload] at hitems
    obtain rfl := Except.ok.inj hitems
    obtain ⟨p, hp, rfl⟩ := List.mem_map.mp hv
    exact (hos p hp).steady hsteady

/-- The number of old objects that are not on a path. -/
def unshown (n : Nat) (path : List ObjectId) : Nat :=
  ((Finset.range n).filter fun i => (⟨i⟩ : ObjectId) ∉ path).card

theorem unshown_cons_le (n : Nat) (o : ObjectId) (path : List ObjectId) :
    unshown n (o :: path) ≤ unshown n path := by
  refine Finset.card_le_card fun i hi => ?_
  simp only [Finset.mem_filter, List.mem_cons, not_or] at hi ⊢
  exact ⟨hi.1, hi.2.2⟩

theorem unshown_cons_lt {o : ObjectId} {path : List ObjectId} (hlt : o.index < n)
    (ho : o ∉ path) : unshown n (o :: path) < unshown n path := by
  refine Finset.card_lt_card (Finset.ssubset_iff_subset_ne.mpr ⟨fun i hi => ?_, fun heq => ?_⟩)
  · simp only [Finset.mem_filter, List.mem_cons, not_or] at hi ⊢
    exact ⟨hi.1, hi.2.2⟩
  · have hmem : o.index ∈ (Finset.range n).filter fun i => (⟨i⟩ : ObjectId) ∉ path := by
      simp [hlt, ho]
    rw [← heq] at hmem
    simp at hmem

/-! ## Closed worlds -/

/-- The arrays of a world are **closed**: they are shown by their elements only, and
    these refer to objects that exist, as the singletons do. -/
structure ArraysClosed (w : World) : Prop where
  singletons : ∀ s ∈ World.singletons, s.index < w.heap.size
  isArrayType : ∀ {o : ObjectId}, (w.typeOf o).ShowsElements → (w.typeOf o).IsArrayType
  references : ∀ {o : ObjectId} {items : List Value}, (w.typeOf o).ShowsElements →
    w.items o = .ok items → ∀ v ∈ items, ∀ p ∈ v.references, p.index < w.heap.size

/-- No value in a property has more nodes than all together. -/
theorem size_le_weight {w : World} {o : ObjectId} {name : String} {v : Value}
    (h : w.property? o name = some v) : v.size ≤ w.weight := by
  obtain ⟨x, hx, hv⟩ := object?_of_property?_eq_some h
  have hslot : some x ∈ w.heap.toList := by
    rw [object?, Option.join_eq_some_iff] at hx
    exact Array.mem_toList_iff.mpr (Array.mem_of_getElem? hx)
  rw [← Value.length_nodes, ← length_nodes]
  have hobject : v.nodes.Sublist x.nodes := List.sublist_flatten_of_mem
    (List.mem_map_of_mem (f := fun entry => entry.2.nodes) (Bindings.mem_of_get?_eq_some hv))
  have hworld : x.nodes.Sublist w.nodes := List.sublist_flatten_of_mem
    (List.mem_map_of_mem (f := fun slot => (slot.map Object.nodes).getD []) hslot)
  exact (hobject.trans hworld).length_le

/-- The depth of a rendering suffices while no array is being shown yet. -/
theorem lt_renderingDepth (w : World) (v : Value) :
    unshown w.heap.size [] * (w.weight + 2) + v.size < w.renderingDepth v := by
  have hunshown : unshown w.heap.size [] ≤ w.heap.size :=
    (Finset.card_filter_le _ _).trans_eq (Finset.card_range _)
  have hle := Nat.mul_le_mul hunshown (show w.weight + 2 ≤ w.weight + v.size + 2 by omega)
  rw [renderingDepth, Nat.add_mul]
  omega

theorem payload?_of_items {w : World} {o : ObjectId} {items : List Value}
    (h : w.items o = .ok items) : w.payload? o = some (.list items) := by
  rw [World.items] at h
  split at h
  · next hpayload => rw [hpayload, Except.ok.inj h]
  · cases h

theorem ArraysClosed.bounded {w : World} (h : w.ArraysClosed) :
    w.Bounded w.heap.size w.weight where
  size_le := Nat.le_refl _
  singletons := h.singletons
  isArrayType _ := h.isArrayType
  items {o items} _ hshows hitems v hv := by
    refine ⟨?_, h.references hshows hitems v hv⟩
    exact Nat.le_of_lt (Nat.lt_of_lt_of_le (Value.IsElement.list hv).size_lt
      (size_le_weight (payload?_of_items hitems)))

end World

end DynamicObjects
