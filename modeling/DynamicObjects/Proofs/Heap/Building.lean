import DynamicObjects.Conversion
import DynamicObjects.Proofs.Heap.Nodes
import DynamicObjects.Proofs.Heap.Objects

/-! # Building new objects

    All that a conversion or an allocation does is to add objects and to write
    properties of the objects it has added: `World.Builds` lists these steps.
    Whatever a world is said to keep while something is built is an induction
    over them, and that a function of the model builds is shown once.

    Main results:
    - `World.Builds.grows`: existing objects stay exactly as they are
    - `World.toObject_builds`, `World.toEntries_builds`: conversions build -/

namespace DynamicObjects

/-- A function is a **method of a new object** if it is bound to it and its type
    has the method. -/
def Function.IsMethod (start : Nat) (w : World) (f : Function) : Prop :=
  ∃ receiver qualifiedName body name, f.body = .bound receiver qualifiedName body ∧
    start ≤ receiver.index ∧ receiver.index < w.heap.size ∧
    (name, Method.native body) ∈ (w.typeOf receiver).methods

namespace World

/-- What may be stored while objects are built: what is given, references,
    lists, and the methods of new objects. -/
inductive Admits (start : Nat) (given : Value → Prop) (w : World) : Value → Prop where
  | given {u : Value} (h : given u) : Admits start given w u
  | object (o : ObjectId) : Admits start given w (.object o)
  | list (items : List Value) : Admits start given w (.list items)
  | method {f : Function} (h : f.IsMethod start w) : Admits start given w (.function f)

/-- Steps that build objects from place `start` on. -/
inductive Builds (start : Nat) (given : Value → Prop) : World → World → Prop where
  | refl (w : World) : Builds start given w w
  | ident {w w' : World} (h : Builds start given w w') : Builds start given w w'.freshIdent.2
  | add {w w' : World} (h : Builds start given w w') (T : TypeDescriptor) :
      Builds start given w (w'.add (.bare T)).2
  | set {w w' : World} (h : Builds start given w w') {o : ObjectId} (hnew : start ≤ o.index)
      (name : String) {v : Value} (hv : ∀ u ∈ v.nodes, w'.Admits start given u) :
      Builds start given w (w'.setProperty o name v)

namespace Builds

variable {start : Nat} {given : Value → Prop} {w w₁ w₂ : World}

theorem trans (h₁ : Builds start given w w₁) (h₂ : Builds start given w₁ w₂) :
    Builds start given w w₂ := by
  induction h₂ with
  | refl => exact h₁
  | ident _ ih => exact ih.ident
  | add _ T ih => exact ih.add T
  | set _ hnew name hv ih => exact ih.set hnew name hv

end Builds

/-! ## Growth -/

/-- A world **grows** if its objects stay as they are, apart from new ones. -/
structure Grows (w w' : World) : Prop where
  size_le : w.heap.size ≤ w'.heap.size
  object?_eq : ∀ {o : ObjectId}, o.index < w.heap.size → w'.object? o = w.object? o
  declared_eq : w'.declared = w.declared

namespace Grows

variable {w w₁ w₂ : World}

protected theorem refl (w : World) : w.Grows w := ⟨Nat.le_refl _, fun _ => rfl, rfl⟩

theorem trans (h₁ : w.Grows w₁) (h₂ : w₁.Grows w₂) : w.Grows w₂ where
  size_le := Nat.le_trans h₁.size_le h₂.size_le
  object?_eq ho := (h₂.object?_eq (Nat.lt_of_lt_of_le ho h₁.size_le)).trans (h₁.object?_eq ho)
  declared_eq := h₂.declared_eq.trans h₁.declared_eq

theorem object_eq (h : w.Grows w₁) {o : ObjectId} (ho : o.index < w.heap.size) :
    w₁.object o = w.object o := by
  rw [object, object, h.object?_eq ho]

theorem property?_eq (h : w.Grows w₁) {o : ObjectId} (ho : o.index < w.heap.size)
    (name : String) : w₁.property? o name = w.property? o name := by
  rw [property?, property?, h.object_eq ho]

/-- What a value unwraps to stays the same, unless that is an object. -/
theorem unwrap_eq (h : w.Grows w₁) {v u : Value} (hu : w.unwrap v = u)
    (hraw : ∀ o, u ≠ .object o) : w₁.unwrap v = u := by
  cases v with
  | object o =>
    rw [unwrap] at hu ⊢
    cases hpayload : w.payload? o with
    | none =>
      rw [hpayload] at hu
      exact absurd hu.symm (hraw o)
    | some u' =>
      have ho : o.index < w.heap.size := index_lt_of_property?_eq_some hpayload
      rw [payload?, h.property?_eq ho, ← payload?, hu]
  | _ => exact hu

end Grows

/-- **Objects stay while others are built**. -/
theorem Builds.grows {start : Nat} {given : Value → Prop} {w w' : World}
    (h : Builds start given w w') (hstart : w.heap.size ≤ start) : w.Grows w' := by
  induction h with
  | refl => exact Grows.refl _
  | ident _ ih => exact ih.trans ⟨Nat.le_refl _, fun _ => rfl, rfl⟩
  | @add w' _ T ih =>
    refine ih.trans ⟨?_, fun ho => object?_add_old _ _ ho, rfl⟩
    rw [size_add]
    omega
  | @set w' _ o hnew name v hv ih =>
    have hsize : (w'.setProperty o name v).heap.size = w'.heap.size := size_setProperty w' o name v
    have hle := ih.size_le
    refine ⟨by omega, fun {p} hp => ?_, ih.declared_eq⟩
    -- What is written is new, so it is not the object in question.
    have hne : p ≠ o := by
      intro heq
      rw [heq] at hp
      omega
    rw [setProperty, object?_update_ne _ hne]
    exact ih.object?_eq hp

/-- No step of building takes an object away or changes its type, be it new. -/
theorem Builds.later {start : Nat} {given : Value → Prop} {w w' : World}
    (h : Builds start given w w') : w.Later w' := by
  induction h with
  | refl => exact .refl w
  | ident _ ih => exact ih.trans ⟨Nat.le_refl _, fun _ => rfl⟩
  | add _ T ih => exact ih.trans (later_add _ _)
  | set _ hnew name hv ih => exact ih.trans (later_update _ _ fun _ => rfl)

/-! ## Flags -/

/-- No object is under construction. -/
def Settled (w : World) : Prop := ∀ o, (w.object o).underConstruction = false

/-- New objects are not under construction, and all others are if they were. -/
theorem Builds.underConstruction_eq {start : Nat} {given : Value → Prop} {w w' : World}
    (h : Builds start given w w') (o : ObjectId) :
    (w'.object o).underConstruction = (w.object o).underConstruction := by
  induction h with
  | refl => rfl
  | ident _ ih => exact ih
  | @add w' _ T ih =>
    rw [← ih, object, object, object?_add]
    split
    · next hnext =>
      -- Before, there was nothing at this place, which counts as not under construction.
      rw [object?_eq_none_of_size_le (Nat.le_of_eq hnext.symm)]
      rfl
    · rfl
  | @set w' _ p hnew name v hv ih =>
    rw [← ih, object, object, setProperty, object?_update]
    split
    · cases w'.object? o <;> rfl
    · rfl

theorem Builds.settled {start : Nat} {given : Value → Prop} {w w' : World}
    (h : Builds start given w w') (hw : w.Settled) : w'.Settled :=
  fun o => (h.underConstruction_eq o).trans (hw o)

theorem settled_initial : initial.Settled := by
  rintro ⟨_ | _ | _ | i⟩ <;> rfl

/-! ## Methods and allocation -/

/-- An object may be given its first property as soon as it is added. -/
theorem add_setProperty (w : World) (T : TypeDescriptor) (name : String) (v : Value) :
    w.add ((Object.bare T).setProperty name v) =
      (⟨w.heap.size⟩, (w.add (.bare T)).2.setProperty ⟨w.heap.size⟩ name v) := by
  have hheap : w.heap.push (some ((Object.bare T).setProperty name v)) =
      (w.heap.push (some (.bare T))).modify w.heap.size
        (Option.map fun x => x.setProperty name v) := by
    apply Array.ext_getElem?
    intro i
    rw [Array.getElem?_modify, Array.getElem?_push, Array.getElem?_push]
    by_cases hi : i = w.heap.size
    · simp [hi]
    · simp [hi, Ne.symm hi]
  rw [add, hheap]
  rfl

section building
variable {start : Nat} {given : Value → Prop}

/-- A method is installed on a new object by adding its function object. -/
theorem install_builds {w : World} {receiver : ObjectId} {typeName : String}
    {entry : String × Method} (hnew : start ≤ receiver.index)
    (hlt : receiver.index < w.heap.size) (hmethod : entry ∈ (w.typeOf receiver).methods) :
    Builds start given w (w.install receiver typeName entry) := by
  have hobject : ∀ (w : World) (o : ObjectId), ∀ u ∈ (Value.object o).nodes,
      w.Admits start given u := by
    intro w o u hu
    obtain rfl := List.mem_singleton.mp hu
    exact .object o
  obtain ⟨name, method⟩ := entry
  cases method with
  | shared callable => exact (Builds.refl w).set hnew name (hobject w callable)
  | native body =>
    -- An identity, a function object, its payload, and the property of the receiver.
    have hadd : Builds start given w (w.freshIdent.2.add (.bare .function)).2 :=
      (Builds.refl w).ident.add .function
    simp only [install, add_setProperty]
    refine (hadd.set ?_ payloadName ?_).set hnew name (hobject _ _)
    · exact Nat.le_trans hnew (Nat.le_of_lt hlt)
    · intro u hu
      obtain rfl := List.mem_singleton.mp hu
      refine .method ⟨receiver, _, body, name, rfl, hnew, ?_, ?_⟩
      · exact Nat.lt_of_lt_of_le hlt hadd.later.size_le
      · rw [hadd.later.typeOf_eq hlt]
        exact hmethod

theorem install_all_builds {w : World} {receiver : ObjectId} {typeName : String}
    {methods : Bindings Method} (hnew : start ≤ receiver.index)
    (hlt : receiver.index < w.heap.size) (hmethods : methods ⊆ (w.typeOf receiver).methods) :
    Builds start given w (methods.foldl (install receiver typeName) w) := by
  induction methods generalizing w with
  | nil => exact .refl w
  | cons entry rest ih =>
    have hfirst : Builds start given w (w.install receiver typeName entry) :=
      install_builds hnew hlt (hmethods List.mem_cons_self)
    refine hfirst.trans (ih (Nat.lt_of_lt_of_le hlt hfirst.later.size_le) ?_)
    rw [hfirst.later.typeOf_eq hlt]
    exact fun entry h => hmethods (List.mem_cons_of_mem _ h)

@[simp] theorem allocate_fst (w : World) (T : TypeDescriptor) :
    (w.allocate T).1 = ⟨w.heap.size⟩ := rfl

/-- An allocation adds one object and installs the methods of its type. -/
theorem allocate_builds_methods {w : World} (T : TypeDescriptor) (hstart : start ≤ w.heap.size) :
    Builds start given (w.add (.bare T)).2 (w.allocate T).2 := by
  have hlt : w.heap.size < (w.add (.bare T)).2.heap.size := by
    rw [size_add]
    omega
  -- The methods are those of the type, since the new object has it already.
  have htype : (w.add (.bare T)).2.typeOf ⟨w.heap.size⟩ = T := by
    rw [typeOf, object, show (w.add (.bare T)).2.object? ⟨w.heap.size⟩ = some (.bare T) from
      object?_add_self w _]
    rfl
  refine install_all_builds hstart hlt ?_
  rw [htype]
  exact List.Subset.refl _

theorem allocate_builds {w : World} (T : TypeDescriptor) (hstart : start ≤ w.heap.size) :
    Builds start given w (w.allocate T).2 :=
  ((Builds.refl w).add T).trans (allocate_builds_methods T hstart)

theorem settled_allocate {w : World} (T : TypeDescriptor) (hw : w.Settled) :
    (w.allocate T).2.Settled := by
  have h : Builds w.heap.size (fun _ => True) w (w.allocate T).2 :=
    allocate_builds T (Nat.le_refl _)
  exact h.settled hw

theorem size_lt_allocate (w : World) (T : TypeDescriptor) :
    w.heap.size < (w.allocate T).2.heap.size := by
  have h : Builds w.heap.size (fun _ => True) (w.add (.bare T)).2 (w.allocate T).2 :=
    allocate_builds_methods T (Nat.le_refl _)
  have hle := h.later.size_le
  rw [size_add] at hle
  exact hle

/-- A new object has the type it was made from. -/
theorem allocate_type (w : World) (T : TypeDescriptor) :
    ((w.allocate T).2.object? ⟨w.heap.size⟩).map Object.type = some T := by
  have h : Builds w.heap.size (fun _ => True) (w.add (.bare T)).2 (w.allocate T).2 :=
    allocate_builds_methods T (Nat.le_refl _)
  have hkept := h.later.type_eq (o := ⟨w.heap.size⟩) (by rw [size_add]; exact Nat.lt_succ_self _)
  rw [show (w.add (.bare T)).2.object? ⟨w.heap.size⟩ = some (.bare T) from
    object?_add_self w _] at hkept
  exact hkept

/-! ## Conversions -/

theorem box_builds {w : World} (T : TypeDescriptor) {v : Value} (hstart : start ≤ w.heap.size)
    (hv : ∀ u ∈ v.nodes, given u) : Builds start given w (w.box T v).2 :=
  (allocate_builds T hstart).set hstart payloadName (fun u hu => .given (hv u hu))

theorem toObject_list (w : World) (items : List Value) :
    w.toObject (.list items) =
      (⟨w.heap.size⟩, ((w.allocate .array).2.toObjects items).2.setPayload ⟨w.heap.size⟩
        (.list ((w.allocate .array).2.toObjects items).1)) := by
  rw [toObject]
  rfl

/-- The elements of a converted list are references. -/
theorem toObjects_eq_map (w : World) (items : List Value) :
    ∃ os : List ObjectId, (w.toObjects items).1 = os.map Value.object := by
  induction items generalizing w with
  | nil => exact ⟨[], rfl⟩
  | cons v rest ih =>
    obtain ⟨os, hos⟩ := ih (w.toObject v).2
    refine ⟨(w.toObject v).1 :: os, ?_⟩
    rw [toObjects, List.map_cons, ← hos]

/-- A list of references has no nodes but itself and them. -/
theorem admits_list {w : World} {os : List ObjectId} :
    ∀ u ∈ (Value.list (os.map Value.object)).nodes, w.Admits start given u := by
  intro u hu
  rw [Value.nodes] at hu
  rcases List.mem_cons.mp hu with rfl | hu
  · exact .list _
  · obtain ⟨v, hv, hu⟩ := Value.mem_nodesList.mp hu
    obtain ⟨o, -, rfl⟩ := List.mem_map.mp hv
    obtain rfl := List.mem_singleton.mp hu
    exact .object o

mutual

/-- **A conversion builds**: it adds objects and writes to no other. -/
theorem toObject_builds {w : World} (v : Value) (hstart : start ≤ w.heap.size)
    (hv : ∀ u ∈ v.nodes, given u) : Builds start given w (w.toObject v).2 := by
  match v with
  | .null | .bool _ | .object _ => exact .refl w
  | .int _ | .float _ | .complex _ | .text _ | .function _ | .dict _ | .foreign _ =>
    exact box_builds _ hstart hv
  | .list items =>
    -- The array comes first, then its elements, and its payload last.
    have hlt := w.size_lt_allocate .array
    have hitems : Builds start given (w.allocate .array).2
        ((w.allocate .array).2.toObjects items).2 := by
      apply toObjects_builds items (Nat.le_trans hstart (Nat.le_of_lt hlt))
      intro v hv' u hu
      apply hv
      rw [Value.nodes]
      exact List.mem_cons_of_mem _ (Value.mem_nodesList.mpr ⟨v, hv', hu⟩)
    obtain ⟨os, hos⟩ := toObjects_eq_map (w.allocate .array).2 items
    rw [toObject_list]
    refine ((allocate_builds .array hstart).trans hitems).set hstart payloadName ?_
    rw [hos]
    exact admits_list

/-- The conversion of the elements of a list builds. -/
theorem toObjects_builds {w : World} (items : List Value) (hstart : start ≤ w.heap.size)
    (hitems : ∀ v ∈ items, ∀ u ∈ v.nodes, given u) :
    Builds start given w (w.toObjects items).2 := by
  match items with
  | [] => exact .refl w
  | v :: rest =>
    have hfirst : Builds start given w (w.toObject v).2 :=
      toObject_builds v hstart (hitems v List.mem_cons_self)
    rw [toObjects]
    refine hfirst.trans (toObjects_builds rest ?_ fun v hv => hitems v (List.mem_cons_of_mem _ hv))
    exact Nat.le_trans hstart hfirst.later.size_le

end

theorem toEntries_builds {w : World} {entries : Bindings Value} (hstart : start ≤ w.heap.size)
    (hentries : ∀ entry ∈ entries, ∀ u ∈ entry.2.nodes, given u) :
    Builds start given w (w.toEntries entries).2 := by
  induction entries generalizing w with
  | nil => exact .refl w
  | cons entry rest ih =>
    have hfirst : Builds start given w (w.toObject entry.2).2 :=
      toObject_builds entry.2 hstart (hentries entry List.mem_cons_self)
    refine hfirst.trans (ih ?_ fun entry h => hentries entry (List.mem_cons_of_mem _ h))
    exact Nat.le_trans hstart hfirst.later.size_le

end building

end World

end DynamicObjects
