import DynamicObjects.Proofs.Heap.Building

/-! # Worlds side by side

    Two worlds are side by side if they have the same objects, apart from some
    places that are vacant in the first of them, and apart from the types that
    are declared.  Nothing in the first world refers to these places, so what
    starts from it finds the same objects in both, and what it changes or adds
    is changed and added in both alike.

    Main results:
    - `World.Beside.update`, `World.Beside.add`: worlds stay side by side
    - `World.Beside.toObject`: a conversion makes the same object in both -/

namespace DynamicObjects

/-- A choice of objects. -/
abbrev Places := ObjectId → Prop

/-- What is set **apart**: the objects in some places, and some identities of
    types. -/
structure Apart where
  objects : Places
  idents : Nat → Prop

/-! ## Values within some objects -/

namespace Value

/-- A node is **within** some objects if it refers to one of them, is a method
    bound to one of them, or has nothing to do with objects. -/
def IsWithin (K : Places) : Value → Prop
  | .object o => K o
  | .function f => ∀ receiver qualifiedName method,
      f.body = .bound receiver qualifiedName method → K receiver
  | _ => True

/-- All nodes of a value are within some objects. -/
def Within (K : Places) (v : Value) : Prop := ∀ u ∈ v.nodes, u.IsWithin K

variable {K K' : Places}

@[simp] theorem within_null : Within K .null := by simp [Within, nodes, IsWithin]

@[simp] theorem within_bool (b : Bool) : Within K (.bool b) := by simp [Within, nodes, IsWithin]

@[simp] theorem within_int (n : Int64) : Within K (.int n) := by simp [Within, nodes, IsWithin]

@[simp] theorem within_float (x : Binary64) : Within K (.float x) := by
  simp [Within, nodes, IsWithin]

@[simp] theorem within_complex (z : Complex) : Within K (.complex z) := by
  simp [Within, nodes, IsWithin]

@[simp] theorem within_text (s : String) : Within K (.text s) := by simp [Within, nodes, IsWithin]

@[simp] theorem within_object {o : ObjectId} : Within K (.object o) ↔ K o := by
  simp [Within, nodes, IsWithin]

theorem within_function {f : Function} :
    Within K (.function f) ↔ ∀ receiver qualifiedName method,
      f.body = .bound receiver qualifiedName method → K receiver := by
  simp [Within, nodes, IsWithin]

theorem within_list {items : List Value} :
    Within K (.list items) ↔ ∀ v ∈ items, v.Within K := by
  simp only [Within, nodes, List.forall_mem_cons, mem_nodesList, IsWithin, true_and]
  exact ⟨fun h v hv u hu => h u ⟨v, hv, hu⟩, fun h u ⟨v, hv, hu⟩ => h v hv u hu⟩

theorem within_dict {entries : Bindings Value} :
    Within K (.dict entries) ↔ ∀ entry ∈ entries, entry.2.Within K := by
  simp only [Within, nodes, List.forall_mem_cons, mem_nodesEntries, IsWithin, true_and]
  exact ⟨fun h entry hentry u hu => h u ⟨entry, hentry, hu⟩,
    fun h u ⟨entry, hentry, hu⟩ => h entry hentry u hu⟩

theorem Within.mono {v : Value} (hv : v.Within K) (h : ∀ o, K o → K' o) : v.Within K' := by
  intro u hu
  have hnode := hv u hu
  cases u with
  | object o => exact h o hnode
  | function f => exact fun receiver name method hbody => h _ (hnode receiver name method hbody)
  | _ => trivial

end Value

/-! ## The relation -/

/-- The builtin types share no objects and take no identity of declared types. -/
theorem TypeDescriptor.builtins_share_nothing :
    ∀ T ∈ builtins, T.sharedMethods = [] ∧ T.ident = .builtin T.category := by decide

namespace World

/-- What a world has **outside** of what is set apart. -/
def Outside (S : Apart) (w : World) (o : ObjectId) : Prop :=
  o.index < w.heap.size ∧ ¬ S.objects o

/-- A value is **clear** of what is set apart if all objects it has to do with are
    in the world and outside. -/
abbrev Clear (S : Apart) (w : World) (v : Value) : Prop := v.Within (w.Outside S)

/-- All values of a list are clear. -/
abbrev ClearAll (S : Apart) (w : World) (items : List Value) : Prop := ∀ v ∈ items, w.Clear S v

/-- A type is clear if what it shares is outside, and its identity has been given
    out and is not set apart. -/
structure ClearType (S : Apart) (w : World) (T : TypeDescriptor) : Prop where
  shared : ∀ o ∈ T.sharedMethods, w.Outside S o
  ident : ∀ n, T.ident = .declared n → n < w.nextIdent ∧ ¬ S.idents n

/-- An object is clear if its type and its properties are. -/
structure ClearObject (S : Apart) (w : World) (x : Object) : Prop where
  type : w.ClearType S x.type
  properties : ∀ entry ∈ x.properties, w.Clear S entry.2

/-- An object is **confined** to what is set apart if it refers to nothing else but
    singletons, and if its type is builtin or one of a struct that is set apart. -/
structure ConfinedObject (S : Apart) (x : Object) : Prop where
  type : x.type ∈ TypeDescriptor.builtins ∨
    ∃ shape n, x.type = .struct shape (.declared n) ∧ S.idents n
  references : ∀ p ∈ x.references, S.objects p ∨ p ∈ singletons

/-- All objects that are set apart are confined. -/
def Confined (S : Apart) (w : World) : Prop :=
  ∀ ⦃o : ObjectId⦄ ⦃x : Object⦄, S.objects o → w.object? o = some x → ConfinedObject S x

/-- A world **beside** another one has the same objects outside of what is set
    apart, and the other one has none there and refers to none.  What is set
    apart is confined.  Both worlds may have declared any types. -/
structure Beside (S : Apart) (w w' : World) : Prop where
  /-- New objects go to the same places. -/
  size_eq : w'.heap.size = w.heap.size
  /-- New types and functions have the same identities. -/
  nextIdent_eq : w'.nextIdent = w.nextIdent
  object?_eq : ∀ {o : ObjectId}, ¬ S.objects o → w'.object? o = w.object? o
  clear : ∀ {o : ObjectId} {x : Object}, w.object? o = some x → w.ClearObject S x
  vacant : ∀ {o : ObjectId}, S.objects o → w.object? o = none
  confined : w'.Confined S
  /-- Nothing new is set apart. -/
  index_lt : ∀ {o : ObjectId}, S.objects o → o.index < w.heap.size
  ident_lt : ∀ {n : Nat}, S.idents n → n < w.nextIdent
  singletons : ∀ o ∈ singletons, w.Outside S o

/-- Two worlds side by side have come out of one that had no more places and had
    given out no more identities. -/
structure Onward (S : Apart) (w w₁ w₁' : World) : Prop where
  beside : w₁.Beside S w₁'
  size_le : w.heap.size ≤ w₁.heap.size
  nextIdent_le : w.nextIdent ≤ w₁.nextIdent

section relation
variable {S : Apart} {w w' w₁ w₁' w₂ w₂' : World} {o : ObjectId} {v : Value}

theorem Outside.mono (ho : w.Outside S o) (hle : w.heap.size ≤ w₁.heap.size) : w₁.Outside S o :=
  ⟨Nat.lt_of_lt_of_le ho.1 hle, ho.2⟩

theorem ClearType.mono {T : TypeDescriptor} (hT : w.ClearType S T)
    (hle : w.heap.size ≤ w₁.heap.size) (hident : w.nextIdent ≤ w₁.nextIdent) :
    w₁.ClearType S T :=
  ⟨fun o ho => (hT.shared o ho).mono hle,
    fun n hn => ⟨Nat.lt_of_lt_of_le (hT.ident n hn).1 hident, (hT.ident n hn).2⟩⟩

theorem ClearObject.mono {x : Object} (hx : w.ClearObject S x)
    (hle : w.heap.size ≤ w₁.heap.size) (hident : w.nextIdent ≤ w₁.nextIdent) :
    w₁.ClearObject S x :=
  ⟨hx.type.mono hle hident,
    fun entry hentry => (hx.properties entry hentry).mono fun _ ho => ho.mono hle⟩

theorem clearType_builtin {T : TypeDescriptor} (hT : T ∈ TypeDescriptor.builtins) :
    w.ClearType S T := by
  obtain ⟨hshared, hident⟩ := TypeDescriptor.builtins_share_nothing T hT
  constructor
  · intro o ho
    rw [hshared] at ho
    cases ho
  · intro n hn
    rw [hident] at hn
    cases hn

protected theorem Beside.refl (h : w.Beside S w') : w.Onward S w w' :=
  ⟨h, Nat.le_refl _, Nat.le_refl _⟩

theorem Onward.trans (h₁ : w.Onward S w₁ w₁') (h₂ : w₁.Onward S w₂ w₂') : w.Onward S w₂ w₂' :=
  ⟨h₂.beside, Nat.le_trans h₁.size_le h₂.size_le, Nat.le_trans h₁.nextIdent_le h₂.nextIdent_le⟩

theorem Onward.outside (h : w.Onward S w₁ w₁') (ho : w.Outside S o) : w₁.Outside S o :=
  ho.mono h.size_le

theorem Onward.clear (h : w.Onward S w₁ w₁') (hv : w.Clear S v) : w₁.Clear S v :=
  hv.mono fun _ ho => h.outside ho

theorem Onward.clearAll (h : w.Onward S w₁ w₁') {items : List Value}
    (hitems : w.ClearAll S items) : w₁.ClearAll S items :=
  fun v hv => h.clear (hitems v hv)

theorem Beside.nullObject (h : w.Beside S w') : w.Outside S nullObject :=
  h.singletons _ List.mem_cons_self

theorem Beside.boolObject (h : w.Beside S w') (b : Bool) : w.Outside S (boolObject b) := by
  cases b
  · exact h.singletons _ (by simp [World.singletons, World.boolObject])
  · exact h.singletons _ (by simp [World.singletons, World.boolObject])

/-! ## What is found -/

theorem Beside.object_eq (h : w.Beside S w') (ho : w.Outside S o) : w'.object o = w.object o := by
  rw [object, object, h.object?_eq ho.2]

theorem Beside.isAlive_eq (h : w.Beside S w') (ho : w.Outside S o) :
    w'.isAlive o = w.isAlive o := by
  rw [isAlive, isAlive, h.object?_eq ho.2]

theorem Beside.typeOf_eq (h : w.Beside S w') (ho : w.Outside S o) : w'.typeOf o = w.typeOf o := by
  rw [typeOf, typeOf, h.object_eq ho]

theorem Beside.typeName_eq (h : w.Beside S w') (ho : w.Outside S o) :
    w'.typeName o = w.typeName o := by
  rw [typeName, typeName, h.typeOf_eq ho]

theorem Beside.isInstanceOf_eq (h : w.Beside S w') (ho : w.Outside S o) (T : TypeDescriptor) :
    w'.isInstanceOf o T = w.isInstanceOf o T := by
  rw [isInstanceOf, isInstanceOf, h.typeOf_eq ho]

theorem Beside.property?_eq (h : w.Beside S w') (ho : w.Outside S o) (name : String) :
    w'.property? o name = w.property? o name := by
  rw [property?, property?, h.object_eq ho]

theorem Beside.payload?_eq (h : w.Beside S w') (ho : w.Outside S o) :
    w'.payload? o = w.payload? o :=
  h.property?_eq ho payloadName

theorem Beside.kindName_eq (h : w.Beside S w') (hv : w.Clear S v) :
    w'.kindName v = w.kindName v := by
  cases v with
  | object o => exact h.typeName_eq (Value.within_object.mp hv)
  | _ => rfl

theorem Beside.unwrap_eq (h : w.Beside S w') (hv : w.Clear S v) :
    w'.unwrap v = w.unwrap v := by
  cases v with
  | object o => rw [unwrap, unwrap, h.payload?_eq (Value.within_object.mp hv)]
  | _ => rfl

/-- What an object holds is within reach of the first world. -/
theorem Beside.clear_property (h : w.Beside S w') {name : String}
    (hproperty : w.property? o name = some v) : w.Clear S v := by
  obtain ⟨x, hx, hv⟩ := object?_of_property?_eq_some hproperty
  exact (h.clear hx).properties (name, v) (Bindings.mem_of_get?_eq_some hv)

theorem Beside.clear_unwrap (h : w.Beside S w') (hv : w.Clear S v) :
    w.Clear S (w.unwrap v) := by
  cases v with
  | object o =>
    rw [unwrap]
    cases hpayload : w.payload? o with
    | none => exact hv
    | some u => exact h.clear_property hpayload
  | _ => exact hv

theorem Beside.clear_typeOf (h : w.Beside S w') (o : ObjectId) : w.ClearType S (w.typeOf o) := by
  rw [typeOf, object]
  cases hx : w.object? o with
  | none =>
    refine ⟨fun _ ho => absurd ho List.not_mem_nil, fun _ hn => ?_⟩
    cases hn
  | some x => exact (h.clear hx).type

theorem Beside.clear_properties (h : w.Beside S w') (o : ObjectId) :
    ∀ entry ∈ (w.object o).properties, w.Clear S entry.2 := by
  rw [object]
  cases hx : w.object? o with
  | none => exact fun entry hentry => absurd hentry List.not_mem_nil
  | some x => exact (h.clear hx).properties

end relation

/-! ## Changes -/

section changes
variable {S : Apart} {w w' : World}

/-- A change of one object outside is made in both worlds alike. -/
theorem Beside.update (h : w.Beside S w') {o : ObjectId} (ho : w.Outside S o)
    {f : Object → Object} (hf : ∀ x, w.object? o = some x → w.ClearObject S (f x)) :
    w.Onward S (w.update o f) (w'.update o f) := by
  have hsize := Nat.le_of_eq (size_update w o f).symm
  -- The object that is changed is outside, so nothing that is set apart changes.
  have hne : ∀ {p}, S.objects p → p ≠ o := by
    rintro p hp rfl
    exact ho.2 hp
  refine ⟨?_, hsize, Nat.le_refl _⟩
  constructor
  case size_eq => rw [size_update, size_update, h.size_eq]
  case nextIdent_eq => exact h.nextIdent_eq
  case object?_eq =>
    intro p hp
    rw [object?_update, object?_update, h.object?_eq hp]
  case clear =>
    intro p x hx
    rw [object?_update] at hx
    split at hx
    · next hpo =>
      obtain ⟨y, hy, rfl⟩ := Option.map_eq_some_iff.mp hx
      exact (hf y (hpo ▸ hy)).mono hsize (Nat.le_refl _)
    · exact (h.clear hx).mono hsize (Nat.le_refl _)
  case vacant =>
    intro p hp
    rw [object?_update_ne w (hne hp), h.vacant hp]
  case confined =>
    intro p x hp hx
    rw [object?_update_ne w' (hne hp)] at hx
    exact h.confined hp hx
  case index_lt =>
    intro p hp
    rw [size_update]
    exact h.index_lt hp
  case ident_lt => exact h.ident_lt
  case singletons => exact fun p hp => (h.singletons p hp).mono hsize

theorem Beside.setProperties (h : w.Beside S w') {o : ObjectId} (ho : w.Outside S o)
    {entries : Bindings Value} (hentries : ∀ entry ∈ entries, w.Clear S entry.2) :
    w.Onward S (w.setProperties o entries) (w'.setProperties o entries) := by
  refine h.update ho fun x hx => ⟨(h.clear hx).type, fun entry hentry => ?_⟩
  rcases Bindings.mem_setAll hentry with hentry | hentry
  · exact hentries entry hentry
  · exact (h.clear hx).properties entry hentry

theorem Beside.setProperty (h : w.Beside S w') {o : ObjectId} (ho : w.Outside S o)
    (name : String) {v : Value} (hv : w.Clear S v) :
    w.Onward S (w.setProperty o name v) (w'.setProperty o name v) :=
  h.setProperties ho (List.forall_mem_singleton.mpr hv : ∀ entry ∈ [(name, v)], _)

theorem Beside.eraseProperty (h : w.Beside S w') {o : ObjectId} (ho : w.Outside S o)
    (name : String) : w.Onward S (w.eraseProperty o name) (w'.eraseProperty o name) :=
  h.update ho fun _ hx => ⟨(h.clear hx).type, fun entry hentry =>
    (h.clear hx).properties entry (List.mem_filter.mp hentry).1⟩

theorem Beside.setUnderConstruction (h : w.Beside S w') {o : ObjectId} (ho : w.Outside S o)
    (flag : Bool) :
    w.Onward S (w.setUnderConstruction o flag) (w'.setUnderConstruction o flag) :=
  h.update ho fun _ hx => ⟨(h.clear hx).type, (h.clear hx).properties⟩

theorem Beside.markInstance (h : w.Beside S w') {o : ObjectId} (ho : w.Outside S o) :
    w.Onward S (w.markInstance o) (w'.markInstance o) :=
  h.update ho fun _ hx => ⟨(h.clear hx).type, (h.clear hx).properties⟩

/-- Worlds with the same objects stay side by side whatever becomes of the types
    that are declared, and if identities are given out to both. -/
theorem Beside.of_heap_eq {w₁ w₁' : World} (h : w.Beside S w') (hheap : w₁.heap = w.heap)
    (hheap' : w₁'.heap = w'.heap) (hident : w₁'.nextIdent = w₁.nextIdent)
    (hle : w.nextIdent ≤ w₁.nextIdent) : w.Onward S w₁ w₁' := by
  have hobject? : ∀ o, w₁.object? o = w.object? o := fun o => by rw [object?, object?, hheap]
  have hobject?' : ∀ o, w₁'.object? o = w'.object? o := fun o => by rw [object?, object?, hheap']
  have hsize : w.heap.size ≤ w₁.heap.size := Nat.le_of_eq (by rw [hheap])
  -- All that is said of objects is said of those in the heap.
  refine ⟨?_, hsize, hle⟩
  constructor
  case size_eq => rw [hheap', hheap, h.size_eq]
  case nextIdent_eq => exact hident
  case object?_eq =>
    intro o ho
    rw [hobject?', hobject?, h.object?_eq ho]
  case clear =>
    intro o x hx
    rw [hobject?] at hx
    exact (h.clear hx).mono hsize hle
  case vacant =>
    intro o ho
    rw [hobject?, h.vacant ho]
  case confined =>
    intro o x ho hx
    rw [hobject?'] at hx
    exact h.confined ho hx
  case index_lt => exact fun ho => Nat.lt_of_lt_of_le (h.index_lt ho) hsize
  case ident_lt => exact fun hn => Nat.lt_of_lt_of_le (h.ident_lt hn) hle
  case singletons => exact fun o ho => (h.singletons o ho).mono hsize

theorem Beside.freshIdent (h : w.Beside S w') :
    w.Onward S w.freshIdent.2 w'.freshIdent.2 :=
  h.of_heap_eq rfl rfl (congrArg (· + 1) h.nextIdent_eq) (Nat.le_succ _)

theorem Beside.declareType (h : w.Beside S w') (T : TypeDescriptor) :
    w.Onward S (w.declareType T) (w'.declareType T) :=
  h.of_heap_eq rfl rfl h.nextIdent_eq (Nat.le_refl _)

/-- The place that a new object goes to is not set apart. -/
theorem Beside.outside_add (h : w.Beside S w') (x : Object) :
    (w.add x).2.Outside S ⟨w.heap.size⟩ := by
  refine ⟨?_, fun hS => Nat.lt_irrefl _ (h.index_lt hS)⟩
  rw [size_add]
  exact Nat.lt_succ_self _

theorem Beside.add (h : w.Beside S w') {x : Object} (hx : w.ClearObject S x) :
    w.Onward S (w.add x).2 (w'.add x).2 := by
  have hsize : w.heap.size ≤ (w.add x).2.heap.size := by
    rw [size_add]
    exact Nat.le_succ _
  -- The new place is beyond those that are set apart.
  have hold : ∀ {o}, S.objects o → o.index ≠ w.heap.size := fun ho => Nat.ne_of_lt (h.index_lt ho)
  refine ⟨?_, hsize, Nat.le_refl _⟩
  constructor
  case size_eq => rw [size_add, size_add, h.size_eq]
  case nextIdent_eq => exact h.nextIdent_eq
  case object?_eq =>
    intro o ho
    rw [object?_add, object?_add, h.size_eq, h.object?_eq ho]
  case clear =>
    intro o y hy
    rw [object?_add] at hy
    split at hy
    · obtain rfl := Option.some.inj hy
      exact hx.mono hsize (Nat.le_refl _)
    · exact (h.clear hy).mono hsize (Nat.le_refl _)
  case vacant =>
    intro o ho
    rw [object?_add, if_neg (hold ho), h.vacant ho]
  case confined =>
    intro o y ho hy
    rw [object?_add, h.size_eq, if_neg (hold ho)] at hy
    exact h.confined ho hy
  case index_lt => exact fun ho => Nat.lt_of_lt_of_le (h.index_lt ho) hsize
  case ident_lt => exact h.ident_lt
  case singletons => exact fun o ho => (h.singletons o ho).mono hsize

/-! ## New objects -/

theorem Beside.install (h : w.Beside S w') {receiver : ObjectId} (hreceiver : w.Outside S receiver)
    (typeName : String) {entry : String × Method}
    (hentry : ∀ callable, entry.2 = .shared callable → w.Outside S callable) :
    w.Onward S (w.install receiver typeName entry) (w'.install receiver typeName entry) := by
  obtain ⟨name, method⟩ := entry
  cases method with
  | shared callable =>
    exact h.setProperty hreceiver name (Value.within_object.mpr (hentry callable rfl))
  | native body =>
    -- Both worlds give the function the same identity and put it in the same place.
    have hident := h.freshIdent
    let f : Function := ⟨w.nextIdent, name, .bound receiver (typeName ++ "." ++ name) body⟩
    have hf : w.freshIdent.2.Clear S (.function f) := by
      refine Value.within_function.mpr fun receiver' _ _ hbody => ?_
      obtain ⟨rfl, -, -⟩ := FunctionBody.bound.inj hbody
      exact hident.outside hreceiver
    have hfunction : TypeDescriptor.function ∈ TypeDescriptor.builtins := by
      simp [TypeDescriptor.builtins]
    have hmethod : w.freshIdent.2.ClearObject S
        ((Object.bare .function).setProperty payloadName (.function f)) :=
      ⟨clearType_builtin hfunction, List.forall_mem_singleton.mpr hf⟩
    have hadd := hident.beside.add hmethod
    have hset := hadd.beside.setProperty (hadd.outside (hident.outside hreceiver)) name
      (Value.within_object.mpr (hident.beside.outside_add _))
    have hboth := (hident.trans hadd).trans hset
    simp only [World.install, World.freshIdent, World.add, h.nextIdent_eq, h.size_eq] at hboth ⊢
    exact hboth

theorem Beside.install_all (h : w.Beside S w') {receiver : ObjectId}
    (hreceiver : w.Outside S receiver) (typeName : String) {methods : Bindings Method}
    (hmethods : ∀ entry ∈ methods, ∀ callable, entry.2 = .shared callable →
      w.Outside S callable) :
    w.Onward S (methods.foldl (World.install receiver typeName) w)
      (methods.foldl (World.install receiver typeName) w') := by
  induction methods generalizing w w' with
  | nil => exact h.refl
  | cons entry rest ih =>
    have hfirst := h.install hreceiver typeName (hmethods entry List.mem_cons_self)
    refine hfirst.trans (ih hfirst.beside (hfirst.outside hreceiver) ?_)
    exact fun other hother callable heq =>
      hfirst.outside (hmethods other (List.mem_cons_of_mem _ hother) callable heq)

/-- A new object has its methods in both worlds, bound to the same places. -/
theorem Beside.allocate (h : w.Beside S w') {T : TypeDescriptor} (hT : w.ClearType S T) :
    (w'.allocate T).1 = (w.allocate T).1 ∧ w.Onward S (w.allocate T).2 (w'.allocate T).2 := by
  have hfst : (w'.allocate T).1 = (w.allocate T).1 := by
    rw [allocate_fst, allocate_fst, h.size_eq]
  have hbare : w.ClearObject S (.bare T) :=
    ⟨hT, fun entry hentry => absurd hentry List.not_mem_nil⟩
  have hadd := h.add hbare
  have hshared : ∀ entry ∈ T.methods, ∀ callable, entry.2 = .shared callable →
      (w.add (.bare T)).2.Outside S callable := by
    intro entry hentry callable heq
    refine hadd.outside (hT.shared callable (List.mem_filterMap.mpr ⟨entry, hentry, ?_⟩))
    rw [heq]
  have hinstalled := hadd.beside.install_all (h.outside_add _) T.name hshared
  have hboth := hadd.trans hinstalled
  refine ⟨hfst, ?_⟩
  simp only [World.allocate, World.add, h.size_eq] at hboth ⊢
  exact hboth

theorem Beside.outside_allocate (h : w.Beside S w') (T : TypeDescriptor) :
    (w.allocate T).2.Outside S (w.allocate T).1 :=
  ⟨w.size_lt_allocate T, (h.outside_add (.bare T)).2⟩

/-! ## Conversions -/

theorem mem_builtins_of_typeFor? {v : Value} {T : TypeDescriptor} (h : typeFor? v = some T) :
    T ∈ TypeDescriptor.builtins := by
  cases v <;> cases h <;> simp [TypeDescriptor.builtins]

/-- Two changes side by side that give the same object, which is not set apart. -/
structure GiveObject (S : Apart) (w : World) (r r' : ObjectId × World) : Prop where
  fst_eq : r'.1 = r.1
  onward : w.Onward S r.2 r'.2
  outside : r.2.Outside S r.1

theorem Beside.box (h : w.Beside S w') {v : Value} (hv : w.Clear S v)
    {T : TypeDescriptor} (hT : typeFor? v = some T) :
    w.GiveObject S (w.box T v) (w'.box T v) := by
  obtain ⟨hfst, hallocate⟩ := h.allocate (clearType_builtin (mem_builtins_of_typeFor? hT))
  have hset := hallocate.beside.setProperty (h.outside_allocate T) payloadName
    (hallocate.clear hv)
  refine ⟨hfst, hallocate.trans ?_, hset.outside (h.outside_allocate T)⟩
  change (w.allocate T).2.Onward S ((w.allocate T).2.setPayload (w.allocate T).1 v)
    ((w'.allocate T).2.setPayload (w'.allocate T).1 v)
  rw [hfst]
  exact hset

mutual

/-- **A conversion** makes the same object in both worlds. -/
theorem Beside.toObject {w w' : World} (h : w.Beside S w') {v : Value}
    (hv : w.Clear S v) : w.GiveObject S (w.toObject v) (w'.toObject v) := by
  match v with
  | .null => exact ⟨rfl, h.refl, h.nullObject⟩
  | .bool b => exact ⟨rfl, h.refl, h.boolObject b⟩
  | .object o => exact ⟨rfl, h.refl, Value.within_object.mp hv⟩
  | .int _ | .float _ | .complex _ | .text _ | .function _ | .dict _ | .foreign _ =>
    exact h.box hv rfl
  | .list items =>
    have harray : typeFor? (.list items) = some .array := rfl
    obtain ⟨-, hallocate⟩ := h.allocate (clearType_builtin (mem_builtins_of_typeFor? harray))
    obtain ⟨hitems, helements, hclear⟩ := hallocate.beside.toObjects
      (hallocate.clearAll (Value.within_list.mp hv))
    have hnew := helements.outside (h.outside_allocate .array)
    have hset := helements.beside.setProperty hnew payloadName (Value.within_list.mpr hclear)
    rw [toObject_list, toObject_list, h.size_eq, hitems]
    exact ⟨rfl, (hallocate.trans helements).trans hset, hset.outside hnew⟩

/-- The elements of a list are converted to the same objects. -/
theorem Beside.toObjects {w w' : World} (h : w.Beside S w') {items : List Value}
    (hitems : w.ClearAll S items) :
    (w'.toObjects items).1 = (w.toObjects items).1 ∧
      w.Onward S (w.toObjects items).2 (w'.toObjects items).2 ∧
      (w.toObjects items).2.ClearAll S (w.toObjects items).1 := by
  match items with
  | [] => exact ⟨rfl, h.refl, fun v hv => absurd hv List.not_mem_nil⟩
  | v :: rest =>
    have hfirst := h.toObject (hitems v List.mem_cons_self)
    obtain ⟨hrest, hothers, hclear⟩ := hfirst.onward.beside.toObjects
      (hfirst.onward.clearAll fun u hu => hitems u (List.mem_cons_of_mem v hu))
    refine ⟨?_, hfirst.onward.trans hothers, List.forall_mem_cons.mpr ⟨?_, hclear⟩⟩
    · change Value.object _ :: _ = Value.object _ :: _
      rw [hfirst.fst_eq, hrest]
    · exact Value.within_object.mpr (hothers.outside hfirst.outside)

end

theorem Beside.toEntries (h : w.Beside S w') {entries : Bindings Value}
    (hentries : ∀ entry ∈ entries, w.Clear S entry.2) :
    (w'.toEntries entries).1 = (w.toEntries entries).1 ∧
      w.Onward S (w.toEntries entries).2 (w'.toEntries entries).2 ∧
      ∀ entry ∈ (w.toEntries entries).1, (w.toEntries entries).2.Clear S entry.2 := by
  induction entries generalizing w w' with
  | nil => exact ⟨rfl, h.refl, fun entry hentry => absurd hentry List.not_mem_nil⟩
  | cons entry rest ih =>
    have hfirst := h.toObject (hentries entry List.mem_cons_self)
    obtain ⟨hrest, hothers, hclear⟩ := ih hfirst.onward.beside
      fun other hother => hfirst.onward.clear (hentries other (List.mem_cons_of_mem _ hother))
    refine ⟨?_, hfirst.onward.trans hothers, List.forall_mem_cons.mpr ⟨?_, hclear⟩⟩
    · change (entry.1, Value.object _) :: _ = (entry.1, Value.object _) :: _
      rw [hfirst.fst_eq]
      exact congrArg _ hrest
    · exact Value.within_object.mpr (hothers.outside hfirst.outside)

end changes

end World

end DynamicObjects
