import DynamicObjects.Proofs.Attribute.Store
import DynamicObjects.Proofs.Enumeration.Alike

/-! # Isomorphic worlds

    Two worlds are isomorphic along a renaming if it pairs all their places, and if
    objects that are paired have one type, the same flags, and properties that are
    alike.  What is read of paired objects is then alike, and the world is left as it
    is by reading.

    The argument:
    1. Whatever looks at one object finds the same type, and values that are alike.
    2. An attribute is found among the properties, in the namespace or among the
       members, so that stores answer alike, with the same faults.
    3. A mapping is never enumerated without its names being sorted.

    Main results:
    - `World.Isomorphic.readings`: attributes that are read one after the other
    - `World.Alike.moduleAttributes_eq`: the names that are bound in a module
    - `World.isomorphic_within`: a world beside itself -/

namespace DynamicObjects

/-- **Objects** are alike if they have one type, the same flags, and properties that are
    alike. -/
structure Object.Alike (r : Renaming) (x y : Object) : Prop where
  type_eq : x.type = y.type
  properties : Bindings.Alike r x.properties y.properties
  isInstance_eq : x.isInstance = y.isInstance
  underConstruction_eq : x.underConstruction = y.underConstruction

/-- **Worlds** are alike along a renaming if the objects that it pairs are.  Objects
    without partners may be anything, but each singleton is its own partner. -/
structure World.Alike (r : Renaming) (w w' : World) : Prop where
  places : r.places.Below w.heap.size w'.heap.size
  idents : r.idents.Below w.nextIdent w'.nextIdent
  declared_eq : w.declared = w'.declared
  singletons : ∀ o ∈ singletons, r.Pairs o o
  object? : ∀ {o p : ObjectId}, r.Pairs o p →
    Option.Rel (Object.Alike r) (w.object? o) (w'.object? p)

/-- Worlds are **isomorphic** if they are alike and no place is without a partner. -/
structure World.Isomorphic (r : Renaming) (w w' : World) : Prop extends World.Alike r w w' where
  left : ∀ i, i < w.heap.size → ∃ j, r.places.rel i j
  right : ∀ j, j < w'.heap.size → ∃ i, r.places.rel i j

/-- What has been **read** is alike, or the same fault. -/
inductive ReadAlike (r : Renaming) : Except Fault Value → Except Fault Value → Prop where
  | ok {v v' : Value} (h : v.Alike r v') : ReadAlike r (.ok v) (.ok v')
  | error (f : Fault) : ReadAlike r (.error f) (.error f)

section objects
variable {r s : Renaming} {x y z : Object}

theorem Object.Alike.mono (h : x.Alike r y) (hle : r ≤ s) : x.Alike s y :=
  ⟨h.type_eq, h.properties.mono hle, h.isInstance_eq, h.underConstruction_eq⟩

theorem Object.Alike.symm (h : x.Alike r y) : y.Alike r.symm x :=
  ⟨h.type_eq.symm, h.properties.symm, h.isInstance_eq.symm, h.underConstruction_eq.symm⟩

theorem Object.Alike.trans (h : x.Alike r y) (h' : y.Alike s z) : x.Alike (r.trans s) z :=
  ⟨h.type_eq.trans h'.type_eq, h.properties.trans h'.properties,
    h.isInstance_eq.trans h'.isInstance_eq,
    h.underConstruction_eq.trans h'.underConstruction_eq⟩

theorem Object.alike_bare (T : TypeDescriptor) : (bare T).Alike r (bare T) :=
  ⟨rfl, Bindings.alike_nil, rfl, rfl⟩

theorem Object.Alike.setProperty (h : x.Alike r y) (name : String) {v v' : Value}
    (hv : v.Alike r v') : (x.setProperty name v).Alike r (y.setProperty name v') :=
  ⟨h.type_eq, h.properties.set name hv, h.isInstance_eq, h.underConstruction_eq⟩

end objects

namespace World

section alike
variable {r s : Renaming} {w w' w'' : World} {o p : ObjectId}

theorem Alike.symm (h : w.Alike r w') : w'.Alike r.symm w where
  places hij := (h.places hij).symm
  idents hij := (h.idents hij).symm
  declared_eq := h.declared_eq.symm
  singletons o ho := (h.singletons o ho).symm
  object? {p o} hpo := by
    obtain ⟨x, y, hx, hy, hxy⟩ | ⟨hx, hy⟩ := optionRel_cases (h.object? (o := o) (p := p) hpo)
    · rw [hx, hy]
      exact .some hxy.symm
    · rw [hx, hy]
      exact .none

theorem Alike.trans (h : w.Alike r w') (h' : w'.Alike s w'') : w.Alike (r.trans s) w'' where
  places := fun ⟨_, hij, hjk⟩ => ⟨(h.places hij).1, (h'.places hjk).2⟩
  idents := fun ⟨_, hij, hjk⟩ => ⟨(h.idents hij).1, (h'.idents hjk).2⟩
  declared_eq := h.declared_eq.trans h'.declared_eq
  singletons o ho := (h.singletons o ho).trans (h'.singletons o ho)
  object? := by
    rintro o q ⟨j, hoj, hjq⟩
    have hrel := h.object? (o := o) (p := ⟨j⟩) hoj
    have hrel' := h'.object? (o := ⟨j⟩) (p := q) hjq
    generalize w'.object? ⟨j⟩ = y at hrel hrel'
    generalize w''.object? q = z at hrel' ⊢
    obtain ⟨x, y, hx, rfl, hxy⟩ | ⟨hx, rfl⟩ := optionRel_cases hrel
    · rw [hx]
      cases hrel' with
      | some hyz => exact .some (hxy.trans hyz)
    · rw [hx]
      cases hrel'
      exact .none

/-- A world that has a partner is **like itself**. -/
theorem Alike.self (h : w.Alike r w') : w.Alike (r.trans r.symm) w := h.trans h.symm

/-! ## One object -/

variable (h : w.Alike r w') (ho : r.Pairs o p)
include h

theorem Alike.pairs_boolObject (b : Bool) : r.Pairs (boolObject b) (boolObject b) :=
  h.singletons _ (by cases b <;> decide)

theorem Alike.pairs_nullObject : r.Pairs nullObject nullObject :=
  h.singletons _ (by decide)

include ho

theorem Alike.object : (w.object o).Alike r (w'.object p) := by
  obtain ⟨x, y, hx, hy, hxy⟩ | ⟨hx, hy⟩ := optionRel_cases (h.object? ho)
  · rw [World.object, World.object, hx, hy]
    exact hxy
  · rw [World.object, World.object, hx, hy]
    exact Object.alike_bare _

theorem Alike.typeOf_eq : w.typeOf o = w'.typeOf p := (h.object ho).type_eq

theorem Alike.typeName_eq : w.typeName o = w'.typeName p := by
  rw [typeName, typeName, h.typeOf_eq ho]

theorem Alike.shapeOf_eq : w.shapeOf o = w'.shapeOf p := by
  rw [shapeOf, shapeOf, h.typeOf_eq ho, h.typeName_eq ho]

theorem Alike.property? (name : String) :
    Option.Rel (Value.Alike r) (w.property? o name) (w'.property? p name) :=
  (h.object ho).properties.values name

theorem Alike.payload? : Option.Rel (Value.Alike r) (w.payload? o) (w'.payload? p) :=
  h.property? ho payloadName

theorem Alike.textOf_eq : Rendering.textOf w o = Rendering.textOf w' p := by
  obtain ⟨x, y, hx, hy, hxy⟩ | ⟨hx, hy⟩ := optionRel_cases (h.payload? ho)
  · rw [Rendering.textOf, Rendering.textOf, hx, hy]
    cases hxy <;> rfl
  · rw [Rendering.textOf, Rendering.textOf, hx, hy]

theorem Alike.moduleName_eq : w.moduleName o = w'.moduleName p := by
  obtain ⟨x, y, hx, hy, hxy⟩ | ⟨hx, hy⟩ := optionRel_cases (h.property? ho declaredName)
  · rw [moduleName, moduleName, hx, hy]
    cases hxy <;> rfl
  · rw [moduleName, moduleName, hx, hy]

theorem Alike.namespace? :
    Option.Rel (Bindings.Alike r) (w.namespace? o) (w'.namespace? p) := by
  obtain ⟨x, y, hx, hy, hxy⟩ | ⟨hx, hy⟩ := optionRel_cases (h.property? ho namespaceName)
  · rw [World.namespace?, World.namespace?, hx, hy]
    cases hxy with
    | dict hxs hys hnames h => exact .some (Value.alike_dict.mp (.dict hxs hys hnames h))
    | _ => exact .none
  · rw [World.namespace?, World.namespace?, hx, hy]
    exact .none

/-- **The names** that are bound in a module are in one order. -/
theorem Alike.moduleAttributes_eq : w.moduleAttributes o = w'.moduleAttributes p := by
  obtain ⟨xs, ys, hx, hy, hxy⟩ | ⟨hx, hy⟩ := optionRel_cases (h.namespace? ho)
  · rw [moduleAttributes, moduleAttributes, hx, hy]
    exact hxy.sortedNames_eq
  · rw [moduleAttributes, moduleAttributes, hx, hy]

omit ho

/-! ## Values -/

variable {v v' : Value} (hv : v.Alike r v')
include hv

theorem Alike.unwrap : (w.unwrap v).Alike r (w'.unwrap v') := by
  cases hv with
  | object ho =>
    obtain ⟨x, y, hx, hy, hxy⟩ | ⟨hx, hy⟩ := optionRel_cases (h.payload? ho)
    · rw [World.unwrap, World.unwrap, hx, hy]
      exact hxy
    · rw [World.unwrap, World.unwrap, hx, hy]
      exact .object ho
  | list hlength h => exact .list hlength h
  | dict hxs hys hnames h => exact .dict hxs hys hnames h
  | function h => exact .function h
  | foreign h => exact .foreign h
  | _ => constructor

theorem Alike.kindName_eq : w.kindName v = w'.kindName v' := by
  cases hv with
  | object ho => exact h.typeName_eq ho
  | foreign h => exact h.typeName_eq
  | _ => rfl

end alike

/-! ## Attributes -/

section reads
variable {r : Renaming} {w w' : World} {o p : ObjectId} (h : w.Alike r w') (ho : r.Pairs o p)
include h ho

/-- **A store** answers alike. -/
theorem Alike.get (store : AttributeStore) (name : String) :
    ReadAlike r (store.get w o name) (store.get w' p name) := by
  cases store with
  | properties =>
    rw [AttributeStore.get, AttributeStore.get, h.typeName_eq ho]
    obtain ⟨x, y, hx, hy, hxy⟩ | ⟨hx, hy⟩ := optionRel_cases (h.property? ho name)
    · rw [hx, hy]
      exact .ok hxy
    · rw [hx, hy]
      exact .error _
  | moduleNames =>
    rw [AttributeStore.get, AttributeStore.get, h.moduleName_eq ho]
    obtain ⟨xs, ys, hxs, hys, hbound⟩ | ⟨hxs, hys⟩ := optionRel_cases (h.namespace? ho)
    · rw [hxs, hys, Option.bind_some, Option.bind_some]
      obtain ⟨x, y, hx, hy, hxy⟩ | ⟨hx, hy⟩ := optionRel_cases (hbound.values name)
      · rw [hx, hy]
        exact .ok hxy
      · rw [hx, hy]
        exact .error _
    · rw [hxs, hys]
      exact .error _
  | structMembers =>
    rw [AttributeStore.get, AttributeStore.get, h.shapeOf_eq ho]
    cases w'.shapeOf p with
    | error f => exact .error f
    | ok shape =>
      simp only [bind, Except.bind]
      obtain ⟨x, y, hx, hy, hxy⟩ | ⟨hx, hy⟩ := optionRel_cases (h.property? ho name)
      · rw [hx, hy]
        exact .ok hxy
      · rw [hx, hy]
        -- A member that has not been set reads as null.
        by_cases hmember : shape.hasMember name = true
        · rw [if_pos hmember]
          exact .ok (.object h.pairs_nullObject)
        · rw [if_neg hmember]
          exact .error _

/-- **An attribute** of an object that keeps its attributes in a store. -/
theorem Alike.getAttr (host : Host) {store : AttributeStore}
    (hstore : (w.typeOf o).slots .getAttr = some (.getAttr store)) (name : String) :
    ∃ found found', Run.attempt (host.getAttr o name) w = .done found w ∧
      Run.attempt (host.getAttr p name) w' = .done found' w' ∧ ReadAlike r found found' := by
  have hstore' : (w'.typeOf p).slots .getAttr = some (.getAttr store) :=
    h.typeOf_eq ho ▸ hstore
  -- A marked name reads a property, and any other one the store.
  cases hmarked : Host.markedProperty? name with
  | some property =>
    refine ⟨.ok ((w.property? o property).getD (.object nullObject)),
      .ok ((w'.property? p property).getD (.object nullObject)), ?_, ?_, .ok ?_⟩
    · simp only [Run.attempt, Host.getAttr, hmarked, Run.read_apply]
    · simp only [Run.attempt, Host.getAttr, hmarked, Run.read_apply]
    · obtain ⟨x, y, hx, hy, hxy⟩ | ⟨hx, hy⟩ := optionRel_cases (h.property? ho property)
      · rw [hx, hy]
        exact hxy
      · rw [hx, hy]
        exact .object h.pairs_nullObject
  | none =>
    refine ⟨store.get w o name, store.get w' p name, ?_, ?_, h.get ho store name⟩
    · rw [Run.attempt, host.getAttr_apply hstore hmarked]
      cases store.get w o name <;> rfl
    · rw [Run.attempt, host.getAttr_apply hstore' hmarked]
      cases store.get w' p name <;> rfl

end reads

end World

/-- Attributes that are **read** one after the other.  A read that fails is noted with its
    fault. -/
def Host.readings (host : Host) (o : ObjectId) (names : List String) :
    Run (List (Except Fault Value)) :=
  names.mapM fun name => Run.attempt (host.getAttr o name)

namespace World

variable {r : Renaming} {w w' : World} {o p : ObjectId}

/-- **Reads** of paired objects are alike, and they leave both worlds as they are. -/
theorem Alike.readings (h : w.Alike r w') (ho : r.Pairs o p) (host : Host)
    {store : AttributeStore} (hstore : (w.typeOf o).slots .getAttr = some (.getAttr store))
    (names : List String) :
    ∃ found found', host.readings o names w = .done found w ∧
      host.readings p names w' = .done found' w' ∧ List.Forall₂ (ReadAlike r) found found' := by
  induction names with
  | nil => exact ⟨[], [], rfl, rfl, .nil⟩
  | cons name rest ih =>
    obtain ⟨first, first', hfirst, hfirst', hread⟩ := h.getAttr ho host hstore name
    obtain ⟨found, found', hrest, hrest', hreads⟩ := ih
    have hcons : ∀ o, host.readings o (name :: rest) = (do
        let first ← Run.attempt (host.getAttr o name)
        let found ← host.readings o rest
        return first :: found) := fun o => List.mapM_cons
    refine ⟨first :: found, first' :: found', ?_, ?_, .cons hread hreads⟩
    · rw [hcons]
      simp only [Run.bind_apply, hfirst, hrest, Run.pure_apply]
    · rw [hcons]
      simp only [Run.bind_apply, hfirst', hrest', Run.pure_apply]

end World

/-! ## Distinct names -/

/-- A value that is like some other one binds each name **once**. -/
theorem Value.Alike.distinctNames {r : Renaming} {v v' : Value} (h : v.Alike r v') :
    v.DistinctNames := by
  induction h with
  | @list xs ys hlength _ ih =>
    intro entries hentries
    rw [nodes, List.mem_cons, mem_nodesList] at hentries
    rcases hentries with heq | ⟨x, hx, hentries⟩
    · cases heq
    · obtain ⟨i, hi⟩ := List.mem_iff_getElem?.mp hx
      have hlt : i < ys.length := hlength ▸ (List.getElem?_eq_some_iff.mp hi).1
      have hzip : (x, ys[i]) ∈ xs.zip ys := List.mem_of_getElem?
        (List.getElem?_zip_eq_some.mpr ⟨hi, List.getElem?_eq_getElem hlt⟩)
      exact ih hzip entries hentries
  | @dict xs ys hxs hys hnames _ ih =>
    intro entries hentries
    rw [nodes, List.mem_cons, mem_nodesEntries] at hentries
    rcases hentries with heq | ⟨⟨name, x⟩, hx, hentries⟩
    · obtain rfl := Value.dict.inj heq
      exact hxs
    · -- A name that is bound on this side is bound on the other one, to a like value.
      have hget := Bindings.get?_eq_some_of_mem hxs hx
      cases hy : Bindings.get? name ys with
      | none =>
        rw [Bindings.get?_eq_none_iff, ← hnames, ← Bindings.get?_eq_none_iff, hget] at hy
        cases hy
      | some y => exact ih hget hy entries hentries
  | _ =>
    intro entries hentries
    simp [nodes] at hentries

namespace World

theorem exists_of_mem_nodes {w : World} {u : Value} (hu : u ∈ w.nodes) :
    ∃ o x, w.object? o = some x ∧ ∃ entry ∈ x.properties, u ∈ entry.2.nodes := by
  obtain ⟨slot, hslot, hu⟩ := List.mem_flatMap.mp hu
  obtain ⟨i, hi⟩ := List.mem_iff_getElem?.mp hslot
  rw [Array.getElem?_toList] at hi
  cases slot with
  | none => cases hu
  | some x => exact ⟨⟨i⟩, x, by rw [World.object?, hi, Option.join_some], List.mem_flatMap.mp hu⟩

theorem Isomorphic.distinctNames {r : Renaming} {w w' : World} (h : w.Isomorphic r w') :
    w.DistinctNames := by
  intro entries hentries
  obtain ⟨o, x, hx, ⟨name, v⟩, hv, hentries⟩ := exists_of_mem_nodes hentries
  obtain ⟨j, hj⟩ := h.left o.index (index_lt_of_object?_eq_some hx)
  obtain ⟨x', y, hx', -, hxy⟩ | ⟨hx', -⟩ := optionRel_cases (h.object? (p := ⟨j⟩) hj)
  · obtain rfl := Option.some.inj (hx.symm.trans hx')
    obtain ⟨v', -, hvv⟩ := hxy.properties.exists_of_mem hv
    exact hvv.distinctNames entries hentries
  · rw [hx] at hx'
    cases hx'

theorem Isomorphic.symm {r : Renaming} {w w' : World} (h : w.Isomorphic r w') :
    w'.Isomorphic r.symm w :=
  ⟨h.toAlike.symm, h.right, h.left⟩

/-! ## A world beside itself -/

/-- A world is isomorphic **to itself** if the singletons are there, and if its objects
    bind each name once, refer to places that there are, and to identities that have been
    given out. -/
theorem isomorphic_within {w : World} (hw : w.Consistent)
    (hplaces : ∀ v ∈ w.nodes, v.IsWithin fun o => o.index < w.heap.size)
    (hidents : ∀ v ∈ w.nodes, v.IsIdentified w)
    (hsingletons : ∀ o ∈ singletons, o.index < w.heap.size) :
    w.Isomorphic (.within w) w where
  places := fun ⟨hij, hi⟩ => ⟨hi, hij ▸ hi⟩
  idents := fun ⟨hij, hi⟩ => ⟨hi, hij ▸ hi⟩
  declared_eq := rfl
  singletons o ho := Renaming.pairs_within (hsingletons o ho)
  object? := by
    rintro ⟨i⟩ ⟨j⟩ ⟨hij, -⟩
    obtain rfl : i = j := hij
    cases hx : w.object? ⟨i⟩ with
    | none => exact .none
    | some x =>
      have hnodes : ∀ {name v}, Bindings.get? name x.properties = some v → v.nodes ⊆ w.nodes :=
        fun hv _ hu => mem_nodes hx (List.mem_flatMap.mpr ⟨_, Bindings.mem_of_get?_eq_some hv, hu⟩)
      -- Each object is paired with itself, and so is whatever it refers to.
      refine .some ⟨rfl, ⟨hw.names hx, hw.names hx, fun name => ?_⟩, rfl, rfl⟩
      cases hv : Bindings.get? name x.properties with
      | none => exact .none
      | some v =>
        have hsupports := hw.supports hx (name, v) (Bindings.mem_of_get?_eq_some hv)
        exact .some (Value.alike_within (fun u hu => hplaces u (hnodes hv hu))
          (fun u hu => hidents u (hnodes hv hu)) fun entries hu => hsupports _ hu)
  left i hi := ⟨i, rfl, hi⟩
  right j hj := ⟨j, rfl, hj⟩

end World

end DynamicObjects
