import DynamicObjects.Proofs.Attribute.Store
import DynamicObjects.Proofs.Isolation.Follows
import DynamicObjects.Proofs.Rendering.Path
import DynamicObjects.Proofs.Types.Declaration

/-! # Legible worlds

    An object is legible if it is shown without a handler of the host and without a
    look at other objects, if its attributes are kept in one of the stores, and if
    no list hides in its properties: a list would become an array, which is shown
    along its elements.  In a world of legible objects every value can be shown.

    The argument:
    1. What an object of most types shows depends on its type alone; a truth value
       needs its payload, and a struct its shape.
    2. Conversions only add objects of such types, and so does the loading of a
       module, so that worlds stay legible.
    3. Reading an attribute gives a part of a property, in which there is no list
       either.

    Main results:
    - `Natives.render_legible`: every value has a text and a representation
    - `Host.getAttr_legible`: reading an attribute gives a value or a fault
    - `Catalogue.legible_loaded`: a module that has been loaded is legible -/

namespace DynamicObjects

/-! ## Legible objects -/

/-- There is no list in a value. -/
def Value.ListFree (v : Value) : Prop := ∀ items, Value.list items ∉ v.nodes

/-- An object has all that a rendering of it looks at. -/
def Rendering.ShownBy (x : Object) : Rendering → Prop
  | .array => False
  | .bool => ∃ b, x.property? payloadName = some (.bool b)
  | .struct => x.type.shape.isSome = true
  | _ => True

/-- An object is **legible**: it keeps attributes, and is shown by a rendering that
    looks at nothing else. -/
structure Object.Legible (x : Object) : Prop where
  store : ∃ store, x.type.slots .getAttr = some (.getAttr store)
  shown : ∀ form : TextForm, ∃ slot how,
    form.handler? x.type = some (slot, .rendering how) ∧ how.ShownBy x
  listFree : ∀ entry ∈ x.properties, entry.2.ListFree

/-- A type is **plain** if its objects keep attributes and can be shown, whatever
    their properties are. -/
structure TypeDescriptor.Plain (T : TypeDescriptor) : Prop where
  store : ∃ store, T.slots .getAttr = some (.getAttr store)
  shown : ∀ form : TextForm, ∃ slot how, form.handler? T = some (slot, .rendering how) ∧
    how ≠ .array ∧ how ≠ .bool ∧ (how = .struct → T.shape.isSome = true)

/-- All objects of a world are legible. -/
def World.Legible (w : World) : Prop := ∀ o x, w.object? o = some x → x.Legible

namespace Value

@[simp] theorem listFree_object (o : ObjectId) : (Value.object o).ListFree := by
  intro items h
  cases List.mem_singleton.mp h

@[simp] theorem listFree_text (s : String) : (Value.text s).ListFree := by
  intro items h
  cases List.mem_singleton.mp h

@[simp] theorem listFree_int (n : Int64) : (Value.int n).ListFree := by
  intro items h
  cases List.mem_singleton.mp h

theorem listFree_function (f : Function) : (Value.function f).ListFree := by
  intro items h
  cases List.mem_singleton.mp h

theorem listFree_dict {entries : Bindings Value} :
    (Value.dict entries).ListFree ↔ ∀ entry ∈ entries, entry.2.ListFree := by
  constructor
  · intro h entry hentry items hmem
    refine h items ?_
    rw [nodes]
    exact List.mem_cons_of_mem _ (mem_nodesEntries.mpr ⟨entry, hentry, hmem⟩)
  · intro h items hmem
    rw [nodes] at hmem
    rcases List.mem_cons.mp hmem with heq | hmem
    · cases heq
    · obtain ⟨entry, hentry, hmem⟩ := mem_nodesEntries.mp hmem
      exact h entry hentry items hmem

end Value

namespace TypeDescriptor

theorem plain_builtin {T : TypeDescriptor} (hT : T ∈ builtins) (harray : T.category ≠ .array)
    (hbool : T.category ≠ .bool) : T.Plain := by
  simp only [builtins, List.mem_cons, List.not_mem_nil, or_false] at hT
  rcases hT with rfl | rfl | rfl | rfl | rfl | rfl | rfl | rfl | rfl | rfl
  all_goals first
    | exact absurd rfl harray
    | exact absurd rfl hbool
    | exact ⟨⟨_, rfl⟩, fun form => by cases form <;> exact ⟨_, _, rfl, by decide⟩⟩

theorem plain_struct (shape : StructShape) (ident : TypeId) : (struct shape ident).Plain := by
  refine ⟨⟨_, rfl⟩, fun form => ?_⟩
  cases form <;> exact ⟨_, .struct, rfl, by decide, by decide, fun _ => rfl⟩

/-- An object of a plain type is legible as long as there is no list in it. -/
theorem Plain.legible {x : Object} (h : x.type.Plain)
    (hx : ∀ entry ∈ x.properties, entry.2.ListFree) : x.Legible := by
  refine ⟨h.store, fun form => ?_, hx⟩
  obtain ⟨slot, how, hhandler, harray, hbool, hstruct⟩ := h.shown form
  refine ⟨slot, how, hhandler, ?_⟩
  cases how with
  | array => exact harray rfl
  | bool => exact absurd rfl hbool
  | struct => exact hstruct rfl
  | _ => trivial

end TypeDescriptor

theorem Object.legible_released : Object.released.Legible := by
  refine ⟨⟨_, rfl⟩, fun form => ?_, fun entry hentry => absurd hentry List.not_mem_nil⟩
  cases form <;> exact ⟨_, .identity, rfl, trivial⟩

namespace World

section worlds
variable {w w₁ : World} {o : ObjectId} {T : TypeDescriptor} {v : Value} {entries : Bindings Value}

/-- Also what is not there counts as legible. -/
theorem Legible.object (h : w.Legible) (o : ObjectId) : (w.object o).Legible := by
  rw [World.object]
  cases hx : w.object? o with
  | none => exact Object.legible_released
  | some x => exact h o x hx

theorem Legible.congr (h : w.Legible) (hobject? : ∀ o, w₁.object? o = w.object? o) :
    w₁.Legible := by
  intro o x hx
  rw [hobject?] at hx
  exact h o x hx

theorem Legible.add (h : w.Legible) {x : Object} (hx : x.Legible) : (w.add x).2.Legible := by
  intro o y hy
  rw [object?_add] at hy
  split at hy
  · obtain rfl := Option.some.inj hy
    exact hx
  · exact h o y hy

theorem Legible.update (h : w.Legible) {f : Object → Object}
    (hf : ∀ x, w.object? o = some x → x.Legible → (f x).Legible) : (w.update o f).Legible := by
  intro p x hx
  rw [object?_update] at hx
  split at hx
  · next heq =>
    subst heq
    obtain ⟨y, hy, rfl⟩ := Option.map_eq_some_iff.mp hx
    exact hf y hy (h _ y hy)
  · exact h p x hx

/-- Objects of plain types can be given any properties without lists. -/
theorem Legible.write (h : w.Legible) (hplain : (w.typeOf o).Plain)
    (hentries : ∀ entry ∈ entries, entry.2.ListFree) {f : Object → Object}
    (htype : ∀ x, (f x).type = x.type)
    (hproperties : ∀ x, (f x).properties = x.properties.setAll entries) :
    (w.update o f).Legible := by
  refine h.update fun x hx hlegible => TypeDescriptor.Plain.legible ?_ fun entry hentry => ?_
  · rw [typeOf, World.object, hx] at hplain
    rw [htype]
    exact hplain
  · rw [hproperties] at hentry
    rcases Bindings.mem_setAll hentry with hentry | hentry
    · exact hentries entry hentry
    · exact hlegible.listFree entry hentry

theorem Legible.setProperties (h : w.Legible) (hplain : (w.typeOf o).Plain)
    (hentries : ∀ entry ∈ entries, entry.2.ListFree) : (w.setProperties o entries).Legible :=
  h.write hplain hentries (fun _ => rfl) fun _ => rfl

theorem Legible.setProperty (h : w.Legible) (hplain : (w.typeOf o).Plain) (name : String)
    (hv : v.ListFree) : (w.setProperty o name v).Legible := by
  have hentries : ∀ entry ∈ [(name, v)], entry.2.ListFree := List.forall_mem_singleton.mpr hv
  exact h.write hplain hentries (fun _ => rfl) fun _ => rfl

theorem Legible.addBare (h : w.Legible) (hplain : T.Plain) : (w.add (.bare T)).2.Legible :=
  h.add (TypeDescriptor.Plain.legible hplain fun _ hentry => absurd hentry List.not_mem_nil)

/-! ## Building -/

/-- A method is installed as a new function object. -/
theorem Legible.install (h : w.Legible) (ho : o.index < w.heap.size)
    (hplain : (w.typeOf o).Plain) (typeName : String) (entry : String × Method) :
    (w.install o typeName entry).Legible := by
  obtain ⟨name, method⟩ := entry
  cases method with
  | shared callable => exact h.setProperty hplain name (Value.listFree_object _)
  | native body =>
    have hident : w.freshIdent.2.Legible := h.congr fun _ => rfl
    have hfunction : TypeDescriptor.function.Plain :=
      TypeDescriptor.plain_builtin (by simp [TypeDescriptor.builtins]) (by decide) (by decide)
    refine Legible.setProperty (hident.add ?_) ?_ name (Value.listFree_object _)
    · refine TypeDescriptor.Plain.legible hfunction (List.forall_mem_singleton.mpr ?_)
      exact Value.listFree_function _
    · rw [(later_add w.freshIdent.2 _).typeOf_eq ho]
      exact hplain

theorem Legible.install_all (h : w.Legible) (ho : o.index < w.heap.size)
    (hplain : (w.typeOf o).Plain) (typeName : String) {methods : Bindings Method}
    (hmethods : methods ⊆ (w.typeOf o).methods) :
    (methods.foldl (World.install o typeName) w).Legible := by
  induction methods generalizing w with
  | nil => exact h
  | cons entry rest ih =>
    have hfirst : Builds 0 (fun _ => True) w (w.install o typeName entry) :=
      install_builds (Nat.zero_le _) ho (hmethods List.mem_cons_self)
    have htype := hfirst.later.typeOf_eq ho
    refine ih (h.install ho hplain typeName entry)
      (Nat.lt_of_lt_of_le ho hfirst.later.size_le) ?_ ?_
    · rw [htype]
      exact hplain
    · rw [htype]
      exact fun entry h => hmethods (List.mem_cons_of_mem _ h)

theorem Legible.allocate (h : w.Legible) (hplain : T.Plain) : (w.allocate T).2.Legible := by
  have htype := typeOf_add w T
  refine Legible.install_all (h.addBare hplain) ?_ ?_ T.name ?_
  · rw [size_add]
    exact Nat.lt_succ_self _
  · exact htype.symm ▸ hplain
  · exact htype.symm ▸ List.Subset.refl _

theorem Legible.box (h : w.Legible) (hplain : T.Plain) (hv : v.ListFree) :
    (w.box T v).2.Legible := by
  refine (h.allocate hplain).setProperty ?_ payloadName hv
  obtain ⟨x, hx, htype⟩ := Option.map_eq_some_iff.mp (allocate_type w T)
  rw [typeOf, World.object, hx]
  exact htype.symm ▸ hplain

/-- **Conversions** of values without lists keep worlds legible. -/
theorem Legible.toObject (h : w.Legible) (hv : v.ListFree) : (w.toObject v).2.Legible := by
  cases v with
  | null | bool _ | object _ => exact h
  | list items => exact absurd (Value.self_mem_nodes _) (hv items)
  | _ =>
    refine h.box (TypeDescriptor.plain_builtin ?_ ?_ ?_) hv
    · simp [TypeDescriptor.builtins]
    · decide
    · decide

theorem Legible.toEntries (h : w.Legible) (hentries : ∀ entry ∈ entries, entry.2.ListFree) :
    (w.toEntries entries).2.Legible ∧ ∀ entry ∈ (w.toEntries entries).1, entry.2.ListFree := by
  induction entries generalizing w with
  | nil => exact ⟨h, hentries⟩
  | cons entry rest ih =>
    obtain ⟨name, v⟩ := entry
    obtain ⟨hv, hrest⟩ := List.forall_mem_cons.mp hentries
    obtain ⟨hw, hconverted⟩ := ih (h.toObject hv) hrest
    exact ⟨hw, List.forall_mem_cons.mpr ⟨Value.listFree_object _, hconverted⟩⟩

end worlds

end World

/-! ## Showing -/

/-- **By itself** an object shows a text if the rendering finds what it looks at. -/
theorem Rendering.ShownBy.alone {how : Rendering} {w : World} {o : ObjectId}
    (h : how.ShownBy (w.object o)) : ∃ s, how.alone o w = .done (.text s) w := by
  simp only [Rendering.alone, Run.bind_apply, Run.read_apply, id_eq]
  cases how with
  | array => exact h.elim
  | bool =>
    obtain ⟨b, hb⟩ := h
    have htext : Rendering.boolText w o = some (if b then "true" else "false") := by
      rw [Rendering.boolText, World.payload?, World.property?, hb]
      rfl
    exact ⟨_, by simp only [htext]; rfl⟩
  | struct =>
    obtain ⟨shape, hshape⟩ := Option.isSome_iff_exists.mp h
    have hshape' : w.shapeOf o = .ok shape := by rw [World.shapeOf, World.typeOf, hshape]
    by_cases hinstance : (w.object o).isInstance = true
    all_goals exact ⟨_, by simp only [Rendering.structText, hshape', hinstance]; rfl⟩
  | _ => exact ⟨_, rfl⟩

namespace Natives
open Showing

variable {natives : Natives} {w : World} {v : Value}

/-- An object that shows a text by itself is shown at any depth, and the world stays
    as it is. -/
theorem showObject_alone (natives : Natives) {o : ObjectId} {form : TextForm} {slot : Slot}
    {how : Rendering} {text : String}
    (hhandler : form.handler? (w.typeOf o) = some (slot, .rendering how)) (harray : how ≠ .array)
    (halone : how.alone o w = .done (.text text) w) (depth : Nat) (shown : ObjectSet) :
    (natives.showObject (depth + 1) form o).during shown w = .done text w := by
  have hnoArray : ¬ (how = .array ∧ shown.contains o = false) := fun h => harray h.1
  rw [showObject_during_rendering hhandler, during_bind, Rendering.run_alone hnoArray,
    ofRun_apply, halone]
  rfl

/-- What is not raw text is shown as its object. -/
theorem render_of_showObject {form : TextForm} {text : String} {w₁ : World}
    (hraw : ∀ s, form = .plain → v = .text s → False)
    (h : (natives.showObject Run.usualDepth form (w.toObject v).1).during .empty (w.toObject v).2 =
      .done text w₁) : natives.render form v w = .done text w₁ := by
  have hvalue : (natives.showValue Run.usualDepth form v).during .empty w = .done text w₁ := by
    rw [showValue, during_bind, ofRun_apply]
    · exact h
    · exact hraw
  rw [render, Run.deepening_eq_usual (by simp [hvalue]), hvalue]

/-- **An object that shows a text by itself** has this text, in either form. -/
theorem render_alone (natives : Natives) {o : ObjectId} {form : TextForm} {slot : Slot}
    {how : Rendering} {text : String}
    (hhandler : form.handler? (w.typeOf o) = some (slot, .rendering how)) (harray : how ≠ .array)
    (halone : how.alone o w = .done (.text text) w) :
    natives.render form (.object o) w = .done text w := by
  have husual : Run.usualDepth = (Run.usualDepth - 1) + 1 := by decide
  refine render_of_showObject (fun s _ hv => by cases hv) ?_
  rw [husual]
  exact natives.showObject_alone hhandler harray halone _ _

/-- **Showing** a value of a legible world: it has a text and a representation. -/
theorem render_legible (h : w.Legible) (hv : v.ListFree) (form : TextForm) :
    ∃ text w₁, natives.render form v w = .done text w₁ ∧ w.Grows w₁ ∧ w₁.Legible := by
  by_cases hraw : form = .plain ∧ ∃ s, v = .text s
  · -- Raw text is its own text.
    obtain ⟨rfl, s, rfl⟩ := hraw
    exact ⟨s, w, rfl, .refl w, h⟩
  · have husual : Run.usualDepth = (Run.usualDepth - 1) + 1 := by decide
    have hobject := h.toObject hv
    obtain ⟨slot, how, hhandler, hshown⟩ := (hobject.object (w.toObject v).1).shown form
    obtain ⟨text, halone⟩ := hshown.alone
    have harray : how ≠ .array := by
      rintro rfl
      exact hshown
    refine ⟨text, (w.toObject v).2, ?_, w.toObject_grows v, hobject⟩
    refine render_of_showObject (fun s hform hs => hraw ⟨hform, s, hs⟩) ?_
    rw [husual]
    exact natives.showObject_alone hhandler harray halone _ _

end Natives

/-! ## Reading -/

namespace World

variable {w : World} {o : ObjectId} {name : String} {v : Value}

/-- There are no lists among the properties of a legible world. -/
theorem Legible.property?_listFree (h : w.Legible) (hv : w.property? o name = some v) :
    v.ListFree :=
  (h.object o).listFree (name, v) (Bindings.mem_of_get?_eq_some hv)

theorem Legible.namespace?_listFree (h : w.Legible) {entries : Bindings Value}
    (hentries : w.namespace? o = some entries) : ∀ entry ∈ entries, entry.2.ListFree := by
  rw [namespace?] at hentries
  split at hentries
  · next entries' hproperty =>
    obtain rfl := Option.some.inj hentries
    exact Value.listFree_dict.mp (h.property?_listFree hproperty)
  · cases hentries

end World

/-- A store gives parts of properties, or the null object. -/
theorem AttributeStore.get_listFree {w : World} {o : ObjectId} {name : String} {v : Value}
    {store : AttributeStore} (h : w.Legible) (hv : store.get w o name = .ok v) : v.ListFree := by
  cases store with
  | properties =>
    rw [get] at hv
    split at hv
    · next hproperty =>
      obtain rfl := Except.ok.inj hv
      exact h.property?_listFree hproperty
    · cases hv
  | moduleNames =>
    rw [get] at hv
    split at hv
    · next hbound =>
      obtain rfl := Except.ok.inj hv
      obtain ⟨entries, hentries, hget⟩ := Option.bind_eq_some_iff.mp hbound
      exact h.namespace?_listFree hentries (name, _) (Bindings.mem_of_get?_eq_some hget)
    · cases hv
  | structMembers =>
    rw [get] at hv
    cases hshape : w.shapeOf o with
    | error f =>
      rw [hshape] at hv
      cases hv
    | ok shape =>
      simp only [hshape, bind, Except.bind] at hv
      cases hproperty : w.property? o name with
      | some u =>
        rw [hproperty] at hv
        obtain rfl := Except.ok.inj hv
        exact h.property?_listFree hproperty
      | none =>
        -- A member that has not been set reads as null.
        simp only [hproperty] at hv
        split at hv
        · obtain rfl := Except.ok.inj hv
          exact Value.listFree_object _
        · cases hv

/-- **Reading** an attribute in a legible world gives a value without lists or a
    fault, and leaves the world as it is. -/
theorem Host.getAttr_legible {host : Host} {w : World} (h : w.Legible) (o : ObjectId)
    (name : String) : (∃ v, host.getAttr o name w = .done v w ∧ v.ListFree) ∨
      ∃ f, host.getAttr o name w = .raised f w := by
  -- A name with a mark reads a property directly; any other goes to the store of the type.
  cases hmarked : markedProperty? name with
  | some property =>
    refine .inl ⟨(w.property? o property).getD (.object World.nullObject), ?_, ?_⟩
    · simp only [getAttr, hmarked, Run.read_apply]
    · cases hproperty : w.property? o property with
      | none => exact Value.listFree_object _
      | some v => exact h.property?_listFree hproperty
  | none =>
    obtain ⟨store, hstore⟩ := (h.object o).store
    have hrun := host.getAttr_apply hstore hmarked
    cases hget : store.get w o name with
    | ok v =>
      rw [hget] at hrun
      exact .inl ⟨v, hrun, AttributeStore.get_listFree h hget⟩
    | error f =>
      rw [hget] at hrun
      exact .inr ⟨f, hrun⟩

/-! ## Builtin modules -/

namespace World

variable {w : World}

theorem legible_initial : initial.Legible := by
  have hbool : ∀ b, ((Object.bare .bool).setProperty payloadName (.bool b)).Legible := by
    intro b
    refine ⟨⟨_, rfl⟩, fun form => ?_, List.forall_mem_singleton.mpr ?_⟩
    · cases form <;> exact ⟨_, .bool, rfl, b, rfl⟩
    · intro items h
      cases List.mem_singleton.mp h
  have hnull : ((Object.bare .null).setProperty payloadName .null).Legible := by
    refine TypeDescriptor.Plain.legible ?_ (List.forall_mem_singleton.mpr ?_)
    · exact TypeDescriptor.plain_builtin List.mem_cons_self (by decide) (by decide)
    · intro items h
      cases List.mem_singleton.mp h
  rintro ⟨_ | _ | _ | i⟩ x hx
  · exact Option.some.inj hx ▸ hnull
  · exact Option.some.inj hx ▸ hbool true
  · exact Option.some.inj hx ▸ hbool false
  · cases hx

theorem Legible.structDeclared (h : w.Legible) (shape : StructShape) :
    (w.structDeclared shape).Legible := by
  have hplain := TypeDescriptor.plain_struct shape (.declared w.nextIdent)
  have hdeclared : (w.freshIdent.2.declareType (w.structType shape)).Legible := h.congr fun _ => rfl
  refine (hdeclared.addBare hplain).setProperty ?_ declaredName (Value.listFree_text _)
  have htype := typeOf_add (w.freshIdent.2.declareType (w.structType shape)) (w.structType shape)
  exact htype.symm ▸ hplain

/-- A clone has the properties of its prototype. -/
theorem Legible.cloned (h : w.Legible) {T : TypeDescriptor} (hplain : T.Plain)
    (prototype : ObjectId) : (w.cloned T prototype).Legible := by
  have hadd := h.addBare hplain
  exact hadd.setProperties ((typeOf_add w T).symm ▸ hplain) (hadd.object prototype).listFree

/-- What has been converted may be published. -/
theorem Legible.published (h : w.Legible) {this : ObjectId} (hthis : this.index < w.heap.size)
    (hplain : (w.typeOf this).Plain) {entries : Bindings Value}
    (hentries : ∀ entry ∈ entries, entry.2.ListFree) :
    (Behaviour.published w this entries).Legible := by
  have hnothing : ∀ entry ∈ ([] : Bindings Value), entry.2.ListFree :=
    fun _ hentry => absurd hentry List.not_mem_nil
  have hwindow : (w.setUnderConstruction this true).Legible :=
    h.write hplain hnothing (fun _ => rfl) fun _ => rfl
  obtain ⟨hconverted, hlistFree⟩ := hwindow.toEntries hentries
  refine hconverted.write ?_ hlistFree (fun _ => rfl) fun _ => rfl
  have hlater := (toEntries_builds_any (w.setUnderConstruction this true) entries).later
  have htype : (w.setUnderConstruction this true).typeOf this = w.typeOf this :=
    typeOf_update w this this _ fun _ => rfl
  rw [hlater.typeOf_eq (by rw [setUnderConstruction, size_update]; exact hthis), htype]
  exact hplain

theorem Legible.moduleMade (h : w.Legible) (name : String) {entries : Bindings Value}
    (hentries : ∀ entry ∈ entries, entry.2.ListFree) : (w.moduleMade name entries).Legible := by
  have hplain : TypeDescriptor.module.Plain :=
    TypeDescriptor.plain_builtin (by simp [TypeDescriptor.builtins]) (by decide) (by decide)
  obtain ⟨hconverted, hlistFree⟩ := (h.addBare hplain).toEntries hentries
  have hlater := (toEntries_builds_any (w.add (.bare .module)).2 entries).later
  have htype : ((w.add (.bare .module)).2.toEntries entries).2.typeOf ⟨w.heap.size⟩ = .module := by
    rw [hlater.typeOf_eq (by rw [size_add]; exact Nat.lt_succ_self _), typeOf_add]
  have hnamed := hconverted.setProperty (htype.symm ▸ hplain) declaredName
    (Value.listFree_text name)
  refine hnamed.setProperty ?_ namespaceName (Value.listFree_dict.mpr hlistFree)
  rw [typeOf_setProperty, htype]
  exact hplain

end World

namespace Catalogue

variable {w : World}

theorem legible_structMade (h : w.Legible) (name : String) {members : Bindings Value}
    (hmembers : ∀ entry ∈ members, entry.2.ListFree) : (structMade w name members).Legible := by
  have hplain : (typeOver w name members).Plain := TypeDescriptor.plain_struct _ _
  have hcloned := (h.structDeclared ⟨name, members.names, []⟩).cloned hplain ⟨w.heap.size⟩
  have htype := World.typeOf_cloned (w := w.structDeclared ⟨name, members.names, []⟩)
    (typeOver w name members) ⟨w.heap.size⟩
  rw [World.size_structDeclared] at htype
  refine hcloned.published ?_ (htype.symm ▸ hplain) fun entry hentry => ?_
  · rw [World.cloned, World.setProperties, World.size_update, World.size_add,
      World.size_structDeclared]
    exact Nat.lt_succ_self _
  · obtain ⟨member, hmember, hvalue⟩ := List.mem_map.mp (List.of_mem_zip hentry).2
    rw [← hvalue]
    exact hmembers member hmember

/-- **A module that has been loaded** is legible. -/
theorem legible_loaded (h : w.Legible) : (loaded w).Legible := by
  have hfirst : (aobingMade w).Legible :=
    legible_structMade h "Aobing" (by simp [aobingMembers])
  have hsecond : (nezhaMade w).Legible :=
    legible_structMade hfirst "NEZHA" (by simp [nezhaMembers])
  exact hsecond.moduleMade "_nezha" (by simp [nezhaBindings])

end Catalogue

end DynamicObjects
