import DynamicObjects.Proofs.Copies.Shift
import DynamicObjects.Proofs.Rendering.Legible

/-! # What shows of a shifted object

    An object mirrors one of another world if it has the same type, properties and
    flags, with shifted objects in them.  Then it has the same attributes and the
    same texts, unless these tell where it is.

    The argument:
    1. What a store answers is found among the properties of the object alone.
    2. So is what most types show; only arrays and wrappers look at other objects,
       and only the default text tells an object from all others.

    Main results:
    - `World.Mirrors.getAttr`: the same attributes
    - `World.Mirrors.render`: the same texts
    - `World.Mirrors.appears`: all of it together -/

namespace DynamicObjects

variable {r : Shift}

/-! ## Mirrored objects -/

/-- An object of one world **mirrors** an object of another one. -/
structure World.Mirrors (r : Shift) (u : World) (o : ObjectId) (w : World) (p : ObjectId) :
    Prop where
  typeOf_eq : w.typeOf p = (u.typeOf o).shift r
  property?_eq : ∀ name, w.property? p name = (u.property? o name).map (Value.shift r)
  isInstance_eq : (w.object p).isInstance = (u.object o).isInstance
  underConstruction_eq : (w.object p).underConstruction = (u.object o).underConstruction

namespace World

variable {u w w' : World} {o p : ObjectId}

theorem Shifted.mirrors (h : Shifted r u w) (ho : 3 ≤ o.index) :
    u.Mirrors r o w (r.place o) where
  typeOf_eq := h.typeOf_eq ho
  property?_eq name := by
    rw [property?, property?, h.object_eq ho]
    exact Bindings.get?_mapValues name
  isInstance_eq := by rw [h.object_eq ho]; rfl
  underConstruction_eq := by rw [h.object_eq ho]; rfl

/-- What keeps its type, its properties and its flags goes on mirroring. -/
theorem Mirrors.congr (h : u.Mirrors r o w p) (htype : w'.typeOf p = w.typeOf p)
    (hproperty : ∀ name, w'.property? p name = w.property? p name)
    (hinstance : (w'.object p).isInstance = (w.object p).isInstance)
    (hunder : (w'.object p).underConstruction = (w.object p).underConstruction) :
    u.Mirrors r o w' p where
  typeOf_eq := htype.trans h.typeOf_eq
  property?_eq name := (hproperty name).trans (h.property?_eq name)
  isInstance_eq := hinstance.trans h.isInstance_eq
  underConstruction_eq := hunder.trans h.underConstruction_eq

namespace Mirrors

variable (h : u.Mirrors r o w p)
include h

theorem payload?_eq : w.payload? p = (u.payload? o).map (Value.shift r) := h.property?_eq _

theorem typeName_eq : w.typeName p = u.typeName o := by
  rw [typeName, typeName, h.typeOf_eq]
  rfl

theorem shapeOf_eq : w.shapeOf p = u.shapeOf o := by
  rw [shapeOf, shapeOf, h.typeOf_eq, h.typeName_eq]
  rfl

theorem moduleName_eq : w.moduleName p = u.moduleName o := by
  rw [moduleName, moduleName, h.property?_eq]
  rcases u.property? o declaredName with _ | v
  · rfl
  · cases v <;> rfl

theorem namespace?_eq :
    w.namespace? p = (u.namespace? o).map (Bindings.mapValues (Value.shift r)) := by
  rw [namespace?, namespace?, h.property?_eq]
  rcases u.property? o namespaceName with _ | v
  · rfl
  · cases v with
    | dict entries => rw [Option.map_some, Value.shift_dict]; rfl
    | _ => rfl

theorem moduleAttributes_eq : w.moduleAttributes p = u.moduleAttributes o := by
  rw [moduleAttributes, moduleAttributes, h.namespace?_eq, Option.map_map]
  cases u.namespace? o with
  | none => rfl
  | some entries => simp [Bindings.sortedNames]

/-! ## Attributes -/

/-- **A store** has the same attributes. -/
theorem get_eq (store : AttributeStore) (name : String) :
    store.get w p name = (store.get u o name).map (Value.shift r) := by
  cases store with
  | properties =>
    rw [AttributeStore.get, AttributeStore.get, h.property?_eq, h.typeName_eq]
    cases u.property? o name <;> rfl
  | moduleNames =>
    rw [AttributeStore.get, AttributeStore.get, h.namespace?_eq, h.moduleName_eq]
    cases u.namespace? o with
    | none => rfl
    | some entries =>
      simp only [Option.map_some, Option.bind_some, Bindings.get?_mapValues]
      cases Bindings.get? name entries <;> rfl
  | structMembers =>
    rw [AttributeStore.get, AttributeStore.get, h.shapeOf_eq]
    cases u.shapeOf o with
    | error f => rfl
    | ok shape =>
      simp only [bind, Except.bind, h.property?_eq]
      cases u.property? o name with
      | some v => rfl
      | none =>
        -- A member that has not been set reads as null, and null is never shifted.
        simp only [Option.map_none]
        split
        · simp [Except.map]
        · rfl

/-- **The attributes** of an object with a store, among the properties or not. -/
theorem getAttr {host : Host} {store : AttributeStore}
    (hstore : (u.typeOf o).slots .getAttr = some (.getAttr store)) (name : String) :
    (∃ v, host.getAttr o name u = .done v u ∧ host.getAttr p name w = .done (v.shift r) w) ∨
      ∃ f, host.getAttr o name u = .raised f u ∧ host.getAttr p name w = .raised f w := by
  cases hmarked : Host.markedProperty? name with
  | some property =>
    refine .inl ⟨(u.property? o property).getD (.object nullObject), ?_, ?_⟩
    · simp only [Host.getAttr, hmarked, Run.read_apply]
    · simp only [Host.getAttr, hmarked, Run.read_apply, h.property?_eq]
      cases u.property? o property <;> simp
  | none =>
    have hstore' : (w.typeOf p).slots .getAttr = some (.getAttr store) := by
      rw [h.typeOf_eq]
      exact hstore
    rw [host.getAttr_apply hstore hmarked, host.getAttr_apply hstore' hmarked, h.get_eq]
    cases store.get u o name with
    | ok v => exact .inl ⟨v, rfl, rfl⟩
    | error f => exact .inr ⟨f, rfl, rfl⟩

/-! ## Texts -/

theorem textOf_eq : Rendering.textOf w p = Rendering.textOf u o := by
  rw [Rendering.textOf, Rendering.textOf, h.payload?_eq]
  rcases u.payload? o with _ | v
  · rfl
  · cases v <;> rfl

theorem functionText_eq : Rendering.functionText w p = Rendering.functionText u o := by
  rw [Rendering.functionText, Rendering.functionText, h.payload?_eq]
  rcases u.payload? o with _ | v
  · rfl
  · cases v <;> rfl

theorem numberText_eq (how : Rendering) :
    Rendering.numberText w p how = Rendering.numberText u o how := by
  unfold Rendering.numberText
  rw [h.payload?_eq]
  cases u.payload? o with
  | none => rw [Option.map_none]
  | some v =>
    rw [Option.map_some]
    -- Numbers are not shifted, and whatever is shifted counts as zero.
    cases v with
    | list items | dict entries | function f | foreign f | object q => cases how <;> rfl
    | _ => simp only [Value.shift]

theorem structText_eq : Rendering.structText w p = Rendering.structText u o := by
  simp only [Rendering.structText, h.shapeOf_eq, h.isInstance_eq]

end Mirrors

end World

/-- A rendering that depends neither on other objects nor on where the object is. -/
def Rendering.Placeless (how : Rendering) : Prop :=
  how ≠ .identity ∧ how ≠ .bool ∧ how ≠ .array ∧ how ≠ .wrapper

instance (how : Rendering) : Decidable how.Placeless := inferInstanceAs (Decidable (_ ∧ _))

/-- **By itself** an object shows the same text. -/
theorem World.Mirrors.alone {u w : World} {o p : ObjectId} (h : u.Mirrors r o w p)
    {how : Rendering} (hhow : how.Placeless)
    (hshape : how = .struct → (u.typeOf o).shape.isSome = true) :
    ∃ text, how.alone o u = .done (.text text) u ∧ how.alone p w = .done (.text text) w := by
  obtain ⟨hidentity, hbool, harray, hwrapper⟩ := hhow
  simp only [Rendering.alone, Run.bind_apply, Run.read_apply, id_eq]
  cases how with
  -- The first four depend on the place of the object or on what other objects hold.
  | identity => exact absurd rfl hidentity
  | bool => exact absurd rfl hbool
  | array => exact absurd rfl harray
  | wrapper => exact absurd rfl hwrapper
  | null => exact ⟨_, rfl, rfl⟩
  | integer | float | complex => exact ⟨_, rfl, by rw [h.numberText_eq]; rfl⟩
  | text | quotedText => exact ⟨_, rfl, by rw [h.textOf_eq]; rfl⟩
  | module => exact ⟨_, rfl, by rw [h.moduleName_eq]; rfl⟩
  | function => exact ⟨_, rfl, by rw [h.functionText_eq]; rfl⟩
  | struct =>
    obtain ⟨shape, hsome⟩ := Option.isSome_iff_exists.mp (hshape rfl)
    have hshapeOf : u.shapeOf o = .ok shape := by rw [World.shapeOf, hsome]
    have htext : ∃ text, Rendering.structText u o = .ok text := by
      by_cases hinstance : (u.object o).isInstance = true
      all_goals exact ⟨_, by simp only [Rendering.structText, hshapeOf, hinstance]; rfl⟩
    obtain ⟨text, htext⟩ := htext
    refine ⟨text, ?_, ?_⟩
    · simp only [htext]; rfl
    · simp only [h.structText_eq, htext]; rfl

/-- A type is **placeless** if its objects keep attributes and show the same text
    wherever they are. -/
structure TypeDescriptor.Placeless (T : TypeDescriptor) : Prop where
  store : ∃ store, T.slots .getAttr = some (.getAttr store)
  shown : ∀ form : TextForm, ∃ slot how, form.handler? T = some (slot, .rendering how) ∧
    how.Placeless ∧ (how = .struct → T.shape.isSome = true)

namespace TypeDescriptor

theorem placeless_builtin {T : TypeDescriptor} (hT : T ∈ builtins)
    (hcategory : T.category ∉ [.bool, .array, .wrapper]) : T.Placeless := by
  simp only [builtins, List.mem_cons, List.not_mem_nil, or_false] at hT
  rcases hT with rfl | rfl | rfl | rfl | rfl | rfl | rfl | rfl | rfl | rfl
  all_goals first
    | exact absurd (by decide) hcategory
    | exact ⟨⟨_, rfl⟩, fun form => by cases form <;> exact ⟨_, _, rfl, by decide, by decide⟩⟩

theorem placeless_struct (shape : StructShape) (ident : TypeId) :
    (struct shape ident).Placeless := by
  refine ⟨⟨_, rfl⟩, fun form => ?_⟩
  cases form <;> exact ⟨_, .struct, rfl, by decide, fun _ => rfl⟩

end TypeDescriptor

/-! ## Appearances -/

/-- An object of one world **appears** as an object of another one does: it has the
    same flags, the same members, the same attributes and the same texts. -/
structure World.Appears (host : Host) (r : Shift) (u : World) (o : ObjectId) (w : World)
    (p : ObjectId) : Prop where
  isInstance_eq : (w.object p).isInstance = (u.object o).isInstance
  underConstruction_eq : (w.object p).underConstruction = (u.object o).underConstruction
  typeName_eq : w.typeName p = u.typeName o
  shape_eq : (w.typeOf p).shape = (u.typeOf o).shape
  moduleAttributes_eq : w.moduleAttributes p = u.moduleAttributes o
  getAttr : ∀ name,
    (∃ v, host.getAttr o name u = .done v u ∧ host.getAttr p name w = .done (v.shift r) w) ∨
      ∃ f, host.getAttr o name u = .raised f u ∧ host.getAttr p name w = .raised f w
  stringify : ∃ text, host.stringify (.object o) u = .done text u ∧
    host.stringify (.object p) w = .done text w
  represent : ∃ text, host.represent (.object o) u = .done text u ∧
    host.represent (.object p) w = .done text w

namespace World.Mirrors

variable {u w : World} {o p : ObjectId} (h : u.Mirrors r o w p)
include h

/-- **The texts** of an object of a placeless type. -/
theorem render (natives : Natives) (hplaceless : (u.typeOf o).Placeless) (form : TextForm) :
    ∃ text, natives.render form (.object o) u = .done text u ∧
      natives.render form (.object p) w = .done text w := by
  obtain ⟨slot, how, hhandler, hhow, hshape⟩ := hplaceless.shown form
  obtain ⟨text, hleft, hright⟩ := h.alone hhow hshape
  have hhandler' : form.handler? (w.typeOf p) = some (slot, .rendering how) := by
    rw [h.typeOf_eq]
    exact hhandler
  have harray := hhow.2.2.1
  exact ⟨text, natives.render_alone hhandler harray hleft,
    natives.render_alone hhandler' harray hright⟩

/-- **An object that mirrors another one** appears as it does. -/
theorem appears (host : Host) (hplaceless : (u.typeOf o).Placeless) :
    u.Appears host r o w p where
  isInstance_eq := h.isInstance_eq
  underConstruction_eq := h.underConstruction_eq
  typeName_eq := h.typeName_eq
  shape_eq := by rw [h.typeOf_eq]; rfl
  moduleAttributes_eq := h.moduleAttributes_eq
  getAttr name := by
    obtain ⟨store, hstore⟩ := hplaceless.store
    exact h.getAttr hstore name
  stringify := h.render host.natives hplaceless .plain
  represent := h.render host.natives hplaceless .representation

end World.Mirrors

end DynamicObjects
