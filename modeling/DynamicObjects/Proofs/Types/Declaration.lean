import DynamicObjects.Proofs.Safety.Reachable
import DynamicObjects.Proofs.Struct.Protection

/-! # Declarations

    A declaration records types under their names and adds objects: the
    prototype of a struct, or a module with what it holds.  Whatever existed
    before stays exactly as it is.

    Main results:
    - `Natives.makeStruct_eq`: the declaration of a struct as one step
    - `Catalogue.load_eq`: the loading of a module as one step
    - `Operation.declares`: a declaration changes no object, and the table of
      names by what it records -/

namespace DynamicObjects

/-! ## Extensions -/

namespace World

/-- A world **extends** another if all objects in it are still what they were.
    Objects, identities and declared types may have been added. -/
structure Extends (w w' : World) : Prop where
  size_le : w.heap.size ≤ w'.heap.size
  object?_eq : ∀ {o : ObjectId}, o.index < w.heap.size → w'.object? o = w.object? o
  nextIdent_le : w.nextIdent ≤ w'.nextIdent

section extends_
variable {w w₁ w₂ : World}

protected theorem Extends.refl (w : World) : w.Extends w :=
  ⟨Nat.le_refl _, fun _ => rfl, Nat.le_refl _⟩

theorem Extends.trans (h₁ : w.Extends w₁) (h₂ : w₁.Extends w₂) : w.Extends w₂ where
  size_le := Nat.le_trans h₁.size_le h₂.size_le
  object?_eq ho := (h₂.object?_eq (Nat.lt_of_lt_of_le ho h₁.size_le)).trans (h₁.object?_eq ho)
  nextIdent_le := Nat.le_trans h₁.nextIdent_le h₂.nextIdent_le

theorem Builds.nextIdent_le {start : Nat} {given : Value → Prop} (h : Builds start given w w₁) :
    w.nextIdent ≤ w₁.nextIdent := by
  induction h with
  | refl => exact Nat.le_refl _
  | ident _ ih => exact Nat.le_succ_of_le ih
  | add _ T ih => exact ih
  | set _ hnew name hv ih => exact ih

theorem Builds.extends {start : Nat} {given : Value → Prop} (h : Builds start given w w₁)
    (hstart : w.heap.size ≤ start) : w.Extends w₁ :=
  ⟨(h.grows hstart).size_le, (h.grows hstart).object?_eq, h.nextIdent_le⟩

theorem extends_add (w : World) (x : Object) : w.Extends (w.add x).2 :=
  ⟨(later_add w x).size_le, fun ho => object?_add_old w x ho, Nat.le_refl _⟩

@[simp] theorem typeOf_add (w : World) (T : TypeDescriptor) :
    (w.add (.bare T)).2.typeOf ⟨w.heap.size⟩ = T := by
  have hadded : (w.add (.bare T)).2.object? ⟨w.heap.size⟩ = some (.bare T) := object?_add_self w _
  rw [typeOf, object, hadded]
  rfl

theorem typeOf_update (w : World) (o p : ObjectId) (f : Object → Object)
    (htype : ∀ x, (f x).type = x.type) : (w.update o f).typeOf p = w.typeOf p := by
  rw [typeOf, typeOf, object, object, object?_update]
  split
  · cases w.object? p with
    | none => rfl
    | some x => exact htype x
  · rfl

@[simp] theorem typeOf_setProperty (w : World) (o p : ObjectId) (name : String) (v : Value) :
    (w.setProperty o name v).typeOf p = w.typeOf p :=
  typeOf_update w o p _ fun _ => rfl

@[simp] theorem typeOf_setProperties (w : World) (o p : ObjectId) (entries : Bindings Value) :
    (w.setProperties o entries).typeOf p = w.typeOf p :=
  typeOf_update w o p _ fun _ => rfl

/-- A change of an object that is new as well is none to the objects before. -/
theorem Extends.update (h : w.Extends w₁) {o : ObjectId} (hnew : w.heap.size ≤ o.index)
    (f : Object → Object) : w.Extends (w₁.update o f) where
  size_le := by
    rw [size_update]
    exact h.size_le
  object?_eq {p} hp := by
    have hne : p ≠ o := by
      intro heq
      rw [heq] at hp
      omega
    rw [object?_update_ne _ hne]
    exact h.object?_eq hp
  nextIdent_le := h.nextIdent_le

end extends_

/-! ## Structs -/

/-- The type that a declaration of a struct makes. -/
def structType (w : World) (shape : StructShape) : TypeDescriptor :=
  .struct shape (.declared w.nextIdent)

/-- The world after the declaration of a struct: its type is recorded under its
    name, and its prototype has been added. -/
def structDeclared (w : World) (shape : StructShape) : World :=
  ((w.freshIdent.2.declareType (w.structType shape)).add (.bare (w.structType shape))).2.setProperty
    ⟨w.heap.size⟩ declaredName (.text shape.name)

section structs
variable {w : World} {shape : StructShape}

@[simp] theorem size_structDeclared :
    (w.structDeclared shape).heap.size = w.heap.size + 1 := by
  rw [structDeclared, size_setProperty, size_add]
  rfl

theorem extends_structDeclared : w.Extends (w.structDeclared shape) := by
  have hident : w.Extends (w.freshIdent.2.declareType (w.structType shape)) :=
    ⟨Nat.le_refl _, fun _ => rfl, Nat.le_succ _⟩
  exact (hident.trans (extends_add _ _)).update (Nat.le_refl _) _

theorem typeOf_structDeclared (w : World) (shape : StructShape) :
    (w.structDeclared shape).typeOf ⟨w.heap.size⟩ = w.structType shape := by
  rw [structDeclared, typeOf_setProperty]
  exact typeOf_add (w.freshIdent.2.declareType (w.structType shape)) (w.structType shape)

end structs

end World

namespace Natives

variable (natives : Natives) (w : World)

/-- A new object of a struct type has what its initializer, which is not one of
    the host, hands over to it. -/
theorem newObject_struct (shape : StructShape) (ident : TypeId) (args : List Value) :
    natives.newObject (.struct shape ident) args w =
      match (w.add (.bare (.struct shape ident))).2.handed? ⟨w.heap.size⟩ args with
      | some entries =>
        .done ⟨w.heap.size⟩
          ((w.add (.bare (.struct shape ident))).2.setProperties ⟨w.heap.size⟩ entries)
      | none => .raised (.notConstructible shape.name) (w.add (.bare (.struct shape ident))).2 := by
  have htype := w.typeOf_add (.struct shape ident)
  have hshape : ((w.add (.bare (.struct shape ident))).2.typeOf ⟨w.heap.size⟩).shape =
      some shape := by rw [htype]; rfl
  have hrun := Behaviour.constructStruct_eq hshape args
  have hslot : (TypeDescriptor.struct shape ident).slots .init = some (.construct .struct) := rfl
  -- A struct has no methods, so that an allocation only adds the object.
  have hallocate : w.allocate (.struct shape ident) = w.add (.bare (.struct shape ident)) := rfl
  simp only [newObject, hslot, Run.bind_apply, Run.step_apply, hallocate, runInitializer,
    Initializer.run, Run.read_apply, World.add] at hrun htype ⊢
  rw [hrun]
  cases World.handed? _ ⟨w.heap.size⟩ args with
  | some entries => rfl
  | none =>
    rw [World.typeName, htype]
    rfl

/-- **The declaration of a struct** either makes its type and its prototype or
    fails and leaves everything as it is. -/
theorem makeStruct_eq (name members guarded : Value) :
    natives.makeStruct name members guarded w =
      match Behaviour.declaredShape w name members guarded with
      | .ok shape => .done ⟨w.heap.size⟩ (w.structDeclared shape)
      | .error f => .raised f w := by
  simp only [makeStruct, Run.bind_apply, Run.read_apply, id_eq]
  cases Behaviour.declaredShape w name members guarded with
  | error f => rfl
  | ok shape =>
    simp only [Run.lift_ok, Behaviour.declareStruct, Run.step_apply]
    have hprototype := newObject_struct natives (w.freshIdent.2.declareType (w.structType shape))
      shape (.declared w.nextIdent) []
    rw [World.handed?, World.typeOf_add] at hprototype
    exact hprototype

end Natives

/-! ## Instances -/

namespace World

/-- The world after the clone of a prototype has been made. -/
def cloned (w : World) (T : TypeDescriptor) (prototype : ObjectId) : World :=
  (w.add (.bare T)).2.setProperties ⟨w.heap.size⟩
    ((w.add (.bare T)).2.object prototype).properties

/-- The world after a module of given bindings has been made. -/
def moduleMade (w : World) (name : String) (entries : Bindings Value) : World :=
  let (entries, w₁) := (w.add (.bare .module)).2.toEntries entries
  (w₁.setProperty ⟨w.heap.size⟩ declaredName (.text name)).setProperty ⟨w.heap.size⟩
    namespaceName (.dict entries)

variable {w w₁ : World}

theorem extends_cloned (T : TypeDescriptor) (prototype : ObjectId) :
    w.Extends (w.cloned T prototype) :=
  (extends_add w _).update (Nat.le_refl _) _

@[simp] theorem typeOf_cloned (T : TypeDescriptor) (prototype : ObjectId) :
    (w.cloned T prototype).typeOf ⟨w.heap.size⟩ = T := by
  rw [cloned, typeOf_setProperties, typeOf_add]

theorem extends_moduleMade (name : String) (entries : Bindings Value) :
    w.Extends (w.moduleMade name entries) := by
  have hentries := (toEntries_builds_any (w.add (.bare .module)).2 entries).extends (Nat.le_refl _)
  have hextends := (extends_add w (.bare .module)).trans hentries
  exact (hextends.update (Nat.le_refl _) _).update (Nat.le_refl _) _

/-- The module is the first object that is added. -/
theorem typeOf_moduleMade (name : String) (entries : Bindings Value) :
    (w.moduleMade name entries).typeOf ⟨w.heap.size⟩ = .module := by
  have hlater := (toEntries_builds_any (w.add (.bare .module)).2 entries).later
  rw [moduleMade, typeOf_setProperty, typeOf_setProperty,
    hlater.typeOf_eq (by rw [size_add]; exact Nat.lt_succ_self _), typeOf_add]

theorem size_lt_moduleMade (name : String) (entries : Bindings Value) :
    w.heap.size < (w.moduleMade name entries).heap.size := by
  have hlater := (toEntries_builds_any (w.add (.bare .module)).2 entries).later
  rw [moduleMade, size_setProperty, size_setProperty]
  exact Nat.lt_of_lt_of_le (by rw [size_add]; exact Nat.lt_succ_self _) hlater.size_le

theorem declared_moduleMade (name : String) (entries : Bindings Value) :
    (w.moduleMade name entries).declared = w.declared :=
  ((toEntries_builds_any (w.add (.bare .module)).2 entries).grows (Nat.le_refl _)).declared_eq

theorem declared_published (w : World) (this : ObjectId) (entries : Bindings Value) :
    (Behaviour.published w this entries).declared = w.declared :=
  (Behaviour.windowEntries_grows w this entries).declared_eq

/-- The members of a new object are no concern of those before. -/
theorem Extends.published (h : w.Extends w₁) {this : ObjectId} (hnew : w.heap.size ≤ this.index)
    (entries : Bindings Value) : w.Extends (Behaviour.published w₁ this entries) := by
  have hwindow : w.Extends (w₁.setUnderConstruction this true) := h.update hnew _
  have hentries := (toEntries_builds_any (w₁.setUnderConstruction this true)
    entries).extends (Nat.le_refl _)
  exact (hwindow.trans hentries).update hnew _

end World

namespace Natives

variable (natives : Natives) {w : World}

/-- A prototype makes a clone of its type. -/
theorem newObject_clone {prototype : ObjectId} {shape : StructShape} {ident : TypeId}
    (htype : w.typeOf prototype = .struct shape ident) :
    natives.newObject (.struct shape ident) [.object prototype] w =
      .done ⟨w.heap.size⟩ (w.cloned (.struct shape ident) prototype) := by
  have hshape : (w.typeOf prototype).shape = some shape := by rw [htype]; rfl
  obtain ⟨x, hx⟩ := Behaviour.object?_of_shape hshape
  have hadd := World.later_add w (.bare (.struct shape ident))
  have hold := hadd.typeOf_eq (World.index_lt_of_object?_eq_some hx)
  have hinstance : (w.add (.bare (.struct shape ident))).2.handed? ⟨w.heap.size⟩
      [.object prototype] =
        some ((w.add (.bare (.struct shape ident))).2.object prototype).properties := by
    rw [World.handed?, World.isInstanceOf, hold, htype, World.typeOf_add]
    simp
  rw [natives.newObject_struct, hinstance]
  rfl

/-- **An instance** whose members are given in a list: there are as many values
    as members, so that nothing can go wrong. -/
theorem newStruct_list {prototype : ObjectId} {shape : StructShape} {ident : TypeId}
    (htype : w.typeOf prototype = .struct shape ident) {values : List Value}
    (hlength : values.length = shape.members.length) :
    natives.newStruct (.object prototype) (some (.list values)) w =
      .done ⟨w.heap.size⟩ (Behaviour.published (w.cloned (.struct shape ident) prototype)
        ⟨w.heap.size⟩ (shape.members.zip values)) := by
  have hshape : ((w.cloned (.struct shape ident) prototype).typeOf ⟨w.heap.size⟩).shape =
      some shape := by
    rw [World.typeOf_cloned]
    rfl
  -- Every name comes from the shape, so that the check of names cannot fail.
  have hbinds : Behaviour.DataBinds (w.cloned (.struct shape ident) prototype) shape
      (.list values) (shape.members.zip values) := .list rfl hlength
  have hassigned := Behaviour.assignMembers_eq_done hshape hbinds
    fun name => Behaviour.hasMember_of_mem_zip
  have hsome : (TypeDescriptor.struct shape ident).shape.isNone = false := rfl
  simp only [newStruct, Run.bind_apply, Run.read_apply, htype, hsome, Bool.false_eq_true,
    if_false, natives.newObject_clone htype, Option.map_some, World.unwrap, hassigned,
    Run.pure_apply]

/-- A module of given bindings can always be made. -/
theorem newModule_eq (w : World) (name : String) (entries : Bindings Value) :
    natives.newModule name entries w = .done ⟨w.heap.size⟩ (w.moduleMade name entries) := rfl

end Natives

/-! ## Builtin modules -/

namespace Catalogue

variable (natives : Natives) (w : World)

/-- The names of members are texts. -/
theorem memberNames_texts (names : List String) :
    Behaviour.memberNames w (.list (names.map Value.text)) = .ok names := by
  have hnames : (names.map Value.text).mapM (Behaviour.memberName w) = .ok names := by
    induction names with
    | nil => rfl
    | cons name rest ih =>
      rw [List.map_cons, List.mapM_cons, ih]
      rfl
  exact hnames

/-- The type of a struct over some names, none of them guarded. -/
def typeOver (name : String) (members : Bindings Value) : TypeDescriptor :=
  w.structType ⟨name, members.names, []⟩

/-- The world after a struct over some names has been declared and an instance of
    it has been made. -/
def structMade (name : String) (members : Bindings Value) : World :=
  Behaviour.published
    ((w.structDeclared ⟨name, members.names, []⟩).cloned (typeOver w name members) ⟨w.heap.size⟩)
    ⟨w.heap.size + 1⟩ (members.names.zip (members.map Prod.snd))

theorem extends_structMade (name : String) (members : Bindings Value) :
    w.Extends (structMade w name members) :=
  World.extends_structDeclared.trans
    ((World.extends_cloned _ _).published (Nat.le_of_eq World.size_structDeclared) _)

theorem declared_structMade (name : String) (members : Bindings Value) :
    (structMade w name members).declared = w.declared.set name (typeOver w name members) := by
  rw [structMade, World.declared_published]
  rfl

theorem structInstance_eq (name : String) (members : Bindings Value) :
    structInstance natives name members w =
      .done ⟨w.heap.size + 1⟩ (structMade w name members) := by
  have hshape : Behaviour.declaredShape w (.text name) (.list (members.names.map Value.text))
      (.list []) = .ok ⟨name, members.names, []⟩ := by
    simp only [Behaviour.declaredShape, World.unwrap, memberNames_texts]
    rfl
  have hdeclared := natives.makeStruct_eq w (.text name) (.list (members.names.map Value.text))
    (.list [])
  rw [hshape] at hdeclared
  have hlength : (members.map Prod.snd).length = members.names.length := by
    simp [Bindings.names]
  have hinstance := natives.newStruct_list
    (w.typeOf_structDeclared ⟨name, members.names, []⟩) hlength
  rw [World.size_structDeclared] at hinstance
  simp only [structInstance, Run.bind_apply, hdeclared, hinstance]
  rfl

/-! ## The types that a module declares -/

/-- The members of the first struct of the film. -/
def aobingMembers : Bindings Value :=
  [("name", .text "AoBing"), ("age", .text "3"), ("location", .text "龙宫")]

/-- The members of the second struct, one of which is an instance of the first. -/
def nezhaMembers (aobing : ObjectId) : Bindings Value :=
  [("name", .text "Nezha"), ("age", .int 3), ("friend", .object aobing),
   ("location", .text "陈塘关")]

/-- The types that loading a module records, in this order: those of its two
    structs, each with an identity of its own. -/
def recorded (name : String) : List TypeDescriptor :=
  if name = "_nezha" then
    typeOver w "Aobing" aobingMembers ::
      match structInstance natives "Aobing" aobingMembers w with
      | .done aobing w₁ => [typeOver w₁ "NEZHA" (nezhaMembers aobing)]
      | _ => []
  else []

/-- The world after the first struct of the film has been made. -/
def aobingMade : World := structMade w "Aobing" aobingMembers

/-- The world after both structs of the film have been made. -/
def nezhaMade : World := structMade (aobingMade w) "NEZHA" (nezhaMembers ⟨w.heap.size + 1⟩)

/-- The bindings of the module, one of which is the second instance. -/
def nezhaBindings (nezha : ObjectId) : Bindings Value :=
  [("NAME", .text "Nezha"), ("DATE", .text "2019/7/26"),
   ("BOX_OFFICE_IN_CHINA", .text "50.13亿"), ("NEZHA", .object nezha)]

/-- The world after the module has been made, too. -/
def loaded : World :=
  (nezhaMade w).moduleMade "_nezha" (nezhaBindings ⟨(aobingMade w).heap.size + 1⟩)

/-- **Loading a module** makes it, or fails and leaves everything as it is. -/
theorem load_eq (name : String) :
    load natives name w =
      if name = "_nezha" then .done ⟨(nezhaMade w).heap.size⟩ (loaded w)
      else .raised (.moduleNotFound name) w := by
  split
  · next hname =>
    subst hname
    have hload : load natives "_nezha" w = Catalogue.nezha natives w := rfl
    have hfirst := structInstance_eq natives w "Aobing" aobingMembers
    have hsecond := structInstance_eq natives (aobingMade w) "NEZHA"
      (nezhaMembers ⟨w.heap.size + 1⟩)
    -- `Catalogue.nezha` has the members spelt out.
    unfold aobingMembers at hfirst
    unfold aobingMade aobingMembers nezhaMembers at hsecond
    simp only [hload, Catalogue.nezha, Run.bind_apply, hfirst, hsecond, natives.newModule_eq]
    rfl
  · next hname =>
    have hmodules : Bindings.get? name modules = none := if_neg (Ne.symm hname)
    rw [load, hmodules]
    rfl

theorem extends_loaded : w.Extends (loaded w) :=
  ((extends_structMade w _ _).trans (extends_structMade _ _ _)).trans
    (World.extends_moduleMade _ _)

theorem declared_loaded :
    (loaded w).declared =
      w.declared.setAll ((recorded natives w "_nezha").map fun T => (T.name, T)) := by
  rw [loaded, World.declared_moduleMade, nezhaMade, declared_structMade, aobingMade,
    declared_structMade, recorded, if_pos rfl, structInstance_eq]
  rfl

end Catalogue

/-! ## Declarations as operations -/

namespace Operation

/-- The operations that record types. -/
def IsDeclaration : Operation → Prop
  | makeStruct _ _ _ | loadModule _ | declareType _ => True
  | _ => False

/-- The types that an operation records under their names, in this order. -/
def recorded (natives : Natives) (w : World) : Operation → List TypeDescriptor
  | declareType T => [T]
  | makeStruct name members guarded =>
    match Behaviour.declaredShape w name members guarded with
    | .ok shape => [w.structType shape]
    | .error _ => []
  | loadModule name => Catalogue.recorded natives w name
  | _ => []

/-- **Steps that record types**: where they lead from a world, and what they record. -/
inductive Records (natives : Natives) (w : World) : World → List TypeDescriptor → Prop
  | type (T : TypeDescriptor) : Records natives w (w.declareType T) [T]
  | struct (shape : StructShape) : Records natives w (w.structDeclared shape) [w.structType shape]
  | module : Records natives w (Catalogue.loaded w) (Catalogue.recorded natives w "_nezha")
  | refused : Records natives w w []

theorem EndsIn.unique {host : Host} {w w₁ w₂ : World} {op : Operation} (h₁ : op.EndsIn host w w₁)
    (h₂ : op.EndsIn host w w₂) : w₁ = w₂ := by
  rcases h₁ with h₁ | ⟨f, h₁⟩ <;> rcases h₂ with h₂ | ⟨g, h₂⟩
  · exact (Outcome.done.inj (h₁.symm.trans h₂)).2
  · cases h₁.symm.trans h₂
  · cases h₁.symm.trans h₂
  · exact (Outcome.raised.inj (h₁.symm.trans h₂)).2

/-- **Declarations** end everywhere, with what they record. -/
theorem IsDeclaration.exists_records {op : Operation} (hdeclares : op.IsDeclaration) (host : Host)
    (w : World) : ∃ w', op.EndsIn host w w' ∧
      Records host.natives w w' (op.recorded host.natives w) := by
  -- A declaration that is refused records nothing, so all three run as their equations say.
  cases op with
  | declareType T => exact ⟨_, .inl rfl, .type T⟩
  | makeStruct name members guarded =>
    have hrun := host.natives.makeStruct_eq w name members guarded
    rw [recorded]
    cases hshape : Behaviour.declaredShape w name members guarded with
    | ok shape =>
      rw [hshape] at hrun
      exact ⟨_, .inl (by rw [run, Run.bind_apply, hrun]; rfl), .struct shape⟩
    | error f =>
      rw [hshape] at hrun
      exact ⟨w, .inr ⟨f, by rw [run, Run.bind_apply, hrun]⟩, .refused⟩
  | loadModule name =>
    have hrun := Catalogue.load_eq host.natives w name
    rw [recorded]
    by_cases hname : name = "_nezha"
    · rw [if_pos hname] at hrun
      rw [hname] at hrun ⊢
      exact ⟨_, .inl (by rw [run, Run.bind_apply, hrun]; rfl), .module⟩
    · rw [if_neg hname] at hrun
      rw [Catalogue.recorded, if_neg hname]
      exact ⟨w, .inr ⟨_, by rw [run, Run.bind_apply, hrun]⟩, .refused⟩
  | _ => exact hdeclares.elim

theorem IsDeclaration.records {host : Host} {w w' : World} {op : Operation}
    (hdeclares : op.IsDeclaration) (hends : op.EndsIn host w w') :
    Records host.natives w w' (op.recorded host.natives w) := by
  obtain ⟨w₁, hends₁, hrecords⟩ := hdeclares.exists_records host w
  exact hends.unique hends₁ ▸ hrecords

/-- **Step**: a declaration changes no object, and the table of names by what it
    records. -/
theorem Records.extends {natives : Natives} {w w' : World} {Ts : List TypeDescriptor}
    (h : Records natives w w' Ts) :
    w.Extends w' ∧ w'.declared = w.declared.setAll (Ts.map fun T => (T.name, T)) := by
  cases h with
  | type T => exact ⟨⟨Nat.le_refl _, fun _ => rfl, Nat.le_refl _⟩, rfl⟩
  | struct shape => exact ⟨World.extends_structDeclared, rfl⟩
  | module => exact ⟨Catalogue.extends_loaded w, Catalogue.declared_loaded natives w⟩
  | refused => exact ⟨.refl w, rfl⟩

theorem declares {host : Host} {w w' : World} {op : Operation} (hdeclares : op.IsDeclaration)
    (hends : op.EndsIn host w w') :
    w.Extends w' ∧
      w'.declared = w.declared.setAll ((op.recorded host.natives w).map fun T => (T.name, T)) :=
  (hdeclares.records hends).extends

end Operation

end DynamicObjects
