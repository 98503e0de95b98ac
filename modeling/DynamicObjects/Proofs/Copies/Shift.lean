import DynamicObjects.Proofs.Types.Declaration

/-! # Shifted objects

    The same objects can be built in any world: they only go to other places, and
    are given other identities.  A `Shift` tells where the objects of one world
    are in another one; the singletons are where they always are.

    The argument:
    1. A change that is made to an object, and to its counterpart in the other
       world with shifted values, leaves the worlds shifted.
    2. So does an object that is added to both; it goes to a place and to the
       shifted one.
    3. Conversions, declarations and assignments are made of such changes, and so
       is the loading of a module.

    Main results:
    - `World.Shifted.update`, `World.Shifted.add`: changes made in both worlds
    - `World.Shifted.toObject`: conversions
    - `Catalogue.shifted_loaded`: a module is the same wherever it is loaded -/

namespace DynamicObjects

/-- Where the objects of a world are in another one: from which place on, and from
    which identity on. -/
structure Shift where
  places : Nat
  idents : Nat

variable (r : Shift)

/-! ## Shifted values -/

/-- The place of an object.  The first three are those of the singletons. -/
def Shift.place (o : ObjectId) : ObjectId :=
  if o.index < 3 then o else ⟨o.index - 3 + r.places⟩

/-- The same function with a shifted identity and receiver. -/
def Function.shift (f : Function) : Function where
  ident := f.ident + r.idents
  name := f.name
  body :=
    match f.body with
    | .bound receiver qualifiedName method => .bound (r.place receiver) qualifiedName method
    | .host => .host

namespace Value

mutual

/-- The same value with shifted objects in it. -/
def shift : Value → Value
  | .list items => .list (shiftList items)
  | .dict entries => .dict (shiftEntries entries)
  | .function f => .function (f.shift r)
  | .foreign v => .foreign ⟨v.ident + r.idents, v.typeName⟩
  | .object o => .object (r.place o)
  | v => v

/-- The same list with shifted objects in it. -/
def shiftList : List Value → List Value
  | [] => []
  | v :: rest => shift v :: shiftList rest

/-- The same mapping with shifted objects in it. -/
def shiftEntries : List (String × Value) → List (String × Value)
  | [] => []
  | (name, v) :: rest => (name, shift v) :: shiftEntries rest

end

end Value

namespace Bindings

variable {α β : Type}

/-- The same names bound to other values. -/
def mapValues (f : α → β) (bindings : Bindings α) : Bindings β :=
  bindings.map fun entry => (entry.1, f entry.2)

section mapValues
variable {f : α → β} {bindings entries : Bindings α}

@[simp] theorem names_mapValues : names (mapValues f bindings) = names bindings := by
  simp [names, mapValues]

theorem get?_mapValues (name : String) :
    get? name (mapValues f bindings) = (get? name bindings).map f := by
  induction bindings with
  | nil => rfl
  | cons entry rest ih =>
    obtain ⟨key, a⟩ := entry
    by_cases hkey : key = name
    · simp [mapValues, get?, hkey]
    · simpa [mapValues, get?, hkey] using ih

theorem set_mapValues (name : String) (a : α) :
    set name (f a) (mapValues f bindings) = mapValues f (set name a bindings) := by
  induction bindings with
  | nil => rfl
  | cons entry rest ih =>
    obtain ⟨key, b⟩ := entry
    by_cases hkey : key = name
    · simp [mapValues, set, hkey]
    · simpa [mapValues, set, hkey] using ih

theorem setAll_mapValues :
    setAll (mapValues f bindings) (mapValues f entries) =
      mapValues f (setAll bindings entries) := by
  induction entries generalizing bindings with
  | nil => rfl
  | cons entry rest ih =>
    show setAll (set entry.1 (f entry.2) (mapValues f bindings)) (mapValues f rest) = _
    rw [set_mapValues, ih]
    rfl

end mapValues

end Bindings

theorem Value.shiftEntries_eq (entries : Bindings Value) :
    Value.shiftEntries r entries = entries.mapValues (Value.shift r) := by
  induction entries with
  | nil => rfl
  | cons entry rest ih =>
    obtain ⟨name, v⟩ := entry
    rw [shiftEntries, ih]
    rfl

/-! ## Shifted types and objects -/

/-- The same method; a shared one is shifted. -/
def Method.shift : Method → Method
  | .native body => .native body
  | .shared callable => .shared (r.place callable)

/-- The same type with a shifted identity, unless it is builtin. -/
def TypeDescriptor.shift (T : TypeDescriptor) : TypeDescriptor :=
  { T with
    ident :=
      match T.ident with
      | .builtin category => .builtin category
      | .declared ident => .declared (ident + r.idents)
    methods := T.methods.mapValues (Method.shift r) }

/-- The same object with shifted objects in it. -/
def Object.shift (x : Object) : Object :=
  { x with
    type := x.type.shift r
    properties := x.properties.mapValues (Value.shift r) }

section shifts
variable {r}

theorem Shift.place_of_lt {o : ObjectId} (ho : o.index < 3) : r.place o = o := if_pos ho

theorem Shift.place_of_le {o : ObjectId} (ho : 3 ≤ o.index) :
    r.place o = ⟨o.index - 3 + r.places⟩ := if_neg (Nat.not_lt.mpr ho)

/-- Beyond the singletons different objects are in different places. -/
theorem Shift.place_inj {o p : ObjectId} (ho : 3 ≤ o.index) (hp : 3 ≤ p.index) :
    r.place o = r.place p ↔ o = p := by
  rw [place_of_le ho, place_of_le hp]
  cases o
  cases p
  simp only [ObjectId.mk.injEq] at ho hp ⊢
  omega

@[simp] theorem Shift.place_nullObject : r.place World.nullObject = World.nullObject :=
  place_of_lt (Nat.zero_lt_succ _)

@[simp] theorem Shift.place_boolObject (b : Bool) :
    r.place (World.boolObject b) = World.boolObject b := by
  refine place_of_lt ?_
  cases b <;> decide

@[simp] theorem Value.shift_text (s : String) : (Value.text s).shift r = .text s := by
  simp [shift]

@[simp] theorem Value.shift_int (n : Int64) : (Value.int n).shift r = .int n := by
  simp [shift]

@[simp] theorem Value.shift_object (o : ObjectId) :
    (Value.object o).shift r = .object (r.place o) := by rw [shift]

@[simp] theorem Value.shift_function (f : Function) :
    (Value.function f).shift r = .function (f.shift r) := by rw [shift]

theorem Value.shift_dict (entries : Bindings Value) :
    (Value.dict entries).shift r = .dict (entries.mapValues (Value.shift r)) := by
  rw [shift, shiftEntries_eq]

/-- Builtin types share no methods. -/
theorem TypeDescriptor.shift_builtin {T : TypeDescriptor} (hT : T ∈ builtins) : T.shift r = T := by
  simp only [builtins, List.mem_cons, List.not_mem_nil, or_false] at hT
  rcases hT with rfl | rfl | rfl | rfl | rfl | rfl | rfl | rfl | rfl | rfl <;> rfl

theorem TypeDescriptor.shift_struct (shape : StructShape) (ident : Nat) :
    (struct shape (.declared ident)).shift r = struct shape (.declared (ident + r.idents)) := rfl

@[simp] theorem Object.shift_bare (T : TypeDescriptor) :
    (Object.bare T).shift r = .bare (T.shift r) := rfl

theorem Object.shift_setProperty (x : Object) (name : String) (v : Value) :
    (x.setProperty name v).shift r = (x.shift r).setProperty name (v.shift r) := by
  simp only [shift, setProperty, Bindings.set_mapValues]

end shifts

/-! ## Shifted worlds -/

/-- A world has the objects of another one, apart from the singletons, in shifted
    places. -/
structure World.Shifted (u w : World) : Prop where
  size_le : 3 ≤ u.heap.size
  size_eq : w.heap.size + 3 = u.heap.size + r.places
  nextIdent_eq : w.nextIdent = u.nextIdent + r.idents
  object?_eq : ∀ {o : ObjectId}, 3 ≤ o.index →
    w.object? (r.place o) = (u.object? o).map (Object.shift r)

namespace World

variable {r} {u w : World} {o : ObjectId}

/-- **Every world** has as many objects as an initial one behind its own, namely
    none. -/
theorem shifted_initial (w : World) : Shifted ⟨w.heap.size, w.nextIdent⟩ initial w where
  size_le := Nat.le_refl 3
  size_eq := Nat.add_comm _ _
  nextIdent_eq := (Nat.zero_add _).symm
  object?_eq {o} ho := by
    have hinitial : initial.object? o = none := object?_eq_none_of_size_le ho
    rw [hinitial, Shift.place_of_le ho]
    exact object?_eq_none_of_size_le (Nat.le_add_left _ _)

namespace Shifted

/-- The places of the next new objects. -/
theorem place_next (h : Shifted r u w) (k : Nat) :
    r.place ⟨u.heap.size + k⟩ = ⟨w.heap.size + k⟩ := by
  have hsize := h.size_eq
  have hle := h.size_le
  have hnew : 3 ≤ (⟨u.heap.size + k⟩ : ObjectId).index := Nat.le_add_right_of_le hle
  rw [Shift.place_of_le hnew, ObjectId.mk.injEq]
  show u.heap.size + k - 3 + r.places = w.heap.size + k
  omega

theorem place_size (h : Shifted r u w) : r.place ⟨u.heap.size⟩ = ⟨w.heap.size⟩ := h.place_next 0

theorem object_eq (h : Shifted r u w) (ho : 3 ≤ o.index) :
    w.object (r.place o) = (u.object o).shift r := by
  rw [object, object, h.object?_eq ho]
  cases u.object? o with
  | none => rfl
  | some x => rfl

theorem typeOf_eq (h : Shifted r u w) (ho : 3 ≤ o.index) :
    w.typeOf (r.place o) = (u.typeOf o).shift r := by
  rw [typeOf, typeOf, h.object_eq ho]
  rfl

/-! ## Changes -/

/-- Worlds with the same objects. -/
theorem congr (h : Shifted r u w) {u₁ w₁ : World} (hu : u₁.heap = u.heap) (hw : w₁.heap = w.heap)
    (hident : w₁.nextIdent = u₁.nextIdent + r.idents) : Shifted r u₁ w₁ where
  size_le := by rw [hu]; exact h.size_le
  size_eq := by rw [hu, hw]; exact h.size_eq
  nextIdent_eq := hident
  object?_eq {o} ho := by
    have hobject := h.object?_eq ho
    rw [object?, object?] at hobject ⊢
    rw [hu, hw]
    exact hobject

theorem freshIdent (h : Shifted r u w) : Shifted r u.freshIdent.2 w.freshIdent.2 := by
  refine h.congr rfl rfl ?_
  have hident := h.nextIdent_eq
  show w.nextIdent + 1 = u.nextIdent + 1 + r.idents
  omega

/-- **An object** that is added to both worlds. -/
theorem add (h : Shifted r u w) (x : Object) : Shifted r (u.add x).2 (w.add (x.shift r)).2 := by
  have hsize := h.size_eq
  have hle := h.size_le
  constructor
  case size_le =>
    rw [size_add]
    omega
  case size_eq =>
    rw [size_add, size_add]
    omega
  case nextIdent_eq => exact h.nextIdent_eq
  case object?_eq =>
    intro o ho
    -- The place behind the one heap is the place behind the other.
    have hnew : (r.place o).index = w.heap.size ↔ o.index = u.heap.size := by
      rw [Shift.place_of_le ho]
      show o.index - 3 + r.places = w.heap.size ↔ _
      omega
    rw [object?_add, object?_add, h.object?_eq ho]
    by_cases hindex : o.index = u.heap.size
    · rw [if_pos (hnew.mpr hindex), if_pos hindex, Option.map_some]
    · rw [if_neg (hnew.not.mpr hindex), if_neg hindex]

/-- **A change** that is made to an object of both worlds. -/
theorem update (h : Shifted r u w) (ho : 3 ≤ o.index) {f g : Object → Object}
    (hfg : ∀ x, g (x.shift r) = (f x).shift r) :
    Shifted r (u.update o f) (w.update (r.place o) g) := by
  constructor
  case size_le => rw [size_update]; exact h.size_le
  case size_eq => rw [size_update, size_update]; exact h.size_eq
  case nextIdent_eq => exact h.nextIdent_eq
  case object?_eq =>
    intro p hp
    rw [object?_update, object?_update, h.object?_eq hp]
    by_cases hpo : p = o
    · rw [if_pos hpo, if_pos (congrArg r.place hpo), Option.map_map, Option.map_map]
      exact congrArg (fun k => (u.object? p).map k) (funext hfg)
    · rw [if_neg hpo, if_neg ((Shift.place_inj hp ho).not.mpr hpo)]

theorem setProperty (h : Shifted r u w) (ho : 3 ≤ o.index) (name : String) (v : Value) :
    Shifted r (u.setProperty o name v) (w.setProperty (r.place o) name (v.shift r)) :=
  h.update ho fun x => (Object.shift_setProperty x name v).symm

theorem setProperties (h : Shifted r u w) (ho : 3 ≤ o.index) (entries : Bindings Value) :
    Shifted r (u.setProperties o entries)
      (w.setProperties (r.place o) (entries.mapValues (Value.shift r))) := by
  refine h.update ho fun x => ?_
  simp only [Object.shift, Bindings.setAll_mapValues]

theorem setUnderConstruction (h : Shifted r u w) (ho : 3 ≤ o.index) (flag : Bool) :
    Shifted r (u.setUnderConstruction o flag) (w.setUnderConstruction (r.place o) flag) :=
  h.update ho fun _ => rfl

/-! ## New objects -/

theorem install (h : Shifted r u w) (ho : 3 ≤ o.index) (typeName : String)
    (entry : String × Method) :
    Shifted r (u.install o typeName entry)
      (w.install (r.place o) typeName (entry.1, entry.2.shift r)) := by
  obtain ⟨name, method⟩ := entry
  cases method with
  | shared callable => exact h.setProperty ho name (.object callable)
  | native body =>
    -- The function that is made goes to the next place and takes the next identity.
    let f : Function := ⟨u.nextIdent, name, .bound o (typeName ++ "." ++ name) body⟩
    let x : Object := (Object.bare .function).setProperty payloadName (.function f)
    have hadd := h.freshIdent.add x
    have hset := hadd.setProperty ho name (.object ⟨u.heap.size⟩)
    have hfunction : TypeDescriptor.function.shift r = .function :=
      TypeDescriptor.shift_builtin (by simp [TypeDescriptor.builtins])
    have hx : x.shift r = (Object.bare .function).setProperty payloadName
        (.function ⟨w.nextIdent, name, .bound (r.place o) (typeName ++ "." ++ name) body⟩) := by
      rw [Object.shift_setProperty, Object.shift_bare, hfunction, Value.shift_function,
        Function.shift, h.nextIdent_eq]
    rw [Value.shift_object, h.place_size, hx] at hset
    exact hset

theorem install_all (h : Shifted r u w) (ho : 3 ≤ o.index) (typeName : String)
    (methods : Bindings Method) :
    Shifted r (methods.foldl (World.install o typeName) u)
      ((methods.mapValues (Method.shift r)).foldl (World.install (r.place o) typeName) w) := by
  induction methods generalizing u w with
  | nil => exact h
  | cons entry rest ih => exact ih (h.install ho typeName entry)

theorem allocate (h : Shifted r u w) (T : TypeDescriptor) :
    r.place (u.allocate T).1 = (w.allocate (T.shift r)).1 ∧
      Shifted r (u.allocate T).2 (w.allocate (T.shift r)).2 := by
  have hadd := h.add (.bare T)
  have hinstalled := hadd.install_all (o := ⟨u.heap.size⟩) h.size_le T.name T.methods
  rw [h.place_size] at hinstalled
  exact ⟨h.place_size, hinstalled⟩

theorem box (h : Shifted r u w) {T : TypeDescriptor} (hT : T ∈ TypeDescriptor.builtins)
    (v : Value) :
    r.place (u.box T v).1 = (w.box T (v.shift r)).1 ∧
      Shifted r (u.box T v).2 (w.box T (v.shift r)).2 := by
  obtain ⟨hplace, hallocate⟩ := h.allocate T
  rw [TypeDescriptor.shift_builtin hT] at hplace hallocate
  have hset := hallocate.setProperty (o := (u.allocate T).1) h.size_le payloadName v
  rw [hplace] at hset
  exact ⟨hplace, hset⟩

/-! ## Conversions -/

mutual

/-- **A conversion** makes the same object in both worlds. -/
theorem toObject {u w : World} (h : Shifted r u w) (v : Value) :
    r.place (u.toObject v).1 = (w.toObject (v.shift r)).1 ∧
      Shifted r (u.toObject v).2 (w.toObject (v.shift r)).2 := by
  match v with
  | .null => exact ⟨Shift.place_nullObject, h⟩
  | .bool b => exact ⟨Shift.place_boolObject b, h⟩
  | .object o => exact ⟨rfl, h⟩
  | .int n => exact h.box (by simp [TypeDescriptor.builtins]) (.int n)
  | .float x => exact h.box (by simp [TypeDescriptor.builtins]) (.float x)
  | .complex z => exact h.box (by simp [TypeDescriptor.builtins]) (.complex z)
  | .text s => exact h.box (by simp [TypeDescriptor.builtins]) (.text s)
  | .function f => exact h.box (by simp [TypeDescriptor.builtins]) (.function f)
  | .dict entries => exact h.box (by simp [TypeDescriptor.builtins]) (.dict entries)
  | .foreign v => exact h.box (by simp [TypeDescriptor.builtins]) (.foreign v)
  | .list items =>
    -- The array comes first, then its elements, then what it holds.
    obtain ⟨hplace, hallocate⟩ := h.allocate .array
    rw [TypeDescriptor.shift_builtin (by simp [TypeDescriptor.builtins])] at hplace hallocate
    obtain ⟨hitems, helements⟩ := hallocate.toObjects items
    have hset := helements.setProperty (o := ⟨u.heap.size⟩) h.size_le payloadName
      (.list ((u.allocate .array).2.toObjects items).1)
    rw [h.place_size] at hset
    rw [Value.shift, toObject_list, toObject_list]
    refine ⟨h.place_size, ?_⟩
    rw [Value.shift, hitems] at hset
    exact hset

/-- The elements of a list are converted to the same objects. -/
theorem toObjects {u w : World} (h : Shifted r u w) (items : List Value) :
    Value.shiftList r (u.toObjects items).1 = (w.toObjects (Value.shiftList r items)).1 ∧
      Shifted r (u.toObjects items).2 (w.toObjects (Value.shiftList r items)).2 := by
  match items with
  | [] => exact ⟨rfl, h⟩
  | v :: rest =>
    obtain ⟨hplace, hfirst⟩ := h.toObject v
    obtain ⟨hitems, hrest⟩ := hfirst.toObjects rest
    refine ⟨?_, hrest⟩
    show (Value.object (u.toObject v).1).shift r ::
        Value.shiftList r ((u.toObject v).2.toObjects rest).1 = .object _ :: _
    rw [hitems, Value.shift_object, hplace]

end

theorem toEntries (h : Shifted r u w) (entries : Bindings Value) :
    (u.toEntries entries).1.mapValues (Value.shift r) =
        (w.toEntries (entries.mapValues (Value.shift r))).1 ∧
      Shifted r (u.toEntries entries).2 (w.toEntries (entries.mapValues (Value.shift r))).2 := by
  induction entries generalizing u w with
  | nil => exact ⟨rfl, h⟩
  | cons entry rest ih =>
    obtain ⟨hplace, hfirst⟩ := h.toObject entry.2
    obtain ⟨hentries, hrest⟩ := ih hfirst
    refine ⟨?_, hrest⟩
    show (entry.1, (Value.object (u.toObject entry.2).1).shift r) ::
        Bindings.mapValues (Value.shift r) ((u.toObject entry.2).2.toEntries rest).1 =
      (entry.1, .object _) :: _
    rw [hentries, Value.shift_object, hplace]
    rfl

/-! ## Structs and modules -/

/-- The declaration of a struct takes the next identity in both worlds. -/
theorem structDeclared (h : Shifted r u w) (shape : StructShape) :
    Shifted r (u.structDeclared shape) (w.structDeclared shape) := by
  have hdeclared : Shifted r (u.freshIdent.2.declareType (u.structType shape))
      (w.freshIdent.2.declareType (w.structType shape)) :=
    h.freshIdent.congr rfl rfl h.freshIdent.nextIdent_eq
  have hadd := hdeclared.add (.bare (u.structType shape))
  have hset := hadd.setProperty (o := ⟨u.heap.size⟩) h.size_le declaredName (.text shape.name)
  have htype : (u.structType shape).shift r = w.structType shape := by
    rw [structType, TypeDescriptor.shift_struct, ← h.nextIdent_eq]
    rfl
  rw [h.place_size, Object.shift_bare, htype, Value.shift_text] at hset
  exact hset

theorem cloned (h : Shifted r u w) (T : TypeDescriptor) {prototype : ObjectId}
    (hprototype : 3 ≤ prototype.index) :
    Shifted r (u.cloned T prototype) (w.cloned (T.shift r) (r.place prototype)) := by
  have hadd := h.add (.bare T)
  have hset := hadd.setProperties (o := ⟨u.heap.size⟩) h.size_le
    ((u.add (.bare T)).2.object prototype).properties
  have hproperties : (((u.add (.bare T)).2.object prototype).properties).mapValues
      (Value.shift r) =
        ((w.add (.bare (T.shift r))).2.object (r.place prototype)).properties := by
    rw [← Object.shift_bare, hadd.object_eq hprototype]
    rfl
  rw [h.place_size, hproperties] at hset
  exact hset

/-- Members are published in both worlds alike. -/
theorem published (h : Shifted r u w) {this : ObjectId} (hthis : 3 ≤ this.index)
    (entries : Bindings Value) :
    Shifted r (Behaviour.published u this entries)
      (Behaviour.published w (r.place this) (entries.mapValues (Value.shift r))) := by
  obtain ⟨hentries, hconverted⟩ := (h.setUnderConstruction hthis true).toEntries entries
  refine hconverted.update hthis fun x => ?_
  simp only [Object.shift, ← hentries, Bindings.setAll_mapValues]

theorem moduleMade (h : Shifted r u w) (name : String) (entries : Bindings Value) :
    Shifted r (u.moduleMade name entries)
      (w.moduleMade name (entries.mapValues (Value.shift r))) := by
  have hadd := h.add (.bare .module)
  rw [Object.shift_bare, TypeDescriptor.shift_builtin (by simp [TypeDescriptor.builtins])] at hadd
  obtain ⟨hentries, hconverted⟩ := hadd.toEntries entries
  have hnamed := hconverted.setProperty (o := ⟨u.heap.size⟩) h.size_le declaredName (.text name)
  have hset := hnamed.setProperty (o := ⟨u.heap.size⟩) h.size_le namespaceName
    (.dict ((u.add (.bare .module)).2.toEntries entries).1)
  rw [h.place_size, Value.shift_dict, hentries, Value.shift_text] at hset
  exact hset

end Shifted

end World

/-! ## Builtin modules -/

namespace Catalogue

variable {r} {u w : World}

/-- Names and values side by side. -/
theorem zip_names_values {α : Type} (bindings : Bindings α) :
    bindings.names.zip (bindings.map Prod.snd) = bindings := by
  rw [Bindings.names, List.zip_map', List.map_id']

theorem shifted_structMade (h : World.Shifted r u w) (name : String) (members : Bindings Value) :
    World.Shifted r (structMade u name members)
      (structMade w name (members.mapValues (Value.shift r))) := by
  have hprototype : 3 ≤ (⟨u.heap.size⟩ : ObjectId).index := h.size_le
  have hinstance : 3 ≤ (⟨u.heap.size + 1⟩ : ObjectId).index := Nat.le_succ_of_le h.size_le
  have hcloned := (h.structDeclared ⟨name, members.names, []⟩).cloned (typeOver u name members)
    hprototype
  have hpublished := hcloned.published hinstance members
  have htype : (typeOver u name members).shift r =
      typeOver w name (members.mapValues (Value.shift r)) := by
    rw [typeOver, World.structType, TypeDescriptor.shift_struct, ← h.nextIdent_eq, typeOver,
      World.structType, Bindings.names_mapValues]
  rw [h.place_size, h.place_next 1, htype] at hpublished
  rw [structMade, structMade, zip_names_values, zip_names_values, Bindings.names_mapValues]
  exact hpublished

/-- The first struct of the film is made in both worlds. -/
theorem shifted_aobingMade (h : World.Shifted r u w) :
    World.Shifted r (aobingMade u) (aobingMade w) := by
  have hmade := shifted_structMade h "Aobing" aobingMembers
  have hmembers : aobingMembers.mapValues (Value.shift r) = aobingMembers := by
    simp [Bindings.mapValues, aobingMembers]
  rwa [hmembers] at hmade

/-- So is the second one, which has the first one for a member. -/
theorem shifted_nezhaMade (h : World.Shifted r u w) :
    World.Shifted r (nezhaMade u) (nezhaMade w) := by
  have hmade := shifted_structMade (shifted_aobingMade h) "NEZHA" (nezhaMembers ⟨u.heap.size + 1⟩)
  have hmembers : (nezhaMembers ⟨u.heap.size + 1⟩).mapValues (Value.shift r) =
      nezhaMembers ⟨w.heap.size + 1⟩ := by
    simp [Bindings.mapValues, nezhaMembers, h.place_next 1]
  rwa [hmembers] at hmade

/-- **A module** that is loaded into both worlds. -/
theorem shifted_loaded (h : World.Shifted r u w) : World.Shifted r (loaded u) (loaded w) := by
  have hmade := (shifted_nezhaMade h).moduleMade "_nezha"
    (nezhaBindings ⟨(aobingMade u).heap.size + 1⟩)
  have hbindings : (nezhaBindings ⟨(aobingMade u).heap.size + 1⟩).mapValues (Value.shift r) =
      nezhaBindings ⟨(aobingMade w).heap.size + 1⟩ := by
    simp [Bindings.mapValues, nezhaBindings, (shifted_aobingMade h).place_next 1]
  rwa [hbindings] at hmade

end Catalogue

end DynamicObjects
