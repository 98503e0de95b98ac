import DynamicObjects.Value

/-! # Types

    A type has a name, a category, handlers in some of its slots, methods that every
    new object carries, and, for structs, a shape.  A `TypeBuilder` collects what a
    type supplies itself; building fills six slots that every type answers. -/

namespace DynamicObjects

/-! ## Parts of a type -/

/-- What sort of type it is. -/
inductive Category where
  | type | null | bool | integer | float | complex | string | array | module | struct | function
  | wrapper
deriving DecidableEq

namespace Category

def all : List Category :=
  [.type, .null, .bool, .integer, .float, .complex, .string, .array, .module, .struct, .function,
   .wrapper]

def name : Category → String
  | .type => "Type"
  | .null => "Null"
  | .bool => "Bool"
  | .integer => "Integer"
  | .float => "Float"
  | .complex => "Complex"
  | .string => "String"
  | .array => "Array"
  | .module => "Module"
  | .struct => "Struct"
  | .function => "Function"
  | .wrapper => "Wrapper"

def ofName? (text : String) : Option Category := all.find? (fun c => decide (c.name = text))

end Category

/-- The identity of a type.  Types of one name may differ. -/
inductive TypeId where
  | builtin (category : Category)
  | declared (ident : Nat)
deriving DecidableEq

/-- The members that the objects of a struct type have. -/
structure StructShape where
  name : String
  members : List String
  /-- The members that can only be written while an object is being built. -/
  guarded : List String
deriving DecidableEq

namespace StructShape

def hasMember (s : StructShape) (name : String) : Bool := s.members.contains name

def isGuarded (s : StructShape) (name : String) : Bool := s.guarded.contains name

end StructShape

/-- What a type offers under a method name. -/
inductive Method where
  /-- Bound to each new object. -/
  | native (body : MethodBody)
  /-- One callable object, shared by all objects of the type. -/
  | shared (callable : ObjectId)
deriving DecidableEq

abbrev SlotTable := (s : Slot) → Option (Handler s)

namespace SlotTable

def empty : SlotTable := fun _ => none

def set (table : SlotTable) (s : Slot) (h : Handler s) : SlotTable :=
  fun t => if e : s = t then some (e ▸ h) else table t

/-- The handlers of the six slots that every type answers. -/
def defaults : SlotTable
  | .init => some (.construct .ignore)
  | .str => some (.str .identity)
  | .eq => some (.eq .identity)
  | .equals => some .identical
  | .getAttr => some (.getAttr .properties)
  | .setAttr => some (.setAttr .properties)
  | _ => none

/-- Fill the slots that are still empty with default handlers. -/
def withDefaults (table : SlotTable) : SlotTable := fun s => (table s).or (defaults s)

@[simp] theorem set_self (table : SlotTable) (s : Slot) (h : Handler s) :
    table.set s h s = some h := by
  simp [set]

@[simp] theorem set_ne (table : SlotTable) {s t : Slot} (ne : s ≠ t) (h : Handler s) :
    table.set s h t = table t := by
  simp [set, ne]

/-- A slot that a type leaves empty has the default handler, if there is one. -/
theorem withDefaults_of_eq_none {table : SlotTable} {s : Slot} (empty : table s = none) :
    table.withDefaults s = defaults s := by
  simp only [withDefaults, empty, Option.none_or]

def filled (table : SlotTable) : List Slot := Slot.all.filter (fun s => (table s).isSome)

end SlotTable

/-! ## Descriptors -/

/-- A finished type. -/
structure TypeDescriptor where
  /-- What tells the type from others of the same name. -/
  ident : TypeId
  name : String
  category : Category
  slots : SlotTable
  /-- The slots that the type supplied itself. -/
  overrides : List Slot
  methods : Bindings Method
  shape : Option StructShape

namespace TypeDescriptor

def isOverridden (T : TypeDescriptor) (s : Slot) : Bool := T.overrides.contains s

def sharedMethods (T : TypeDescriptor) : List ObjectId :=
  T.methods.filterMap fun entry =>
    match entry.2 with
    | .shared callable => some callable
    | .native _ => none

def display (T : TypeDescriptor) : String := "<AIL Type '" ++ T.name ++ "'>"

end TypeDescriptor

/-! ## Building a type -/

/-- A type under construction. -/
structure TypeBuilder where
  name : String
  category : Category
  slots : SlotTable
  overrides : List Slot
  methods : Bindings Method
  shape : Option StructShape

namespace TypeBuilder

def new (name : String) (category : Category) : TypeBuilder :=
  ⟨name, category, .empty, [], [], none⟩

/-- Supply a handler; a later one for the same slot replaces it. -/
def slot (b : TypeBuilder) (s : Slot) (h : Handler s) : TypeBuilder :=
  { b with
    slots := b.slots.set s h
    overrides := if b.overrides.contains s then b.overrides else b.overrides ++ [s] }

/-- Add a method that is bound to each new object. -/
def method (b : TypeBuilder) (name : String) (body : MethodBody) : TypeBuilder :=
  { b with methods := b.methods ++ [(name, .native body)] }

/-- Add a callable object that all objects share. -/
def sharedMethod (b : TypeBuilder) (name : String) (callable : ObjectId) : TypeBuilder :=
  { b with methods := b.methods ++ [(name, .shared callable)] }

def withShape (b : TypeBuilder) (shape : StructShape) : TypeBuilder :=
  { b with shape := some shape }

def build (b : TypeBuilder) (ident : TypeId) : TypeDescriptor where
  ident := ident
  name := b.name
  category := b.category
  slots := b.slots.withDefaults
  overrides := b.overrides
  methods := b.methods
  shape := b.shape

end TypeBuilder

end DynamicObjects
