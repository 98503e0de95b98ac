import DynamicObjects.Fault
import DynamicObjects.TypeDescriptor.Builtin

/-! # The world of objects

    A `World` holds every object there is, the types that have been declared by name,
    and a counter for fresh identities.  An object has a type for life, a bag of named
    properties and two flags.  Its payload is the property `__value__`.

    The objects null, true and false exist once, from the start, and stay. -/

namespace DynamicObjects

/-! ## Objects -/

/-- What an identity stands for. -/
structure Object where
  /-- The type, which never changes. -/
  type : TypeDescriptor
  properties : Bindings Value
  /-- An instance of a struct rather than its prototype. -/
  isInstance : Bool
  /-- The members of a struct are just being assigned. -/
  underConstruction : Bool

/-- The property that holds the payload of an object. -/
def payloadName : String := "__value__"

/-- The property that holds the name of a module or of a struct. -/
def declaredName : String := "__name__"

/-- The property that holds the attributes of a module. -/
def namespaceName : String := "__namespace__"

namespace Object

def bare (T : TypeDescriptor) : Object := ⟨T, [], false, false⟩

/-- What an identity without an object stands for. -/
def released : Object := bare ((TypeBuilder.new "released" .type).build (.builtin .type))

def property? (x : Object) (name : String) : Option Value := x.properties.get? name

def setProperty (x : Object) (name : String) (v : Value) : Object :=
  { x with properties := x.properties.set name v }

/-- The objects that an object refers to: its values and the shared methods of its type. -/
def references (x : Object) : List ObjectId :=
  x.properties.flatMap (fun entry => entry.2.references) ++ x.type.sharedMethods

end Object

/-! ## Worlds -/

structure World where
  /-- The object of each identity; released objects leave a gap. -/
  heap : Array (Option Object)
  declared : Bindings TypeDescriptor
  /-- The next unused identity for types, functions and foreign values. -/
  nextIdent : Nat

namespace World

/-- The object that an identity stands for, if it is alive. -/
def object? (w : World) (o : ObjectId) : Option Object := (w.heap[o.index]?).join

def isAlive (w : World) (o : ObjectId) : Bool := (w.object? o).isSome

def object (w : World) (o : ObjectId) : Object := (w.object? o).getD Object.released

def typeOf (w : World) (o : ObjectId) : TypeDescriptor := (w.object o).type

def typeName (w : World) (o : ObjectId) : String := (w.typeOf o).name

/-- Whether an object was made from exactly this type. -/
def isInstanceOf (w : World) (o : ObjectId) (T : TypeDescriptor) : Bool :=
  decide ((w.typeOf o).ident = T.ident)

def property? (w : World) (o : ObjectId) (name : String) : Option Value :=
  (w.object o).property? name

def payload? (w : World) (o : ObjectId) : Option Value := w.property? o payloadName

def propertyNames (w : World) (o : ObjectId) : List String := (w.object o).properties.sortedNames

def update (w : World) (o : ObjectId) (f : Object → Object) : World :=
  { w with heap := w.heap.modify o.index (Option.map f) }

def setProperty (w : World) (o : ObjectId) (name : String) (v : Value) : World :=
  w.update o (fun x => x.setProperty name v)

def setPayload (w : World) (o : ObjectId) (v : Value) : World := w.setProperty o payloadName v

/-- Give several properties their values, the later ones prevailing. -/
def setProperties (w : World) (o : ObjectId) (entries : Bindings Value) : World :=
  w.update o (fun x => { x with properties := x.properties.setAll entries })

def eraseProperty (w : World) (o : ObjectId) (name : String) : World :=
  w.update o (fun x => { x with properties := x.properties.erase name })

/-- Mark an object as being assigned its members, or take the mark away. -/
def setUnderConstruction (w : World) (o : ObjectId) (flag : Bool) : World :=
  w.update o (fun x => { x with underConstruction := flag })

def markInstance (w : World) (o : ObjectId) : World :=
  w.update o (fun x => { x with isInstance := true })

/-! ## Names of kinds -/

/-- The name of what sort of value it is; an object has the name of its type. -/
def kindName (w : World) : Value → String
  | .null => "null"
  | .bool _ => "bool"
  | .int _ => "int"
  | .float _ => "float"
  | .complex _ => "complex"
  | .text _ => "str"
  | .list _ => "list"
  | .dict _ => "dict"
  | .function _ => "function"
  | .foreign v => v.typeName
  | .object o => w.typeName o

/-- The payload of an object that has one; any other value is its own payload. -/
def unwrap (w : World) : Value → Value
  | .object o => (w.payload? o).getD (.object o)
  | v => v

/-! ## New objects and identities -/

/-- A fresh identity for a type, a function or a foreign value. -/
def freshIdent (w : World) : Nat × World := (w.nextIdent, { w with nextIdent := w.nextIdent + 1 })

def add (w : World) (x : Object) : ObjectId × World :=
  (⟨w.heap.size⟩, { w with heap := w.heap.push (some x) })

/-- Install one method on a new object: a shared one as it is, a native one as a new
    function object that is bound to the receiver. -/
def install (receiver : ObjectId) (typeName : String) (w : World) (entry : String × Method) :
    World :=
  match entry.2 with
  | .shared callable => w.setProperty receiver entry.1 (.object callable)
  | .native body =>
    let (ident, w) := w.freshIdent
    let qualified := typeName ++ "." ++ entry.1
    let f : Function := ⟨ident, entry.1, .bound receiver qualified body⟩
    let (m, w) := w.add ((Object.bare .function).setProperty payloadName (.function f))
    w.setProperty receiver entry.1 (.object m)

/-- A new object with the methods of its type and nothing else. -/
def allocate (w : World) (T : TypeDescriptor) : ObjectId × World :=
  let (o, w) := w.add (Object.bare T)
  (o, T.methods.foldl (install o T.name) w)

/-! ## What a change leaves alone

    A change of one object shows at that object only, and a write to one property at
    that property only. -/

@[simp] theorem object?_update_self (w : World) (o : ObjectId) (f : Object → Object) :
    (w.update o f).object? o = (w.object? o).map f := by
  simp only [object?, update, Array.getElem?_modify, ↓reduceIte]
  cases w.heap[o.index]? <;> rfl

@[simp] theorem object?_update_ne (w : World) {o p : ObjectId} (ne : p ≠ o)
    (f : Object → Object) : (w.update o f).object? p = w.object? p := by
  have index_ne : o.index ≠ p.index := fun e => ne (by cases o; cases p; simp_all)
  simp only [object?, update, Array.getElem?_modify, if_neg index_ne]

@[simp] theorem object?_add_self (w : World) (x : Object) :
    (w.add x).2.object? (w.add x).1 = some x := by
  simp only [object?, add, Array.getElem?_push_size, Option.join_some]

theorem object?_add_old (w : World) (x : Object) {o : ObjectId} (old : o.index < w.heap.size) :
    (w.add x).2.object? o = w.object? o := by
  simp only [object?, add, Array.getElem?_push, if_neg (Nat.ne_of_lt old)]

@[simp] theorem property?_setProperty_self (w : World) {o : ObjectId} (alive : w.isAlive o = true)
    (name : String) (v : Value) : (w.setProperty o name v).property? o name = some v := by
  obtain ⟨x, hx⟩ := Option.isSome_iff_exists.mp alive
  simp only [property?, object, setProperty, object?_update_self, hx, Option.map_some,
    Option.getD_some, Object.property?, Object.setProperty, Bindings.get?_set_self]

@[simp] theorem property?_setProperty_ne (w : World) (o : ObjectId) {name other : String}
    (ne : other ≠ name) (v : Value) :
    (w.setProperty o name v).property? o other = w.property? o other := by
  simp only [property?, object, setProperty, object?_update_self]
  cases w.object? o with
  | none => rfl
  | some x => exact Bindings.get?_set_ne ne v x.properties

@[simp] theorem property?_setProperty_other (w : World) {o p : ObjectId} (ne : p ≠ o)
    (name other : String) (v : Value) :
    (w.setProperty o name v).property? p other = w.property? p other := by
  simp only [property?, object, setProperty, object?_update_ne w ne]

/-! ## The singletons -/

def nullObject : ObjectId := ⟨0⟩

def trueObject : ObjectId := ⟨1⟩

def falseObject : ObjectId := ⟨2⟩

def boolObject (b : Bool) : ObjectId := if b then trueObject else falseObject

def boolValue (b : Bool) : Value := .object (boolObject b)

/-- The objects that exist from the start. -/
def singletons : List ObjectId := [nullObject, trueObject, falseObject]

/-- A world with nothing but the singletons. -/
def initial : World where
  heap :=
    #[some ((Object.bare .null).setProperty payloadName .null),
      some ((Object.bare .bool).setProperty payloadName (.bool true)),
      some ((Object.bare .bool).setProperty payloadName (.bool false))]
  declared := []
  nextIdent := 0

/-! ## Declared types -/

/-- Record a type under its name; a later type of the same name replaces it. -/
def declareType (w : World) (T : TypeDescriptor) : World :=
  { w with declared := w.declared.set T.name T }

/-- The type of a given name: a builtin one, or the one declared last. -/
def typeNamed? (w : World) (name : String) : Option TypeDescriptor :=
  match TypeDescriptor.builtin? name with
  | some T => some T
  | none => w.declared.get? name

/-! ## Size -/

/-- The number of nodes of all values in all properties. -/
def weight (w : World) : Nat :=
  w.heap.foldl
    (fun n entry =>
      match entry with
      | some x => x.properties.foldl (fun n entry => n + entry.2.size) n
      | none => n)
    0

end World

end DynamicObjects
