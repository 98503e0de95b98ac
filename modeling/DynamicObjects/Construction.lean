import DynamicObjects.Behaviour.Array
import DynamicObjects.Behaviour.Module
import DynamicObjects.Behaviour.Struct
import DynamicObjects.Behaviour.Text

/-! # Construction

    Every object comes out of the same steps: a new object is allocated with the
    methods of its type, and the initializer of the type runs on it once, with the
    arguments of the construction.  If the initializer fails, the object is dropped
    and the fault is passed on. -/

namespace DynamicObjects

/-- The text that a construction of a string is given: raw text or another string as it is,
    anything else through its own text. -/
def Initializer.textFrom (natives : Natives) (args : List Value) : Run String := do
  let w ← Run.read id
  match args with
  | [] => return ""
  | .text s :: _ => return s
  | .object o :: _ =>
    if w.isInstanceOf o .string then return Rendering.textOf w o
    else natives.stringify (.object o)
  | v :: _ => natives.stringify v

def Initializer.itemsFrom (w : World) : List Value → Except Fault (List Value)
  | [] => .ok []
  | v :: _ =>
    match w.unwrap v with
    | .list items => .ok items
    | v => .error (.argumentType "array" "a list" (w.kindName v))

def Initializer.functionFrom (w : World) (args : List Value) : Except Fault Value := do
  let v ← Arguments.one "function" args
  match w.unwrap v with
  | .function f => .ok (.function f)
  | v => .error (.argumentType "function" "a host callable" (w.kindName v))

def Initializer.run (natives : Natives) (how : Initializer) (this : ObjectId)
    (args : List Value) : Run Unit := do
  let w ← Run.read id
  let store (v : Value) : Run Unit := Run.modify (fun w => w.setPayload this v)
  match how with
  | .ignore => return ()
  | .null => store .null
  | .bool =>
    match args with
    | [] => store (.bool false)
    | v :: _ => do
      let b ← Run.ofTerminating (w.truth v)
      store (.bool b)
  | .integer => do
    let n ← Behaviour.integerFrom w args
    store (.int n)
  | .float => do
    let x ← Behaviour.floatFrom w args
    store (.float x)
  | .complex => do
    let z ← Behaviour.complexFrom w args
    store (.complex z)
  | .text => do
    let s ← Initializer.textFrom natives args
    store (.text s)
  | .array => do
    let items ← Initializer.itemsFrom w args
    let items ← Run.step (fun w => w.toObjects items)
    store (.list items)
  | .module => Behaviour.constructModule this args
  | .struct => Behaviour.constructStruct this args
  | .function => do
    let f ← Initializer.functionFrom w args
    store f
  | .wrapper => do
    let v ← Arguments.one "wrapper" args
    store v

namespace Natives

variable (natives : Natives)

/-- Run the initializer of a type; its result does not matter. -/
def runInitializer (h : Handler .init) (this : ObjectId) (args : List Value) : Run Value :=
  match h with
  | .native name => natives name this args
  | .construct how => do
    how.run natives this args
    return .null

def newObject (T : TypeDescriptor) (args : List Value) : Run ObjectId := do
  let o ← Run.step (fun w => w.allocate T)
  match T.slots .init with
  | none => return o
  | some h => do
    let _ ← natives.runInitializer h o args
    return o

/-- Conversion is construction: the object of a raw value without a singleton is what its
    type constructs from that value alone. -/
theorem newObject_eq_toObject {T : TypeDescriptor} {v : Value} (h : World.typeFor? v = some T)
    (w : World) : natives.newObject T [v] w = .done (w.toObject v).1 (w.toObject v).2 := by
  cases v <;> simp only [World.typeFor?, Option.some.injEq, reduceCtorEq] at h <;> subst h <;> rfl

/-! ## Strings, structs and modules -/

/-- A string of any value through its text; a string stays the object it is. -/
def toText (v : Value) : Run ObjectId := do
  let fresh : Run ObjectId := do
    let s ← natives.stringify v
    natives.newObject .string [.text s]
  match v with
  | .object o => do
    let T ← Run.read (fun w => w.typeOf o)
    if T.category = .string then return o else fresh
  | _ => fresh

/-- Declare a struct and give its prototype. -/
def makeStruct (name members guarded : Value) : Run ObjectId := do
  let w ← Run.read id
  let shape ← Behaviour.declaredShape w name members guarded
  let T ← Behaviour.declareStruct shape
  natives.newObject T []

/-- Clone a struct, and assign its members if there is member data. -/
def newStruct (prototype : Value) (data : Option Value) : Run ObjectId := do
  match prototype with
  | .object o => do
    let T ← Run.read (fun w => w.typeOf o)
    if T.shape.isNone then Run.raise .prototypeRequired
    else do
      let clone ← natives.newObject T [prototype]
      let data ← Run.read (fun w => data.map w.unwrap)
      match data with
      | none | some .null => return clone
      | some data => do
        Behaviour.assignMembers clone data
        return clone
  | _ => Run.raise .prototypeRequired

def newModule (name : String) (entries : Bindings Value) : Run ObjectId :=
  natives.newObject .module [.text name, .dict entries]

end Natives

end DynamicObjects
