import DynamicObjects.Arguments
import DynamicObjects.Conversion

/-! # Attributes

    The three places where attributes are kept.  Most objects keep them among their
    properties; a module keeps them in its namespace, which has no fallback; a struct
    has the members of its shape, which read as null until they are set, and falls
    back on its properties for other names. -/

namespace DynamicObjects

namespace World

/-! ## Modules -/

def moduleName (w : World) (o : ObjectId) : String :=
  match w.property? o declaredName with
  | some (.text name) => name
  | _ => ""

def namespace? (w : World) (o : ObjectId) : Option (Bindings Value) :=
  match w.property? o namespaceName with
  | some (.dict entries) => some entries
  | _ => none

/-- The names bound in a module in ascending order. -/
def moduleAttributes (w : World) (o : ObjectId) : List String :=
  ((w.namespace? o).map Bindings.sortedNames).getD []

/-! ## Structs -/

def shapeOf (w : World) (o : ObjectId) : Except Fault StructShape :=
  match (w.typeOf o).shape with
  | some shape => .ok shape
  | none => .error (.notStruct (w.typeName o))

/-- Whether a member may be written: an unknown one never, a guarded one only while the
    object is under construction. -/
def checkMemberWrite (w : World) (o : ObjectId) (shape : StructShape) (name : String) :
    Except Fault Unit :=
  if !shape.hasMember name then .error (.noMember shape.name name)
  else if shape.isGuarded name && !(w.object o).underConstruction then
    .error (.protectedMember shape.name name)
  else .ok ()

end World

namespace AttributeStore

def get (w : World) (this : ObjectId) (name : String) : AttributeStore → Except Fault Value
  | .properties =>
    match w.property? this name with
    | some v => .ok v
    | none => .error (.noAttribute (w.typeName this) name)
  | .moduleNames =>
    match (w.namespace? this).bind (Bindings.get? name) with
    | some v => .ok v
    | none => .error (.noModuleAttribute (w.moduleName this) name)
  | .structMembers => do
    let shape ← w.shapeOf this
    match w.property? this name with
    | some v => .ok v
    | none =>
      if shape.hasMember name then .ok (.object World.nullObject)
      else .error (.noMember shape.name name)

/-- Write an attribute: as it is among the properties, as an object elsewhere. -/
def set (this : ObjectId) (name : String) (v : Value) : AttributeStore → Run Unit
  | .properties => Run.modify (fun w => w.setProperty this name v)
  | .moduleNames => do
    let v ← Run.step (fun w => w.toValue v)
    let w ← Run.read id
    match w.namespace? this with
    | some entries =>
      Run.modify (fun w => w.setProperty this namespaceName (.dict (Bindings.set name v entries)))
    | none => Run.raise (.noNamespace (w.moduleName this))
  | .structMembers => do
    let w ← Run.read id
    let shape ← w.shapeOf this
    w.checkMemberWrite this shape name
    let v ← Run.step (fun w => w.toValue v)
    Run.modify (fun w => w.setProperty this name v)

def getHandler (store : AttributeStore) (this : ObjectId) (args : List Value) : Run Value := do
  let v ← Arguments.one Slot.getAttr.name args
  let w ← Run.read id
  let name ← Arguments.attributeName w v
  store.get w this name

def setHandler (store : AttributeStore) (this : ObjectId) (args : List Value) : Run Value := do
  let (key, v) ← Arguments.two Slot.setAttr.name args
  let w ← Run.read id
  let name ← Arguments.attributeName w key
  store.set this name v
  return .null

end AttributeStore

end DynamicObjects
