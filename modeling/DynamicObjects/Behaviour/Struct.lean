import DynamicObjects.Behaviour.Attribute

/-! # Structs

    A struct type is declared from a name, a list of members and a list of guarded
    members.  Its objects are a prototype and clones of it.  Member data is checked
    and converted in full before anything is written, inside a window in which guarded
    members may be written too; an assignment either sets all its members or changes
    nothing. -/

namespace DynamicObjects

namespace Behaviour

/-! ## Construction of a struct object -/

/-- No arguments make a prototype, a prototype of the same type makes a clone of it. -/
def constructStruct (this : ObjectId) (args : List Value) : Run Unit := do
  let w ← Run.read id
  match args with
  | [] =>
    let shape ← w.shapeOf this
    Run.modify (fun w => w.setProperty this declaredName (.text shape.name))
  | [.object o] =>
    if w.isInstanceOf o (w.typeOf this) then
      Run.modify (fun w => w.setProperties this (w.object o).properties)
    else Run.raise (.notConstructible (w.typeName this))
  | _ => Run.raise (.notConstructible (w.typeName this))

/-! ## Assignment of members -/

/-- The members and the values that member data assigns: those that a mapping names, or all
    of them in order of declaration from a list. -/
def memberData (w : World) (shape : StructShape) (data : Value) : Except Fault (Bindings Value) :=
  match w.unwrap data with
  | .dict entries => .ok entries
  | .list values =>
    if values.length = shape.members.length then .ok (shape.members.zip values)
    else .error (.memberCount shape.name shape.members.length)
  | _ => .error (.memberDataNotList shape.name)

def checkMembers (w : World) (this : ObjectId) (shape : StructShape) :
    Bindings Value → Except Fault Unit
  | [] => .ok ()
  | (name, _) :: rest => do
    w.checkMemberWrite this shape name
    checkMembers w this shape rest

/-- Assign member data to a struct object and mark it as an instance.  The window is closed
    again whatever happens. -/
def assignMembers (this : ObjectId) (data : Value) : Run Unit := do
  let w ← Run.read id
  let shape ← w.shapeOf this
  let entries ← memberData w shape data
  Run.modify (fun w => w.setUnderConstruction this true)
  let checked ← Run.attempt (do
    let w ← Run.read id
    checkMembers w this shape entries)
  match checked with
  | .error f =>
    Run.modify (fun w => w.setUnderConstruction this false)
    Run.raise f
  | .ok () =>
    let entries ← Run.step (fun w => w.toEntries entries)
    Run.modify (fun w => w.setProperties this entries)
    Run.modify (fun w => w.setUnderConstruction this false)
    Run.modify (fun w => w.markInstance this)

/-! ## Declaration -/

/-- A member name: text, raw or as an object. -/
def memberName (w : World) (v : Value) : Except Fault String :=
  match w.unwrap v with
  | .text name => .ok name
  | v => .error (.memberNameNotText (w.kindName v))

def memberNames (w : World) (v : Value) : Except Fault (List String) :=
  match w.unwrap v with
  | .list items => items.mapM (memberName w)
  | _ => .error .memberNamesNotList

def declaredShape (w : World) (name members guarded : Value) : Except Fault StructShape := do
  match w.unwrap name with
  | .text name =>
    let members ← memberNames w members
    let guarded ← memberNames w guarded
    return ⟨name, members, guarded⟩
  | _ => .error .structNameNotText

/-- A new type with a shape, recorded under its name. -/
def declareStruct (shape : StructShape) : Run TypeDescriptor :=
  Run.step fun w =>
    let (ident, w) := w.freshIdent
    let T := TypeDescriptor.struct shape (.declared ident)
    (T, w.declareType T)

end Behaviour

end DynamicObjects
