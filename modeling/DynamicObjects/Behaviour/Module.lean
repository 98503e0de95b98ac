import DynamicObjects.Behaviour.Attribute

/-! # Modules

    A module is made from a name and, if there are any, bindings; each bound value
    becomes an object. -/

namespace DynamicObjects

namespace Behaviour

/-- A name, raw or as an object. -/
def moduleNameArgument (w : World) (v : Value) : Except Fault String :=
  match w.unwrap v with
  | .text name => .ok name
  | v => .error (.argumentType "module" "a string" (w.kindName v))

def moduleBindings (w : World) (v : Value) : Except Fault (Bindings Value) :=
  match w.unwrap v with
  | .dict entries => .ok entries
  | v => .error (.argumentType "module" "a namespace mapping" (w.kindName v))

def fillModule (this : ObjectId) (name : String) (entries : Bindings Value) : Run Unit := do
  let entries ← Run.step (fun w => w.toEntries entries)
  Run.modify (fun w =>
    (w.setProperty this declaredName (.text name)).setProperty this namespaceName (.dict entries))

def constructModule (this : ObjectId) (args : List Value) : Run Unit := do
  let w ← Run.read id
  match args with
  | [name] =>
    let name ← moduleNameArgument w name
    fillModule this name []
  | [name, bindings] =>
    let name ← moduleNameArgument w name
    let entries ← moduleBindings w bindings
    fillModule this name entries
  | args => Run.raise (.argumentCount "module" 2 args.length)

end Behaviour

end DynamicObjects
