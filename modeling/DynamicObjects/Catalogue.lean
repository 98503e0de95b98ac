import DynamicObjects.Construction

/-! # Builtin modules

    The modules that can be loaded by name.  Every load builds a new module with new
    structs in it. -/

namespace DynamicObjects

namespace Catalogue

/-- Declare a struct over some names, none of them guarded, and make an instance of it. -/
def structInstance (natives : Natives) (name : String) (members : Bindings Value) :
    Run ObjectId := do
  let names := members.names.map Value.text
  let prototype ← natives.makeStruct (.text name) (.list names) (.list [])
  natives.newStruct (.object prototype) (some (.list (members.map Prod.snd)))

/-- Facts about a film. -/
def nezha (natives : Natives) : Run ObjectId := do
  let aobing ← structInstance natives "Aobing"
    [("name", .text "AoBing"), ("age", .text "3"), ("location", .text "龙宫")]
  let nezha ← structInstance natives "NEZHA"
    [("name", .text "Nezha"), ("age", .int 3), ("friend", .object aobing),
     ("location", .text "陈塘关")]
  natives.newModule "_nezha"
    [("NAME", .text "Nezha"), ("DATE", .text "2019/7/26"),
     ("BOX_OFFICE_IN_CHINA", .text "50.13亿"), ("NEZHA", .object nezha)]

def modules : Bindings (Natives → Run ObjectId) := [("_nezha", nezha)]

def names : List String := modules.names

def load (natives : Natives) (name : String) : Run ObjectId :=
  match modules.get? name with
  | some build => build natives
  | none => Run.raise (.moduleNotFound name)

end Catalogue

end DynamicObjects
