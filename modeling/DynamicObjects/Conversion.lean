import DynamicObjects.Run

/-! # Conversion

    Turning raw values into objects, and back into sequences.  Conversion never fails
    and changes no existing object: null and the truth values become their singletons,
    an object stays itself, and any other value becomes the payload of a new object of
    the matching type.  The elements of a list are converted with it. -/

namespace DynamicObjects

namespace World

/-- The type of the objects that values of a kind become; values that are or have singletons
    have none. -/
def typeFor? : Value → Option TypeDescriptor
  | .null | .bool _ | .object _ => none
  | .int _ => some .integer
  | .float _ => some .float
  | .complex _ => some .complex
  | .text _ => some .string
  | .list _ => some .array
  | .function _ => some .function
  | .dict _ | .foreign _ => some .wrapper

/-- A new object of a type with a payload. -/
def box (w : World) (T : TypeDescriptor) (payload : Value) : ObjectId × World :=
  let (o, w) := w.allocate T
  (o, w.setPayload o payload)

mutual

/-- The object of a value. -/
def toObject (w : World) : Value → ObjectId × World
  | .null => (nullObject, w)
  | .bool b => (boolObject b, w)
  | .object o => (o, w)
  | .list items =>
    let (o, w) := w.allocate .array
    let (items, w) := toObjects w items
    (o, w.setPayload o (.list items))
  | .int n => w.box .integer (.int n)
  | .float x => w.box .float (.float x)
  | .complex z => w.box .complex (.complex z)
  | .text s => w.box .string (.text s)
  | .function f => w.box .function (.function f)
  | .dict entries => w.box .wrapper (.dict entries)
  | .foreign v => w.box .wrapper (.foreign v)

def toObjects (w : World) : List Value → List Value × World
  | [] => ([], w)
  | v :: rest =>
    let (o, w) := toObject w v
    let (items, w) := toObjects w rest
    (.object o :: items, w)

end

def toValue (w : World) (v : Value) : Value × World :=
  let (o, w) := w.toObject v
  (.object o, w)

def toEntries (w : World) : Bindings Value → Bindings Value × World
  | [] => ([], w)
  | (name, v) :: rest =>
    let (v, w) := w.toValue v
    let (entries, w) := toEntries w rest
    ((name, v) :: entries, w)

/-- Numbers become objects; any other value stays as it is. -/
def toNumber (w : World) (v : Value) : Value × World :=
  match v with
  | .int _ | .float _ | .complex _ => w.toValue v
  | v => (v, w)

/-- The elements of a value that can be iterated: those of a list, the characters of a text,
    the names of a mapping in ascending order. -/
def elements? (w : World) (v : Value) : Option (List Value) :=
  match w.unwrap v with
  | .list items => some items
  | .text s => some (s.toList.map fun c => .text (String.singleton c))
  | .dict entries => some ((Bindings.sortedNames entries).map .text)
  | _ => none

def toArray? (w : World) (v : Value) : Option (ObjectId × World) :=
  (w.elements? v).map fun items => w.toObject (.list items)

def isOneOf (w : World) (v : Value) (types : List TypeDescriptor) : Bool :=
  match v with
  | .object o => types.any (fun T => w.isInstanceOf o T)
  | _ => false

def hasProperty (w : World) (v : Value) (name : String) : Bool :=
  match v with
  | .object o => (w.property? o name).isSome
  | _ => false

/-- The integer of a subscript: a raw one or the payload of an integer object. -/
def subscript (w : World) (container : String) (v : Value) : Except Fault Int64 :=
  match v with
  | .int n => .ok n
  | .object o =>
    if w.isInstanceOf o .integer then
      match w.payload? o with
      | some (.int n) => .ok n
      | _ => .error (.subscriptNotInteger container)
    else .error (.subscriptNotInteger container)
  | _ => .error (.subscriptNotInteger container)

end World

end DynamicObjects
