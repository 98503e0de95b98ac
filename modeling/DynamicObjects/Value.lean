import DynamicObjects.Bindings
import DynamicObjects.Handler
import DynamicObjects.Number.Complex

/-! # Values

    What handlers, methods and properties exchange: either raw values of the host or
    references to objects.  An object is named by its identity; what it holds is kept
    in the `World`. -/

namespace DynamicObjects

structure ObjectId where
  /-- The place of the object in the heap. -/
  index : Nat
deriving DecidableEq

inductive FunctionBody where
  /-- A method bound to its receiver, which it does not keep alive. -/
  | bound (receiver : ObjectId) (qualifiedName : String) (method : MethodBody)
  /-- A function of the host, known to it by the name of the function. -/
  | host
deriving DecidableEq

/-- A function that can be called.  Two functions are equal only if they are the same one.
    -/
structure Function where
  /-- Distinguishes the function from all others. -/
  ident : Nat
  name : String
  body : FunctionBody
deriving DecidableEq

/-- A value of the host that is only passed around. -/
structure Foreign where
  ident : Nat
  typeName : String
deriving DecidableEq

/-- A raw value or a reference to an object. -/
inductive Value where
  | null
  | bool (b : Bool)
  | int (n : Int64)
  | float (x : Binary64)
  | complex (z : Complex)
  | text (s : String)
  | list (items : List Value)
  | dict (entries : List (String × Value))
  | function (f : Function)
  | foreign (v : Foreign)
  | object (o : ObjectId)

namespace Value

instance : Inhabited Value := ⟨.null⟩

def ofChars (cs : List Char) : Value := .text (String.ofList cs)

def ofCount (n : Nat) : Value := .int (Int64.ofNat n)

/-- The number that a real value denotes: an integer is rounded to the nearest float, a
    truth value is zero or one. -/
def asReal? : Value → Option Binary64
  | .bool b => some (Binary64.ofBool b)
  | .int n => some (Binary64.ofInt n.toInt)
  | .float x => some x
  | _ => none

def asComplex? : Value → Option Complex
  | .complex z => some z
  | v => v.asReal?.map Complex.ofReal

mutual

/-- The number of nodes of a value, not counting what referenced objects hold. -/
def size : Value → Nat
  | .list items => sizeList items + 1
  | .dict entries => sizeEntries entries + 1
  | _ => 1

def sizeList : List Value → Nat
  | [] => 0
  | v :: rest => size v + sizeList rest

def sizeEntries : List (String × Value) → Nat
  | [] => 0
  | (_, v) :: rest => size v + sizeEntries rest

end

mutual

/-- The objects that a value refers to directly. -/
def references : Value → List ObjectId
  | .list items => referencesList items
  | .dict entries => referencesEntries entries
  | .object o => [o]
  | _ => []

def referencesList : List Value → List ObjectId
  | [] => []
  | v :: rest => references v ++ referencesList rest

def referencesEntries : List (String × Value) → List ObjectId
  | [] => []
  | (_, v) :: rest => references v ++ referencesEntries rest

end

end Value

end DynamicObjects
