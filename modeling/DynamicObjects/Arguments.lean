import DynamicObjects.Run

/-! # Arguments

    Checks of the arguments that handlers and methods are given.  A payload counts
    like the raw value. -/

namespace DynamicObjects

namespace Arguments

def none (method : String) : List Value → Except Fault Unit
  | [] => .ok ()
  | args => .error (.argumentCount method 0 args.length)

def one (method : String) : List Value → Except Fault Value
  | [v] => .ok v
  | args => .error (.argumentCount method 1 args.length)

def two (method : String) : List Value → Except Fault (Value × Value)
  | [v, u] => .ok (v, u)
  | args => .error (.argumentCount method 2 args.length)

/-- The name that an attribute is asked for by; it has to be raw text. -/
def attributeName (w : World) : Value → Except Fault String
  | .text name => .ok name
  | v => .error (.attributeNameNotText (w.kindName v))

/-- The position of an index, if it addresses one of `length` elements. -/
def position (length : Nat) (index : Int64) : Except Fault Nat :=
  if 0 ≤ index.toInt ∧ index.toInt < length then .ok index.toInt.toNat
  else .error (.indexOutOfRange length index)

end Arguments

end DynamicObjects
