import DynamicObjects.Arguments
import DynamicObjects.Conversion
import DynamicObjects.Number.Arithmetic

/-! # Numbers as objects

    How integer, float and complex objects are made from values, and their arithmetic. -/

namespace DynamicObjects

namespace Behaviour

/-! ## Making numbers -/

/-- The integer nearest to a float in the direction of zero, within the range of 64 bits. -/
def clampedInteger (x : Binary64) : Int64 :=
  Int64.ofInt (max Int64.minValue.toInt (min Int64.maxValue.toInt x.truncate))

def integerOfBool (b : Bool) : Int64 := if b then 1 else 0

def integerOf (w : World) : Value → Except Fault Int64
  | .int n => .ok n
  | .bool b => .ok (integerOfBool b)
  | .float x => if x.isFinite then .ok (clampedInteger x) else .error (.floatNotInteger x)
  | .text s =>
    match Literal.integer? s.toList with
    | some n => .ok n
    | none => .error (.integerLiteral s)
  | v => .error (.integerArgument (w.kindName v))

def floatOf (w : World) : Value → Except Fault Binary64
  | .float x => .ok x
  | .int n => .ok (Binary64.ofInt n.toInt)
  | .bool b => .ok (Binary64.ofBool b)
  | .text s =>
    match Literal.float? s.toList with
    | some x => .ok x
    | none => .error (.floatLiteral s)
  | v => .error (.floatArgument (w.kindName v))

def componentOf (w : World) (v : Value) : Except Fault Binary64 :=
  match v.asReal? with
  | some x => .ok x
  | none => .error (.complexArgument (w.kindName v))

/-- The integer that a construction stands for; zero without arguments. -/
def integerFrom (w : World) : List Value → Except Fault Int64
  | [] => .ok 0
  | v :: _ => integerOf w (w.unwrap v)

/-- The float that a construction stands for; zero without arguments. -/
def floatFrom (w : World) : List Value → Except Fault Binary64
  | [] => .ok (.zero false)
  | v :: _ => floatOf w (w.unwrap v)

/-- The complex number that a construction stands for: zero, a number, or its two
    components. -/
def complexFrom (w : World) : List Value → Except Fault Complex
  | [] => .ok ⟨.zero false, .zero false⟩
  | [v] =>
    match w.unwrap v with
    | .complex z => .ok z
    | v => (componentOf w v).map Complex.ofReal
  | [re, im] => do
    let re ← componentOf w (w.unwrap re)
    let im ← componentOf w (w.unwrap im)
    return ⟨re, im⟩
  | args => .error (.complexArgumentCount args.length)

/-! ## Arithmetic -/

def combine (w : World) (op : NumberOp) (this : ObjectId) (other : Value) : Except Fault Number :=
  match Number.ofValue? (w.unwrap (.object this)), Number.ofValue? (w.unwrap other) with
  | some a, some b => a.apply op b
  | _, _ => .error (.unsupportedOperands op.symbol (w.typeName this) (w.kindName other))

def arithmetic (op : NumberOp) (this : ObjectId) (args : List Value) : Run Value := do
  let other ← Arguments.one op.slot.name args
  let w ← Run.read id
  let a ← combine w op this other
  Run.step (fun w => w.toValue a.toValue)

end Behaviour

end DynamicObjects
