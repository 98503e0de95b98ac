import DynamicObjects.Fault
import DynamicObjects.Number.Literal
import DynamicObjects.Value

/-! # Arithmetic on numbers of mixed kinds

    A number is an integer of sixty-four bits, a float or a complex number.  Two
    numbers are brought to the same kind before they are combined: an integer becomes
    the nearest float, a float a complex number without imaginary part.  Integers are
    added, subtracted and multiplied exactly, or not at all; their quotient is a
    float. -/

namespace DynamicObjects

/-- A number of one of the three kinds. -/
inductive Number where
  | int (n : Int64)
  | float (x : Binary64)
  | complex (z : Complex)
deriving DecidableEq

inductive NumberOp where
  | add | sub | mul | div
deriving DecidableEq

namespace NumberOp

def symbol : NumberOp → String
  | .add => "+"
  | .sub => "-"
  | .mul => "*"
  | .div => "/"

/-- The slot that an operation is looked up in. -/
def slot : NumberOp → Slot
  | .add => .add
  | .sub => .sub
  | .mul => .mul
  | .div => .div

/-- The operation on integers; a quotient is rounded to a float. -/
def onInts (op : NumberOp) (a b : Int64) : Except Fault Number :=
  let checked (n : Int) : Except Fault Number :=
    match Literal.toInt64? n with
    | some n => .ok (.int n)
    | none => .error (.integerOverflow op.symbol)
  match op with
  | .add => checked (a.toInt + b.toInt)
  | .sub => checked (a.toInt - b.toInt)
  | .mul => checked (a.toInt * b.toInt)
  | .div =>
    if b = 0 then .error .divisionByZero
    else .ok (.float ((Binary64.ofInt a.toInt).div (Binary64.ofInt b.toInt)))

def onFloats (op : NumberOp) (x y : Binary64) : Except Fault Binary64 :=
  match op with
  | .add => .ok (x.add y)
  | .sub => .ok (x.sub y)
  | .mul => .ok (x.mul y)
  | .div => if y.isZero then .error .divisionByZero else .ok (x.div y)

def onComplex (op : NumberOp) (z u : Complex) : Except Fault Complex :=
  match op with
  | .add => .ok (z.add u)
  | .sub => .ok (z.sub u)
  | .mul => .ok (z.mul u)
  | .div =>
    match z.div? u with
    | some q => .ok q
    | none => .error .divisionByZero

end NumberOp

namespace Number

/-- The number that a payload is; truth values count as integers. -/
def ofValue? : Value → Option Number
  | .bool b => some (.int (if b then 1 else 0))
  | .int n => some (.int n)
  | .float x => some (.float x)
  | .complex z => some (.complex z)
  | _ => none

def toValue : Number → Value
  | .int n => .int n
  | .float x => .float x
  | .complex z => .complex z

/-- A number as a float; of a complex one the real part. -/
def toFloat : Number → Binary64
  | .int n => Binary64.ofInt n.toInt
  | .float x => x
  | .complex z => z.re

def toComplex : Number → Complex
  | .complex z => z
  | a => Complex.ofReal a.toFloat

def apply (op : NumberOp) (a b : Number) : Except Fault Number :=
  match a, b with
  | .int m, .int n => op.onInts m n
  | .complex _, _ | _, .complex _ => (op.onComplex a.toComplex b.toComplex).map .complex
  | _, _ => (op.onFloats a.toFloat b.toFloat).map .float

end Number

end DynamicObjects
