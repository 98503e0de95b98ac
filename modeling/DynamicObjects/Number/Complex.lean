import DynamicObjects.Number.Rounding

/-! # Complex numbers

    Pairs of binary floating-point numbers with the four arithmetic operations, each
    written out in its components and rounded after every component operation. -/

namespace DynamicObjects

/-- A complex number in Cartesian form. -/
structure Complex where
  re : Binary64
  im : Binary64
deriving DecidableEq

namespace Complex

def ofReal (x : Binary64) : Complex := ⟨x, .zero false⟩

def isZero (z : Complex) : Bool := z.re.isZero && z.im.isZero

def equals (z w : Complex) : Bool := z.re.equals w.re && z.im.equals w.im

def add (z w : Complex) : Complex := ⟨z.re.add w.re, z.im.add w.im⟩

def sub (z w : Complex) : Complex := ⟨z.re.sub w.re, z.im.sub w.im⟩

def mul (z w : Complex) : Complex :=
  ⟨(z.re.mul w.re).sub (z.im.mul w.im), (z.re.mul w.im).add (z.im.mul w.re)⟩

/-- The squared modulus, which a quotient is divided by. -/
def normSq (z : Complex) : Binary64 := (z.re.mul z.re).add (z.im.mul z.im)

/-- The quotient, or nothing if the squared modulus of the divisor is zero. -/
def div? (z w : Complex) : Option Complex :=
  let d := w.normSq
  if d.isZero then none
  else some
    ⟨((z.re.mul w.re).add (z.im.mul w.im)).div d, ((z.im.mul w.re).sub (z.re.mul w.im)).div d⟩

end Complex

end DynamicObjects
