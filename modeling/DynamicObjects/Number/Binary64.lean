/-! # Binary floating-point numbers

    A `Binary64` is a 64-bit word in the binary interchange format: a sign bit, eleven
    exponent bits and fifty-two fraction bits.  Every finite number of the format is a
    whole number of *units*, a unit being the least positive number `2 ^ -1074`; so a
    finite value is described exactly by its sign and by the natural number `units`,
    and no rounding enters this module.

    Two comparisons live here.  `compare?` is the numerical one, in which the two
    zeros are equal and a NaN is unordered; `totalKey` gives the total order of all
    words, negative NaNs first and positive NaNs last. -/

namespace DynamicObjects

/-- A 64-bit binary floating-point number, given by its word. -/
structure Binary64 where
  /-- Sign, exponent and fraction, from the most significant bit down. -/
  bits : UInt64
deriving DecidableEq

namespace Binary64

/-! ## Fields -/

def isNegative (x : Binary64) : Bool := decide (Nat.pow 2 63 ≤ x.bits.toNat)

/-- The word without its sign bit.  Magnitudes of finite numbers are ordered like the
    numbers. -/
def magnitude (x : Binary64) : Nat := x.bits.toNat % Nat.pow 2 63

def exponentField (x : Binary64) : Nat := x.magnitude / Nat.pow 2 52

def fraction (x : Binary64) : Nat := x.magnitude % Nat.pow 2 52

/-- The magnitude of the infinities; larger magnitudes are NaNs. -/
def infiniteMagnitude : Nat := 2047 * Nat.pow 2 52

def ofMagnitude (negative : Bool) (m : Nat) : Binary64 :=
  ⟨UInt64.ofNat (if negative then Nat.pow 2 63 + m else m)⟩

/-! ## Classes -/

def isFinite (x : Binary64) : Bool := decide (x.magnitude < infiniteMagnitude)

def isInfinite (x : Binary64) : Bool := decide (x.magnitude = infiniteMagnitude)

def isNaN (x : Binary64) : Bool := decide (infiniteMagnitude < x.magnitude)

def isZero (x : Binary64) : Bool := decide (x.magnitude = 0)

def zero (negative : Bool) : Binary64 := ofMagnitude negative 0

def infinity (negative : Bool) : Binary64 := ofMagnitude negative infiniteMagnitude

/-- The quiet NaN that invalid operations give. -/
def nan : Binary64 := ofMagnitude false (infiniteMagnitude + Nat.pow 2 51)

def one : Binary64 := ofMagnitude false (1023 * Nat.pow 2 52)

/-! ## Exact value -/

/-- A unit is one divided by two so many times. -/
def unitExponent : Nat := 1074

/-- The number of units in one, so that a finite number is `units / unitsPerOne` up to sign.
    -/
def unitsPerOne : Nat := Nat.pow 2 unitExponent

theorem unitsPerOne_eq : unitsPerOne = Nat.pow 2 unitExponent := by
  delta unitsPerOne
  rfl

/-- The significand as a whole number: the fraction, with the hidden bit of a normal number.
    -/
def significand (x : Binary64) : Nat :=
  if x.exponentField = 0 then x.fraction else Nat.pow 2 52 + x.fraction

/-- Units are counted in steps of `2 ^ shift`; subnormal numbers step by single units. -/
def shift (x : Binary64) : Nat := x.exponentField - 1

/-- The magnitude of a finite number in units. -/
def units (x : Binary64) : Nat := x.significand * Nat.pow 2 x.shift

/-- The signed number of units of a finite number; both zeros have none. -/
def signedUnits (x : Binary64) : Int := if x.isNegative then -(x.units : Int) else x.units

def negate (x : Binary64) : Binary64 := ofMagnitude (!x.isNegative) x.magnitude

def abs (x : Binary64) : Binary64 := ofMagnitude false x.magnitude

def isIntegral (x : Binary64) : Bool := decide (x.units % unitsPerOne = 0)

/-- The integer nearest to a finite number in the direction of zero. -/
def truncate (x : Binary64) : Int :=
  if x.isNegative then -((x.units / unitsPerOne : Nat) : Int) else (x.units / unitsPerOne : Nat)

/-! ## Comparison -/

/-- Orders the words that are no NaNs by their numerical value; the two zeros share a key.
    -/
def numericKey (x : Binary64) : Int := if x.isNegative then -(x.magnitude : Int) else x.magnitude

/-- Numerical comparison; a NaN is not comparable, also not with itself. -/
def compare? (x y : Binary64) : Option Ordering :=
  if x.isNaN || y.isNaN then none else some (compare x.numericKey y.numericKey)

/-- Numerical equality: the zeros are equal and a NaN differs from everything. -/
def equals (x y : Binary64) : Bool := x.compare? y == some .eq

/-- Orders all words: by sign first, then by magnitude, reversed below zero. -/
def totalKey (x : Binary64) : Int :=
  if x.isNegative then -(x.magnitude : Int) - 1 else x.magnitude

end Binary64

end DynamicObjects
