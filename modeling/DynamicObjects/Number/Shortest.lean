import DynamicObjects.Number.Decimal

/-! # Shortest decimals

    The decimal number with the fewest digits that reads back as a given `Binary64`.
    Every real number in the *rounding interval* of `x` is nearest to `x`; the
    interval reaches half-way to both neighbours and includes its ends exactly if the
    significand is even.  For one digit, two digits and so on the two decimal numbers
    next to `x` are tried, and the first that lies in the interval is taken; of two
    the nearer one, and of two equally near ones the greater. -/

namespace DynamicObjects

namespace Binary64

/-- The lower end of the rounding interval in quarters of a unit.  Below a power of two
    numbers lie half as far apart, so there the interval reaches down only half as far. -/
def lowerQuarters (x : Binary64) : Nat :=
  if x.fraction = 0 ∧ 1 < x.exponentField then 4 * x.units - Nat.pow 2 x.shift
  else 4 * x.units - 2 * Nat.pow 2 x.shift

def upperQuarters (x : Binary64) : Nat := 4 * x.units + 2 * Nat.pow 2 x.shift

/-- Whether `num / den` ones read back as the magnitude of `x`. -/
def readsBack (x : Binary64) (num den : Nat) : Bool :=
  let quarters := 4 * num * unitsPerOne
  let low := x.lowerQuarters * den
  let high := x.upperQuarters * den
  if x.significand % 2 = 0 then decide (low ≤ quarters ∧ quarters ≤ high)
  else decide (low < quarters ∧ quarters < high)

def powerOfTen (n : Nat) (e : Int) : Nat × Nat :=
  if e < 0 then (n, Nat.pow 10 (-e).toNat) else (n * Nat.pow 10 e.toNat, 1)

/-- The decimal number of `places + 1` digits that reads back as a positive `x`, if there is
    one, as a whole number of steps of `10 ^ (decade - places)`. -/
def candidate? (x : Binary64) (decade : Int) (places : Nat) : Option Nat :=
  let (a, b) := Scientific.scale x.units unitsPerOne (decade - places)
  let low := a / b
  let inside (n : Nat) : Bool :=
    let (num, den) := powerOfTen n (decade - places)
    x.readsBack num den
  match inside low, inside (low + 1) with
  | true, true => some (if 2 * (a % b) < b then low else low + 1)
  | true, false => some low
  | false, true => some (low + 1)
  | false, false => none

/-- The first candidate among those of `places + 1`, `places + 2`, … digits. -/
def firstCandidate (x : Binary64) (decade : Int) : Nat → Nat → Scientific
  | 0, places => Scientific.rounded places x.units unitsPerOne
  | tries + 1, places =>
    match x.candidate? decade places with
    | some n =>
      let digits := Nat.toDigits 10 n
      Scientific.trim ⟨digits, decade + ((digits.length : Int) - (places + 1))⟩
    | none => firstCandidate x decade tries (places + 1)

/-- The shortest decimal number that reads back as the magnitude of a finite number.
    Seventeen digits always suffice. -/
def shortest (x : Binary64) : Scientific :=
  if x.isZero then ⟨['0'], 0⟩
  else firstCandidate x (Scientific.decade x.units unitsPerOne) 17 0

end Binary64

end DynamicObjects
