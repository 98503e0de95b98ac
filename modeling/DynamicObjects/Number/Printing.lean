import DynamicObjects.Number.Complex
import DynamicObjects.Number.Shortest

/-! # Texts of numbers

    How numbers are written: the text of a float value, in which a whole number keeps
    a trailing `.0`; the text of a complex value; and the literal form used in
    listings of constants, which changes to an exponent for very large and very small
    numbers. -/

namespace DynamicObjects

def integerText (n : Int) : List Char :=
  if n < 0 then '-' :: Nat.toDigits 10 n.natAbs else Nat.toDigits 10 n.natAbs

namespace Binary64

def withSign (x : Binary64) (text : List Char) : List Char :=
  if x.isNegative then '-' :: text else text

def fixed (x : Binary64) (places : Nat) : List Char :=
  x.withSign (fixedText places x.units unitsPerOne)

/-- The number `10 ^ 16`, from which on floats are written without a trailing `.0`. -/
def tenToSixteen : Binary64 := ofInt (Nat.pow 10 16)

/-- The number nearest to `10 ^ -4`, below which literals have an exponent. -/
def tenToMinusFour : Binary64 := ofQuotient false 1 (Nat.pow 10 4)

def isBelowTenToSixteen (x : Binary64) : Bool := decide (x.magnitude < tenToSixteen.magnitude)

/-- The shortest digits that read back, without an exponent. -/
def plainText (x : Binary64) : List Char := x.withSign x.shortest.positional

/-- The text of a float value: whole numbers below `10 ^ 16` with one zero behind the point,
    all other finite numbers with the fewest digits that read back. -/
def text (x : Binary64) : List Char :=
  if x.isNaN then ['n', 'a', 'n']
  else if x.isInfinite then x.withSign ['i', 'n', 'f']
  else if x.isIntegral && x.isBelowTenToSixteen then x.fixed 1
  else x.plainText

/-- The name of a number that is not finite, as error messages give it. -/
def nonFiniteName (x : Binary64) : List Char :=
  if x.isNaN then ['N', 'a', 'N'] else x.withSign ['i', 'n', 'f']

/-- The literal form of a number: with an exponent from `10 ^ 16` on and below `10 ^ -4`,
    and with a point otherwise. -/
def literal (x : Binary64) : List Char :=
  if !x.isFinite then x.nonFiniteName
  else if x.isZero ||
      (x.isBelowTenToSixteen && decide (tenToMinusFour.magnitude ≤ x.magnitude)) then
    if x.isIntegral then x.fixed 1 else x.plainText
  else
    let s := x.shortest
    x.withSign (s.mantissa ++ 'e' :: integerText s.exponent)

end Binary64

namespace Complex

/-- One component of a complex number: like a float, but whole numbers have no point. -/
def componentText (x : Binary64) : List Char :=
  if x.isFinite && x.isIntegral && x.isBelowTenToSixteen then x.fixed 0 else x.text

/-- The text of a complex number: `(re+imj)`, or `imj` alone if the real part is positive
    zero. -/
def text (z : Complex) : List Char :=
  if z.re.isZero && !z.re.isNegative then componentText z.im ++ ['j']
  else
    let sign := if z.im.isNegative then '-' else '+'
    '(' :: componentText z.re ++ sign :: componentText z.im.abs ++ ['j', ')']

end Complex

end DynamicObjects
