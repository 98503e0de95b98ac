import DynamicObjects.Format.Template
import DynamicObjects.Number.Printing

/-! # Numbers in formatted text

    The texts that the number conversions give, before they are filled up to their
    width: integers in three bases, and floats in fixed, exponent and general form. -/

namespace DynamicObjects

namespace Format

/-! ## Integers -/

def upperDigits (digits : List Char) : List Char := digits.map Char.toUpper

def integerDigits (conversion : Char) (magnitude : Nat) : List Char :=
  if conversion = 'x' then Nat.toDigits 16 magnitude
  else if conversion = 'X' then upperDigits (Nat.toDigits 16 magnitude)
  else if conversion = 'o' then Nat.toDigits 8 magnitude
  else Nat.toDigits 10 magnitude

/-- A sign in front of a number: a minus if it is negative, a plus if the layout asks for
    it. -/
def signed (layout : Layout) (negative : Bool) (text : List Char) : List Char :=
  if negative then '-' :: text else if layout.plusSign then '+' :: text else text

def integerBody (layout : Layout) (conversion : Char) (n : Int) : List Char :=
  signed layout (decide (n < 0)) (integerDigits conversion n.natAbs)

/-! ## Floats -/

/-- A number without the zeros at the end of its fraction, and without a point at its end.
    -/
def stripFraction (text : List Char) : List Char :=
  if text.contains '.' then
    ((text.reverse.dropWhile (· == '0')).dropWhile (· == '.')).reverse
  else text

/-- An exponent with its marker, its sign and at least two digits. -/
def exponentPart (marker : Char) (e : Int) : List Char :=
  let sign := if e < 0 then '-' else '+'
  marker :: sign :: padZeros 2 (Nat.toDigits 10 e.natAbs)

def exponentBody (marker : Char) (places : Nat) (x : Binary64) : List Char :=
  let s := Scientific.rounded places x.units Binary64.unitsPerOne
  s.mantissa ++ exponentPart marker s.exponent

/-- A magnitude in general form: with an exponent if that lies below -4 or reaches the
    number of digits, and otherwise with as many digits behind the point as give that number
    of digits.  Zeros at the end of the fraction are dropped. -/
def generalBody (marker : Char) (precision : Nat) (x : Binary64) : List Char :=
  let digits := max precision 1
  let s := Scientific.rounded (digits - 1) x.units Binary64.unitsPerOne
  if s.exponent < -4 ∨ (digits : Int) ≤ s.exponent then
    stripFraction s.mantissa ++ exponentPart marker s.exponent
  else
    stripFraction
      (fixedText ((digits : Int) - 1 - s.exponent).toNat x.units Binary64.unitsPerOne)

def nonFiniteBody (upper : Bool) (x : Binary64) : List Char :=
  let name := if x.isNaN then ['n', 'a', 'n'] else ['i', 'n', 'f']
  if upper then name.map Char.toUpper else name

def finiteBody (layout : Layout) (conversion : Char) (x : Binary64) : List Char :=
  let precision := layout.precision.getD 6
  let marker := if conversion.isUpper then 'E' else 'e'
  if conversion.toLower = 'e' then exponentBody marker precision x
  else if conversion.toLower = 'g' then generalBody marker precision x
  else fixedText precision x.units Binary64.unitsPerOne

/-- The text of a float.  A NaN shows no minus sign, but a negative one takes no plus
    either. -/
def floatBody (layout : Layout) (conversion : Char) (x : Binary64) : List Char :=
  if x.isFinite then signed layout x.isNegative (finiteBody layout conversion x)
  else
    let name := nonFiniteBody conversion.isUpper x
    if x.isNaN && x.isNegative then name else signed layout x.isNegative name

/-! ## Filling -/

/-- A text filled up to the width: on the right if the layout says so, with zeros behind the
    sign if it is a number and the layout asks for it, and on the left otherwise. -/
def fill (layout : Layout) (isNumber : Bool) (body : List Char) : List Char :=
  let missing := layout.width - body.length
  if layout.leftAlign then body ++ List.replicate missing ' '
  else if layout.zeroPad && isNumber then
    match body with
    | '+' :: digits => '+' :: List.replicate missing '0' ++ digits
    | '-' :: digits => '-' :: List.replicate missing '0' ++ digits
    | digits => List.replicate missing '0' ++ digits
  else List.replicate missing ' ' ++ body

end Format

end DynamicObjects
