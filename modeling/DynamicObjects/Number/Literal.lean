import DynamicObjects.Number.Decimal
import DynamicObjects.Number.Digits
import DynamicObjects.Text.CharClass

/-! # Number literals

    Reading an integer or a float from text.  White space around the literal is
    ignored; the digits are those of ASCII, and nothing else may stand between them.
    An integer has to fit its sixty-four bits; a float is the number nearest to what
    is written. -/

namespace DynamicObjects

namespace Literal

def splitSign : List Char → Bool × List Char
  | '-' :: rest => (true, rest)
  | '+' :: rest => (false, rest)
  | text => (false, text)

/-! ## Integers -/

/-- Greater numbers are not told apart: they are all out of the range of the integers. -/
def greatestNumber : Nat := Nat.pow 2 64

/-- A natural number, if the text is a non-empty run of digits. -/
def natural? (text : List Char) : Option Nat :=
  if CharClass.allOf Char.isDigit text then some (Digits.valueUpTo greatestNumber text) else none

def signed? (text : List Char) : Option Int :=
  let (negative, rest) := splitSign text
  (natural? rest).map fun n => if negative then -(n : Int) else n

def toInt64? (n : Int) : Option Int64 :=
  if Int64.minValue.toInt ≤ n ∧ n ≤ Int64.maxValue.toInt then some (Int64.ofInt n) else none

def integer? (text : List Char) : Option Int64 := (signed? (CharClass.trim text)).bind toInt64?

/-! ## Floats -/

/-- The number that the digits of an exponent denote.  They are read from the left, and the
    ones behind the digit that carries the number to `2 ^ 16` or beyond do not count:
    `655371` is 65537. -/
def exponentValue (digits : List Char) : Nat :=
  digits.foldl (fun n c => if n < Nat.pow 2 16 then 10 * n + Digits.ofChar c else n) 0

/-- The exponent behind a mantissa; nothing at all stands for zero. -/
def exponent? : List Char → Option Int
  | [] => some 0
  | c :: rest =>
    let (negative, digits) := splitSign rest
    if (c = 'e' ∨ c = 'E') ∧ CharClass.allOf Char.isDigit digits then
      some (if negative then -(exponentValue digits : Int) else exponentValue digits)
    else none

/-- So many digits of a mantissa decide how it is rounded: a float never has as many, nor
    does a number half way between two neighbouring floats. -/
def decidingDigits : Nat := 800

/-- The number nearest to `n · 10 ^ e`.  Numbers far outside the range are settled by their
    decade. -/
def nearestDecimal (negative : Bool) (n : Nat) (e : Int) : Binary64 :=
  let decade := (digitCount n : Int) - 1 + e
  if n = 0 ∨ decade < -330 then .zero negative
  else if 310 < decade then .infinity negative
  else if e < 0 then .ofQuotient negative n (Nat.pow 10 (-e).toNat)
  else .ofQuotient negative (n * Nat.pow 10 e.toNat) 1

/-- Digits with an optional point among them and an optional exponent behind them. -/
def unsignedDecimal? (negative : Bool) (text : List Char) : Option Binary64 :=
  let whole := text.takeWhile Char.isDigit
  let rest := text.dropWhile Char.isDigit
  let (fraction, rest) :=
    match rest with
    | '.' :: rest => (rest.takeWhile Char.isDigit, rest.dropWhile Char.isDigit)
    | rest => ([], rest)
  if whole.isEmpty && fraction.isEmpty then none
  else
    let (digits, dropped) := Digits.leading decidingDigits (whole ++ fraction)
    (exponent? rest).map fun e =>
      nearestDecimal negative (Digits.value digits) (e + dropped - fraction.length)

/-- The float that a text denotes: a decimal number, an infinity or a NaN by name. -/
def float? (text : List Char) : Option Binary64 :=
  let (negative, rest) := splitSign (CharClass.trim text)
  let name := String.ofList (rest.map Char.toLower)
  if name = "inf" ∨ name = "infinity" then some (.infinity negative)
  else if name = "nan" then some (if negative then Binary64.nan.negate else .nan)
  else unsignedDecimal? negative rest

end Literal

end DynamicObjects
