import DynamicObjects.Number.Digits
import DynamicObjects.Number.Rounding

/-! # Decimal notation of quotients

    The texts of a non-negative quotient `num / den` in decimal: with a fixed number
    of places after the point, and in scientific form with a fixed number of digits.
    Both round the exact quotient once, ties to even, so they agree wherever they show
    the same number of digits. -/

namespace DynamicObjects

/-! ## Positional notation -/

/-- How many decimal digits a natural number has; zero has one. -/
def digitCount (n : Nat) : Nat := (Nat.toDigits 10 n).length

/-- Zeros in front of a text until it has `width` characters. -/
def padZeros (width : Nat) (text : List Char) : List Char :=
  List.replicate (width - text.length) '0' ++ text

/-- A point in front of the last `places` digits; no point if there are none. -/
def insertPoint (places : Nat) (digits : List Char) : List Char :=
  if places = 0 then digits
  else
    let whole := digits.length - places
    digits.take whole ++ '.' :: digits.drop whole

/-- The quotient rounded to `places` digits after the point. -/
def fixedText (places num den : Nat) : List Char :=
  insertPoint places
    (padZeros (places + 1) (Digits.ofNat (roundHalfEven (num * Nat.pow 10 places) den)))

/-! ## Scientific notation -/

/-- A decimal number in scientific notation: `d₁.d₂d₃… · 10 ^ exponent`. -/
structure Scientific where
  digits : List Char
  /-- The power of ten that the first digit counts. -/
  exponent : Int
deriving DecidableEq

namespace Scientific

/-- The exponent of the greatest power of ten that is at most `num / den`, for a positive
    quotient. -/
def decade (num den : Nat) : Int :=
  if den ≤ num then (digitCount (num / den) : Int) - 1 else -(digitCount ((den - 1) / num) : Int)

/-- Numerator and denominator of `num / den` counted in units of `10 ^ e`. -/
def scale (num den : Nat) (e : Int) : Nat × Nat :=
  if e < 0 then (num * Nat.pow 10 (-e).toNat, den) else (num, den * Nat.pow 10 e.toNat)

/-- The quotient rounded to `places` digits after the first one.  Rounding up to the next
    power of ten moves the exponent on; zero has the exponent zero. -/
def rounded (places num den : Nat) : Scientific :=
  if num = 0 then ⟨List.replicate (places + 1) '0', 0⟩
  else
    let e := decade num den
    let (a, b) := scale num den (e - places)
    let n := roundHalfEven a b
    if Nat.pow 10 (places + 1) ≤ n then ⟨Digits.ofNat (n / 10), e + 1⟩
    else ⟨Digits.ofNat n, e⟩

/-- The digits with a point behind the first; no point behind a single digit. -/
def mantissa (s : Scientific) : List Char := insertPoint (s.digits.length - 1) s.digits

/-- The number without an exponent, written out to its last digit. -/
def positional (s : Scientific) : List Char :=
  if s.exponent < 0 then
    '0' :: '.' :: List.replicate ((-s.exponent).toNat - 1) '0' ++ s.digits
  else
    let whole := s.exponent.toNat + 1
    if s.digits.length ≤ whole then s.digits ++ List.replicate (whole - s.digits.length) '0'
    else insertPoint (s.digits.length - whole) s.digits

/-- The digits without the zeros at their end; one digit always stays. -/
def trim (s : Scientific) : Scientific :=
  match (s.digits.reverse.dropWhile (· == '0')).reverse with
  | [] => ⟨['0'], s.exponent⟩
  | ds => ⟨ds, s.exponent⟩

end Scientific

end DynamicObjects
