/-! # Runs of decimal digits

    The number that a run of digits denotes, exactly or up to a limit, and the digits
    of a number.  A run may be much longer than any number that is of use: `valueUpTo`
    stays below its limit all the way, and `leading` shortens a run to the digits that
    decide how it is rounded.  The digits of a long number are found in blocks;
    `ofNat_eq_toDigits` says that they are the usual ones. -/

namespace DynamicObjects

namespace Digits

def ofChar (c : Char) : Nat := c.toNat - '0'.toNat

/-- The number that a run of digits denotes; no digits are zero. -/
def value (digits : List Char) : Nat := digits.foldl (fun n c => 10 * n + ofChar c) 0

/-- The number that a run of digits denotes, if that is at most `limit`, and `limit`
    otherwise. -/
def valueUpTo (limit : Nat) (digits : List Char) : Nat :=
  digits.foldl (fun n c => min limit (10 * n + ofChar c)) 0

/-- Stopping at the limit on the way is the same as cutting off at the end. -/
theorem valueUpTo_eq_min (limit : Nat) (digits : List Char) :
    valueUpTo limit digits = min limit (value digits) := by
  have fold (n : Nat) : digits.foldl (fun n c => min limit (10 * n + ofChar c)) (min limit n) =
      min limit (digits.foldl (fun n c => 10 * n + ofChar c) n) := by
    induction digits generalizing n with
    | nil => rfl
    | cons c cs ih =>
      have step : min limit (10 * min limit n + ofChar c) = min limit (10 * n + ofChar c) := by
        omega
      simp only [List.foldl_cons, step, ih]
  simpa [valueUpTo, value] using fold 0

/-! ## Digits that decide a rounding -/

/-- The digits of a run from its first one that is not zero on, and how many places have
    been cut off behind them.  At most `count` digits stay.  Where more have been there, one
    digit behind them stands for all the others: it is `1` if they denote anything above
    zero.  Whatever number has at most `count` digits itself lies on the same side of what
    is left as of what was written. -/
def leading (count : Nat) (digits : List Char) : List Char × Nat :=
  let significant := digits.dropWhile (· == '0')
  let kept := significant.take count
  match significant.drop count with
  | [] => (kept, 0)
  | c :: cs => (kept ++ [if (c :: cs).all (· == '0') then '0' else '1'], cs.length)

/-! ## The digits of a number -/

/-- The last `count` digits of a number, in front of some text. -/
def last : Nat → Nat → List Char → List Char
  | 0, _, text => text
  | count + 1, n, text => last count (n / 10) ((n % 10).digitChar :: text)

/-- The number of digits of a block.  Blocks of so many digits fit a machine word. -/
def blockLength : Nat := 18

/-- The digits of a number in front of some text, taken off block by block from the end. -/
def inBlocks : Nat → Nat → List Char → List Char
  | 0, n, text => Nat.toDigits 10 n ++ text
  | blocks + 1, n, text =>
    let bound := Nat.pow 10 blockLength
    if n < bound then Nat.toDigits 10 n ++ text
    else inBlocks blocks (n / bound) (last blockLength (n % bound) text)

def ofNat (n : Nat) : List Char := inBlocks n.log2 n []

theorem last_mod (count n : Nat) (text : List Char) :
    last count (n % Nat.pow 10 count) text = last count n text := by
  induction count generalizing n text with
  | zero => rfl
  | succ count ih =>
    have power : Nat.pow 10 (count + 1) = 10 * Nat.pow 10 count := Nat.mul_comm _ _
    rw [last, last, power, Nat.mod_mul_right_div_self, Nat.mod_mul_right_mod, ih]

/-- The last digits and those in front of them are all digits. -/
theorem toDigits_append_last (count n : Nat) (text : List Char) (h : Nat.pow 10 count ≤ n) :
    Nat.toDigits 10 (n / Nat.pow 10 count) ++ last count n text = Nat.toDigits 10 n ++ text := by
  induction count generalizing n text with
  | zero => rw [last, show Nat.pow 10 0 = 1 from rfl, Nat.div_one]
  | succ count ih =>
    have power : Nat.pow 10 (count + 1) = 10 * Nat.pow 10 count := Nat.mul_comm _ _
    have positive : 0 < Nat.pow 10 count := Nat.pow_pos (by decide)
    have rest : Nat.pow 10 count ≤ n / 10 := by
      rw [Nat.le_div_iff_mul_le (by decide)]
      omega
    rw [last, power, ← Nat.div_div_eq_div_mul, ih _ _ rest,
      Nat.toDigits_of_base_le (by decide) (show 10 ≤ n by omega), List.append_assoc,
      List.singleton_append]

theorem inBlocks_eq (blocks n : Nat) (text : List Char) :
    inBlocks blocks n text = Nat.toDigits 10 n ++ text := by
  induction blocks generalizing n text with
  | zero => rfl
  | succ blocks ih =>
    rw [inBlocks]
    split
    · rfl
    · rename_i large
      rw [ih, last_mod, toDigits_append_last _ _ _ (Nat.le_of_not_lt large)]

@[simp] theorem ofNat_eq_toDigits (n : Nat) : ofNat n = Nat.toDigits 10 n := by
  rw [ofNat, inBlocks_eq, List.append_nil]

end Digits

end DynamicObjects
