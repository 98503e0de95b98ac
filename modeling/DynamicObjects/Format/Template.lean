import DynamicObjects.Number.Digits

/-! # Templates

    A template is text with directives in it.  A directive starts with a percent sign,
    may have flags, a width and a precision, and ends with its conversion: `%-8.3f`.
    Two percent signs stand for one.  A template that ends inside a directive is
    incomplete from there on. -/

namespace DynamicObjects

namespace Format

structure Layout where
  leftAlign : Bool
  /-- Fill numbers with zeros behind the sign. -/
  zeroPad : Bool
  plusSign : Bool
  width : Nat
  /-- Digits of a number, or the greatest number of characters of a text. -/
  precision : Option Nat
deriving DecidableEq

def Layout.default : Layout := ⟨false, false, false, 0, none⟩

inductive Piece where
  | literal (c : Char)
  | directive (layout : Layout) (conversion : Char)
  /-- A directive without a conversion, at the end of the template. -/
  | incomplete
deriving DecidableEq

/-! ## Reading a directive -/

/-- Flags may come in any order and number. -/
def takeFlags (layout : Layout) : List Char → Layout × List Char
  | '-' :: rest => takeFlags { layout with leftAlign := true } rest
  | '0' :: rest => takeFlags { layout with zeroPad := true } rest
  | '+' :: rest => takeFlags { layout with plusSign := true } rest
  | rest => (layout, rest)

/-- Greater numbers in a directive count as this one. -/
def greatestNumber : Nat := Nat.pow 2 64 - 1

def numberOf (digits : List Char) : Nat := Digits.valueUpTo greatestNumber digits

/-- A number in front of a text; no digits are zero. -/
def takeNumber (cs : List Char) : Nat × List Char :=
  (numberOf (cs.takeWhile Char.isDigit), cs.dropWhile Char.isDigit)

def takePrecision : List Char → Option Nat × List Char
  | '.' :: rest =>
    let (n, rest) := takeNumber rest
    (some n, rest)
  | rest => (none, rest)

def takeLayout (cs : List Char) : Layout × List Char :=
  let (layout, cs) := takeFlags .default cs
  let (width, cs) := takeNumber cs
  let (precision, cs) := takePrecision cs
  ({ layout with width := width, precision := precision }, cs)

theorem length_dropWhile_le (p : Char → Bool) (cs : List Char) :
    (cs.dropWhile p).length ≤ cs.length :=
  (List.dropWhile_sublist p).length_le

theorem length_takeFlags_le (layout : Layout) (cs : List Char) :
    (takeFlags layout cs).2.length ≤ cs.length := by
  fun_induction takeFlags layout cs <;> simp_all <;> omega

theorem length_takePrecision_le (cs : List Char) :
    (takePrecision cs).2.length ≤ cs.length := by
  fun_cases takePrecision cs with
  | case1 rest n rest' h =>
    have := length_dropWhile_le Char.isDigit rest
    simp only [takeNumber, Prod.mk.injEq] at h
    simp only [List.length_cons, ← h.2]
    omega
  | case2 => simp

theorem length_takeLayout_le (cs : List Char) : (takeLayout cs).2.length ≤ cs.length :=
  calc
    (takeLayout cs).2.length ≤ (takeNumber (takeFlags .default cs).2).2.length :=
      length_takePrecision_le _
    _ ≤ (takeFlags .default cs).2.length := length_dropWhile_le _ _
    _ ≤ cs.length := length_takeFlags_le _ _

/-! ## Reading a template -/

def parse : List Char → List Piece
  | [] => []
  | c :: cs =>
    if c = '%' then
      match _h : takeLayout cs with
      | (_, []) => [.incomplete]
      | (layout, conversion :: rest) =>
        (if conversion = '%' then .literal '%' else .directive layout conversion) :: parse rest
    else .literal c :: parse cs
termination_by cs => cs.length
decreasing_by
  · have := length_takeLayout_le cs
    rw [_h] at this
    simp only [List.length_cons] at this ⊢
    omega
  · simp

end Format

end DynamicObjects
