import DynamicObjects.Format.NumberText
import DynamicObjects.Number.Literal

/-! # Numbers in a base

    `Radix.natural?` and `Radix.integer?` read whole numbers in bases up to sixteen,
    letters of either case being digits behind the nine.

    Main results:
    - `Radix.readOn_toDigits`: what is written in a base is read back in it
    - `Format.readOn_integerDigits`: so are the digits of every conversion
    - `Format.integer?_signed`: and those with a sign and zeros in front of them
    - `Literal.integer?_of_trim`: decimal ones are literals of integers, too -/

namespace DynamicObjects

/-! ## Reading -/

namespace Radix

/-- The value of a digit. -/
def digit? (c : Char) : Option Nat :=
  if '0' ≤ c ∧ c ≤ '9' then some (c.toNat - '0'.toNat)
  else if 'a' ≤ c ∧ c ≤ 'f' then some (c.toNat - 'a'.toNat + 10)
  else if 'A' ≤ c ∧ c ≤ 'F' then some (c.toNat - 'A'.toNat + 10)
  else none

/-- The number that is read when a prefix has been read as `n` already. -/
def readOn (base : Nat) : Nat → List Char → Option Nat
  | n, [] => some n
  | n, c :: cs =>
    match digit? c with
    | some d => if d < base then readOn base (base * n + d) cs else none
    | none => none

/-- The number that a run of digits denotes; there has to be one at least. -/
def natural? (base : Nat) (text : List Char) : Option Nat :=
  if text.isEmpty then none else readOn base 0 text

/-- The number that digits with an optional sign in front of them denote. -/
def integer? (base : Nat) (text : List Char) : Option Int :=
  let (negative, digits) := Literal.splitSign text
  (natural? base digits).map fun (n : Nat) => if negative then -(n : Int) else n

end Radix

/-! ## Digits -/

/-- The base that a conversion writes in. -/
def Format.baseOf (conversion : Char) : Nat :=
  if conversion = 'x' ∨ conversion = 'X' then 16 else if conversion = 'o' then 8 else 10

namespace Radix

section digits
variable {base n d : Nat} {c : Char} {cs ds : List Char}

theorem readOn_cons (h : digit? c = some d) (hd : d < base) :
    readOn base n (c :: cs) = readOn base (base * n + d) cs := by
  simp only [readOn, h, if_pos hd]

theorem readOn_append : readOn base n (cs ++ ds) =
    (readOn base n cs).bind fun m => readOn base m ds := by
  induction cs generalizing n with
  | nil => rfl
  | cons c cs ih =>
    rw [List.cons_append, readOn, readOn]
    cases digit? c with
    | none => rfl
    | some d =>
      by_cases hd : d < base
      · simp only [if_pos hd, ih]
      · simp only [if_neg hd, Option.bind_none]

/-- The characters of digits, and their capitals, stand for them. -/
theorem digit?_digitChar (hd : d < 16) :
    digit? d.digitChar = some d ∧ digit? d.digitChar.toUpper = some d := by
  have hall : ∀ d < 16, digit? d.digitChar = some d ∧ digit? d.digitChar.toUpper = some d := by
    decide
  exact hall d hd

theorem readOn_zeros (count : Nat) (hbase : 0 < base) :
    readOn base 0 (List.replicate count '0' ++ cs) = readOn base 0 cs := by
  induction count with
  | zero => rfl
  | succ count ih =>
    rw [List.replicate_succ, List.cons_append, readOn_cons (d := 0) (by decide) hbase]
    exact ih

/-- Numbers are written with digits of their base. -/
theorem exists_digitChar_of_mem (hbase : 1 < base) (h : c ∈ Nat.toDigits base n) :
    ∃ d < base, c = d.digitChar := by
  induction n using Nat.base_induction base hbase with
  | single d hd =>
    rw [Nat.toDigits_of_lt_base hd, List.mem_singleton] at h
    exact ⟨d, hd, h⟩
  | digit n d hd hn ih =>
    rw [← Nat.toDigits_append_toDigits hbase hn hd, List.mem_append,
      Nat.toDigits_of_lt_base hd, List.mem_singleton] at h
    rcases h with h | h
    · exact ih h
    · exact ⟨d, hd, h⟩

/-- The first digit of a number above zero is above zero. -/
theorem head?_toDigits_ne_zero (hbase : 1 < base) (hbase' : base ≤ 16) (hn : 0 < n) :
    (Nat.toDigits base n).head? ≠ some '0' := by
  induction n using Nat.base_induction base hbase with
  | single d hd =>
    have hall : ∀ d < 16, 0 < d → d.digitChar ≠ '0' := by decide
    rw [Nat.toDigits_of_lt_base hd, List.head?_cons]
    exact fun h => hall d (by omega) hn (Option.some.inj h)
  | digit n d hd hpos ih =>
    obtain ⟨c, cs, hcons⟩ := List.exists_cons_of_ne_nil (Nat.toDigits_ne_nil (n := n) (b := base))
    rw [← Nat.toDigits_append_toDigits hbase hpos hd, hcons]
    rw [hcons] at ih
    exact ih hpos

/-- **Digits are read back**: all but the last one by induction, and then that. -/
theorem readOn_toDigits (hbase : 1 < base) (hbase' : base ≤ 16) (n : Nat) :
    readOn base 0 (Nat.toDigits base n) = some n := by
  have hlast : ∀ d m, d < base → readOn base m [d.digitChar] = some (base * m + d) := by
    intro d m hd
    rw [readOn_cons (digit?_digitChar (by omega)).1 hd]
    rfl
  induction n using Nat.base_induction base hbase with
  | single d hd => rw [Nat.toDigits_of_lt_base hd, hlast d 0 hd, Nat.mul_zero, Nat.zero_add]
  | digit n d hd hn ih =>
    rw [← Nat.toDigits_append_toDigits hbase hn hd, readOn_append, ih, Option.bind_some,
      Nat.toDigits_of_lt_base hd, hlast d n hd]

/-- Capitals are read as the small letters. -/
theorem readOn_upperDigits (h : ∀ c ∈ cs, ∃ d < 16, c = d.digitChar) :
    readOn base n (Format.upperDigits cs) = readOn base n cs := by
  induction cs generalizing n with
  | nil => rfl
  | cons c cs ih =>
    rw [List.forall_mem_cons] at h
    obtain ⟨⟨d, hd, rfl⟩, hcs⟩ := h
    obtain ⟨hsmall, hcapital⟩ := digit?_digitChar hd
    show readOn base n (d.digitChar.toUpper :: Format.upperDigits cs) = _
    simp only [readOn, hsmall, hcapital, ih hcs]

end digits

end Radix

/-! ## Written numbers -/

/-- A character that numbers are written with: a digit, or the capital of one. -/
def Format.IsDigitChar (c : Char) : Prop :=
  ∃ d < 16, c = Nat.digitChar d ∨ c = (Nat.digitChar d).toUpper

namespace Format

section written
variable {conversion c : Char} {m n count : Nat} {i : Int} {digits cs : List Char}

/-- Digits are neither blanks nor signs. -/
theorem IsDigitChar.ne (h : IsDigitChar c) :
    CharClass.isWhiteSpace c = false ∧ c ≠ '-' ∧ c ≠ '+' := by
  have hsmall : ∀ d < 16, CharClass.isWhiteSpace d.digitChar = false ∧
      d.digitChar ≠ '-' ∧ d.digitChar ≠ '+' := by decide +kernel
  have hcapital : ∀ d < 16, CharClass.isWhiteSpace d.digitChar.toUpper = false ∧
      d.digitChar.toUpper ≠ '-' ∧ d.digitChar.toUpper ≠ '+' := by decide +kernel
  obtain ⟨d, hd, rfl | rfl⟩ := h
  · exact hsmall d hd
  · exact hcapital d hd

theorem isDigitChar_zero : IsDigitChar '0' := ⟨0, by decide, .inl rfl⟩

theorem baseOf_bounds (conversion : Char) : 8 ≤ baseOf conversion ∧ baseOf conversion ≤ 16 := by
  unfold baseOf
  split
  · decide
  · split <;> decide

/-- A conversion writes the digits of its base, or their capitals. -/
theorem integerDigits_eq (conversion : Char) (m : Nat) :
    integerDigits conversion m = Nat.toDigits (baseOf conversion) m ∨
      integerDigits conversion m = upperDigits (Nat.toDigits (baseOf conversion) m) := by
  unfold integerDigits baseOf
  by_cases hx : conversion = 'x'
  · simp [hx]
  by_cases hX : conversion = 'X'
  · simp [hX]
  by_cases ho : conversion = 'o'
  · simp [ho]
  · simp [hx, hX, ho]

theorem mem_toDigits_baseOf (h : c ∈ Nat.toDigits (baseOf conversion) m) :
    ∃ d < 16, c = d.digitChar := by
  obtain ⟨hlower, hupper⟩ := baseOf_bounds conversion
  obtain ⟨d, hd, rfl⟩ := Radix.exists_digitChar_of_mem (by omega) h
  exact ⟨d, by omega, rfl⟩

theorem isDigitChar_of_mem (h : c ∈ integerDigits conversion m) : IsDigitChar c := by
  rcases integerDigits_eq conversion m with heq | heq
  · rw [heq] at h
    obtain ⟨d, hd, rfl⟩ := mem_toDigits_baseOf h
    exact ⟨d, hd, .inl rfl⟩
  · rw [heq, upperDigits, List.mem_map] at h
    obtain ⟨c, hc, rfl⟩ := h
    obtain ⟨d, hd, rfl⟩ := mem_toDigits_baseOf hc
    exact ⟨d, hd, .inr rfl⟩

theorem integerDigits_ne_nil (conversion : Char) (m : Nat) : integerDigits conversion m ≠ [] := by
  rcases integerDigits_eq conversion m with heq | heq <;> simp [heq, upperDigits]

/-- **The digits of a conversion** are read back in its base. -/
theorem readOn_integerDigits (conversion : Char) (m : Nat) :
    Radix.readOn (baseOf conversion) 0 (integerDigits conversion m) = some m := by
  obtain ⟨hlower, hupper⟩ := baseOf_bounds conversion
  have hread := Radix.readOn_toDigits (by omega) hupper m
  rcases integerDigits_eq conversion m with heq | heq
  · rw [heq, hread]
  · rw [heq, Radix.readOn_upperDigits fun c => mem_toDigits_baseOf, hread]

/-! ## Signs and zeros -/

/-- The sign that a layout puts in front of an integer. -/
def signOf (layout : Layout) (i : Int) : List Char :=
  if i < 0 then ['-'] else if layout.plusSign then ['+'] else []

theorem integerBody_eq (layout : Layout) (conversion : Char) (i : Int) :
    integerBody layout conversion i = signOf layout i ++ integerDigits conversion i.natAbs := by
  unfold integerBody signed signOf
  by_cases hi : i < 0
  · simp [hi]
  · by_cases hplus : layout.plusSign = true <;> simp [hi, hplus]

/-- A sign is split off from digits. -/
theorem splitSign_signOf (layout : Layout) (i : Int) (hdigits : ∀ c ∈ digits, IsDigitChar c) :
    Literal.splitSign (signOf layout i ++ digits) = (decide (i < 0), digits) := by
  unfold signOf
  by_cases hi : i < 0
  · simp [hi, Literal.splitSign]
  by_cases hplus : layout.plusSign = true
  · simp [hi, hplus, Literal.splitSign]
  · -- Digits do not start with a sign.
    cases digits with
    | nil => simp [hi, hplus, Literal.splitSign]
    | cons c cs =>
      obtain ⟨-, hminus, hplus'⟩ := (hdigits c List.mem_cons_self).ne
      simp [hi, hplus, Literal.splitSign, hminus, hplus']

/-- Zeros in front of the digits are digits, too. -/
theorem isDigitChar_of_mem_zeros (h : c ∈ List.replicate count '0' ++ integerDigits conversion m) :
    IsDigitChar c := by
  rcases List.mem_append.mp h with h | h
  · rw [List.eq_of_mem_replicate h]
    exact isDigitChar_zero
  · exact isDigitChar_of_mem h

theorem negated_natAbs (i : Int) :
    (if decide (i < 0) = true then -(i.natAbs : Int) else i.natAbs) = i := by
  by_cases hi : i < 0
  · rw [if_pos (decide_eq_true hi)]
    omega
  · rw [if_neg (by simpa using hi)]
    omega

/-- **Integers are read back** in the base of the conversion, zeros behind the sign
    or not. -/
theorem integer?_signed (layout : Layout) (conversion : Char) (count : Nat) (i : Int) :
    Radix.integer? (baseOf conversion) (signOf layout i ++
      (List.replicate count '0' ++ integerDigits conversion i.natAbs)) = some i := by
  have hbase := (baseOf_bounds conversion).1
  have hne : (List.replicate count '0' ++ integerDigits conversion i.natAbs).isEmpty = false := by
    simp [integerDigits_ne_nil]
  rw [Radix.integer?, splitSign_signOf layout i fun c => isDigitChar_of_mem_zeros]
  show (Radix.natural? _ _).map _ = _
  rw [Radix.natural?, hne, if_neg Bool.false_ne_true, Radix.readOn_zeros _ (by omega),
    readOn_integerDigits, Option.map_some, negated_natAbs]

end written

end Format


/-! ## Literals -/

/-- Blanks around a text are white space; those within it stay. -/
theorem CharClass.trim_blanks {core : List Char} (before after : Nat) (hne : core ≠ [])
    (hcore : ∀ c ∈ core, isWhiteSpace c = false) :
    trim (List.replicate before ' ' ++ core ++ List.replicate after ' ') = core := by
  have hblank : ∀ count, ∀ c ∈ List.replicate count ' ', isWhiteSpace c = true := by
    intro count c hc
    rw [List.eq_of_mem_replicate hc]
    decide +kernel
  -- White space is dropped up to the first character of a text that has none.
  have hdrop : ∀ count (cs rest : List Char), cs ≠ [] → (∀ c ∈ cs, isWhiteSpace c = false) →
      (List.replicate count ' ' ++ (cs ++ rest)).dropWhile isWhiteSpace = cs ++ rest := by
    intro count cs rest hcs hwhite
    obtain ⟨c, cs, rfl⟩ := List.exists_cons_of_ne_nil hcs
    rw [List.dropWhile_append_of_pos (hblank count), List.cons_append, List.dropWhile_cons,
      hwhite c List.mem_cons_self, if_neg Bool.false_ne_true]
  have hreverse := hdrop after core.reverse [] (by simpa using hne) (by simpa using hcore)
  rw [List.append_nil] at hreverse
  rw [trim, List.append_assoc, hdrop before core _ hne hcore, List.reverse_append,
    List.reverse_replicate, hreverse, List.reverse_reverse]

namespace Literal
open Format

theorem natural?_zeros (count m : Nat) (hm : m ≤ greatestNumber) :
    natural? (List.replicate count '0' ++ Nat.toDigits 10 m) = some m := by
  have hdigits : CharClass.allOf Char.isDigit
      (List.replicate count '0' ++ Nat.toDigits 10 m) = true := by
    simp only [CharClass.allOf, Bool.and_eq_true, Bool.not_eq_true', List.all_eq_true]
    refine ⟨by simp, fun c hc => ?_⟩
    rcases List.mem_append.mp hc with hc | hc
    · rw [List.eq_of_mem_replicate hc]
      rfl
    · exact Nat.isDigit_of_mem_toDigits (by decide) (by decide) hc
  have hvalue : Digits.value (List.replicate count '0' ++ Nat.toDigits 10 m) = m := by
    show Nat.ofDigitChars 10 _ 0 = m
    rw [Nat.ofDigitChars_append, Nat.ofDigitChars_replicate_zero, Nat.mul_zero,
      Nat.ofDigitChars_ten_toDigits]
  rw [natural?, if_pos hdigits, Digits.valueUpTo_eq_min, hvalue, Nat.min_eq_right hm]

/-- **Literals**: the decimal digits of an integer of sixty-four bits are its literal,
    with a sign and zeros in front of them and blanks around them. -/
theorem integer?_of_trim {text : List Char} (layout : Layout) (count : Nat) (n : Int64)
    (h : CharClass.trim text = signOf layout n.toInt ++
      (List.replicate count '0' ++ Nat.toDigits 10 n.toInt.natAbs)) :
    integer? text = some n := by
  have hlower : -9223372036854775808 ≤ n.toInt := n.le_toInt
  have hupper : n.toInt < 9223372036854775808 := n.toInt_lt
  -- The magnitude is small enough to be read exactly.
  have hm : n.toInt.natAbs ≤ greatestNumber := by
    rw [greatestNumber]
    simp only [Nat.pow_eq]
    omega
  have hdigits : ∀ c ∈ List.replicate count '0' ++ Nat.toDigits 10 n.toInt.natAbs,
      IsDigitChar c := by
    intro c hc
    have hwritten : c ∈ List.replicate count '0' ++ integerDigits 'd' n.toInt.natAbs := hc
    exact isDigitChar_of_mem_zeros hwritten
  have hsigned : signed? (CharClass.trim text) = some n.toInt := by
    rw [h, signed?, splitSign_signOf layout n.toInt hdigits]
    simp only [natural?_zeros count _ hm, Option.pure_def, Option.bind_some,
      Option.bind_eq_bind, Option.map_some, negated_natAbs]
  rw [integer?, hsigned, Option.bind_some, toInt64?, if_pos ⟨n.minValue_le_toInt, n.toInt_le⟩,
    Int64.ofInt_toInt]

end Literal

end DynamicObjects
