import DynamicObjects.Construction
import DynamicObjects.Format
import DynamicObjects.Proofs.Heap.Converted
import DynamicObjects.Proofs.Number.Radix

/-! # Formatted integers

    `IntegerDirective` is a directive for an integer: any flags in any number, a
    width, a precision, and one of the conversions that write integers.

    The argument:
    1. A directive is read as the layout that it spells; leading zeros of a width
       would be flags, so that a width has none.
    2. The text is the sign and the digits of the integer, with blanks in front of
       them or behind them, or zeros between them, up to the width.
    3. Blanks are trimmed off, a sign is split off, and zeros in front of digits do
       not count; so the integer is read back.

    Main results:
    - `IntegerDirective.parse_spelling`: what a directive is read as
    - `IntegerDirective.format_eq`: the text that it gives
    - `IntegerDirective.format_denotes`: the text has the width and denotes the
      integer -/

namespace DynamicObjects

/-! ## Directives -/

/-- A **directive** for an integer, as it is spelled in a template. -/
structure IntegerDirective where
  flags : List Char
  width : Nat
  /-- The digits behind the point, if there is one. -/
  precision : Option (List Char)
  conversion : Char
  flags_mem : ∀ c ∈ flags, c ∈ ['-', '0', '+']
  width_le : width ≤ Format.greatestNumber
  precision_isDigit : ∀ digits ∈ precision, ∀ c ∈ digits, c.isDigit = true
  conversion_mem : conversion ∈ ['d', 'i', 'u', 'x', 'X', 'o']

namespace IntegerDirective
open Format

/-- The width in digits, unless it is zero. -/
def widthText (d : IntegerDirective) : List Char :=
  if d.width = 0 then [] else Nat.toDigits 10 d.width

/-- The precision behind its point. -/
def precisionText (d : IntegerDirective) : List Char :=
  match d.precision with
  | some digits => '.' :: digits
  | none => []

/-- How the directive is spelled. -/
def spelling (d : IntegerDirective) : List Char :=
  '%' :: (d.flags ++ (d.widthText ++ (d.precisionText ++ [d.conversion])))

/-- A conversion alone, as in `%d`. -/
def plain (conversion : Char) (h : conversion ∈ ['d', 'i', 'u', 'x', 'X', 'o']) :
    IntegerDirective where
  flags := []
  width := 0
  precision := none
  conversion := conversion
  flags_mem := List.forall_mem_nil _
  width_le := Nat.zero_le _
  precision_isDigit := fun digits hdigits => absurd hdigits (Option.not_mem_none digits)
  conversion_mem := h

/-- The same directive without a width. -/
def unpadded (d : IntegerDirective) : IntegerDirective :=
  { d with width := 0, width_le := Nat.zero_le _ }

/-- The layout that the directive asks for. -/
def layout (d : IntegerDirective) : Layout where
  leftAlign := decide ('-' ∈ d.flags)
  zeroPad := decide ('0' ∈ d.flags)
  plusSign := decide ('+' ∈ d.flags)
  width := d.width
  precision := d.precision.map numberOf

section reading
variable {cs : List Char}

/-- Flags are read up to a character that is none. -/
theorem takeFlags_append (start : Layout) (flags : List Char)
    (hflags : ∀ c ∈ flags, c ∈ ['-', '0', '+'])
    (hcs : ∀ c ∈ cs.head?, c ∉ ['-', '0', '+']) :
    takeFlags start (flags ++ cs) =
      ({ start with
        leftAlign := start.leftAlign || decide ('-' ∈ flags)
        zeroPad := start.zeroPad || decide ('0' ∈ flags)
        plusSign := start.plusSign || decide ('+' ∈ flags) }, cs) := by
  induction flags generalizing start with
  | nil =>
    rw [List.nil_append]
    unfold takeFlags
    split <;> simp_all
  | cons c flags ih =>
    rw [List.forall_mem_cons] at hflags
    obtain ⟨hc, hflags⟩ := hflags
    simp only [List.mem_cons, List.not_mem_nil, or_false] at hc
    rcases hc with rfl | rfl | rfl <;> rw [List.cons_append, takeFlags, ih _ hflags] <;> simp

/-- A number is read up to a character that is no digit. -/
theorem takeNumber_append {digits : List Char} (hdigits : ∀ c ∈ digits, c.isDigit = true)
    (hcs : ∀ c ∈ cs.head?, c.isDigit = false) :
    takeNumber (digits ++ cs) = (numberOf digits, cs) := by
  have htake : cs.takeWhile Char.isDigit = [] := by cases cs <;> simp_all
  have hdrop : cs.dropWhile Char.isDigit = cs := by cases cs <;> simp_all
  rw [takeNumber, List.takeWhile_append_of_pos hdigits, List.dropWhile_append_of_pos hdigits,
    htake, hdrop, List.append_nil]

/-- The digits of a number denote it. -/
theorem numberOf_toDigits {n : Nat} (hn : n ≤ greatestNumber) :
    numberOf (Nat.toDigits 10 n) = n := by
  have hvalue : Digits.value (Nat.toDigits 10 n) = n := Nat.ofDigitChars_ten_toDigits
  rw [numberOf, Digits.valueUpTo_eq_min, hvalue, Nat.min_eq_right hn]

end reading

variable (d : IntegerDirective)

theorem numberOf_widthText : numberOf d.widthText = d.width := by
  unfold widthText
  by_cases hwidth : d.width = 0
  · rw [if_pos hwidth, hwidth]
    rfl
  · rw [if_neg hwidth, numberOf_toDigits d.width_le]

theorem isDigit_of_mem_widthText {c : Char} (h : c ∈ d.widthText) : c.isDigit = true := by
  unfold widthText at h
  split at h
  · exact absurd h List.not_mem_nil
  · exact Nat.isDigit_of_mem_toDigits (by decide) (by decide) h

/-- The conversion is neither a digit nor a flag, and no point either. -/
theorem conversion_ne :
    d.conversion.isDigit = false ∧ d.conversion ∉ ['-', '0', '+', '.', '%'] := by
  have hmem := d.conversion_mem
  simp only [List.mem_cons, List.not_mem_nil, or_false] at hmem
  rcases hmem with hc | hc | hc | hc | hc | hc <;> rw [hc] <;> decide

/-- What follows the width starts with a point or the conversion. -/
theorem head?_precisionText : ∀ c ∈ (d.precisionText ++ [d.conversion]).head?,
    c.isDigit = false ∧ c ∉ ['-', '0', '+'] := by
  obtain ⟨hdigit, hother⟩ := d.conversion_ne
  unfold precisionText
  cases d.precision with
  | some digits => simp
  | none => simp_all

/-- What follows the flags is none: the first digit of a width is above zero. -/
theorem head?_widthText : ∀ c ∈ (d.widthText ++ (d.precisionText ++ [d.conversion])).head?,
    c ∉ ['-', '0', '+'] := by
  intro c hc
  unfold widthText at hc
  by_cases hwidth : d.width = 0
  · rw [if_pos hwidth, List.nil_append] at hc
    exact (d.head?_precisionText c hc).2
  · rw [if_neg hwidth] at hc
    have hzero := Radix.head?_toDigits_ne_zero (show 1 < 10 by decide) (by decide)
      (Nat.pos_of_ne_zero hwidth)
    obtain ⟨first, rest, hdigits⟩ :=
      List.exists_cons_of_ne_nil (Nat.toDigits_ne_nil (n := d.width) (b := 10))
    have hfirst : first.isDigit = true :=
      Nat.isDigit_of_mem_toDigits (b := 10) (n := d.width) (by decide) (by decide)
        (by rw [hdigits]; exact List.mem_cons_self)
    rw [hdigits] at hc hzero
    obtain rfl : first = c := Option.some.inj hc
    simp only [List.mem_cons, List.not_mem_nil, or_false, not_or]
    -- A digit is no sign.
    have hne : ∀ c, c.isDigit = false → first ≠ c := by
      rintro c hc rfl
      rw [hc] at hfirst
      cases hfirst
    refine ⟨hne '-' (by decide), fun h => hzero ?_, hne '+' (by decide)⟩
    rw [h, List.head?_cons]

theorem takePrecision_precisionText :
    takePrecision (d.precisionText ++ [d.conversion]) =
      (d.precision.map numberOf, [d.conversion]) := by
  obtain ⟨hdigit, hother⟩ := d.conversion_ne
  have hdigits := d.precision_isDigit
  unfold precisionText
  cases hprecision : d.precision with
  | some digits =>
    have hnumber : takeNumber (digits ++ [d.conversion]) = (numberOf digits, [d.conversion]) :=
      takeNumber_append (hdigits digits hprecision) (by simpa using hdigit)
    simp only [List.cons_append, takePrecision, hnumber, Option.map_some]
  | none =>
    rw [List.nil_append, takePrecision]
    · rfl
    · rintro rest h
      obtain ⟨hpoint, -⟩ := List.cons.inj h
      exact hother (by simp [hpoint])

/-- **Reading**: a directive is read as its layout and its conversion. -/
theorem parse_spelling : parse d.spelling = [.directive d.layout d.conversion] := by
  have hflags := takeFlags_append .default d.flags d.flags_mem d.head?_widthText
  have hwidth := takeNumber_append (fun c => d.isDigit_of_mem_widthText)
    (fun c hc => (d.head?_precisionText c hc).1)
  have hlayout : takeLayout (d.flags ++ (d.widthText ++ (d.precisionText ++ [d.conversion]))) =
      (d.layout, [d.conversion]) := by
    simp only [takeLayout, hflags, hwidth, takePrecision_precisionText, numberOf_widthText]
    rfl
  have hpercent : d.conversion ≠ '%' := fun h => d.conversion_ne.2 (by simp [h])
  rw [spelling, parse, if_pos rfl, hlayout]
  simp only [if_neg hpercent, parse]

/-! ## The text -/

/-- The text of an integer: its sign and its digits, with blanks around them and
    zeros behind the sign. -/
def padded (before zeros after : Nat) (sign digits : List Char) : List Char :=
  List.replicate before ' ' ++ (sign ++ (List.replicate zeros '0' ++ digits)) ++
    List.replicate after ' '

section text
variable {natives : Natives} {w : World} {v : Value} {n : Int64}

/-- A directive alone gives what its conversion does. -/
theorem format_of_convert {text : List Char}
    (h : convert natives d.layout d.conversion v w = .done text w) :
    natives.format d.spelling [v] w = .done text w := by
  rw [Natives.format, parse_spelling]
  simp only [substitute, Run.bind_apply, h, Run.pure_apply, List.append_nil]

/-- **The text** of a directive is that of the integer, filled up to the width. -/
theorem format_eq (natives : Natives) (h : w.unwrap v = .int n) :
    natives.format d.spelling [v] w =
      .done (fill d.layout true (integerBody d.layout d.conversion n.toInt)) w := by
  refine d.format_of_convert ?_
  have hmem := d.conversion_mem
  simp only [List.mem_cons, List.not_mem_nil, or_false] at hmem
  rcases hmem with hc | hc | hc | hc | hc | hc <;> rw [hc] <;>
    simp only [convert, Run.bind_apply, Run.read_apply, id_eq, h] <;> rfl

/-- **Decimal directives** take whatever has an integer for them. -/
theorem format_decimal_eq (natives : Natives) (hdecimal : d.conversion ∈ ['d', 'i', 'u'])
    (h : decimalArgument? (w.unwrap v) = some n) :
    natives.format d.spelling [v] w =
      .done (fill d.layout true (integerBody d.layout d.conversion n.toInt)) w := by
  refine d.format_of_convert ?_
  simp only [List.mem_cons, List.not_mem_nil, or_false] at hdecimal
  rcases hdecimal with hc | hc | hc <;> rw [hc] <;>
    simp only [convert, Run.bind_apply, Run.read_apply, id_eq, scalarBody, h] <;> rfl

/-- **Filling** puts blanks around the text or zeros behind its sign. -/
theorem fill_eq (layout : Layout) (conversion : Char) (i : Int) :
    ∃ before zeros after, before + zeros + after =
        layout.width - (integerBody layout conversion i).length ∧
      fill layout true (integerBody layout conversion i) =
        padded before zeros after (signOf layout i) (integerDigits conversion i.natAbs) := by
  rw [integerBody_eq]
  unfold fill padded
  by_cases hleft : layout.leftAlign = true
  · refine ⟨0, 0, _, Nat.zero_add _, ?_⟩
    simp [hleft]
  by_cases hzero : layout.zeroPad = true
  · refine ⟨0, _, 0, Nat.zero_add _, ?_⟩
    obtain ⟨c, cs, hdigits⟩ := List.exists_cons_of_ne_nil (integerDigits_ne_nil conversion i.natAbs)
    have hc : IsDigitChar c := isDigitChar_of_mem (m := i.natAbs) (by
      rw [hdigits]
      exact List.mem_cons_self)
    obtain ⟨-, hminus, hplus⟩ := hc.ne
    unfold signOf
    by_cases hi : i < 0
    · simp [hleft, hzero, hi]
    by_cases hsign : layout.plusSign = true
    · simp [hleft, hzero, hi, hsign]
    · -- Without a sign the zeros come first.
      simp [hleft, hzero, hi, hsign, hdigits, hminus, hplus]
  · refine ⟨_, 0, 0, rfl, ?_⟩
    simp [hleft, hzero]

/-- Without a width nothing is filled up. -/
theorem format_unpadded_eq (natives : Natives) (h : w.unwrap v = .int n) :
    natives.format d.unpadded.spelling [v] w =
      .done (integerBody d.layout d.conversion n.toInt) w := by
  rw [d.unpadded.format_eq natives h]
  obtain ⟨before, zeros, after, hsum, hfill⟩ :=
    fill_eq d.unpadded.layout d.unpadded.conversion n.toInt
  have hzero : before = 0 ∧ zeros = 0 ∧ after = 0 := by
    have hwidth : d.unpadded.layout.width = 0 := rfl
    omega
  obtain ⟨rfl, rfl, rfl⟩ := hzero
  rw [hfill]
  simp only [padded, List.replicate_zero, List.nil_append, List.append_nil, ← integerBody_eq]
  rfl

end text

/-! ## What the text denotes -/

section padded
variable {layout : Layout} {conversion : Char} {i : Int} {before zeros after : Nat} {c : Char}

theorem eq_of_mem_signOf (h : c ∈ signOf layout i) : c = '-' ∨ c = '+' := by
  unfold signOf at h
  split at h
  · exact .inl (List.mem_singleton.mp h)
  · split at h
    · exact .inr (List.mem_singleton.mp h)
    · exact absurd h List.not_mem_nil

/-- A sign is a single character, if there is one. -/
theorem signOf_eq (layout : Layout) (i : Int) :
    signOf layout i = [] ∨ ∃ s, signOf layout i = [s] := by
  unfold signOf
  split
  · exact .inr ⟨_, rfl⟩
  · split
    · exact .inr ⟨_, rfl⟩
    · exact .inl rfl

theorem plus_mem_signOf_iff : '+' ∈ signOf layout i ↔ layout.plusSign = true ∧ 0 ≤ i := by
  unfold signOf
  by_cases hi : i < 0
  · simp [hi, Int.not_le.mpr hi]
  · by_cases hplus : layout.plusSign = true <;> simp [hi, hplus, Int.not_lt.mp hi]

/-- Behind the sign there is none. -/
theorem ne_of_mem_behind (h : c ∈ List.replicate zeros '0' ++ integerDigits conversion i.natAbs ++
    List.replicate after ' ') : c ≠ '-' ∧ c ≠ '+' := by
  rcases List.mem_append.mp h with h | h
  · exact (isDigitChar_of_mem_zeros h).ne.2
  · rw [List.eq_of_mem_replicate h]
    decide

theorem trim_padded :
    CharClass.trim (padded before zeros after (signOf layout i)
      (integerDigits conversion i.natAbs)) =
      signOf layout i ++ (List.replicate zeros '0' ++ integerDigits conversion i.natAbs) := by
  refine CharClass.trim_blanks before after ?_ ?_
  · simp [integerDigits_ne_nil]
  · intro c hc
    rcases List.mem_append.mp hc with hc | hc
    · rcases eq_of_mem_signOf hc with rfl | rfl <;> decide +kernel
    · exact (isDigitChar_of_mem_zeros hc).ne.1

theorem plus_mem_padded_iff :
    '+' ∈ padded before zeros after (signOf layout i) (integerDigits conversion i.natAbs) ↔
      layout.plusSign = true ∧ 0 ≤ i := by
  rw [← plus_mem_signOf_iff]
  unfold padded
  rw [List.append_assoc, List.append_assoc, List.mem_append, List.mem_append]
  constructor
  · rintro (h | h | h)
    · exact absurd (List.eq_of_mem_replicate h) (by decide)
    · exact h
    · exact absurd rfl (ne_of_mem_behind h).2
  · exact fun h => .inr (.inl h)

/-- **Only blanks are in front of a sign.** -/
theorem blank_of_before_sign {front behind : List Char}
    (h : padded before zeros after (signOf layout i) (integerDigits conversion i.natAbs) =
      front ++ c :: behind) (hc : c = '-' ∨ c = '+') : ∀ b ∈ front, b = ' ' := by
  unfold padded at h
  rw [List.append_assoc, List.append_assoc] at h
  have hbehind : c ∉ List.replicate zeros '0' ++ integerDigits conversion i.natAbs ++
      List.replicate after ' ' := by
    intro hmem
    obtain ⟨hminus, hplus⟩ := ne_of_mem_behind hmem
    rcases hc with hc | hc
    · exact hminus hc
    · exact hplus hc
  intro b hb
  rcases List.append_eq_append_iff.mp h with ⟨rest, rfl, hrest⟩ | ⟨rest, hblanks, -⟩
  · -- The blanks end in front of the sign, which is the first character behind them.
    have hnil : rest = [] := by
      cases rest with
      | nil => rfl
      | cons x rest =>
        have hlater : c ∈ List.replicate zeros '0' ++ integerDigits conversion i.natAbs ++
            List.replicate after ' ' := by
          rcases signOf_eq layout i with hsign | ⟨s, hsign⟩
          · rw [hsign, List.nil_append] at hrest
            rw [hrest]
            simp
          · rw [hsign, List.singleton_append, List.cons_append] at hrest
            rw [(List.cons.inj hrest).2]
            simp
        exact absurd hlater hbehind
    rw [hnil, List.append_nil] at hb
    exact List.eq_of_mem_replicate hb
  · refine List.eq_of_mem_replicate (n := before) (a := ' ') ?_
    rw [hblanks]
    exact List.mem_append_left _ hb

end padded

/-- **Decimal texts** are literals of their integers. -/
theorem integer?_fill (hdecimal : d.conversion ∈ ['d', 'i', 'u']) (n : Int64) :
    Literal.integer? (fill d.layout true (integerBody d.layout d.conversion n.toInt)) =
      some n := by
  obtain ⟨before, zeros, after, -, hfill⟩ := fill_eq d.layout d.conversion n.toInt
  have hdigits : integerDigits d.conversion n.toInt.natAbs = Nat.toDigits 10 n.toInt.natAbs := by
    simp only [List.mem_cons, List.not_mem_nil, or_false] at hdecimal
    rcases hdecimal with hc | hc | hc <;> rw [hc] <;> rfl
  rw [hfill]
  refine Literal.integer?_of_trim d.layout zeros n ?_
  rw [trim_padded, hdigits]

/-- What stands for an integer constructs it; further arguments do not matter. -/
theorem newObject_integer {args : List Value} {n : Int64} (natives : Natives) (w : World)
    (h : Behaviour.integerFrom (w.allocate .integer).2 args = .ok n) :
    ∃ o w₁, natives.newObject .integer args w = .done o w₁ ∧
      w₁.typeOf o = .integer ∧ w₁.payload? o = some (.int n) := by
  have hnew : natives.newObject .integer args w =
      .done (w.toObject (.int n)).1 (w.toObject (.int n)).2 := by
    show ((natives.runInitializer (.construct .integer) (w.allocate .integer).1 args >>=
      fun _ => pure (w.allocate .integer).1 : Run ObjectId)) (w.allocate .integer).2 = _
    simp only [Natives.runInitializer, Initializer.run, Run.bind_apply, Run.read_apply, id_eq, h,
      Run.lift_ok, Run.modify_apply, Run.pure_apply]
    rfl
  have hconversion : (w.toObject (.int n)).2.IsConversion w.heap.size (w.toObject (.int n)).1
      (.int n) := World.toObject_isConversion (.int n) (Nat.le_refl _)
  obtain ⟨-, htype, hpayload⟩ := hconversion
  exact ⟨(w.toObject (.int n)).1, (w.toObject (.int n)).2, hnew, (Option.some.inj htype).symm,
    hpayload⟩

/-- A literal constructs its integer. -/
theorem newObject_of_literal {text : List Char} {n : Int64} (natives : Natives)
    (h : Literal.integer? text = some n) (w : World) :
    ∃ o w₁, natives.newObject .integer [.text (String.ofList text)] w = .done o w₁ ∧
      w₁.typeOf o = .integer ∧ w₁.payload? o = some (.int n) := by
  refine newObject_integer natives w ?_
  have hread : Literal.integer? (String.ofList text).toList = some n := by
    rw [String.toList_ofList, h]
  unfold Behaviour.integerFrom Behaviour.integerOf
  simp only [World.unwrap, hread]

/-! ## Correctness -/

/-- **Formatted integers** are as long as the width asks for, or as they are without
    it, and denote the integer: decimal ones construct it, the others are read back
    in their base when the blanks around them are gone.  Only blanks are in front of
    a sign, and there is a plus exactly if a flag asks for it and the integer is not
    negative. -/
theorem format_denotes (natives : Natives) {w : World} {v : Value} {n : Int64}
    (h : w.unwrap v = .int n) : ∃ text unpadded,
    natives.format d.spelling [v] w = .done text w ∧
    natives.format d.unpadded.spelling [v] w = .done unpadded w ∧
    text.length = max d.width unpadded.length ∧
    (d.conversion ∈ ['d', 'i', 'u'] → ∀ w₁, ∃ o w₂,
      natives.newObject .integer [.text (String.ofList text)] w₁ = .done o w₂ ∧
      w₂.typeOf o = .integer ∧ w₂.payload? o = some (.int n)) ∧
    (d.conversion ∈ ['x', 'X'] → Radix.integer? 16 (CharClass.trim text) = some n.toInt) ∧
    (d.conversion = 'o' → Radix.integer? 8 (CharClass.trim text) = some n.toInt) ∧
    (∀ front c behind, text = front ++ c :: behind → c = '-' ∨ c = '+' →
      ∀ b ∈ front, b = ' ') ∧
    ('+' ∈ text ↔ '+' ∈ d.flags ∧ 0 ≤ n.toInt) := by
  obtain ⟨before, zeros, after, hsum, hfill⟩ := fill_eq d.layout d.conversion n.toInt
  have hformat := d.format_eq natives h
  rw [hfill] at hformat
  -- What is filled in is blanks, zeros and blanks, around a sign and digits.
  refine ⟨padded before zeros after (signOf d.layout n.toInt)
    (integerDigits d.conversion n.toInt.natAbs), _, hformat, d.format_unpadded_eq natives h,
    ?_, ?_, ?_, ?_, ?_, ?_⟩
  · have hwidth : d.layout.width = d.width := rfl
    rw [integerBody_eq] at hsum ⊢
    simp only [padded, List.length_append, List.length_replicate] at hsum ⊢
    omega
  · intro hdecimal w₁
    rw [← hfill]
    exact newObject_of_literal natives (d.integer?_fill hdecimal n) w₁
  · intro hhexadecimal
    have hbase : baseOf d.conversion = 16 := if_pos (by simpa using hhexadecimal)
    rw [trim_padded, ← hbase, integer?_signed]
  · intro hoctal
    have hbase : baseOf d.conversion = 8 := by rw [hoctal]; decide
    rw [trim_padded, ← hbase, integer?_signed]
  · exact fun front c behind htext hc => blank_of_before_sign htext hc
  · rw [plus_mem_padded_iff]
    simp [layout]

/-- The directive `%0+020X`, which spells its plus between two zeros. -/
def signedCapitals : IntegerDirective where
  flags := ['0', '+', '0']
  width := 20
  precision := none
  conversion := 'X'
  flags_mem := by simp
  width_le := by decide
  precision_isDigit := by simp
  conversion_mem := by simp

/-- The least integer has no plus, and a minus in front of three zeros. -/
theorem format_denotes_least : ∃ text,
    Natives.format (fun _ _ _ => Run.diverge) signedCapitals.spelling [.int Int64.minValue]
      World.initial = .done text World.initial ∧
    text = "-0008000000000000000".toList ∧
    Radix.integer? 16 (CharClass.trim text) = some (-9223372036854775808) := by
  obtain ⟨text, unpadded, hformat, -, -, -, hcapitals, -⟩ :=
    signedCapitals.format_denotes (fun _ _ _ => Run.diverge) (w := World.initial)
      (v := .int Int64.minValue) rfl
  have heq := signedCapitals.format_eq (fun _ _ _ => Run.diverge) (w := World.initial)
      (v := .int Int64.minValue) rfl
  obtain ⟨rfl, -⟩ := Outcome.done.inj (hformat.symm.trans heq)
  exact ⟨_, hformat, by decide +kernel, hcapitals (by decide)⟩

end IntegerDirective

end DynamicObjects
