import DynamicObjects.Proofs.Number.Radix
import DynamicObjects.Text.Quoted
import DynamicObjects.Value

/-! # Spelled data

    Data are built from null, truth values, integers and texts by lists.  What they
    are spelled as can be read in one way only, whatever stands behind it, as long
    as the two truth values are spelled differently.

    The argument:
    1. The first character tells which kind of datum is spelled.
    2. A quoted text ends with the first quote that is not escaped, and an integer
       with its last digit; so no digit may stand behind one.
    3. Behind an element of a list there is a comma or a bracket.  So a list is read
       element by element, by induction.

    Main results:
    - `Quoted.encode_append_inj`: quoted texts
    - `integerText_append_inj`: integers
    - `Datum.spelled_append_inj`: data
    - `Datum.spelling_injective_iff`: whole texts of data -/

namespace DynamicObjects

/-! ## Quoted texts -/

namespace Quoted

section quoted
variable {quote c d : Char} {s t r r' : List Char}

theorem delimiter_cases (s : List Char) : delimiter s = '\'' ∨ delimiter s = '"' := by
  unfold delimiter
  split
  · exact .inr rfl
  · exact .inl rfl

/-- The character that a letter behind a backslash stands for. -/
def escaped (letter : Char) : Char :=
  if letter = 'n' then '\n' else if letter = 'r' then '\r' else if letter = 't' then '\t'
  else letter

/-- A character is written as it is, unless it is the quote or the backslash, or as
    a backslash with a letter behind it. -/
theorem encodeChar_cases (hquote : quote = '\'' ∨ quote = '"') (c : Char) :
    encodeChar quote c = [c] ∧ c ≠ '\\' ∧ c ≠ quote ∨
      ∃ letter, encodeChar quote c = ['\\', letter] ∧ escaped letter = c := by
  unfold encodeChar
  split
  · next hc => exact .inr ⟨'\\', rfl, hc.symm⟩
  split
  · next hc => exact .inr ⟨'n', rfl, hc.symm⟩
  split
  · next hc => exact .inr ⟨'r', rfl, hc.symm⟩
  split
  · next hc => exact .inr ⟨'t', rfl, hc.symm⟩
  split
  · next hc =>
    refine .inr ⟨c, rfl, ?_⟩
    rcases hquote with rfl | rfl <;> rw [hc] <;> rfl
  · next hbackslash _ _ _ hc => exact .inl ⟨rfl, hbackslash, hc⟩

/-- **Characters** between quotes are read in one way. -/
theorem encodeChar_append_inj (hquote : quote = '\'' ∨ quote = '"')
    (h : encodeChar quote c ++ r = encodeChar quote d ++ r') : c = d ∧ r = r' := by
  rcases encodeChar_cases hquote c with ⟨hc, hcb, -⟩ | ⟨letter, hc, rfl⟩ <;>
    rcases encodeChar_cases hquote d with ⟨hd, hdb, -⟩ | ⟨letter', hd, rfl⟩ <;>
    rw [hc, hd] at h <;> simp only [List.cons_append, List.nil_append, List.cons.injEq] at h
  · exact h
  · exact absurd h.1 hcb
  · exact absurd h.1.symm hdb
  · exact ⟨by rw [h.2.1], h.2.2⟩

/-- The closing quote does not begin a character. -/
theorem encodeChar_append_ne (hquote : quote = '\'' ∨ quote = '"') :
    encodeChar quote c ++ r ≠ quote :: r' := by
  intro h
  rcases encodeChar_cases hquote c with ⟨hc, -, hne⟩ | ⟨letter, hc, -⟩ <;> rw [hc] at h
  · exact hne (List.cons.inj h).1
  · rcases hquote with rfl | rfl <;> cases (List.cons.inj h).1

/-- What stands between two quotes ends where the text ends. -/
theorem content_append_inj (hquote : quote = '\'' ∨ quote = '"')
    (h : s.flatMap (encodeChar quote) ++ quote :: r = t.flatMap (encodeChar quote) ++ quote :: r') :
    s = t ∧ r = r' := by
  induction s generalizing t with
  | nil =>
    cases t with
    | nil => exact ⟨rfl, (List.cons.inj h).2⟩
    | cons d t =>
      rw [List.flatMap_cons, List.append_assoc] at h
      exact absurd h.symm (encodeChar_append_ne hquote)
  | cons c s ih =>
    rw [List.flatMap_cons, List.append_assoc] at h
    cases t with
    | nil => exact absurd h (encodeChar_append_ne hquote)
    | cons d t =>
      -- The first characters are equal, and then the rest by induction.
      rw [List.flatMap_cons, List.append_assoc] at h
      obtain ⟨rfl, hrest⟩ := encodeChar_append_inj hquote h
      obtain ⟨rfl, hr⟩ := ih hrest
      exact ⟨rfl, hr⟩

/-- **Quoted texts** are read in one way, whatever stands behind them. -/
theorem encode_append_inj (h : encode s ++ r = encode t ++ r') : s = t ∧ r = r' := by
  simp only [encode, List.cons_append, List.append_assoc, List.nil_append,
    List.cons.injEq] at h
  obtain ⟨hquote, hcontent⟩ := h
  rw [hquote] at hcontent
  exact content_append_inj (delimiter_cases t) hcontent

end quoted

end Quoted

/-! ## Integers -/

/-- The first of some characters is no digit. -/
def NoDigitFirst (cs : List Char) : Prop := ∀ c, cs.head? = some c → c.isDigit = false

section integers
variable {ds es r r' : List Char}

/-- Digits end in front of what does not begin with one. -/
theorem digits_append_inj (hds : ∀ c ∈ ds, c.isDigit = true) (hes : ∀ c ∈ es, c.isDigit = true)
    (hr : NoDigitFirst r) (hr' : NoDigitFirst r') (h : ds ++ r = es ++ r') : ds = es ∧ r = r' := by
  induction ds generalizing es with
  | nil =>
    cases es with
    | nil => exact ⟨rfl, h⟩
    | cons c es =>
      -- A digit on the right would stand behind the end on the left.
      have hdigit := hr c (by rw [show r = c :: (es ++ r') from h]; rfl)
      rw [hes c List.mem_cons_self] at hdigit
      cases hdigit
  | cons c ds ih =>
    rw [List.forall_mem_cons] at hds
    cases es with
    | nil =>
      have hdigit := hr' c (by rw [← show c :: (ds ++ r) = r' from h]; rfl)
      rw [hds.1] at hdigit
      cases hdigit
    | cons d es =>
      obtain ⟨rfl, hrest⟩ := List.cons.inj h
      obtain ⟨rfl, hr⟩ := ih hds.2 (List.forall_mem_cons.mp hes).2 hrest
      exact ⟨rfl, hr⟩

theorem isDigit_of_mem_toDigits {m : Nat} {c : Char} (h : c ∈ Nat.toDigits 10 m) :
    c.isDigit = true :=
  Nat.isDigit_of_mem_toDigits (by decide) (by decide) h

theorem toDigits_append_inj {m n : Nat} (hr : NoDigitFirst r) (hr' : NoDigitFirst r')
    (h : Nat.toDigits 10 m ++ r = Nat.toDigits 10 n ++ r') : m = n ∧ r = r' := by
  obtain ⟨hdigits, hrest⟩ := digits_append_inj (fun _ => isDigit_of_mem_toDigits)
    (fun _ => isDigit_of_mem_toDigits) hr hr' h
  have hm : Radix.readOn 10 0 (Nat.toDigits 10 m) = some m :=
    Radix.readOn_toDigits (by decide) (by decide) m
  rw [hdigits, Radix.readOn_toDigits (by decide) (by decide)] at hm
  exact ⟨(Option.some.inj hm).symm, hrest⟩

/-- The digits of a number do not begin with a sign. -/
theorem toDigits_append_ne {m : Nat} : Nat.toDigits 10 m ++ r ≠ '-' :: r' := by
  obtain ⟨c, cs, hcons⟩ := List.exists_cons_of_ne_nil (Nat.toDigits_ne_nil (n := m) (b := 10))
  intro h
  have hdigit : c.isDigit = true := isDigit_of_mem_toDigits (hcons ▸ List.mem_cons_self)
  rw [hcons] at h
  rw [(List.cons.inj h).1] at hdigit
  cases hdigit

/-- **Integers** are read in one way, unless a digit stands behind them. -/
theorem integerText_append_inj {m n : Int} (hr : NoDigitFirst r) (hr' : NoDigitFirst r')
    (h : integerText m ++ r = integerText n ++ r') : m = n ∧ r = r' := by
  unfold integerText at h
  by_cases hm : m < 0 <;> by_cases hn : n < 0
  · rw [if_pos hm, if_pos hn] at h
    obtain ⟨hdigits, hrest⟩ := toDigits_append_inj hr hr' (List.cons.inj h).2
    exact ⟨by omega, hrest⟩
  · rw [if_pos hm, if_neg hn] at h
    exact absurd h.symm toDigits_append_ne
  · rw [if_neg hm, if_pos hn] at h
    exact absurd h toDigits_append_ne
  · rw [if_neg hm, if_neg hn] at h
    obtain ⟨hdigits, hrest⟩ := toDigits_append_inj hr hr' h
    exact ⟨by omega, hrest⟩

end integers

/-! ## Data -/

/-- A **datum**: null, a truth value, an integer, a text, or a list of data. -/
inductive Datum where
  | null
  | bool (b : Bool)
  | int (n : Int64)
  | text (s : String)
  | list (items : List Datum)

namespace Datum

mutual

/-- A datum as a value. -/
def value : Datum → Value
  | null => .null
  | bool b => .bool b
  | int n => .int n
  | text s => .text s
  | list items => .list (values items)

/-- Data as values. -/
def values : List Datum → List Value
  | [] => []
  | d :: rest => value d :: values rest

end

variable (counts : Bool → Bool)

mutual

/-- What a datum is **spelled** as, where a truth value is spelled as what it counts
    as. -/
def spelled : Datum → List Char
  | null => "null".toList
  | bool b => (if counts b then "true" else "false").toList
  | int n => integerText n.toInt
  | text s => Quoted.encode s.toList
  | list items => '[' :: spelledItems items

/-- What stands behind the first bracket of a list. -/
def spelledItems : List Datum → List Char
  | [] => [']']
  | d :: rest => spelled d ++ spelledRest rest

/-- What stands behind an element of a list: the elements that follow, and the
    bracket. -/
def spelledRest : List Datum → List Char
  | [] => [']']
  | d :: rest => ',' :: ' ' :: (spelled d ++ spelledRest rest)

end

/-- The text that a datum is spelled as. -/
def spelling (d : Datum) : String := String.ofList (d.spelled counts)

/-! ## First characters -/

/-- The kinds of data. -/
inductive Kind where
  | null
  | bool
  | int
  | text
  | list
deriving DecidableEq

/-- The kind of a datum. -/
def kind : Datum → Kind
  | null => .null
  | bool _ => .bool
  | int _ => .int
  | text _ => .text
  | list _ => .list

/-- The kind of data whose spelling begins with a character, if there is one. -/
def kindOf? (c : Char) : Option Kind :=
  if c.isDigit ∨ c = '-' then some .int
  else if c = 'n' then some .null
  else if c = 't' ∨ c = 'f' then some .bool
  else if c = '\'' ∨ c = '"' then some .text
  else if c = '[' then some .list
  else none

/-- **The first character** tells the kind. -/
theorem exists_spelled_eq_cons (d : Datum) :
    ∃ c cs, d.spelled counts = c :: cs ∧ kindOf? c = some d.kind := by
  cases d with
  | null => exact ⟨'n', _, rfl, rfl⟩
  | bool b =>
    rw [spelled]
    split
    · exact ⟨'t', _, rfl, rfl⟩
    · exact ⟨'f', _, rfl, rfl⟩
  | int n =>
    rw [spelled, integerText]
    split
    · exact ⟨'-', _, rfl, rfl⟩
    · obtain ⟨c, cs, hcons⟩ :=
        List.exists_cons_of_ne_nil (Nat.toDigits_ne_nil (n := n.toInt.natAbs) (b := 10))
      have hdigit : c.isDigit = true := isDigit_of_mem_toDigits (hcons ▸ List.mem_cons_self)
      exact ⟨c, cs, hcons, if_pos (.inl hdigit)⟩
  | text s =>
    -- Whichever quote encloses it, no other kind begins with one.
    refine ⟨Quoted.delimiter s.toList, _, by rw [spelled, Quoted.encode]; rfl, ?_⟩
    rcases Quoted.delimiter_cases s.toList with h | h <;> rw [h] <;> rfl
  | list items => exact ⟨'[', _, by rw [spelled], rfl⟩

section readable
variable {counts} {d e : Datum} {r r' : List Char}

theorem kind_eq_of_spelled (h : d.spelled counts ++ r = e.spelled counts ++ r') :
    d.kind = e.kind := by
  obtain ⟨c, cs, hd, hkind⟩ := exists_spelled_eq_cons counts d
  obtain ⟨c', cs', he, hkind'⟩ := exists_spelled_eq_cons counts e
  rw [hd, he] at h
  rw [(List.cons.inj h).1, hkind'] at hkind
  exact (Option.some.inj hkind).symm

/-- A list does not end where an element begins. -/
theorem spelled_append_ne : d.spelled counts ++ r ≠ ']' :: r' := by
  obtain ⟨c, cs, hd, hkind⟩ := exists_spelled_eq_cons counts d
  intro h
  rw [hd] at h
  rw [(List.cons.inj h).1] at hkind
  cases hkind

/-- No digit stands behind an element. -/
theorem noDigitFirst_spelledRest (rest : List Datum) (r : List Char) :
    NoDigitFirst (spelledRest counts rest ++ r) := by
  intro c hc
  cases rest <;> rw [spelledRest] at hc <;> obtain rfl := Option.some.inj hc <;> rfl

/-- Behind equal elements the lists go on alike, with a comma or not. -/
theorem spelledItems_of_spelledRest {ds es : List Datum}
    (h : spelledRest counts ds ++ r = spelledRest counts es ++ r') :
    spelledItems counts ds ++ r = spelledItems counts es ++ r' := by
  match ds, es with
  | [], [] => exact h
  | [], e :: es | d :: ds, [] =>
    rw [spelledRest, spelledRest] at h
    cases (List.cons.inj h).1
  | d :: ds, e :: es =>
    rw [spelledRest, spelledRest] at h
    exact (List.cons.inj (List.cons.inj h).2).2

/-! ## Reading -/

theorem bool_append_inj (hcounts : counts true ≠ counts false) {a b : Bool}
    (h : (bool a).spelled counts ++ r = (bool b).spelled counts ++ r') : a = b ∧ r = r' := by
  have hwords : ∀ x y : Bool, (if x then "true" else "false").toList ++ r =
      (if y then "true" else "false").toList ++ r' → x = y ∧ r = r' := by
    intro x y hxy
    cases x <;> cases y
    · exact ⟨rfl, List.append_cancel_left hxy⟩
    · cases (List.cons.inj hxy).1
    · cases (List.cons.inj hxy).1
    · exact ⟨rfl, List.append_cancel_left hxy⟩
  rw [spelled, spelled] at h
  obtain ⟨hsame, hrest⟩ := hwords _ _ h
  refine ⟨?_, hrest⟩
  cases a <;> cases b
  · rfl
  · exact absurd hsame.symm hcounts
  · exact absurd hsame hcounts
  · rfl

mutual

/-- **Data** are read in one way, unless a digit stands behind them. -/
theorem spelled_append_inj (hcounts : counts true ≠ counts false) (d e : Datum)
    {r r' : List Char} (hr : NoDigitFirst r) (hr' : NoDigitFirst r')
    (h : d.spelled counts ++ r = e.spelled counts ++ r') : d = e ∧ r = r' := by
  -- The kinds agree, so only pairs of one kind are left.
  have hkind := kind_eq_of_spelled h
  match d with
  | null =>
    cases e with
    | null => exact ⟨rfl, List.append_cancel_left h⟩
    | _ => cases hkind
  | bool a =>
    cases e with
    | bool b =>
      obtain ⟨rfl, hrest⟩ := bool_append_inj hcounts h
      exact ⟨rfl, hrest⟩
    | _ => cases hkind
  | int m =>
    cases e with
    | int n =>
      rw [spelled, spelled] at h
      obtain ⟨hmn, hrest⟩ := integerText_append_inj hr hr' h
      exact ⟨by rw [Int64.toInt_inj.mp hmn], hrest⟩
    | _ => cases hkind
  | text s =>
    cases e with
    | text t =>
      rw [spelled, spelled] at h
      obtain ⟨hst, hrest⟩ := Quoted.encode_append_inj h
      exact ⟨by rw [String.toList_inj.mp hst], hrest⟩
    | _ => cases hkind
  | list ds =>
    cases e with
    | list es =>
      rw [spelled, spelled] at h
      obtain ⟨rfl, hrest⟩ := spelledItems_append_inj hcounts ds es (List.cons.inj h).2
      exact ⟨rfl, hrest⟩
    | _ => cases hkind

/-- Lists are read element by element. -/
theorem spelledItems_append_inj (hcounts : counts true ≠ counts false) (ds es : List Datum)
    {r r' : List Char} (h : spelledItems counts ds ++ r = spelledItems counts es ++ r') :
    ds = es ∧ r = r' := by
  match ds, es with
  | [], [] => exact ⟨rfl, List.append_cancel_left h⟩
  | [], e :: es =>
    rw [spelledItems, spelledItems, List.append_assoc] at h
    exact absurd h.symm spelled_append_ne
  | d :: ds, [] =>
    rw [spelledItems, spelledItems, List.append_assoc] at h
    exact absurd h spelled_append_ne
  | d :: ds, e :: es =>
    -- What stands behind an element begins with a comma or a bracket.
    rw [spelledItems, spelledItems, List.append_assoc, List.append_assoc] at h
    obtain ⟨rfl, hbehind⟩ := spelled_append_inj hcounts d e (noDigitFirst_spelledRest ds r)
      (noDigitFirst_spelledRest es r') h
    obtain ⟨rfl, hrest⟩ :=
      spelledItems_append_inj hcounts ds es (spelledItems_of_spelledRest hbehind)
    exact ⟨rfl, hrest⟩

end

theorem noDigitFirst_nil : NoDigitFirst [] := nofun

/-- **Spelling** tells all data apart exactly if it does so with the truth values. -/
theorem spelling_injective_iff :
    Function.Injective (spelling counts) ↔ counts true ≠ counts false := by
  constructor
  · intro hinjective heq
    have hsame : (bool true).spelling counts = (bool false).spelling counts := by
      rw [spelling, spelling, spelled, spelled, heq]
    cases hinjective hsame
  · intro hcounts d e h
    refine (spelled_append_inj hcounts d e noDigitFirst_nil noDigitFirst_nil ?_).1
    rw [List.append_nil, List.append_nil, String.ofList_inj.mp h]

end readable

/-! ## Elements in a row -/

/-- The elements of a list are spelled with commas between them. -/
theorem intercalate_spelled (d : Datum) (rest : List Datum) :
    List.intercalate [',', ' '] ((d :: rest).map (spelled counts)) ++ [']'] =
      d.spelled counts ++ spelledRest counts rest := by
  induction rest generalizing d with
  | nil => simp [spelledRest]
  | cons e rest ih =>
    rw [List.map_cons, List.map_cons, List.intercalate_cons_cons, List.append_assoc,
      List.append_assoc, ← List.map_cons, ih, spelledRest]
    rfl

theorem spelled_list (items : List Datum) :
    (list items).spelled counts =
      '[' :: (List.intercalate [',', ' '] (items.map (spelled counts)) ++ [']']) := by
  rw [spelled]
  cases items with
  | nil => rfl
  | cons d rest => rw [spelledItems, intercalate_spelled]

example : (list [text "a", text "', '", list [int (-1)]]).spelling id =
    "['a', \"', '\", [-1]]" := by decide +kernel

end Datum

end DynamicObjects
