import DynamicObjects.Proofs.Array.Sequence
import DynamicObjects.Proofs.Number.TotalOrder

/-! # Correctness of sorting

    Sorting an array either leaves a permutation of its elements in which the
    payloads ascend and elements of one rank keep their order, or finds payloads
    that cannot be compared and leaves the array as it is.

    The argument:
    1. On the payloads that it covers, an order compares keys: code points,
       integers, or floats in total order.
    2. Some order covers payloads exactly if they are few or of one kind.
    3. A merge sort keeps all sequences of elements that are in order already.

    Main results:
    - `SortOrder.Covers.le_iff`: what sorting compares
    - `SortOrder.exists_covers_iff`: what can be sorted
    - `ArrayMethod.sort_correct`: sorting is stable sorting of what can be sorted -/

namespace DynamicObjects

/-! ## Keys -/

/-- The code points of a text. -/
def codePoints (s : String) : List Nat := s.toList.map Char.toNat

/-- The integer that a payload is exactly; truth values are zero and one. -/
def Value.exactInteger? : Value → Option Int
  | .int n => some n.toInt
  | .bool b => some (if b then 1 else 0)
  | _ => none

/-- A payload is a text. -/
def Value.IsTextual (v : Value) : Prop := ∃ s, v = .text s

/-- A payload is an integer, a truth value or a float. -/
def Value.IsRealNumber (v : Value) : Prop :=
  (∃ n, v = .int n) ∨ (∃ b, v = .bool b) ∨ ∃ x, v = .float x

theorem codePoints_lt_of_lt {s t : String} (h : s < t) :
    List.Lex (· < ·) (codePoints s) (codePoints t) :=
  List.lex_lt.mpr (List.map_lt (fun _ _ h => h) h)

/-- **Texts** are ordered by their code points. -/
theorem text_le_iff_codePoints {s t : String} :
    s ≤ t ↔ List.Lex (· < ·) (codePoints s) (codePoints t) ∨ s = t := by
  rw [Std.le_iff_lt_or_eq]
  refine or_congr_left' fun hne => ⟨codePoints_lt_of_lt, fun h => ?_⟩
  by_contra hnot
  -- The code points would be in order the other way round, too.
  have hgt : t < s := Std.lt_of_le_of_ne (String.not_lt.mp hnot) (Ne.symm hne)
  exact List.lt_asymm (List.lex_lt.mp h) (List.lex_lt.mp (codePoints_lt_of_lt hgt))

namespace SortOrder

/-- By the keys of an order, a payload comes **before** another or has its rank. -/
inductive Precedes : SortOrder → Value → Value → Prop where
  | any {a b : Value} : Precedes .any a b
  | text {s t : String} (h : List.Lex (· < ·) (codePoints s) (codePoints t) ∨ s = t) :
      Precedes .text (.text s) (.text t)
  | integer {a b : Value} {m n : Int} (ha : a.exactInteger? = some m)
      (hb : b.exactInteger? = some n) (h : m ≤ n) : Precedes .integer a b
  | real {a b : Value} {x y : Binary64} (ha : a.asReal? = some x) (hb : b.asReal? = some y)
      (h : x.TotalLe y) : Precedes .real a b

section keys
variable {order : SortOrder} {a b : Value} {keys : List Value}

theorem isText_iff : IsText a ↔ a.IsTextual := by
  cases a <;> simp [IsText, of?, Value.IsTextual]

theorem isFloat_iff : IsFloat a ↔ ∃ x, a = .float x := by
  cases a <;> simp [IsFloat, of?]

theorem isInteger_iff : IsInteger a ↔ (∃ n, a = .int n) ∨ ∃ b, a = .bool b := by
  cases a <;> simp [IsInteger, of?]

theorem isInteger_or_isFloat_iff : IsInteger a ∨ IsFloat a ↔ a.IsRealNumber := by
  rw [isInteger_iff, isFloat_iff, or_assoc]
  exact Iff.rfl

theorem exactInteger?_of_isInteger (h : IsInteger a) :
    a.exactInteger? = some (integerKey a) := by
  rcases isInteger_iff.mp h with ⟨n, rfl⟩ | ⟨b, rfl⟩ <;> rfl

theorem asReal?_of_isRealNumber (h : a.IsRealNumber) :
    ∃ x, a.asReal? = some x ∧ realKey a = x.totalKey := by
  rcases h with ⟨n, rfl⟩ | ⟨b, rfl⟩ | ⟨x, rfl⟩ <;> exact ⟨_, rfl, rfl⟩

/-! ## Comparison -/

theorem le_text_iff (ha : IsText a) (hb : IsText b) :
    le .text a b = true ↔ Precedes .text a b := by
  obtain ⟨s, rfl⟩ := isText_iff.mp ha
  obtain ⟨t, rfl⟩ := isText_iff.mp hb
  show decide (s ≤ t) = true ↔ _
  rw [decide_eq_true_iff, text_le_iff_codePoints]
  exact ⟨.text, fun | .text h => h⟩

theorem le_integer_iff (ha : IsInteger a) (hb : IsInteger b) :
    le .integer a b = true ↔ Precedes .integer a b := by
  have ha := exactInteger?_of_isInteger ha
  have hb := exactInteger?_of_isInteger hb
  show decide (integerKey a ≤ integerKey b) = true ↔ _
  rw [decide_eq_true_iff]
  refine ⟨.integer ha hb, fun | .integer ha' hb' h => ?_⟩
  rw [ha, Option.some.injEq] at ha'
  rw [hb, Option.some.injEq] at hb'
  omega

theorem le_real_iff (ha : a.IsRealNumber) (hb : b.IsRealNumber) :
    le .real a b = true ↔ Precedes .real a b := by
  obtain ⟨x, hx, hxkey⟩ := asReal?_of_isRealNumber ha
  obtain ⟨y, hy, hykey⟩ := asReal?_of_isRealNumber hb
  show decide (realKey a ≤ realKey b) = true ↔ _
  rw [decide_eq_true_iff, hxkey, hykey, Binary64.totalKey_le_iff]
  refine ⟨.real hx hy, fun | .real hx' hy' h => ?_⟩
  rw [hx, Option.some.injEq] at hx'
  rw [hy, Option.some.injEq] at hy'
  rw [hx', hy']
  exact h

/-- **Comparison**: payloads that an order covers are compared by its keys. -/
theorem Covers.le_iff (h : order.Covers keys) (ha : a ∈ keys) (hb : b ∈ keys) :
    order.le a b = true ↔ order.Precedes a b := by
  cases h with
  | few => exact ⟨fun _ => .any, fun _ => rfl⟩
  | text _ h => exact le_text_iff (h a ha) (h b hb)
  | integer _ h => exact le_integer_iff (h a ha) (h b hb)
  | real _ h _ =>
    exact le_real_iff (isInteger_or_isFloat_iff.mp (h a ha)) (isInteger_or_isFloat_iff.mp (h b hb))

/-! ## Payloads that can be sorted -/

/-- Payloads can be sorted: there are fewer than two, or they are texts, or they are
    integers, truth values and floats. -/
def Sortable (keys : List Value) : Prop :=
  keys.length < 2 ∨ (∀ v ∈ keys, v.IsTextual) ∨ ∀ v ∈ keys, v.IsRealNumber

theorem exists_covers_of_sortable (h : Sortable keys) : ∃ order : SortOrder, order.Covers keys := by
  by_cases hlength : keys.length < 2
  · exact ⟨.any, .few hlength⟩
  rcases h with h | htext | hreal
  · exact absurd h hlength
  · exact ⟨.text, .text (by omega) fun v hv => isText_iff.mpr (htext v hv)⟩
  · have hnumbers : ∀ v ∈ keys, IsInteger v ∨ IsFloat v :=
      fun v hv => isInteger_or_isFloat_iff.mpr (hreal v hv)
    -- A single float decides that all of them are compared as floats.
    by_cases hfloat : ∃ v ∈ keys, IsFloat v
    · exact ⟨.real, .real (by omega) hnumbers hfloat⟩
    · refine ⟨.integer, .integer (by omega) fun v hv => (hnumbers v hv).resolve_right ?_⟩
      exact fun h => hfloat ⟨v, hv, h⟩

theorem Covers.sortable (h : order.Covers keys) : Sortable keys := by
  cases h with
  | few h => exact .inl h
  | text _ h => exact .inr (.inl fun v hv => isText_iff.mp (h v hv))
  | integer _ h => exact .inr (.inr fun v hv => isInteger_or_isFloat_iff.mp (.inl (h v hv)))
  | real _ h _ => exact .inr (.inr fun v hv => isInteger_or_isFloat_iff.mp (h v hv))

/-- **What can be sorted**: some order covers it. -/
theorem exists_covers_iff : (∃ order : SortOrder, order.Covers keys) ↔ Sortable keys :=
  ⟨fun ⟨_, h⟩ => h.sortable, exists_covers_of_sortable⟩

end keys

end SortOrder

/-! ## Sorting -/

namespace Behaviour

/-- Sorting succeeds by the order that covers the payloads. -/
theorem sorted_of_covers {w : World} {items : List Value} {order : SortOrder}
    (h : order.Covers (items.map w.unwrap)) :
    ∃ items', sorted w items = .ok items' ∧
      StablySorted (fun a b => order.Precedes (w.unwrap a) (w.unwrap b)) items items' := by
  refine ⟨_, by rw [sorted, SortOrder.covering_eq_ok_iff.mpr h], stablySorted_mergeSort ?_ ?_ ?_⟩
  · exact fun _ _ _ => order.le_trans _ _ _
  · exact fun _ _ => order.le_total _ _
  · exact fun a ha b hb => h.le_iff (List.mem_map_of_mem ha) (List.mem_map_of_mem hb)

/-- Without such an order, two of the payloads are reported. -/
theorem sorted_of_not_sortable {w : World} {items : List Value}
    (h : ¬ SortOrder.Sortable (items.map w.unwrap)) :
    ∃ left right, sorted w items = .error (.unorderable left right) := by
  rw [sorted]
  cases hcovering : SortOrder.covering (items.map w.unwrap) with
  | ok order => exact absurd (SortOrder.covering_eq_ok_iff.mp hcovering).sortable h
  | error pair => exact ⟨_, _, rfl⟩

end Behaviour

namespace ArrayMethod
open SortOrder

section sort
variable {w : World} {a : ObjectId} {items : List Value}

theorem invoke_sort (h : w.payload? a = some (.list items)) :
    sort.invoke a [] w =
      match Behaviour.sorted w items with
      | .ok items' => .done .null (w.setPayload a (.list items'))
      | .error f => .raised f w := by
  have hitems : w.items a = .ok items := by rw [World.items, h]
  simp only [ArrayMethod.invoke, Arguments.none, Run.bind_apply, Run.lift_ok, Run.read_apply,
    id_eq, hitems]
  cases Behaviour.sorted w items <;> rfl

/-- **Sorting is correct**: exactly payloads of which there are fewer than two, or
    which are all texts, or all integers, truth values and floats, can be sorted.
    Then the array has the same elements, stably sorted by the order that covers
    their payloads; otherwise, and if there are arguments, a type error leaves the
    world as it is.  All this is said of the method that arrays bind to the name. -/
theorem sort_correct (h : w.payload? a = some (.list items)) :
    (Sortable (items.map w.unwrap) → ∃ (order : SortOrder) (items' : List Value),
      order.Covers (items.map w.unwrap) ∧
      StablySorted (fun x y => order.Precedes (w.unwrap x) (w.unwrap y)) items items' ∧
      sort.invoke a [] w = .done .null (w.setPayload a (.list items')) ∧
      (w.setPayload a (.list items')).payload? a = some (.list items')) ∧
    (¬ Sortable (items.map w.unwrap) →
      ∃ f, f.kind = .typeError ∧ sort.invoke a [] w = .raised f w) ∧
    (∀ v args, ∃ f, f.kind = .typeError ∧ sort.invoke a (v :: args) w = .raised f w) ∧
    ∀ (host : Host) os args, w.IsArray a os →
      host.callMethod a sort.name args w = sort.invoke a args w := by
  refine ⟨fun hsortable => ?_, fun hnot => ?_, fun v args => ?_, fun host os args harray => ?_⟩
  · obtain ⟨order, hcovers⟩ := exists_covers_iff.mpr hsortable
    obtain ⟨items', hsorted, hstable⟩ := Behaviour.sorted_of_covers hcovers
    refine ⟨order, items', hcovers, hstable, by rw [invoke_sort h, hsorted], ?_⟩
    obtain ⟨x, hx, -⟩ := World.object?_of_property?_eq_some h
    exact World.property?_setProperty_self w (by rw [World.isAlive, hx]; rfl) payloadName _
  · obtain ⟨left, right, hsorted⟩ := Behaviour.sorted_of_not_sortable hnot
    exact ⟨_, rfl, by rw [invoke_sort h, hsorted]⟩
  · -- The method takes no argument, whatever the elements are.
    exact ⟨_, rfl, rfl⟩
  · exact ArrayOperation.run_method harray sort args

end sort

/-- An array of an integer, a NaN and a truth value. -/
def mixedNumbers : World :=
  (World.initial.toObject (.list [.int 2, .float Binary64.nan, .bool true])).2

/-- They are sorted as floats, so that the NaN comes last. -/
theorem sort_correct_mixedNumbers : ∃ items',
    StablySorted (fun x y => Precedes .real (mixedNumbers.unwrap x) (mixedNumbers.unwrap y))
      [.object ⟨16⟩, .object ⟨17⟩, .object ⟨1⟩] items' ∧
    sort.invoke ⟨3⟩ [] mixedNumbers =
      .done .null (mixedNumbers.setPayload ⟨3⟩ (.list items')) := by
  have hpayload : mixedNumbers.payload? ⟨3⟩ =
      some (.list [.object ⟨16⟩, .object ⟨17⟩, .object ⟨1⟩]) := rfl
  have hkeys : [Value.object ⟨16⟩, .object ⟨17⟩, .object ⟨1⟩].map mixedNumbers.unwrap =
      [.int 2, .float Binary64.nan, .bool true] := rfl
  have hsortable : Sortable [.int 2, .float Binary64.nan, .bool true] :=
    .inr (.inr (by simp [Value.IsRealNumber]))
  obtain ⟨hsorts, -⟩ := sort_correct hpayload
  rw [hkeys] at hsorts
  obtain ⟨order, items', hcovers, hstable, hinvoke, -⟩ := hsorts hsortable
  -- Of the orders only the one of floats covers a NaN beside an integer.
  have hreal : order = .real := by
    cases hcovers with
    | few h => exact absurd h (by decide)
    | text _ h => simp [isText_iff, Value.IsTextual] at h
    | integer _ h => simp [isInteger_iff] at h
    | real _ _ _ => rfl
  exact ⟨items', hreal ▸ hstable, hinvoke⟩

end ArrayMethod

end DynamicObjects
