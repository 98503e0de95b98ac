import DynamicObjects.Behaviour.Array
import Mathlib.Data.List.Basic

/-! # Sorting

    Payloads are sorted by one order that covers all of them, and equal ones keep
    their order.

    Main results:
    - `SortOrder.covering_eq_ok_iff`: which payloads can be sorted together, and by
      which order
    - `Behaviour.sorted_eq_ok_iff`: sorting is stable sorting by that order -/

namespace DynamicObjects

namespace SortOrder

/-! ## The order of a list of payloads -/

/-- A payload is sorted as an integer: it is one, or a truth value. -/
def IsInteger (v : Value) : Prop := of? v = some .integer

/-- A payload is a text. -/
def IsText (v : Value) : Prop := of? v = some .text

/-- A payload is a float. -/
def IsFloat (v : Value) : Prop := of? v = some .real

/-- An order **covers** payloads: fewer than two, or texts only, or integers
    only, or real numbers with a float among them. -/
inductive Covers : SortOrder → List Value → Prop where
  | few {keys : List Value} (h : keys.length < 2) : Covers .any keys
  | text {keys : List Value} (hlength : 2 ≤ keys.length) (h : ∀ v ∈ keys, IsText v) :
      Covers .text keys
  | integer {keys : List Value} (hlength : 2 ≤ keys.length) (h : ∀ v ∈ keys, IsInteger v) :
      Covers .integer keys
  | real {keys : List Value} (hlength : 2 ≤ keys.length)
      (h : ∀ v ∈ keys, IsInteger v ∨ IsFloat v) (hfloat : ∃ v ∈ keys, IsFloat v) :
      Covers .real keys

section extend
variable {order : SortOrder} {previous : Value} {keys : List Value}

/-- Texts can only be followed by texts. -/
theorem extend_text : extend .text previous keys = .ok order ↔
    order = .text ∧ ∀ v ∈ keys, IsText v := by
  induction keys generalizing previous with
  | nil => simp [extend, eq_comm]
  | cons key rest ih =>
    rw [extend, List.forall_mem_cons, IsText]
    cases of? key with
    | none => simp
    | some kind => cases kind <;> simp [join?, ih]

/-- Once there is a float, all numbers can follow. -/
theorem extend_real : extend .real previous keys = .ok order ↔
    order = .real ∧ ∀ v ∈ keys, IsInteger v ∨ IsFloat v := by
  induction keys generalizing previous with
  | nil => simp [extend, eq_comm]
  | cons key rest ih =>
    rw [extend, List.forall_mem_cons, IsInteger, IsFloat]
    cases of? key with
    | none => simp
    | some kind => cases kind <;> simp [join?, ih]

/-- Integers can be followed by integers, and by all numbers if there is a float
    among them. -/
theorem extend_integer : extend .integer previous keys = .ok order ↔
    order = .integer ∧ (∀ v ∈ keys, IsInteger v) ∨
      order = .real ∧ (∀ v ∈ keys, IsInteger v ∨ IsFloat v) ∧ ∃ v ∈ keys, IsFloat v := by
  induction keys generalizing previous with
  | nil => simp [extend, eq_comm]
  | cons key rest ih =>
    rw [extend, List.forall_mem_cons, List.forall_mem_cons, List.exists_mem_cons_iff]
    cases hkey : of? key with
    | none => simp [IsInteger, IsFloat, hkey]
    | some kind =>
      have hinteger : IsInteger key ↔ kind = .integer := by simp [IsInteger, hkey]
      have hfloat : IsFloat key ↔ kind = .real := by simp [IsFloat, hkey]
      rw [hinteger, hfloat]
      cases kind <;> simp [join?, ih, extend_real]

/-- Nothing is known before the first payload, which has to fit by itself. -/
theorem extend_any {key : Value} : extend .any previous (key :: keys) = .ok order ↔
    ∃ kind, of? key = some kind ∧ extend kind key keys = .ok order := by
  rw [extend]
  cases hkey : of? key with
  | none => simp
  | some kind => simp [join?]

end extend

/-- **Orders**: payloads can be sorted exactly if there is an order that covers
    them, and then by that one. -/
theorem covering_eq_ok_iff {keys : List Value} {order : SortOrder} :
    covering keys = .ok order ↔ Covers order keys := by
  match keys with
  | [] | [_] =>
    constructor
    · intro h
      obtain rfl := Except.ok.inj h
      exact .few (by simp)
    · intro h
      cases h <;> simp_all [covering]
  | first :: second :: rest =>
    rw [covering, extend_any]
    constructor
    · rintro ⟨kind, hkind, h⟩
      cases kind with
      | any => cases first <;> cases hkind
      | text =>
        obtain ⟨rfl, hrest⟩ := extend_text.mp h
        exact .text (by simp) (List.forall_mem_cons.mpr ⟨hkind, hrest⟩)
      | integer =>
        rcases extend_integer.mp h with ⟨rfl, hrest⟩ | ⟨rfl, hrest, v, hv, hfloat⟩
        · exact .integer (by simp) (List.forall_mem_cons.mpr ⟨hkind, hrest⟩)
        · exact .real (by simp) (List.forall_mem_cons.mpr ⟨.inl hkind, hrest⟩)
            ⟨v, List.mem_cons_of_mem _ hv, hfloat⟩
      | real =>
        obtain ⟨rfl, hrest⟩ := extend_real.mp h
        exact .real (by simp) (List.forall_mem_cons.mpr ⟨.inr hkind, hrest⟩)
          ⟨first, List.mem_cons_self, hkind⟩
    · intro h
      cases h with
      | few h => exact absurd h (by simp)
      | text _ h =>
        obtain ⟨hfirst, hrest⟩ := List.forall_mem_cons.mp h
        exact ⟨_, hfirst, extend_text.mpr ⟨rfl, hrest⟩⟩
      | integer _ h =>
        obtain ⟨hfirst, hrest⟩ := List.forall_mem_cons.mp h
        exact ⟨_, hfirst, extend_integer.mpr (.inl ⟨rfl, hrest⟩)⟩
      | real _ h hfloat =>
        obtain ⟨hfirst | hfirst, hrest⟩ := List.forall_mem_cons.mp h
        · -- The first one is an integer, so that the float comes later.
          obtain ⟨v, hv, hfloat⟩ := hfloat
          rcases List.mem_cons.mp hv with rfl | hv
          · rw [IsFloat, hfirst] at hfloat
            cases hfloat
          · exact ⟨_, hfirst, extend_integer.mpr (.inr ⟨rfl, hrest, v, hv, hfloat⟩)⟩
        · exact ⟨_, hfirst, extend_real.mpr ⟨rfl, hrest⟩⟩

/-! ## Preorder -/

theorem le_total (order : SortOrder) (a b : Value) : (order.le a b || order.le b a) = true := by
  cases order with
  | any => rfl
  | text =>
    cases a <;> cases b <;> simp [le]
    exact String.le_total _ _
  | integer =>
    simp only [le, Bool.or_eq_true, decide_eq_true_iff]
    omega
  | real =>
    simp only [le, Bool.or_eq_true, decide_eq_true_iff]
    omega

theorem le_trans (order : SortOrder) (a b c : Value) (hab : order.le a b = true)
    (hbc : order.le b c = true) : order.le a c = true := by
  cases order with
  | any => rfl
  | text =>
    cases a <;> cases b <;> cases c <;> simp_all [le]
    exact String.le_trans hab hbc
  | integer =>
    simp only [le, decide_eq_true_iff] at hab hbc ⊢
    omega
  | real =>
    simp only [le, decide_eq_true_iff] at hab hbc ⊢
    omega

end SortOrder

/-! ## Stable sorting -/

/-- Some list is another one **stably sorted** by a relation: it has the same
    elements, they ascend, and whatever is in order already keeps its order. -/
structure StablySorted {α : Type} (R : α → α → Prop) (xs ys : List α) : Prop where
  perm : ys.Perm xs
  ascending : ys.Pairwise R
  stable : ∀ {zs : List α}, zs.Sublist xs → zs.Pairwise R → zs.Sublist ys

/-- Merge sort by a total preorder is stable. -/
theorem stablySorted_mergeSort {α : Type} {le : α → α → Bool} {R : α → α → Prop} {xs : List α}
    (htrans : ∀ a b c, le a b = true → le b c = true → le a c = true)
    (htotal : ∀ a b, (le a b || le b a) = true)
    (hR : ∀ a ∈ xs, ∀ b ∈ xs, (le a b = true ↔ R a b)) : StablySorted R xs (xs.mergeSort le) where
  perm := List.mergeSort_perm xs le
  ascending := by
    have hsorted := List.pairwise_mergeSort htrans htotal xs
    refine hsorted.imp_of_mem fun ha hb h => ?_
    exact (hR _ (List.mem_mergeSort.mp ha) _ (List.mem_mergeSort.mp hb)).mp h
  stable := by
    intro zs hzs hpairwise
    refine List.sublist_mergeSort htrans htotal ?_ hzs
    exact hpairwise.imp_of_mem fun ha hb h => (hR _ (hzs.subset ha) _ (hzs.subset hb)).mpr h

namespace Behaviour

/-- The payload by which an object is sorted. -/
def sortKey (w : World) (o : ObjectId) : Value := w.unwrap (.object o)

/-- **Sorting** objects is sorting them stably by the order that covers their
    payloads. -/
theorem sorted_eq_ok_iff {w : World} {os : List ObjectId} {items : List Value} :
    sorted w (os.map .object) = .ok items ↔
      ∃ order : SortOrder, order.Covers (os.map (sortKey w)) ∧
        items = (os.mergeSort fun o p => order.le (sortKey w o) (sortKey w p)).map .object := by
  have hkeys : (os.map Value.object).map w.unwrap = os.map (sortKey w) := by
    rw [List.map_map]
    rfl
  rw [sorted, hkeys]
  cases hcovering : SortOrder.covering (os.map (sortKey w)) with
  | error pair =>
    simp only [reduceCtorEq, false_iff, not_exists, not_and]
    intro order hcovers
    rw [SortOrder.covering_eq_ok_iff.mpr hcovers] at hcovering
    cases hcovering
  | ok order =>
    -- The order looks at payloads only, so that it makes no difference when the objects are
    -- boxed.
    have hmap : (os.map Value.object).mergeSort
          (fun a b => order.le (w.unwrap a) (w.unwrap b)) =
        (os.mergeSort fun o p => order.le (sortKey w o) (sortKey w p)).map .object :=
      (List.map_mergeSort (f := Value.object) fun _ _ _ _ => rfl).symm
    simp only [Except.ok.injEq, hmap]
    constructor
    · rintro rfl
      exact ⟨order, SortOrder.covering_eq_ok_iff.mp hcovering, rfl⟩
    · rintro ⟨order', hcovers, rfl⟩
      rw [SortOrder.covering_eq_ok_iff.mpr hcovers] at hcovering
      obtain rfl := Except.ok.inj hcovering
      rfl

end Behaviour

end DynamicObjects
