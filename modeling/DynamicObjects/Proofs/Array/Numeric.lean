import DynamicObjects.Proofs.Array.Refinement
import DynamicObjects.Proofs.Array.Sorting
import DynamicObjects.Proofs.Comparison.Integers
import DynamicObjects.Proofs.Number.Exact

/-! # The numerical order of a sorted array

    Integers, truth values and finite floats denote rational numbers.  Integers
    alone are sorted by these numbers; next to a float they are sorted as the
    floats that they are rounded to, and integers that are rounded alike stay in
    the order in which they were.

    The argument:
    1. Rounding is monotone, so that floats in order belong to payloads that denote
       numbers in order, as long as the floats differ.
    2. A stable sort keeps the elements of one key as they were, so that its
       result ascends in a relation that the keys respect exactly if the elements
       of each key did.

    Main results:
    - `Value.exactLe_of_precedes_real`: the order of floats is the one of numbers
    - `StablySorted.pairwise_iff`: what becomes of ties
    - `numbers_ascend_iff`: when a sorted array ascends numerically -/

namespace DynamicObjects

/-! ## Exact values -/

namespace Value

/-- The rational number that a payload denotes: an integer itself, a truth value
    zero or one, a finite float its exact value. -/
def exactValue? : Value → Option ℚ
  | .int n => some n.toInt
  | .bool b => some (if b then 1 else 0)
  | .float x => if x.isFinite then some x.toRat else none
  | _ => none

/-- Both payloads denote numbers, and the first one is **not greater**. -/
def ExactLe (a b : Value) : Prop :=
  ∃ q r, a.exactValue? = some q ∧ b.exactValue? = some r ∧ q ≤ r

/-- Integers that floats distinguish. -/
def IsSmall (v : Value) : Prop := ∀ n, v = .int n → n.toInt.natAbs ≤ Nat.pow 2 53

section exact
variable {a b v : Value} {q : ℚ}

/-- **The key of a payload** is the float nearest to what it denotes. -/
theorem isNearest_of_exactValue? (h : v.exactValue? = some q) :
    ∃ (u : Int) (x : Binary64), q = u / Binary64.unitsPerOne ∧ v.asReal? = some x ∧
      Binary64.IsNearest q x := by
  cases v with
  | int n =>
    obtain rfl := Option.some.inj h
    exact ⟨_, _, Binary64.intCast_eq_units _, rfl, Binary64.ofInt_isNearest (natAbs_toInt_le n)⟩
  | bool b =>
    obtain rfl := Option.some.inj h
    -- A truth value is rounded like the integer that it counts as.
    have hnearest := Binary64.ofInt_isNearest (n := if b then 1 else 0) (by cases b <;> decide)
    have hfloat : Binary64.ofInt (if b then 1 else 0) = Binary64.ofBool b := by
      cases b <;> decide
    rw [hfloat] at hnearest
    have hvalue : (if b then 1 else 0 : ℚ) = ((if b then 1 else 0 : Int) : ℚ) := by
      cases b <;> simp
    rw [hvalue]
    exact ⟨_, _, Binary64.intCast_eq_units _, rfl, hnearest⟩
  | float x =>
    -- Only a finite float denotes a number.
    by_cases hfinite : x.isFinite = true
    · rw [exactValue?, if_pos hfinite] at h
      obtain rfl := Option.some.inj h
      exact ⟨_, x, rfl, rfl, Binary64.isNearest_self hfinite⟩
    · rw [exactValue?, if_neg hfinite] at h
      cases h
  | _ => cases h

/-- A small payload becomes the float of its value. -/
theorem toRat_of_isSmall (h : v.exactValue? = some q) (hsmall : v.IsSmall) :
    ∃ x, v.asReal? = some x ∧ q = x.toRat := by
  cases v with
  | int n =>
    obtain rfl := Option.some.inj h
    refine ⟨_, rfl, ?_⟩
    -- An integer that is small is not changed by rounding.
    rw [Binary64.toRat, Binary64.signedUnits_ofInt (hsmall n rfl)]
    exact Binary64.intCast_eq_units _
  | bool b =>
    obtain rfl := Option.some.inj h
    refine ⟨_, rfl, ?_⟩
    have hunits : (Binary64.ofBool b).signedUnits =
        (if b then 1 else 0) * Binary64.unitsPerOne := by
      cases b <;> decide +kernel
    rw [Binary64.toRat, hunits, ← Binary64.intCast_eq_units]
    cases b <;> simp
  | float x =>
    by_cases hfinite : x.isFinite = true
    · rw [exactValue?, if_pos hfinite] at h
      exact ⟨x, rfl, (Option.some.inj h).symm⟩
    · rw [exactValue?, if_neg hfinite] at h
      cases h
  | _ => cases h

theorem isRealNumber_of_exactValue? (h : v.exactValue? = some q) : v.IsRealNumber := by
  cases v with
  | int n => exact .inl ⟨n, rfl⟩
  | bool b => exact .inr (.inl ⟨b, rfl⟩)
  | float x => exact .inr (.inr ⟨x, rfl⟩)
  | _ => cases h

/-- The order of integers is the one of what they denote. -/
theorem exactLe_of_precedes_integer (h : SortOrder.Precedes .integer a b) : a.ExactLe b := by
  have hvalue : ∀ {v : Value} {n : Int},
      v.exactInteger? = some n → v.exactValue? = some (n : ℚ) := by
    intro v n hn
    cases v with
    | int m =>
      obtain rfl := Option.some.inj hn
      rfl
    | bool b =>
      obtain rfl := Option.some.inj hn
      cases b <;> simp [exactValue?]
    | _ => cases hn
  cases h with
  | integer ha hb hle => exact ⟨_, _, hvalue ha, hvalue hb, by exact_mod_cast hle⟩

/-- So is the order of floats, as long as they differ. -/
theorem exactLe_of_precedes_real (h : SortOrder.Precedes .real a b)
    (ha : ∃ q, a.exactValue? = some q) (hb : ∃ q, b.exactValue? = some q)
    (hne : a.asReal? ≠ b.asReal?) : a.ExactLe b := by
  obtain ⟨q, hq⟩ := ha
  obtain ⟨r, hr⟩ := hb
  obtain ⟨u, x, hu, hx, hux⟩ := isNearest_of_exactValue? hq
  obtain ⟨v, y, hv, hy, hvy⟩ := isNearest_of_exactValue? hr
  refine ⟨q, r, hq, hr, ?_⟩
  cases h with
  | real hx' hy' htotal =>
    obtain rfl := Option.some.inj (hx.symm.trans hx')
    obtain rfl := Option.some.inj (hy.symm.trans hy')
    rw [hu] at hux
    rw [hv] at hvy
    have hle : u ≤ v := hux.le_of_totalLe hvy htotal fun e => hne (by rw [hx, hy, e])
    rw [hu, hv]
    exact (div_le_div_iff_of_pos_right Binary64.unitsPerOne_pos).mpr (by exact_mod_cast hle)

end exact

end Value

/-! ## Ties -/

namespace StablySorted

section ties
variable {α β : Type} {R S : α → α → Prop} {xs ys : List α}

/-- **Elements of one rank** stay as they were. -/
theorem filter_eq (h : StablySorted R xs ys) (p : α → Bool)
    (hp : ∀ x ∈ xs, ∀ y ∈ xs, p x = true → p y = true → R x y) : ys.filter p = xs.filter p := by
  have hpairwise : (xs.filter p).Pairwise R := by
    refine List.pairwise_of_forall_mem_list fun x hx y hy => ?_
    obtain ⟨hx, hpx⟩ := List.mem_filter.mp hx
    obtain ⟨hy, hpy⟩ := List.mem_filter.mp hy
    exact hp x hx y hy hpx hpy
  have hsublist := (h.stable List.filter_sublist hpairwise).filter p
  simp only [List.filter_filter, Bool.and_self] at hsublist
  exact (hsublist.eq_of_length (h.perm.filter p).length_eq.symm).symm

/-- A sorted list ascends in a relation that different keys respect exactly if
    the elements of each key did before. -/
theorem pairwise_iff [DecidableEq β] (h : StablySorted R xs ys) (key : α → β)
    (htied : ∀ x ∈ xs, ∀ y ∈ xs, key x = key y → R x y)
    (hapart : ∀ x ∈ xs, ∀ y ∈ xs, R x y → key x ≠ key y → S x y) :
    ys.Pairwise S ↔ ∀ x y, [x, y].Sublist xs → key x = key y → S x y := by
  -- Both lists have the same pairs of one key.
  have hsame : ∀ {x y : α}, key x = key y → ([x, y].Sublist ys ↔ [x, y].Sublist xs) := by
    intro x y hkey
    have hfilter := h.filter_eq (fun z => decide (key z = key x)) fun z hz z' hz' hzx hzx' =>
      htied z hz z' hz' ((of_decide_eq_true hzx).trans (of_decide_eq_true hzx').symm)
    have hself : [x, y].filter (fun z => decide (key z = key x)) = [x, y] := by
      simp [hkey]
    constructor
    · intro hsub
      have hsub := hsub.filter fun z => decide (key z = key x)
      rw [hself, hfilter] at hsub
      exact hsub.trans List.filter_sublist
    · intro hsub
      have hsub := hsub.filter fun z => decide (key z = key x)
      rw [hself, ← hfilter] at hsub
      exact hsub.trans List.filter_sublist
  rw [List.pairwise_iff_forall_sublist]
  constructor
  · exact fun hS x y hsub hkey => hS ((hsame hkey).mpr hsub)
  · intro hS x y hsub
    by_cases hkey : key x = key y
    · exact hS x y ((hsame hkey).mp hsub) hkey
    · have hx : x ∈ xs := h.perm.mem_iff.mp (hsub.subset (by simp))
      have hy : y ∈ xs := h.perm.mem_iff.mp (hsub.subset (by simp))
      exact hapart x hx y hy (List.pairwise_iff_forall_sublist.mp h.ascending hsub) hkey

end ties

end StablySorted

/-! ## Arrays of numbers -/

namespace World

/-- The payloads of objects **ascend** by the numbers that they denote. -/
def Ascends (w : World) (os : List ObjectId) : Prop :=
  os.Pairwise fun o p => (w.unwrap (.object o)).ExactLe (w.unwrap (.object p))

/-- The payloads that become the same float ascend already. -/
def TiesAscend (w : World) (os : List ObjectId) : Prop :=
  ∀ o p, [o, p].Sublist os →
    (w.unwrap (.object o)).asReal? = (w.unwrap (.object p)).asReal? →
      (w.unwrap (.object o)).ExactLe (w.unwrap (.object p))

/-- There is a float among the payloads. -/
def HoldsFloat (w : World) (os : List ObjectId) : Prop :=
  ∃ o ∈ os, ∃ x, w.unwrap (.object o) = .float x

/-- All payloads are integers, truth values and floats, be they numbers or not. -/
def HoldsReals (w : World) (os : List ObjectId) : Prop :=
  ∀ o ∈ os, (w.unwrap (.object o)).IsRealNumber

/-- All payloads denote numbers. -/
def HoldsNumbers (w : World) (os : List ObjectId) : Prop :=
  ∀ o ∈ os, ∃ q, (w.unwrap (.object o)).exactValue? = some q

section numbers
variable {w w' : World} {a : ObjectId} {os os' : List ObjectId}

theorem unwrap_of_payload? {o : ObjectId} (h : w'.payload? o = w.payload? o) :
    w'.unwrap (.object o) = w.unwrap (.object o) := by
  rw [unwrap, unwrap, h]

/-- Small integers next to floats cannot be out of order. -/
theorem HoldsNumbers.tiesAscend (hnumbers : w.HoldsNumbers os)
    (hsmall : ∀ o ∈ os, (w.unwrap (.object o)).IsSmall) : w.TiesAscend os := by
  intro o p hsub heq
  have ho : o ∈ os := hsub.subset (by simp)
  have hp : p ∈ os := hsub.subset (by simp)
  obtain ⟨q, hq⟩ := hnumbers o ho
  obtain ⟨r, hr⟩ := hnumbers p hp
  obtain ⟨x, hx, hqx⟩ := Value.toRat_of_isSmall hq (hsmall o ho)
  obtain ⟨y, hy, hry⟩ := Value.toRat_of_isSmall hr (hsmall p hp)
  rw [hx, hy, Option.some.injEq] at heq
  exact ⟨q, r, hq, hr, by rw [hqx, hry, heq]⟩

/-- **Sorting numbers** leaves them ascending unless there is a float and the
    payloads that become one float did not ascend before. -/
theorem ascends_iff_of_sorted {order : SortOrder} (hlength : 2 ≤ os.length)
    (hnumbers : w.HoldsNumbers os) (hcovers : order.Covers (os.map (Behaviour.sortKey w)))
    (hstable : StablySorted
      (fun o p => order.Precedes (Behaviour.sortKey w o) (Behaviour.sortKey w p)) os os') :
    w.Ascends os' ↔ (w.HoldsFloat os → w.TiesAscend os) := by
  cases hcovers with
  | few hfew =>
    rw [List.length_map] at hfew
    omega
  | text _ htext =>
    -- A text denotes no number.
    obtain ⟨o, ho⟩ := List.exists_mem_of_length_pos (Nat.lt_of_lt_of_le Nat.zero_lt_two hlength)
    obtain ⟨q, hq⟩ := hnumbers o ho
    obtain ⟨s, hs⟩ := SortOrder.isText_iff.mp (htext _ (List.mem_map_of_mem ho))
    change w.unwrap (.object o) = .text s at hs
    rw [hs] at hq
    cases hq
  | integer _ hinteger =>
    have hnone : ¬ w.HoldsFloat os := by
      rintro ⟨o, ho, x, hx⟩
      have hkey := hinteger _ (List.mem_map_of_mem ho)
      change SortOrder.IsInteger (w.unwrap (.object o)) at hkey
      rw [hx] at hkey
      cases hkey
    exact iff_of_true (hstable.ascending.imp Value.exactLe_of_precedes_integer)
      fun hfloat => absurd hfloat hnone
  | real _ _ hfloat =>
    have hsome : w.HoldsFloat os := by
      obtain ⟨v, hv, hreal⟩ := hfloat
      obtain ⟨o, ho, rfl⟩ := List.mem_map.mp hv
      exact ⟨o, ho, SortOrder.isFloat_iff.mp hreal⟩
    rw [imp_iff_right hsome]
    refine hstable.pairwise_iff (fun o => (w.unwrap (.object o)).asReal?) ?_ ?_
    · intro o ho p _ hkey
      obtain ⟨q, hq⟩ := hnumbers o ho
      obtain ⟨u, x, -, hx, -⟩ := Value.isNearest_of_exactValue? hq
      exact .real hx (hkey.symm.trans hx) (Binary64.totalKey_le_iff.mp (le_refl _))
    · exact fun o ho p hp hle hkey =>
        Value.exactLe_of_precedes_real hle (hnumbers o ho) (hnumbers p hp) hkey

theorem HoldsNumbers.holdsReals (hnumbers : w.HoldsNumbers os) : w.HoldsReals os := by
  intro o ho
  obtain ⟨q, hq⟩ := hnumbers o ho
  exact Value.isRealNumber_of_exactValue? hq

/-- No element of an array of numbers is the array itself, so that sorting leaves
    their payloads alone. -/
theorem IsArray.payload?_reals (h : w.IsArray a os) (hreals : w.HoldsReals os) (v : Value) :
    ∀ o ∈ os, (w.setPayload a v).payload? o = w.payload? o := by
  intro o ho
  have hne : o ≠ a := by
    rintro rfl
    rcases hreals o ho with ⟨n, hn⟩ | ⟨b, hb⟩ | ⟨x, hx⟩
    · rw [unwrap, h.payload] at hn
      cases hn
    · rw [unwrap, h.payload] at hb
      cases hb
    · rw [unwrap, h.payload] at hx
      cases hx
  exact property?_setProperty_other w hne payloadName payloadName v

/-- The method of an array of numbers sorts it **stably** by the order that covers
    the payloads, all of which stay as they are. -/
theorem IsArray.sort_reals (host : Host) (h : w.IsArray a os) (hreals : w.HoldsReals os) :
    ∃ (order : SortOrder) (os' : List ObjectId) (w' : World),
      host.callMethod a ArrayMethod.sort.name [] w = .done .null w' ∧ w'.IsArray a os' ∧
      order.Covers (os.map (Behaviour.sortKey w)) ∧
      StablySorted (fun o p => order.Precedes (Behaviour.sortKey w o) (Behaviour.sortKey w p))
        os os' ∧
      ∀ o ∈ os, w'.payload? o = w.payload? o := by
  have hsortable : SortOrder.Sortable (os.map (Behaviour.sortKey w)) :=
    .inr (.inr (List.forall_mem_map.mpr hreals))
  obtain ⟨order, hcovers⟩ := SortOrder.exists_covers_iff.mpr hsortable
  have hstable : StablySorted
      (fun o p => order.Precedes (Behaviour.sortKey w o) (Behaviour.sortKey w p)) os
      (os.mergeSort fun o p => order.le (Behaviour.sortKey w o) (Behaviour.sortKey w p)) :=
    stablySorted_mergeSort (fun _ _ _ => order.le_trans _ _ _) (fun _ _ => order.le_total _ _)
      fun o ho p hp => hcovers.le_iff (List.mem_map_of_mem ho) (List.mem_map_of_mem hp)
  -- What follows is the method's own sort: the order that covers all payloads is the one it
  -- finds.
  have hinvoke : host.callMethod a ArrayMethod.sort.name [] w = ArrayMethod.sort.invoke a [] w :=
    ArrayOperation.run_method h .sort []
  refine ⟨order, _, _, ?_, h.stored _, hcovers, hstable, h.payload?_reals hreals _⟩
  rw [hinvoke, ArrayMethod.invoke_sort h.payload,
    Behaviour.sorted_eq_ok_iff.mpr ⟨order, hcovers, rfl⟩]

/-- Payloads that denote numbers ascend after that, or do not. -/
theorem IsArray.sort_numbers (host : Host) (h : w.IsArray a os) (hlength : 2 ≤ os.length)
    (hnumbers : w.HoldsNumbers os) :
    ∃ os' w', host.callMethod a ArrayMethod.sort.name [] w = .done .null w' ∧ w'.IsArray a os' ∧
      os'.Perm os ∧ (∀ o ∈ os, w'.payload? o = w.payload? o) ∧
      (w'.Ascends os' ↔ (w.HoldsFloat os → w.TiesAscend os)) := by
  obtain ⟨order, os', w', hcall, harray, hcovers, hstable, hpayloads⟩ :=
    h.sort_reals host hnumbers.holdsReals
  refine ⟨os', w', hcall, harray, hstable.perm, hpayloads,
    Iff.trans ?_ (ascends_iff_of_sorted hlength hnumbers hcovers hstable)⟩
  have hsame : ∀ o ∈ os', w'.unwrap (.object o) = w.unwrap (.object o) :=
    fun o ho => unwrap_of_payload? (hpayloads o (hstable.perm.mem_iff.mp ho))
  refine List.Pairwise.iff_of_mem fun {o p} ho hp => ?_
  rw [hsame o ho, hsame p hp]

end numbers

end World

/-- **The numerical order of a sorted array**: an array of integers, truth values and
    finite floats can be sorted.  Without a float the payloads ascend afterwards by
    the numbers that they denote.  With one they do so exactly if, before, those
    ascended that become the same float, to which integers are rounded: always if
    no integer is beyond `2 ^ 53`. -/
theorem numbers_ascend_iff (host : Host) {w : World} {a : ObjectId} {os : List ObjectId}
    (h : w.IsArray a os) (hlength : 2 ≤ os.length) (hnumbers : w.HoldsNumbers os) :
    (∀ n : Int64, Binary64.IsNearest n.toInt (Binary64.ofInt n.toInt)) ∧
    ∃ os' w', host.callMethod a ArrayMethod.sort.name [] w = .done .null w' ∧ w'.IsArray a os' ∧
      os'.Perm os ∧ (∀ o ∈ os, w'.payload? o = w.payload? o) ∧
      (w'.Ascends os' ↔ (w.HoldsFloat os → w.TiesAscend os)) ∧
      ((∀ o ∈ os, (w.unwrap (.object o)).IsSmall) → w'.Ascends os') := by
  obtain ⟨os', w', hcall, harray, hperm, hpayloads, hascends⟩ :=
    h.sort_numbers host hlength hnumbers
  refine ⟨fun n => Binary64.ofInt_isNearest (natAbs_toInt_le n), os', w', hcall, harray, hperm,
    hpayloads, hascends, fun hsmall => hascends.mpr fun _ => hnumbers.tiesAscend hsmall⟩

/-! ## Two integers next to a half -/

/-- The number one half. -/
def half : Binary64 := .ofMagnitude false (1022 * Nat.pow 2 52)

/-- An array of two integers and a half. -/
def besideHalf (m n : Int64) : World :=
  (World.initial.toObject (.list [.int m, .int n, .float half])).2

section besideHalf
variable {m n : Int64}

theorem reachable_besideHalf (m n : Int64) : (besideHalf m n).Reachable Stock.host := by
  have hinitial : World.initial.Reachable Stock.host := .initial
  exact hinitial.step (.convert (.list [.int m, .int n, .float half]))
    (by simp [Operation.values, World.supports_list]) (.inl rfl)

theorem isArray_besideHalf
    (h : (besideHalf m n).payload? ⟨3⟩ = some (.list [.object ⟨16⟩, .object ⟨17⟩, .object ⟨18⟩])) :
    (besideHalf m n).IsArray ⟨3⟩ [⟨16⟩, ⟨17⟩, ⟨18⟩] := by
  obtain ⟨os, hos⟩ := World.isArray_toObject World.initial [.int m, .int n, .float half]
  have heq : os = [⟨16⟩, ⟨17⟩, ⟨18⟩] := hos.sequence_eq h
  exact heq ▸ hos

theorem holdsNumbers_besideHalf (hm : (besideHalf m n).unwrap (.object ⟨16⟩) = .int m)
    (hn : (besideHalf m n).unwrap (.object ⟨17⟩) = .int n)
    (hhalf : (besideHalf m n).unwrap (.object ⟨18⟩) = .float half) :
    (besideHalf m n).HoldsNumbers [⟨16⟩, ⟨17⟩, ⟨18⟩] := by
  have hfinite : half.isFinite = true := by decide
  have hvalue : (Value.float half).exactValue? = some half.toRat := by
    rw [Value.exactValue?, if_pos hfinite]
  simp only [World.HoldsNumbers, List.forall_mem_cons, hm, hn, hhalf, hvalue]
  exact ⟨⟨_, rfl⟩, ⟨_, rfl⟩, ⟨_, rfl⟩, nofun⟩

end besideHalf

/-- Next to a half, two small integers are sorted by what they are. -/
theorem numbers_ascend_iff_small : ∃ os' w',
    Stock.host.callMethod ⟨3⟩ ArrayMethod.sort.name [] (besideHalf 2 1) = .done .null w' ∧
      w'.IsArray ⟨3⟩ os' ∧ os'.Perm [⟨16⟩, ⟨17⟩, ⟨18⟩] ∧ w'.Ascends os' := by
  have htwo : (besideHalf 2 1).unwrap (.object ⟨16⟩) = .int 2 := rfl
  have hone : (besideHalf 2 1).unwrap (.object ⟨17⟩) = .int 1 := rfl
  have hhalf : (besideHalf 2 1).unwrap (.object ⟨18⟩) = .float half := rfl
  obtain ⟨-, os', w', hcall, harray, hperm, -, -, hascends⟩ :=
    numbers_ascend_iff Stock.host (isArray_besideHalf (m := 2) (n := 1) rfl) (by decide)
      (holdsNumbers_besideHalf htwo hone hhalf)
  refine ⟨os', w', hcall, harray, hperm, hascends ?_⟩
  simp only [List.forall_mem_cons, htwo, hone, hhalf, Value.IsSmall, Value.int.injEq]
  exact ⟨fun n hn => hn ▸ by decide, fun n hn => hn ▸ by decide, nofun, nofun⟩

/-- An array of the integer behind `2 ^ 53`, that power and a half. -/
def largeBesideHalf : World := besideHalf 9007199254740993 9007199254740992

/-- The integer behind `2 ^ 53` stays in front of that power, although it is the
    greater one: because of the half, both are sorted as the same float. -/
theorem large_integers_out_of_order :
    largeBesideHalf.Reachable Stock.host ∧ largeBesideHalf.IsArray ⟨3⟩ [⟨16⟩, ⟨17⟩, ⟨18⟩] ∧
      largeBesideHalf.HoldsNumbers [⟨16⟩, ⟨17⟩, ⟨18⟩] ∧
      ∃ os' w', Stock.host.callMethod ⟨3⟩ ArrayMethod.sort.name [] largeBesideHalf =
          .done .null w' ∧
        w'.IsArray ⟨3⟩ os' ∧ ¬ w'.Ascends os' := by
  have hlarger : largeBesideHalf.unwrap (.object ⟨16⟩) = .int 9007199254740993 := rfl
  have hsmaller : largeBesideHalf.unwrap (.object ⟨17⟩) = .int 9007199254740992 := rfl
  have hhalf : largeBesideHalf.unwrap (.object ⟨18⟩) = .float half := rfl
  have harray : largeBesideHalf.IsArray ⟨3⟩ [⟨16⟩, ⟨17⟩, ⟨18⟩] := isArray_besideHalf rfl
  have hnumbers : largeBesideHalf.HoldsNumbers [⟨16⟩, ⟨17⟩, ⟨18⟩] :=
    holdsNumbers_besideHalf hlarger hsmaller hhalf
  obtain ⟨os', w', hcall, harray', -, -, hascends⟩ :=
    harray.sort_numbers Stock.host (by decide) hnumbers
  refine ⟨reachable_besideHalf _ _, harray, hnumbers, os', w', hcall, harray', fun h => ?_⟩
  -- Next to the half both integers count as one float, and the greater one stays in front.
  have hrounded : RoundedAlike 9007199254740993 9007199254740992 := by decide +kernel
  have hties := hascends.mp h ⟨⟨18⟩, by decide, half, hhalf⟩ ⟨16⟩ ⟨17⟩ (by decide)
  rw [hlarger, hsmaller] at hties
  obtain ⟨q, r, hq, hr, hle⟩ := hties (congrArg some hrounded)
  obtain rfl := Option.some.inj hq
  obtain rfl := Option.some.inj hr
  have hgt : ¬ (9007199254740993 : Int64).toInt ≤ (9007199254740992 : Int64).toInt := by decide
  exact hgt (by exact_mod_cast hle)

end DynamicObjects
