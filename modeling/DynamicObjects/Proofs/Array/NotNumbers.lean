import DynamicObjects.Proofs.Array.Numeric
import DynamicObjects.Proofs.Comparison.Equivalence

/-! # Where sorting puts NaNs

    The total order of floats puts NaNs on both sides of the numbers: in front of
    all of them if the sign bit is set, and behind them otherwise.  What is sorted
    has three ranks therefore, and integers and truth values, which become finite
    floats, are of the middle one.

    The argument:
    1. Whatever precedes a payload is not of a greater rank.
    2. Ranks that ascend leave all NaNs at the end unless there are one of the first
       rank and one of the middle rank, which are the wrong way round then.

    Main results:
    - `Value.rank_le_of_precedes`: sorting lets the ranks ascend
    - `nans_last_iff`: when the NaNs of a sorted array are at its end -/

namespace DynamicObjects

/-! ## Ranks -/

namespace Value

/-- NaNs with their sign bit set are in front, the other ones at the end, and between
    them is whatever is no NaN. -/
def rank : Value → Nat
  | .float x => if x.isNaN then (if x.isNegative then 0 else 2) else 1
  | _ => 1

/-- A NaN with its sign bit set. -/
def IsNegativeNaN (v : Value) : Prop :=
  ∃ x, v = .float x ∧ x.isNaN = true ∧ x.isNegative = true

section rank
variable {a b v : Value} {x y : Binary64} {order : SortOrder}

theorem rank_of_not_nan (h : x.isNaN = false) : (Value.float x).rank = 1 := by
  rw [rank, h, if_neg Bool.false_ne_true]

theorem isNaN_eq_false_iff_rank (h : v.IsRealNumber) : v.isNaN = false ↔ v.rank = 1 := by
  rcases h with ⟨n, rfl⟩ | ⟨b, rfl⟩ | ⟨x, rfl⟩
  · exact iff_of_true rfl rfl
  · exact iff_of_true rfl rfl
  · rw [isNaN, rank]
    cases x.isNaN <;> cases x.isNegative <;> decide

theorem isNegativeNaN_iff_rank : v.IsNegativeNaN ↔ v.rank = 0 := by
  cases v with
  | float x =>
    simp only [IsNegativeNaN, float.injEq, exists_eq_left', rank]
    cases x.isNaN <;> cases x.isNegative <;> decide
  | _ => simp [IsNegativeNaN, rank]

/-- Integers and truth values become finite floats, so that a payload is of the rank
    of the float that it is sorted as. -/
theorem rank_of_asReal? (h : v.asReal? = some x) : v.rank = (Value.float x).rank := by
  cases v with
  | float y =>
    obtain rfl := Option.some.inj h
    rfl
  | int n =>
    obtain rfl := Option.some.inj h
    have hfinite := (Binary64.ofInt_isNearest (natAbs_toInt_le n)).finite
    exact (rank_of_not_nan (Binary64.isNaN_of_isFinite hfinite)).symm
  | bool b =>
    obtain rfl := Option.some.inj h
    cases b <;> rfl
  | _ => cases h

theorem rank_of_exactInteger? {n : Int} (h : v.exactInteger? = some n) : v.rank = 1 := by
  cases v with
  | int | bool => rfl
  | _ => cases h

theorem rank_le_of_totalLe (h : x.TotalLe y) : (Value.float x).rank ≤ (Value.float y).rank := by
  cases h with
  | number h | equal h =>
    obtain ⟨hx, hy, -⟩ := Binary64.compare?_eq_some_iff.mp h
    rw [rank_of_not_nan hx, rank_of_not_nan hy]
  | below hx hsign hy => simp [rank, hx, hsign, hy]
  | above hx hy hsign => simp [rank, hx, hy, hsign]
  | around hx hxsign hy hysign => simp [rank, hx, hxsign, hy, hysign]
  | bothBelow hx hxsign hy hysign => simp [rank, hx, hxsign, hy, hysign]
  | bothAbove hx hxsign hy hysign => simp [rank, hx, hxsign, hy, hysign]

/-- **Ranks ascend** by each order that covers more than one payload. -/
theorem rank_le_of_precedes (h : order.Precedes a b) (hany : order ≠ .any) :
    a.rank ≤ b.rank := by
  cases h with
  | any => exact absurd rfl hany
  | text => exact le_refl _
  | integer ha hb => rw [rank_of_exactInteger? ha, rank_of_exactInteger? hb]
  | real ha hb h =>
    rw [rank_of_asReal? ha, rank_of_asReal? hb]
    exact rank_le_of_totalLe h

end rank

end Value

/-! ## Sorted arrays -/

namespace World

/-- The ranks of the payloads **ascend**. -/
def RanksAscend (w : World) (os : List ObjectId) : Prop :=
  os.Pairwise fun o p => (w.unwrap (.object o)).rank ≤ (w.unwrap (.object p)).rank

/-- Behind a NaN there are nothing but NaNs. -/
def NaNsLast (w : World) (os : List ObjectId) : Prop :=
  os.Pairwise fun o p =>
    (w.unwrap (.object o)).isNaN = true → (w.unwrap (.object p)).isNaN = true

section ranks
variable {w w' : World} {os os' : List ObjectId} {order : SortOrder}

theorem ranksAscend_of_sorted (hcovers : order.Covers (os.map (Behaviour.sortKey w)))
    (hstable : StablySorted
      (fun o p => order.Precedes (Behaviour.sortKey w o) (Behaviour.sortKey w p)) os os') :
    w.RanksAscend os' := by
  by_cases hany : order = .any
  · -- Then there is at most one element.
    subst hany
    cases hcovers with
    | few hfew =>
      rw [List.length_map, ← hstable.perm.length_eq] at hfew
      match os', hfew with
      | [], _ => exact .nil
      | [_], _ => exact List.pairwise_singleton _ _
  · exact hstable.ascending.imp fun h => Value.rank_le_of_precedes h hany

/-- Of ranks that ascend, only a NaN of the first one and what is no NaN are the
    wrong way round. -/
theorem RanksAscend.nansLast_iff (h : w.RanksAscend os) (hreals : w.HoldsReals os) :
    w.NaNsLast os ↔ (∀ o ∈ os, ¬ (w.unwrap (.object o)).IsNegativeNaN) ∨
      ∀ o ∈ os, (w.unwrap (.object o)).isNaN = true := by
  have hnan : ∀ o ∈ os,
      ((w.unwrap (.object o)).isNaN = true ↔ (w.unwrap (.object o)).rank ≠ 1) := by
    intro o ho
    rw [Ne, ← Value.isNaN_eq_false_iff_rank (hreals o ho), Bool.not_eq_false]
  simp only [Value.isNegativeNaN_iff_rank]
  constructor
  · intro hlast
    -- No two elements are one of the first rank and one of the middle rank.
    have hapart : os.Pairwise fun o p =>
        ¬ ((w.unwrap (.object o)).rank = 0 ∧ (w.unwrap (.object p)).rank = 1) ∧
        ¬ ((w.unwrap (.object p)).rank = 0 ∧ (w.unwrap (.object o)).rank = 1) := by
      refine (h.and hlast).imp_of_mem fun {o p} ho hp ⟨hle, hlast⟩ => ?_
      rw [hnan o ho, hnan p hp] at hlast
      omega
    by_contra hnot
    push Not at hnot
    obtain ⟨⟨o, ho, hfirst⟩, p, hp, hmiddle⟩ := hnot
    rw [Ne, hnan p hp, not_not] at hmiddle
    have hne : o ≠ p := by
      rintro rfl
      omega
    have hsymm : Std.Symm fun o p =>
        ¬ ((w.unwrap (.object o)).rank = 0 ∧ (w.unwrap (.object p)).rank = 1) ∧
        ¬ ((w.unwrap (.object p)).rank = 0 ∧ (w.unwrap (.object o)).rank = 1) :=
      ⟨fun _ _ h => h.symm⟩
    exact (hapart.forall ho hp hne).1 ⟨hfirst, hmiddle⟩
  · rintro (hnone | hall)
    · refine h.imp_of_mem fun {o p} ho hp hle => ?_
      have hpositive := hnone o ho
      rw [hnan o ho, hnan p hp]
      omega
    · exact List.pairwise_of_forall_mem_list fun o _ p hp _ => hall p hp

/-- Ranks and NaNs are matters of the payloads alone. -/
theorem ranksAscend_congr (h : ∀ o ∈ os, w'.unwrap (.object o) = w.unwrap (.object o)) :
    w'.RanksAscend os ↔ w.RanksAscend os := by
  refine List.Pairwise.iff_of_mem fun {o p} ho hp => ?_
  rw [h o ho, h p hp]

theorem nansLast_congr (h : ∀ o ∈ os, w'.unwrap (.object o) = w.unwrap (.object o)) :
    w'.NaNsLast os ↔ w.NaNsLast os := by
  refine List.Pairwise.iff_of_mem fun {o p} ho hp => ?_
  rw [h o ho, h p hp]

/-- **Sorted payloads**: their ranks ascend, which decides whether NaNs are at the end. -/
theorem nansLast_iff_of_sorted (hreals : w.HoldsReals os)
    (hcovers : order.Covers (os.map (Behaviour.sortKey w)))
    (hstable : StablySorted
      (fun o p => order.Precedes (Behaviour.sortKey w o) (Behaviour.sortKey w p)) os os')
    (hpayloads : ∀ o ∈ os, w'.payload? o = w.payload? o) :
    w'.RanksAscend os' ∧
      (w'.NaNsLast os' ↔ (∀ o ∈ os, ¬ (w.unwrap (.object o)).IsNegativeNaN) ∨
        ∀ o ∈ os, (w.unwrap (.object o)).isNaN = true) := by
  have hmem : ∀ {o : ObjectId}, o ∈ os' ↔ o ∈ os := hstable.perm.mem_iff
  have hsame : ∀ o ∈ os', w'.unwrap (.object o) = w.unwrap (.object o) :=
    fun o ho => unwrap_of_payload? (hpayloads o (hmem.mp ho))
  have hranks : w.RanksAscend os' := ranksAscend_of_sorted hcovers hstable
  refine ⟨(ranksAscend_congr hsame).mpr hranks, ?_⟩
  rw [nansLast_congr hsame, hranks.nansLast_iff fun o ho => hreals o (hmem.mp ho)]
  simp only [hmem]

end ranks

end World

/-- **The place of NaNs in a sorted array**: an array of integers, truth values and
    floats of all kinds can be sorted.  Afterwards it has the same elements with the
    same payloads: in front the NaNs with their sign bit set, then what is no NaN,
    then the other NaNs.  So all NaNs are at the end exactly if there is none with its
    sign bit set, or nothing but NaNs. -/
theorem nans_last_iff (host : Host) {w : World} {a : ObjectId} {os : List ObjectId}
    (h : w.IsArray a os) (hreals : w.HoldsReals os) :
    ∃ os' w', host.callMethod a ArrayMethod.sort.name [] w = .done .null w' ∧ w'.IsArray a os' ∧
      os'.Perm os ∧ (∀ o ∈ os, w'.payload? o = w.payload? o) ∧ w'.RanksAscend os' ∧
      (w'.NaNsLast os' ↔ (∀ o ∈ os, ¬ (w.unwrap (.object o)).IsNegativeNaN) ∨
        ∀ o ∈ os, (w.unwrap (.object o)).isNaN = true) := by
  obtain ⟨order, os', w', hcall, harray, hcovers, hstable, hpayloads⟩ := h.sort_reals host hreals
  exact ⟨os', w', hcall, harray, hstable.perm, hpayloads,
    World.nansLast_iff_of_sorted hreals hcovers hstable hpayloads⟩

/-! ## Two NaNs around a one -/

/-- An array of two floats with the integer one between them. -/
def aroundOne (x y : Binary64) : World :=
  (World.initial.toObject (.list [.float x, .int 1, .float y])).2

section aroundOne
variable {x y : Binary64}

theorem reachable_aroundOne (x y : Binary64) : (aroundOne x y).Reachable Stock.host := by
  have hinitial : World.initial.Reachable Stock.host := .initial
  exact hinitial.step (.convert (.list [.float x, .int 1, .float y]))
    (by simp [Operation.values, World.supports_list]) (.inl rfl)

theorem isArray_aroundOne
    (h : (aroundOne x y).payload? ⟨3⟩ = some (.list [.object ⟨16⟩, .object ⟨17⟩, .object ⟨18⟩])) :
    (aroundOne x y).IsArray ⟨3⟩ [⟨16⟩, ⟨17⟩, ⟨18⟩] := by
  obtain ⟨os, hos⟩ := World.isArray_toObject World.initial [.float x, .int 1, .float y]
  have heq : os = [⟨16⟩, ⟨17⟩, ⟨18⟩] := hos.sequence_eq h
  exact heq ▸ hos

theorem holdsReals_aroundOne (hx : (aroundOne x y).unwrap (.object ⟨16⟩) = .float x)
    (hone : (aroundOne x y).unwrap (.object ⟨17⟩) = .int 1)
    (hy : (aroundOne x y).unwrap (.object ⟨18⟩) = .float y) :
    (aroundOne x y).HoldsReals [⟨16⟩, ⟨17⟩, ⟨18⟩] := by
  simp only [World.HoldsReals, List.forall_mem_cons, hx, hone, hy]
  exact ⟨.inr (.inr ⟨_, rfl⟩), .inl ⟨_, rfl⟩, .inr (.inr ⟨_, rfl⟩), nofun⟩

end aroundOne

/-- The first of all NaNs without a sign bit. -/
def leastNaN : Binary64 := .ofMagnitude false (Binary64.infiniteMagnitude + 1)

/-- Two NaNs without a sign bit are sorted behind the one. -/
theorem nans_last_iff_positive : ∃ os' w',
    Stock.host.callMethod ⟨3⟩ ArrayMethod.sort.name [] (aroundOne .nan leastNaN) =
        .done .null w' ∧
      w'.IsArray ⟨3⟩ os' ∧ os'.Perm [⟨16⟩, ⟨17⟩, ⟨18⟩] ∧ w'.NaNsLast os' := by
  have hx : (aroundOne .nan leastNaN).unwrap (.object ⟨16⟩) = .float .nan := rfl
  have hone : (aroundOne .nan leastNaN).unwrap (.object ⟨17⟩) = .int 1 := rfl
  have hy : (aroundOne .nan leastNaN).unwrap (.object ⟨18⟩) = .float leastNaN := rfl
  obtain ⟨os', w', hcall, harray, hperm, -, -, hlast⟩ :=
    nans_last_iff Stock.host (isArray_aroundOne (x := .nan) (y := leastNaN) rfl)
      (holdsReals_aroundOne hx hone hy)
  refine ⟨os', w', hcall, harray, hperm, hlast.mpr (.inl ?_)⟩
  simp only [List.forall_mem_cons, hx, hone, hy, Value.isNegativeNaN_iff_rank]
  exact ⟨by decide, by decide, by decide, nofun⟩

/-- The NaN that only differs from the usual one by its sign bit. -/
def negativeNaN : Binary64 := Binary64.nan.negate

/-- With its sign bit set, a NaN stays in front of the one. -/
theorem negative_nan_in_front :
    (aroundOne negativeNaN .nan).Reachable Stock.host ∧
      (aroundOne negativeNaN .nan).IsArray ⟨3⟩ [⟨16⟩, ⟨17⟩, ⟨18⟩] ∧
      (aroundOne negativeNaN .nan).HoldsReals [⟨16⟩, ⟨17⟩, ⟨18⟩] ∧
      ∃ os' w', Stock.host.callMethod ⟨3⟩ ArrayMethod.sort.name [] (aroundOne negativeNaN .nan) =
          .done .null w' ∧
        w'.IsArray ⟨3⟩ os' ∧ ¬ w'.NaNsLast os' := by
  have hx : (aroundOne negativeNaN .nan).unwrap (.object ⟨16⟩) = .float negativeNaN := rfl
  have hone : (aroundOne negativeNaN .nan).unwrap (.object ⟨17⟩) = .int 1 := rfl
  have hy : (aroundOne negativeNaN .nan).unwrap (.object ⟨18⟩) = .float .nan := rfl
  have harray : (aroundOne negativeNaN .nan).IsArray ⟨3⟩ [⟨16⟩, ⟨17⟩, ⟨18⟩] :=
    isArray_aroundOne rfl
  have hreals := holdsReals_aroundOne hx hone hy
  obtain ⟨order, os', w', hcall, harray', hcovers, hstable, hpayloads⟩ :=
    harray.sort_reals Stock.host hreals
  refine ⟨reachable_aroundOne _ _, harray, hreals, os', w', hcall, harray', fun hlast => ?_⟩
  -- NaNs are last only if none has its sign bit set, or if there is nothing else.
  rcases (World.nansLast_iff_of_sorted hreals hcovers hstable hpayloads).2.mp hlast with
    hnone | hall
  · refine hnone ⟨16⟩ (by decide) ?_
    rw [hx]
    exact Value.isNegativeNaN_iff_rank.mpr (by decide)
  · have hnumber := hall ⟨17⟩ (by decide)
    rw [hone] at hnumber
    cases hnumber

end DynamicObjects
