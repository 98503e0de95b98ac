import DynamicObjects.Proofs.Array.Agreement
import DynamicObjects.Proofs.Conversion.Positions

/-! # What has just been stored

    Whether an object that has just been stored in an array is found there again.
    Searches compare the elements with the payload of the value that is searched
    for, and unwrap that payload once more.  So an object is not compared with
    itself, and some objects are different from their own payloads: those with a
    raw NaN in it, and those whose payload is an object with a payload of its own.

    Main results:
    - `World.structurallyEqual_own_payload`: which objects equal their payloads
    - `stored_is_found_iff`: when a stored object is found -/

namespace DynamicObjects

namespace World

/-! ## An object and its payload -/

/-- An object **matches itself** if there is no raw NaN in its payload, and if no
    other payload is behind an object that is its payload. -/
def MatchesItself (w : World) (x : ObjectId) : Prop :=
  match w.payload? x with
  | none => True
  | some (.object y) => w.unwrap (.object y) = .object y
  | some v => ∀ u ∈ v.nodes, u.isNaN = false

section self
variable {w : World} {x y : ObjectId} {v : Value}

open Comparison in
/-- Comparing an object with its raw payload is comparing this with itself. -/
theorem values_own_payload (hpayload : w.payload? x = some v) (hraw : ∀ y, v ≠ .object y)
    (depth : Nat) :
    values w (depth + 1) (.object x) v .empty = values w (depth + 1) v v .empty := by
  have hunwrap : w.unwrap (.object x) = v := by rw [unwrap, hpayload]; rfl
  have hself : w.unwrap v = v := by
    cases v with
    | object y => exact absurd rfl (hraw y)
    | _ => rfl
  have hmeet : ∀ u, meet? u v .empty = some .empty := by
    intro u
    cases v with
    | object y => exact absurd rfl (hraw y)
    | _ => cases u <;> rfl
  rw [values_succ, values_succ, hmeet, hmeet, hunwrap, hself]

/-- Only the object itself is equal to an object without a payload. -/
theorem verdict_object {u : Value} :
    Comparison.verdict (.object y) u = true ↔ u = .object y := by
  cases u with
  | object o =>
    show (decide (y = o)) = true ↔ _
    rw [decide_eq_true_iff, Value.object.injEq, eq_comm]
  | _ => exact iff_of_false Bool.false_ne_true nofun

open Comparison in
/-- Of an object and the one that is its payload, only the payload of the latter is
    left to look at. -/
theorem values_payload_object (hpayload : w.payload? x = some (.object y)) (hne : x ≠ y) :
    ∃ met, values w 1 (.object x) (.object y) .empty =
      some (verdict (.object y) (w.unwrap (.object y)), met) := by
  have hunwrap : w.unwrap (.object x) = .object y := by rw [unwrap, hpayload]; rfl
  have hmeet : meet? (.object x) (.object y) .empty = some (PairSet.empty.insert x y) := by
    rw [meet?, if_neg]
    simp [hne, PairSet.contains_empty]
  refine ⟨PairSet.empty.insert x y, ?_⟩
  rw [values_succ, hmeet, hunwrap]
  exact payloads_of_no_elements _ _ rfl

/-- An object is equal to itself whatever it holds. -/
theorem structurallyEqual_object (x : ObjectId) :
    w.structurallyEqual (.object x) (.object x) = some true :=
  structurallyEqual_of_values (Comparison.values_self (Value.distinctNames_object x)
    (Nat.le_refl _) .empty)

/-- A raw payload is compared with itself, and only a NaN differs from itself. -/
theorem structurallyEqual_raw_payload (hpayload : w.payload? x = some v)
    (hraw : ∀ y, v ≠ .object y) (hdistinct : v.DistinctNames) :
    ∃ answer, w.structurallyEqual (.object x) v = some answer ∧
      (answer = true ↔ ∀ u ∈ v.nodes, u.isNaN = false) := by
  obtain ⟨depth, hdepth⟩ := Nat.exists_eq_add_one.mpr v.size_pos
  have hvalues := Comparison.values_self (w := w) hdistinct (Nat.le_of_eq hdepth) .empty
  rw [← values_own_payload hpayload hraw depth] at hvalues
  refine ⟨_, structurallyEqual_of_values hvalues, ?_⟩
  simp

/-- A payload that is an object is unwrapped once more. -/
theorem structurallyEqual_object_payload (hpayload : w.payload? x = some (.object y)) :
    ∃ answer, w.structurallyEqual (.object x) (.object y) = some answer ∧
      (answer = true ↔ w.unwrap (.object y) = .object y) := by
  by_cases hxy : x = y
  · subst hxy
    have hunwrap : w.unwrap (.object x) = .object x := by rw [unwrap, hpayload]; rfl
    exact ⟨true, structurallyEqual_object x, iff_of_true rfl hunwrap⟩
  · obtain ⟨met, hvalues⟩ := values_payload_object hpayload hxy
    exact ⟨_, structurallyEqual_of_values hvalues, verdict_object⟩

/-- **An object equals its payload** exactly if it matches itself. -/
theorem structurallyEqual_own_payload (hdistinct : (w.unwrap (.object x)).DistinctNames) :
    ∃ answer, w.structurallyEqual (.object x) (w.unwrap (.object x)) = some answer ∧
      (answer = true ↔ w.MatchesItself x) := by
  unfold MatchesItself
  cases hpayload : w.payload? x with
  | none =>
    have hunwrap : w.unwrap (.object x) = .object x := by rw [unwrap, hpayload]; rfl
    rw [hunwrap]
    exact ⟨true, structurallyEqual_object x, iff_of_true rfl trivial⟩
  | some v =>
    have hunwrap : w.unwrap (.object x) = v := by rw [unwrap, hpayload]; rfl
    rw [hunwrap] at hdistinct ⊢
    cases v with
    | object y => exact structurallyEqual_object_payload hpayload
    | _ => exact structurallyEqual_raw_payload hpayload (by simp) hdistinct

end self

end World

/-! ## Storing an object -/

namespace ArrayOperation

/-- An operation **stores** an object at a place of a sequence: behind its end, in
    front of an index, in place of an element, or with the others of a list. -/
inductive Stores (w : World) (os : List ObjectId) (x : ObjectId) : ArrayOperation → Nat → Prop where
  | append : Stores w os x (.method .append [.object x]) os.length
  | insert {key : Value} {i : Int64} (hkey : w.unwrap key = .int i) :
      Stores w os x (.method .insert [key, .object x]) (clampedPosition os.length i.toInt)
  | setItem {key : Value} {i : Int64} (hkey : w.subscript "array" key = .ok i)
      (hi : 0 ≤ i.toInt ∧ i.toInt < os.length) :
      Stores w os x (.setItem [key, .object x]) i.toInt.toNat
  | extend {v : Value} {items : List Value} {k : Nat} (hitems : w.unwrap v = .list items)
      (hk : items[k]? = some (.object x)) :
      Stores w os x (.method .extend [v]) (os.length + k)

section stores
variable {w w' : World} {a x : ObjectId} {os os' : List ObjectId} {op : ArrayOperation} {p : Nat}
  {answer : Value}

/-- What stores an object makes sense on any sequence. -/
theorem Stores.defined (h : w.IsArray a os) (hstores : op.Stores w os x p) : op.Defined w os := by
  have hobject := isConversion_store h (.object x) .null
  cases hstores with
  | append => exact ⟨_, _, _, .append hobject⟩
  | insert hkey => exact ⟨_, _, _, .insert hkey hobject⟩
  | setItem hkey hi => exact ⟨_, _, _, .setItem hkey hi hobject⟩
  | @extend v items k hitems hk =>
    obtain ⟨more, -, hmore⟩ := areConversions_store h items
    exact ⟨_, _, _, .extend hitems (hmore .null)⟩

/-- What it yields has the object at the place. -/
theorem Stores.getElem?_yields (hstores : op.Stores w os x p)
    (hyields : op.Yields w os w' answer os') : answer = .null ∧ os'[p]? = some x := by
  cases hstores with
  | append =>
    cases hyields with
    | append ho =>
      obtain rfl : _ = x := ho
      exact ⟨rfl, List.getElem?_concat_length⟩
  | insert hkey =>
    cases hyields with
    | insert hkey' ho =>
      obtain rfl : _ = x := ho
      obtain rfl := Value.int.inj (hkey.symm.trans hkey')
      refine ⟨rfl, ?_⟩
      -- A position is clamped to the sequence, within which the insertion is.
      rw [List.getElem?_insertIdx_self, if_pos]
      unfold clampedPosition
      split <;> omega
  | setItem hkey hi =>
    cases hyields with
    | setItem hkey' hi' ho =>
      obtain rfl : _ = x := ho
      obtain rfl := Except.ok.inj (hkey.symm.trans hkey')
      refine ⟨rfl, ?_⟩
      rw [List.getElem?_set_self (by omega)]
  | extend hitems hk =>
    cases hyields with
    | extend hitems' hmore =>
      obtain rfl := Value.list.inj (hitems.symm.trans hitems')
      -- The new elements stand behind the old ones, in the order of what has been given.
      obtain ⟨o, ho, hconversion⟩ := hmore.getElem? hk
      obtain rfl : o = x := hconversion
      refine ⟨rfl, ?_⟩
      rw [List.getElem?_append_right (Nat.le_add_right _ _), Nat.add_sub_cancel_left]
      exact ho

/-- **Storing an object** succeeds, and it stands at its place afterwards. -/
theorem Stores.run (host : Host) (h : w.IsArray a os) (hstores : op.Stores w os x p) :
    ∃ w' os', op.run host a w = .done .null w' ∧ w'.IsArray a os' ∧ os'[p]? = some x ∧
      World.TouchesOnly a w w' := by
  have hrefines := run_refines host h op
  cases houtcome : op.run host a w with
  | done answer w' =>
    rw [houtcome] at hrefines
    obtain ⟨os', hyields, harray, htouches⟩ := hrefines
    obtain ⟨rfl, hget⟩ := hstores.getElem?_yields hyields
    exact ⟨w', os', rfl, harray, hget, htouches⟩
  | raised f w' =>
    rw [houtcome] at hrefines
    exact absurd (hstores.defined h) hrefines.1
  | diverged =>
    rw [houtcome] at hrefines
    cases hstores <;> exact hrefines.elim

end stores

end ArrayOperation

/-! ## Finding it -/

section found
variable {w : World} {a x : ObjectId} {os : List ObjectId} {p : Nat}
open ArrayOperation

/-- An object of an array is **found** by a place: it is contained, its index is
    not behind the place, it is counted, and it can be removed. -/
def FoundBy (host : Host) (w : World) (a x : ObjectId) (p : Nat) : Prop :=
  (method .contains [.object x]).run host a w = .done (.bool true) w ∧
    (∃ i : Int64, (method .index [.object x]).run host a w = .done (.int i) w ∧
      i ≠ -1 ∧ i.toInt ≤ p) ∧
    (∃ n : Int64, (method .count [.object x]).run host a w = .done (.int n) w ∧ 1 ≤ n.toInt) ∧
    ∃ w', (method .remove [.object x]).run host a w = .done .null w'

/-- Some object in front of a place is equal to the payload of the one there. -/
def EqualBefore (w : World) (os : List ObjectId) (x : ObjectId) (p : Nat) : Prop :=
  ∃ q o, q < p ∧ os[q]? = some o ∧
    w.structurallyEqual (.object o) (w.unwrap (.object x)) = some true

/-- **An element is found** by its place exactly if it matches itself or another
    one in front of it is equal to its payload. -/
theorem World.IsArray.foundBy_iff (host : Host) (h : w.IsArray a os) (hx : os[p]? = some x)
    (hlength : os.length < Nat.pow 2 63) (hdistinct : (w.unwrap (.object x)).DistinctNames)
    (hends : ∀ o ∈ os, w.structurallyEqual (.object o) (w.unwrap (.object x)) ≠ none) :
    FoundBy host w a x p ↔ w.MatchesItself x ∨ EqualBefore w os x p := by
  obtain ⟨answer, hanswer, hmatches⟩ := World.structurallyEqual_own_payload hdistinct
  rw [← hmatches]
  rcases h.search_cases (v := .object x) host hlength hends with
    ⟨hdifferent, hcontains, -⟩ | ⟨front, rest, o, i, n, hfirst, hcontains, hindex, hi, hcount, hn,
      hremove⟩
  · -- All elements are different, those in front as well as the object itself.
    refine iff_of_false ?_ ?_
    · rintro ⟨htrue, -⟩
      rw [hcontains] at htrue
      cases htrue
    · rintro (rfl | ⟨q, o, -, hq, hequal⟩)
      · rw [hdifferent x (List.mem_of_getElem? hx)] at hanswer
        cases hanswer
      · rw [hdifferent o (List.mem_of_getElem? hq)] at hequal
        cases hequal
  · have hfound : FoundBy host w a x p ↔ front.length ≤ p := by
      constructor
      · rintro ⟨-, ⟨j, hj, -, hle⟩, -⟩
        rw [hindex] at hj
        obtain ⟨hij, -⟩ := Outcome.done.inj hj
        obtain rfl := Value.int.inj hij
        omega
      · intro hle
        exact ⟨hcontains, ⟨i, hindex, ne_neg_one_of_toInt_eq hi, by omega⟩, ⟨n, hcount, by omega⟩,
          _, hremove⟩
    rw [hfound]
    constructor
    · intro hle
      by_cases heq : front.length = p
      · -- The first equal element is the object itself.
        obtain rfl : o = x := Option.some.inj (hfirst.getElem?_length.symm.trans (heq ▸ hx))
        exact .inl (Option.some.inj (hanswer.symm.trans hfirst.equal))
      · exact .inr ⟨front.length, o, by omega, hfirst.getElem?_length, hfirst.equal⟩
    · rintro (rfl | ⟨q, r, hlt, hr, hequal⟩)
      · exact hfirst.length_le hx hanswer
      · exact Nat.le_of_lt (Nat.lt_of_le_of_lt (hfirst.length_le hr hequal) hlt)

/-- **A stored object is found** by its place, as soon as the comparisons of its
    payload with the elements have answers, exactly if it matches itself or if an
    element in front of it is equal to its payload.  So it is always found if it
    has no payload, or a raw one without a NaN in it. -/
theorem stored_is_found_iff (host : Host) {op : ArrayOperation} (h : w.IsArray a os)
    (hstores : op.Stores w os x p) :
    ∃ w' os', op.run host a w = .done .null w' ∧ w'.IsArray a os' ∧ os'[p]? = some x ∧
      World.TouchesOnly a w w' ∧
      (os'.length < Nat.pow 2 63 → (w'.unwrap (.object x)).DistinctNames →
        (∀ o ∈ os', w'.structurallyEqual (.object o) (w'.unwrap (.object x)) ≠ none) →
          (FoundBy host w' a x p ↔ w'.MatchesItself x ∨ EqualBefore w' os' x p)) := by
  obtain ⟨w', os', hrun, harray, hget, htouches⟩ := hstores.run host h
  exact ⟨w', os', hrun, harray, hget, htouches,
    fun hlength hdistinct hends => harray.foundBy_iff host hget hlength hdistinct hends⟩

/-- The only element of an array is not found if it does not match itself. -/
theorem World.IsArray.search_unlike (host : Host) (h : w.IsArray a [x])
    (hdistinct : (w.unwrap (.object x)).DistinctNames) (hunlike : ¬ w.MatchesItself x) :
    (method .contains [.object x]).run host a w = .done (.bool false) w ∧
      (method .index [.object x]).run host a w = .done (.int (-1)) w ∧
      (method .count [.object x]).run host a w = .done (.int 0) w ∧
      (method .remove [.object x]).run host a w = .raised .elementNotFound w := by
  obtain ⟨answer, hanswer, hmatches⟩ := World.structurallyEqual_own_payload hdistinct
  have hends : ∀ o ∈ [x], w.structurallyEqual (.object o) (w.unwrap (.object x)) ≠ none := by
    rw [List.forall_mem_singleton, hanswer]
    exact nofun
  have hlength : [x].length < Nat.pow 2 63 := by
    rw [List.length_singleton]
    decide
  rcases h.search_cases host hlength hends with
    ⟨-, hsearches⟩ | ⟨front, rest, o, -, -, hfirst, -⟩
  · exact hsearches
  · -- Something is found, which can only be the one element.
    have ho : o ∈ [x] := by
      rw [hfirst.split]
      exact List.mem_append_right _ List.mem_cons_self
    have hequal := hfirst.equal
    rw [List.mem_singleton.mp ho, hanswer] at hequal
    exact absurd (hmatches.mp (Option.some.inj hequal)) hunlike

end found

/-- The integer of a single element is stored once more, and found. -/
theorem stored_is_found_iff_twice : ∃ w',
    (ArrayOperation.method .append [.object ⟨16⟩]).run Stock.host ⟨3⟩ singleElement =
      .done .null w' ∧ FoundBy Stock.host w' ⟨3⟩ ⟨16⟩ 1 := by
  obtain ⟨os, hos⟩ := World.isArray_toObject World.initial [.int 1]
  have hsingle : os = [⟨16⟩] := hos.sequence_eq rfl
  obtain ⟨w', os', hrun, harray, hget, -, hfound⟩ :=
    stored_is_found_iff Stock.host (hsingle ▸ hos) (.append (x := ⟨16⟩))
  have hresult : (ArrayOperation.method .append [.object ⟨16⟩]).run Stock.host ⟨3⟩ singleElement =
      .done .null doubledElement := rfl
  -- What the operation leads to is known, so that the claim can be read off this world.
  obtain ⟨-, rfl⟩ := Outcome.done.inj (hresult.symm.trans hrun)
  obtain rfl : os' = [⟨16⟩, ⟨16⟩] := harray.sequence_eq rfl
  have hpayload : doubledElement.payload? ⟨16⟩ = some (.int 1) := rfl
  have hunwrap : doubledElement.unwrap (.object ⟨16⟩) = .int 1 := rfl
  have hdistinct : (Value.int 1).DistinctNames := by
    intro entries h
    simp [Value.nodes] at h
  have hequal : doubledElement.structurallyEqual (.object ⟨16⟩) (.int 1) =
      some (decide (RoundedAlike 1 1)) := World.structurallyEqual_integers rfl rfl
  rw [hunwrap] at hfound
  have hiff := hfound (by decide) hdistinct (by simp [hequal])
  have hmatches : doubledElement.MatchesItself ⟨16⟩ := by
    rw [World.MatchesItself, hpayload]
    simp [Value.nodes, Value.isNaN]
  exact ⟨doubledElement, hrun, hiff.mpr (.inl hmatches)⟩

/-- A NaN, an integer and a wrapper of its object. -/
def wrappedInteger : World :=
  ((((World.initial.toObject (.float .nan)).2.toObject (.int 1)).2).allocate .wrapper).2.setPayload
    ⟨5⟩ (.object ⟨4⟩)

/-- An empty array next to them. -/
def unlikeThemselves : World := (wrappedInteger.toObject (.list [])).2

theorem reachable_unlikeThemselves : unlikeThemselves.Reachable Stock.host := by
  have hinitial : World.initial.Reachable Stock.host := .initial
  have hnan := hinitial.step (.convert (.float .nan)) (by simp [Operation.values]) (.inl rfl)
  have hinteger := hnan.step (.convert (.int 1)) (by simp [Operation.values]) (.inl rfl)
  have hwrapper : wrappedInteger.Reachable Stock.host :=
    hinteger.step (.construct .wrapper [.object ⟨4⟩]) (by simp [Operation.values]) (.inl rfl)
  exact hwrapper.step (.convert (.list [])) (by simp [Operation.values, World.supports_list])
    (.inl rfl)

/-- Neither the NaN nor the wrapper is found right after it has been stored, though
    each of them is equal to itself. -/
theorem stored_not_found : unlikeThemselves.Reachable Stock.host ∧
    unlikeThemselves.IsArray ⟨6⟩ [] ∧
    ∀ x ∈ [(⟨3⟩ : ObjectId), ⟨5⟩], ∃ w',
      (ArrayOperation.method .append [.object x]).run Stock.host ⟨6⟩ unlikeThemselves =
        .done .null w' ∧
      w'.IsArray ⟨6⟩ [x] ∧ w'.structurallyEqual (.object x) (.object x) = some true ∧
      (ArrayOperation.method .contains [.object x]).run Stock.host ⟨6⟩ w' =
        .done (.bool false) w' ∧
      (ArrayOperation.method .index [.object x]).run Stock.host ⟨6⟩ w' = .done (.int (-1)) w' ∧
      (ArrayOperation.method .count [.object x]).run Stock.host ⟨6⟩ w' = .done (.int 0) w' ∧
      (ArrayOperation.method .remove [.object x]).run Stock.host ⟨6⟩ w' =
        .raised .elementNotFound w' := by
  obtain ⟨os, hos⟩ := World.isArray_toObject wrappedInteger []
  have hempty : os = [] := hos.sequence_eq rfl
  have harray : unlikeThemselves.IsArray ⟨6⟩ [] := hempty ▸ hos
  refine ⟨reachable_unlikeThemselves, harray, ?_⟩
  rw [List.forall_mem_cons, List.forall_mem_singleton]
  constructor
  · -- A NaN equals no payload, its own included.
    have hpayload : (unlikeThemselves.setPayload ⟨6⟩ (.list [.object ⟨3⟩])).payload? ⟨3⟩ =
        some (.float .nan) := rfl
    have hdistinct : (Value.float .nan).DistinctNames := by
      intro entries h
      simp [Value.nodes] at h
    have hunlike : ¬ (unlikeThemselves.setPayload ⟨6⟩ (.list [.object ⟨3⟩])).MatchesItself ⟨3⟩ := by
      rw [World.MatchesItself, hpayload]
      simp only [Value.nodes, List.forall_mem_singleton]
      decide
    exact ⟨_, rfl, harray.stored [⟨3⟩], World.structurallyEqual_object _,
      (harray.stored [⟨3⟩]).search_unlike Stock.host hdistinct hunlike⟩
  · -- Behind the wrapper is an object, behind which the search looks once more.
    have hpayload : (unlikeThemselves.setPayload ⟨6⟩ (.list [.object ⟨5⟩])).payload? ⟨5⟩ =
        some (.object ⟨4⟩) := rfl
    have hbehind : (unlikeThemselves.setPayload ⟨6⟩ (.list [.object ⟨5⟩])).unwrap (.object ⟨4⟩) =
        .int 1 := rfl
    have hunlike : ¬ (unlikeThemselves.setPayload ⟨6⟩ (.list [.object ⟨5⟩])).MatchesItself ⟨5⟩ := by
      rw [World.MatchesItself, hpayload]
      simp only [hbehind]
      exact nofun
    exact ⟨_, rfl, harray.stored [⟨5⟩], World.structurallyEqual_object _,
      (harray.stored [⟨5⟩]).search_unlike Stock.host (Value.distinctNames_object _) hunlike⟩

end DynamicObjects
