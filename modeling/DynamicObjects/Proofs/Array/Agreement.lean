import DynamicObjects.Proofs.Array.Refinement
import DynamicObjects.Proofs.Comparison.Frame
import DynamicObjects.Proofs.Comparison.Integers

/-! # Searches agree

    An array is asked in four ways for a value: whether it is contained, where
    it is first, how often it occurs, and to remove it.  All of them compare the
    elements with the payload of the value, so that their answers agree; and what
    is removed is what was found, after which the value occurs once less, unless
    the array itself takes part in the comparisons.

    Main results:
    - `World.IsArray.contains_eq` and the like: what the methods of an array answer
    - `searches_agree`: how these answers belong together -/

namespace DynamicObjects

/-! ## Numbers of elements

As many elements as a vector of the host can have are counted by its integers. -/

theorem toInt_ofNat_of_length {k n : Nat} (hk : k ≤ n) (hn : n < Nat.pow 2 63) :
    (Int64.ofNat k).toInt = k :=
  Int64.toInt_ofNat_of_lt (Nat.lt_of_le_of_lt hk hn)

theorem ne_neg_one_of_toInt_eq {i : Int64} {k : Nat} (h : i.toInt = k) : i ≠ -1 := by
  rintro rfl
  have hneg : (-1 : Int64).toInt = -1 := by decide
  omega

namespace World

/-! ## The first equal element -/

/-- The **first** of some objects that is equal to a payload, between those in
    front of it, which are different, and the rest. -/
structure FirstEqual (w : World) (target : Value) (os front : List ObjectId) (o : ObjectId)
    (rest : List ObjectId) : Prop where
  split : os = front ++ o :: rest
  different : ∀ p ∈ front, w.structurallyEqual (.object p) target = some false
  equal : w.structurallyEqual (.object o) target = some true

section first
variable {w : World} {target : Value} {os front rest : List ObjectId} {o : ObjectId}

theorem finds_some_iff {place : Nat} : w.Finds target (os.map .object) (some place) ↔
    ∃ front o rest, w.FirstEqual target os front o rest ∧ front.length = place := by
  constructor
  · rintro ⟨before, item, behind, hsplit, rfl, hdifferent, hequal⟩
    obtain ⟨front, tail, rfl, rfl, htail⟩ := List.map_eq_append_iff.mp hsplit
    obtain ⟨o, rest, rfl, rfl, rfl⟩ := List.map_eq_cons_iff.mp htail
    refine ⟨front, o, rest, ⟨rfl, fun p hp => ?_, hequal⟩, (List.length_map _).symm⟩
    exact hdifferent _ (List.mem_map_of_mem hp)
  · rintro ⟨front, o, rest, h, rfl⟩
    refine ⟨front.map .object, .object o, rest.map .object, ?_, List.length_map _, ?_, h.equal⟩
    · rw [h.split, List.map_append, List.map_cons]
    · intro item hitem
      obtain ⟨p, hp, rfl⟩ := List.mem_map.mp hitem
      exact h.different p hp

theorem finds_none_iff : w.Finds target (os.map .object) none ↔
    ∀ o ∈ os, w.structurallyEqual (.object o) target = some false := by
  simp only [Finds, List.forall_mem_map]

variable (h : w.FirstEqual target os front o rest)
include h

theorem FirstEqual.getElem?_length : os[front.length]? = some o := by
  rw [h.split, List.getElem?_append_right (Nat.le_refl _), Nat.sub_self]
  rfl

theorem FirstEqual.eraseIdx_eq : os.eraseIdx front.length = front ++ rest := by
  rw [h.split, List.eraseIdx_append_of_length_le (Nat.le_refl _), Nat.sub_self,
    List.eraseIdx_cons_zero]

theorem FirstEqual.sublist : (front ++ rest).Sublist os := by
  rw [h.split]
  exact (List.Sublist.refl front).append (List.sublist_cons_self o rest)

theorem FirstEqual.length_lt : front.length < os.length := by
  rw [h.split, List.length_append, List.length_cons]
  omega

/-- No equal object stands in front of the first one. -/
theorem FirstEqual.length_le {place : Nat} {p : ObjectId} (hp : os[place]? = some p)
    (hequal : w.structurallyEqual (.object p) target = some true) : front.length ≤ place := by
  by_contra hlt
  rw [h.split, List.getElem?_append_left (by omega)] at hp
  rw [h.different p (List.mem_of_getElem? hp)] at hequal
  cases hequal

end first

/-! ## Counting -/

/-- Whether an object is equal to a payload, if the comparison has an answer. -/
def isEqual (w : World) (target : Value) (o : ObjectId) : Bool :=
  (w.structurallyEqual (.object o) target).getD false

section count
variable {w : World} {target : Value} {os front rest : List ObjectId} {o : ObjectId}

theorem structurallyEqual_eq_isEqual (h : w.structurallyEqual (.object o) target ≠ none) :
    w.structurallyEqual (.object o) target = some (w.isEqual target o) := by
  obtain ⟨answer, hanswer⟩ := Option.ne_none_iff_exists'.mp h
  rw [isEqual, hanswer]
  rfl

/-- If every comparison has an answer, the equal objects are counted. -/
theorem counts_isEqual (h : ∀ o ∈ os, w.structurallyEqual (.object o) target ≠ none) :
    w.Counts target (os.map .object) (os.countP (w.isEqual target)) := by
  refine ⟨os.map (w.isEqual target), ?_, ?_⟩
  · rw [List.map_map, List.map_map]
    exact List.map_congr_left fun o ho => structurallyEqual_eq_isEqual (h o ho)
  · rw [List.count, List.countP_map]
    congr 1
    funext o
    simp

theorem countP_eq_zero_of_different
    (h : ∀ o ∈ os, w.structurallyEqual (.object o) target = some false) :
    os.countP (w.isEqual target) = 0 := by
  rw [List.countP_eq_zero]
  intro o ho
  rw [isEqual, h o ho]
  decide

/-- In front of the first equal object there is none to count. -/
theorem FirstEqual.countP_eq (h : w.FirstEqual target os front o rest) :
    os.countP (w.isEqual target) = (front ++ rest).countP (w.isEqual target) + 1 := by
  have hequal : w.isEqual target o = true := by rw [isEqual, h.equal]; rfl
  rw [h.split, List.countP_append, List.countP_append, List.countP_cons_of_pos hequal]
  omega

end count

/-! ## Answers of an array -/

namespace IsArray

section answers
variable {w : World} {a : ObjectId} {os : List ObjectId} {v : Value} (host : Host)
  (h : w.IsArray a os)
include h

theorem contains_eq {place : Option Nat} (hfinds : w.Finds (w.unwrap v) (os.map .object) place) :
    (ArrayOperation.method .contains [v]).run host a w = .done (.bool place.isSome) w :=
  (ArrayOperation.run_method h .contains [v]).trans (ArrayMethod.invoke_contains h.items hfinds)

theorem index_eq {place : Option Nat} (hfinds : w.Finds (w.unwrap v) (os.map .object) place) :
    (ArrayOperation.method .index [v]).run host a w =
      .done (place.elim (.int (-1)) Value.ofCount) w :=
  (ArrayOperation.run_method h .index [v]).trans (ArrayMethod.invoke_index h.items hfinds)

theorem count_eq
    (hends : ∀ o ∈ os, w.structurallyEqual (.object o) (w.unwrap v) ≠ none) :
    (ArrayOperation.method .count [v]).run host a w =
      .done (Value.ofCount (os.countP (w.isEqual (w.unwrap v)))) w :=
  (ArrayOperation.run_method h .count [v]).trans
    (ArrayMethod.invoke_count h.items (counts_isEqual hends))

theorem remove_eq {place : Option Nat} (hfinds : w.Finds (w.unwrap v) (os.map .object) place) :
    (ArrayOperation.method .remove [v]).run host a w =
      place.elim (.raised .elementNotFound w) fun i =>
        .done .null (w.setPayload a (.list ((os.eraseIdx i).map .object))) := by
  refine (ArrayOperation.run_method h .remove [v]).trans ?_
  rw [ArrayMethod.invoke_remove h.items hfinds]
  cases place with
  | none => rfl
  | some i => rw [Option.elim_some, List.eraseIdx_map, Option.elim_some]

/-- Once an element is removed, an array that does not take part in the comparisons
    is searched with the same answers as before. -/
theorem count_stored {os' : List ObjectId} (hsub : ∀ o ∈ os', o ∈ os)
    (hitems : ∀ o ∈ os, ¬ w.LeadsTo a (.object o)) (hv : ¬ w.LeadsTo a v)
    (hends : ∀ o ∈ os, w.structurallyEqual (.object o) (w.unwrap v) ≠ none) :
    (ArrayOperation.method .count [v]).run host a (w.setPayload a (.list (os'.map .object))) =
      .done (Value.ofCount (os'.countP (w.isEqual (w.unwrap v))))
        (w.setPayload a (.list (os'.map .object))) := by
  have hothers : ∀ o, o ≠ a → (w.setPayload a (.list (os'.map .object))).payload? o =
      w.payload? o :=
    fun o hne => property?_setProperty_other w hne payloadName payloadName _
  have hagree := agreesOn_not_leadsTo hothers
  have hsame : ∀ o ∈ os', (w.setPayload a (.list (os'.map .object))).structurallyEqual
      (.object o) (w.unwrap v) = w.structurallyEqual (.object o) (w.unwrap v) :=
    fun o ho => structurallyEqual_congr hagree (hitems o (hsub o ho)) (hagree.unwrap hv)
  rw [(h.stored os').count_eq host, hagree.unwrap_eq hv]
  · refine congrArg (fun n => Outcome.done (Value.ofCount n) _) (List.countP_congr fun o ho => ?_)
    rw [isEqual, isEqual, hsame o ho]
  · intro o ho
    rw [hagree.unwrap_eq hv, hsame o ho]
    exact hends o (hsub o ho)

end answers

end IsArray

end World

/-! ## Agreement -/

section agreement
variable {w : World} {a : ObjectId} {os : List ObjectId} {v : Value}
open ArrayOperation

/-- **One search decides** what the four methods answer: either all elements are
    different, or there is a first one that is equal. -/
theorem World.IsArray.search_cases (host : Host) (h : w.IsArray a os)
    (hlength : os.length < Nat.pow 2 63)
    (hends : ∀ o ∈ os, w.structurallyEqual (.object o) (w.unwrap v) ≠ none) :
    ((∀ o ∈ os, w.structurallyEqual (.object o) (w.unwrap v) = some false) ∧
      (method .contains [v]).run host a w = .done (.bool false) w ∧
      (method .index [v]).run host a w = .done (.int (-1)) w ∧
      (method .count [v]).run host a w = .done (.int 0) w ∧
      (method .remove [v]).run host a w = .raised .elementNotFound w) ∨
    ∃ (front rest : List ObjectId) (o : ObjectId) (i n : Int64),
      w.FirstEqual (w.unwrap v) os front o rest ∧
      (method .contains [v]).run host a w = .done (.bool true) w ∧
      (method .index [v]).run host a w = .done (.int i) w ∧ i.toInt = front.length ∧
      (method .count [v]).run host a w = .done (.int n) w ∧
      n.toInt = (front ++ rest).countP (w.isEqual (w.unwrap v)) + 1 ∧
      (method .remove [v]).run host a w =
        .done .null (w.setPayload a (.list ((front ++ rest).map .object))) := by
  have hcount := h.count_eq host hends
  cases hplace : w.positionOf (os.map .object) (w.unwrap v) with
  | none =>
    -- A search without an answer has come to a comparison without one.
    obtain ⟨front, item, rest, hsplit, -, hendless⟩ := World.positionOf_eq_none_iff.mp hplace
    have hitem : item ∈ os.map Value.object := by
      rw [hsplit]
      exact List.mem_append_right _ List.mem_cons_self
    obtain ⟨o, ho, rfl⟩ := List.mem_map.mp hitem
    exact absurd (World.structurallyEqual_eq_none_iff_endless.mpr hendless) (hends o ho)
  | some place =>
    have hfinds := World.positionOf_eq_some_iff.mp hplace
    have hcontains := h.contains_eq host hfinds
    have hindex := h.index_eq host hfinds
    have hremove := h.remove_eq host hfinds
    cases place with
    | none =>
      have hdifferent := World.finds_none_iff.mp hfinds
      rw [World.countP_eq_zero_of_different hdifferent] at hcount
      exact .inl ⟨hdifferent, hcontains, hindex, hcount, hremove⟩
    | some place =>
      obtain ⟨front, o, rest, hfirst, rfl⟩ := World.finds_some_iff.mp hfinds
      rw [Option.elim_some, hfirst.eraseIdx_eq] at hremove
      have hle := Nat.le_of_lt hfirst.length_lt
      have htotal := toInt_ofNat_of_length (List.countP_le_length (p := w.isEqual (w.unwrap v)))
        hlength
      rw [hfirst.countP_eq] at htotal hcount
      exact .inr ⟨front, rest, o, _, _, hfirst, hcontains, hindex,
        toInt_ofNat_of_length hle hlength, hcount, by exact_mod_cast htotal, hremove⟩

/-- **Searches agree**.  Where the comparisons with the payload of a value have
    answers, so have the four searches for it: the value is contained exactly if
    its index is not `-1`, if its count is not zero, and if it can be removed.

    Its index is the place of the first element that is equal to the payload.
    Removing it takes away this element and keeps the others in their order; and
    unless the elements or the value lead to the array itself, there is one less
    to count afterwards.  What cannot be removed is a value error that changes
    nothing.  The length of an array fits into an integer. -/
theorem searches_agree (host : Host) (h : w.IsArray a os) (hlength : os.length < Nat.pow 2 63)
    (hends : ∀ o ∈ os, w.structurallyEqual (.object o) (w.unwrap v) ≠ none) :
    ∃ (found : Bool) (i n : Int64),
      (method .contains [v]).run host a w = .done (.bool found) w ∧
      (method .index [v]).run host a w = .done (.int i) w ∧
      (method .count [v]).run host a w = .done (.int n) w ∧
      (found = true ↔ i ≠ -1) ∧ (i ≠ -1 ↔ 0 < n.toInt) ∧
      (0 < n.toInt ↔ ∃ answer w', (method .remove [v]).run host a w = .done answer w') ∧
      (i ≠ -1 → ∃ front o rest w', w.FirstEqual (w.unwrap v) os front o rest ∧
        i.toInt = front.length ∧ (method .remove [v]).run host a w = .done .null w' ∧
        w'.IsArray a (front ++ rest) ∧ World.TouchesOnly a w w' ∧
        ((∀ o ∈ os, ¬ w.LeadsTo a (.object o)) → ¬ w.LeadsTo a v →
          ∃ m : Int64, (method .count [v]).run host a w' = .done (.int m) w' ∧
            m.toInt = n.toInt - 1)) ∧
      (i = -1 → (∀ o ∈ os, w.structurallyEqual (.object o) (w.unwrap v) = some false) ∧
        ∃ f, f.kind = .valueError ∧ (method .remove [v]).run host a w = .raised f w) := by
  rcases h.search_cases host hlength hends with
    ⟨hdifferent, hcontains, hindex, hcount, hremove⟩ |
      ⟨front, rest, o, i, n, hfirst, hcontains, hindex, hi, hcount, hn, hremove⟩
  · refine ⟨false, -1, 0, hcontains, hindex, hcount, ?_, ?_, ?_, nofun, ?_⟩
    · simp
    · simp
    · rw [hremove]
      simp
    · exact fun _ => ⟨hdifferent, _, rfl, hremove⟩
  · have hne : i ≠ -1 := ne_neg_one_of_toInt_eq hi
    have hpos : 0 < n.toInt := by omega
    refine ⟨true, i, n, hcontains, hindex, hcount, ?_, ?_, ?_, fun _ => ?_, fun e => absurd e hne⟩
    · exact iff_of_true rfl hne
    · exact iff_of_true hne hpos
    · exact iff_of_true hpos ⟨_, _, hremove⟩
    · -- What is left is counted without the element that has been removed.
      have hremaining : (Int64.ofNat ((front ++ rest).countP (w.isEqual (w.unwrap v)))).toInt =
          (front ++ rest).countP (w.isEqual (w.unwrap v)) :=
        toInt_ofNat_of_length (Nat.le_trans List.countP_le_length hfirst.sublist.length_le) hlength
      refine ⟨front, o, rest, _, hfirst, hi, hremove, h.stored _,
        World.touchesOnly_setPayload w a _, fun hitems hv => ?_⟩
      exact ⟨_, h.count_stored host (fun _ hp => hfirst.sublist.subset hp) hitems hv hends,
        by rw [hremaining, hn]; omega⟩

end agreement

/-- An array of one and two. -/
def oneAndTwo : World := (World.initial.toObject (.list [.int 1, .int 2])).2

theorem isArray_oneAndTwo : oneAndTwo.IsArray ⟨3⟩ [⟨16⟩, ⟨17⟩] := by
  obtain ⟨os, hos⟩ := World.isArray_toObject World.initial [.int 1, .int 2]
  have heq : os = [⟨16⟩, ⟨17⟩] := hos.sequence_eq rfl
  exact heq ▸ hos

/-- Its two is found and can be removed. -/
theorem searches_agree_two :
    (ArrayOperation.method .contains [.int 2]).run Stock.host ⟨3⟩ oneAndTwo =
        .done (.bool true) oneAndTwo ∧
      ∃ w' os', (ArrayOperation.method .remove [.int 2]).run Stock.host ⟨3⟩ oneAndTwo =
          .done .null w' ∧ w'.IsArray ⟨3⟩ os' := by
  have hone : oneAndTwo.structurallyEqual (.object ⟨16⟩) (oneAndTwo.unwrap (.int 2)) =
      some (decide (RoundedAlike 1 2)) := World.structurallyEqual_integers rfl rfl
  have htwo : oneAndTwo.structurallyEqual (.object ⟨17⟩) (oneAndTwo.unwrap (.int 2)) =
      some (decide (RoundedAlike 2 2)) := World.structurallyEqual_integers rfl rfl
  have hends : ∀ o ∈ [(⟨16⟩ : ObjectId), ⟨17⟩],
      oneAndTwo.structurallyEqual (.object o) (oneAndTwo.unwrap (.int 2)) ≠ none := by
    rw [List.forall_mem_cons, List.forall_mem_singleton, hone, htwo]
    exact ⟨nofun, nofun⟩
  obtain ⟨found, i, n, hcontains, -, -, hfound, -, -, hremove, hdifferent⟩ :=
    searches_agree Stock.host isArray_oneAndTwo (by decide) hends
  -- `-1` would say that no element is like the two, but the second one is.
  have hne : i ≠ -1 := by
    intro hi
    have hfalse := (hdifferent hi).1 ⟨17⟩ (by decide)
    have hsame : RoundedAlike 2 2 := rfl
    rw [htwo, decide_eq_true hsame] at hfalse
    cases hfalse
  obtain ⟨front, o, rest, w', -, -, hcall, harray, -⟩ := hremove hne
  rw [hfound.mpr hne] at hcontains
  exact ⟨hcontains, w', _, hcall, harray⟩

end DynamicObjects
