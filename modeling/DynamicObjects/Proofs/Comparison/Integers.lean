import DynamicObjects.Proofs.Array.Search
import DynamicObjects.Proofs.Number.Exact
import DynamicObjects.Proofs.Safety.Singletons

/-! # Equality of integers

    Integers are compared as the floats that they become, wherever they are
    compared: raw, as the payloads of objects, or as elements of an array.  Two
    of them are equal exactly if they are rounded to the same float, and beyond
    `2 ^ 53` that happens to different ones.

    Main results:
    - `World.structurallyEqual_integers`: when two integers are equal
    - `integers_equal_iff_rounded_alike`: what that means for every comparison
      and search -/

namespace DynamicObjects

/-! ## Integers that become the same float -/

/-- Two integers are **rounded alike**: they become the same float. -/
def RoundedAlike (m n : Int64) : Prop := Binary64.ofInt m.toInt = Binary64.ofInt n.toInt

instance (m n : Int64) : Decidable (RoundedAlike m n) :=
  inferInstanceAs (Decidable (Binary64.ofInt m.toInt = Binary64.ofInt n.toInt))

/-- Integers of at most 53 bits, and the next one, are told apart. -/
theorem roundedAlike_iff_eq {m n : Int64} (hm : m.toInt.natAbs ≤ Nat.pow 2 53)
    (hn : n.toInt.natAbs ≤ Nat.pow 2 53) : RoundedAlike m n ↔ m = n := by
  constructor
  · intro h
    have hunits := congrArg Binary64.signedUnits h
    rw [Binary64.signedUnits_ofInt hm, Binary64.signedUnits_ofInt hn] at hunits
    have hpos : (Binary64.unitsPerOne : Int) ≠ 0 := by
      rw [Binary64.unitsPerOne_eq]
      exact Int.natCast_ne_zero.mpr (Nat.ne_of_gt (Binary64.two_pow_pos _))
    exact Int64.toInt_inj.mp (mul_right_cancel₀ hpos hunits)
  · rintro rfl
    rfl

/-! ## Comparisons -/

namespace World

/-- **Integers** are equal exactly if they are rounded alike, raw or boxed. -/
theorem structurallyEqual_integers {w : World} {x y : Value} {m n : Int64}
    (hx : w.unwrap x = .int m) (hy : w.unwrap y = .int n) :
    w.structurallyEqual x y = some (decide (RoundedAlike m n)) := by
  have hnumbers : ∀ (compare : Value → Value → PairSet → Comparison) (met : PairSet),
      Comparison.payloads compare (.int m) (.int n) met =
        some (decide (RoundedAlike m n), met) := by
    intro compare met
    have hequals := Binary64.equals_ofInt (natAbs_toInt_le m) (natAbs_toInt_le n)
    show some ((Binary64.ofInt m.toInt).equals (Binary64.ofInt n.toInt) &&
      (Binary64.zero false).equals (.zero false), met) = _
    rw [hequals]
    have hzero : (Binary64.zero false).equals (.zero false) = true := by decide
    rw [hzero, Bool.and_true]
    rfl
  -- One level is enough, and the usual depth has more than that.
  have hvalues : ∀ depth, ∃ met,
      Comparison.values w (depth + 1) x y .empty = some (decide (RoundedAlike m n), met) := by
    intro depth
    rw [Comparison.values, hx, hy]
    cases hmeet : Comparison.meet? x y .empty with
    | some met => exact ⟨met, hnumbers _ met⟩
    | none =>
      obtain ⟨o, p, rfl, rfl, rfl | hmet⟩ := Comparison.meet?_eq_none_iff.mp hmeet
      · obtain rfl := Value.int.inj (hx.symm.trans hy)
        exact ⟨.empty, by simp [RoundedAlike]⟩
      · rw [PairSet.contains_empty] at hmet
        cases hmet
  obtain ⟨met, hmet⟩ := hvalues (Nat.pow 2 16 - 1)
  have husual : Comparison.values w Run.usualDepth x y .empty =
      some (decide (RoundedAlike m n), met) := hmet
  simp only [structurallyEqual, husual]
  rfl

/-- An element is found when an integer is searched for. -/
def isRoundedLike (w : World) (n : Int64) (item : Value) : Bool :=
  match w.unwrap item with
  | .int m => decide (RoundedAlike m n)
  | _ => false

/-- Among integers every comparison has an answer. -/
theorem structurallyEqual_isRoundedLike {w : World} {items : List Value} {v : Value} {n : Int64}
    (hitems : ∀ item ∈ items, ∃ m, w.unwrap item = .int m) (hv : w.unwrap v = .int n) :
    ∀ item ∈ items, w.structurallyEqual item (w.unwrap v) = some (w.isRoundedLike n item) := by
  intro item hitem
  obtain ⟨m, hm⟩ := hitems item hitem
  have htarget : w.unwrap (w.unwrap v) = .int n := by rw [hv]; rfl
  rw [structurallyEqual_integers hm htarget, isRoundedLike, hm]

end World

/-- The protocol asks the type of the left side, which compares structurally; the
    answer counts as what it says while the singletons are intact. -/
theorem Host.equals_integers (host : Host) {w : World} (hintact : w.SingletonsIntact)
    {o : ObjectId} {y : Value} {m n : Int64} (htype : w.typeOf o = .integer)
    (ho : w.unwrap (.object o) = .int m) (hy : w.unwrap y = .int n) :
    host.equals (.object o) y w = .done (decide (RoundedAlike m n)) w := by
  have hslot : (w.typeOf o).slots .eq = some (.eq .structural) := by rw [htype]; rfl
  have hanswer : host.invoke (.eq .structural : Handler .eq) o [y] w =
      .done (World.boolValue (decide (RoundedAlike m n))) w := by
    simp only [Host.invoke, EqualityRule.decideEqual, Arguments.one, Run.bind_apply, Run.lift_ok,
      Run.read_apply, id_eq, World.structurallyEqual_integers ho hy, Run.ofTerminating_some,
      Run.pure_apply]
  unfold Host.equals
  simp only [Run.bind_apply, Run.read_apply, id_eq]
  rw [hslot]
  simp only [Run.bind_apply, Run.attempt, hanswer, Run.read_apply, id_eq,
    hintact.truth_boolValue, Run.ofTerminating_some]

/-! ## Every comparison and search -/

/-- **Equality of integers** is up to rounding, on every path.

    An integer becomes the nearest float, of two that are as near the one with
    an even significand.  Two integers are equal if they become the same one:
    raw, by the rule of their type, and for the searches of an array of integer
    objects, which find the elements that are rounded like the one searched for.
    So different integers are told apart up to `2 ^ 53`. -/
theorem integers_equal_iff_rounded_alike (host : Host) (w : World) :
    (∀ n : Int64, Binary64.IsNearest n.toInt (Binary64.ofInt n.toInt)) ∧
    (∀ m n : Int64, w.structurallyEqual (.int m) (.int n) = some (decide (RoundedAlike m n))) ∧
    (w.SingletonsIntact → ∀ (o p : ObjectId) (m n : Int64), w.typeOf o = .integer →
      w.payload? o = some (.int m) → w.payload? p = some (.int n) →
        host.equals (.object o) (.object p) w = .done (decide (RoundedAlike m n)) w) ∧
    (∀ (a : ObjectId) (os : List ObjectId) (v : Value) (n : Int64),
      w.payload? a = some (.list (os.map .object)) →
      (∀ o ∈ os, ∃ m, w.payload? o = some (.int m)) → w.unwrap v = .int n →
        let items := os.map Value.object
        let place := items.findIdx? (w.isRoundedLike n)
        ArrayMethod.contains.invoke a [v] w = .done (.bool place.isSome) w ∧
        ArrayMethod.index.invoke a [v] w = .done (place.elim (.int (-1)) Value.ofCount) w ∧
        ArrayMethod.count.invoke a [v] w =
          .done (Value.ofCount (items.countP (w.isRoundedLike n))) w ∧
        ArrayMethod.remove.invoke a [v] w =
          place.elim (.raised .elementNotFound w) fun i =>
            .done .null (w.setPayload a (.list (items.eraseIdx i)))) ∧
    (∀ m n : Int64, m.toInt.natAbs ≤ Nat.pow 2 53 → n.toInt.natAbs ≤ Nat.pow 2 53 →
      (RoundedAlike m n ↔ m = n)) := by
  have hunwrap : ∀ {o : ObjectId} {m : Int64}, w.payload? o = some (.int m) →
      w.unwrap (.object o) = .int m := by
    intro o m ho
    rw [World.unwrap, ho]
    rfl
  refine ⟨?_, ?_, ?_, ?_, fun m n => roundedAlike_iff_eq⟩
  · exact fun n => Binary64.ofInt_isNearest (natAbs_toInt_le n)
  · exact fun m n => World.structurallyEqual_integers rfl rfl
  · intro hintact o p m n htype ho hp
    exact host.equals_integers hintact htype (hunwrap ho) (hunwrap hp)
  · intro a os v n ha hos hv items place
    have hitems : w.items a = .ok items := by rw [World.items, ha]
    have hintegers : ∀ item ∈ items, ∃ m, w.unwrap item = .int m := by
      intro item hitem
      obtain ⟨o, ho, rfl⟩ := List.mem_map.mp hitem
      obtain ⟨m, hm⟩ := hos o ho
      exact ⟨m, hunwrap hm⟩
    -- Every comparison with an element has an answer, so that the searches are those of the
    -- list.
    have hanswers := World.structurallyEqual_isRoundedLike hintegers hv
    have hfinds := World.finds_findIdx? hanswers
    exact ⟨ArrayMethod.invoke_contains hitems hfinds, ArrayMethod.invoke_index hitems hfinds,
      ArrayMethod.invoke_count hitems (World.counts_countP hanswers),
      ArrayMethod.invoke_remove hitems hfinds⟩

/-! ## The first integers that are not told apart -/

/-- An array whose only element is the integer behind `2 ^ 53`, and that power. -/
def largeIntegers : World :=
  ((World.initial.toObject (.list [.int 9007199254740993])).2.toObject
    (.int 9007199254740992)).2

theorem reachable_largeIntegers : largeIntegers.Reachable Stock.host := by
  have hinitial : World.initial.Reachable Stock.host := .initial
  have harray := hinitial.step (.convert (.list [.int 9007199254740993]))
    (by simp [Operation.values, World.supports_list]) (.inl rfl)
  exact harray.step (.convert (.int 9007199254740992))
    (by simp [Operation.values]) (.inl rfl)

/-- The two objects are equal for the protocol, and the array answers with its
    element when the power is searched for. -/
theorem large_integers_equal :
    RoundedAlike 9007199254740993 9007199254740992 ∧
      Stock.host.equals (.object ⟨16⟩) (.object ⟨17⟩) largeIntegers =
        .done true largeIntegers ∧
      ArrayMethod.index.invoke ⟨3⟩ [.object ⟨17⟩] largeIntegers =
        .done (.int 0) largeIntegers := by
  have halike : RoundedAlike 9007199254740993 9007199254740992 := by decide +kernel
  have hintact : largeIntegers.SingletonsIntact := by
    intro s hs
    simp only [World.singletons, List.mem_cons, List.not_mem_nil, or_false] at hs
    rcases hs with rfl | rfl | rfl <;> rfl
  have hmembers : ∀ o ∈ [(⟨16⟩ : ObjectId)], ∃ m, largeIntegers.payload? o = some (.int m) :=
    List.forall_mem_singleton.mpr ⟨9007199254740993, rfl⟩
  obtain ⟨-, -, hequals, hsearches, -⟩ :=
    integers_equal_iff_rounded_alike Stock.host largeIntegers
  have hanswer := hequals hintact ⟨16⟩ ⟨17⟩ 9007199254740993 9007199254740992 rfl rfl rfl
  obtain ⟨-, hindex, -⟩ :=
    hsearches ⟨3⟩ [⟨16⟩] (.object ⟨17⟩) 9007199254740992 rfl hmembers rfl
  rw [decide_eq_true halike] at hanswer
  refine ⟨halike, hanswer, hindex.trans ?_⟩
  -- The element is rounded like what is searched for, so that its place is the first one.
  have hunwrap : largeIntegers.unwrap (.object ⟨16⟩) = .int 9007199254740993 := rfl
  have hfound : largeIntegers.isRoundedLike 9007199254740992 (.object ⟨16⟩) = true := by
    simp only [World.isRoundedLike, hunwrap, halike, decide_true]
  simp only [List.map_cons, List.map_nil, List.findIdx?_cons, hfound, ↓reduceIte,
    Option.elim_some]
  rfl

/-- So two different integers are equal, and the array removes its element for
    another one. -/
theorem different_integers_equal :
    (9007199254740992 : Int64) ≠ 9007199254740993 ∧ largeIntegers.Reachable Stock.host ∧
      largeIntegers.structurallyEqual (.int 9007199254740992) (.int 9007199254740993) =
        some true ∧
      largeIntegers.payload? ⟨3⟩ = some (.list [.object ⟨16⟩]) ∧
      largeIntegers.payload? ⟨16⟩ = some (.int 9007199254740993) ∧
      ArrayMethod.remove.invoke ⟨3⟩ [.int 9007199254740992] largeIntegers =
        .done .null (largeIntegers.setPayload ⟨3⟩ (.list [])) := by
  have halike : RoundedAlike 9007199254740993 9007199254740992 := by decide +kernel
  have halike' : RoundedAlike 9007199254740992 9007199254740993 := halike.symm
  have hequal : largeIntegers.structurallyEqual (.int 9007199254740992) (.int 9007199254740993) =
      some true := by
    rw [World.structurallyEqual_integers rfl rfl, decide_eq_true halike']
  have hitems : largeIntegers.items ⟨3⟩ = .ok [.object ⟨16⟩] := rfl
  -- The element is found at its place, though it is another integer.
  have hfinds : largeIntegers.Finds (largeIntegers.unwrap (.int 9007199254740992))
      [.object ⟨16⟩] (some 0) := by
    refine ⟨[], .object ⟨16⟩, [], rfl, rfl, nofun, ?_⟩
    rw [World.structurallyEqual_integers (m := 9007199254740993) rfl rfl, decide_eq_true halike]
  exact ⟨by decide, reachable_largeIntegers, hequal, rfl, rfl,
    ArrayMethod.invoke_remove hitems hfinds⟩

end DynamicObjects
