import DynamicObjects.Behaviour.Array
import DynamicObjects.Proofs.Comparison.Termination

/-! # Searching

    What a search of an array finds: the first element that is structurally
    equal to the payload of a value, in front of which all elements are
    different.  A search gives an answer exactly if these comparisons do.

    Main results:
    - `World.positionOf_eq_some_iff`, `World.occurrences_eq_some_iff`: the answers
      of searches
    - `ArrayMethod.invoke_contains` and the like: what methods make of them -/

namespace DynamicObjects

namespace World

/-! ## Answers -/

/-- What a search for a payload **finds** among elements: the place of the first
    one that is equal, or that all are different. -/
def Finds (w : World) (target : Value) (items : List Value) : Option Nat → Prop
  | some place => ∃ front item rest, items = front ++ item :: rest ∧ front.length = place ∧
      (∀ other ∈ front, w.structurallyEqual other target = some false) ∧
      w.structurallyEqual item target = some true
  | none => ∀ item ∈ items, w.structurallyEqual item target = some false

/-- How many elements are equal to a payload, if all comparisons have an answer. -/
def Counts (w : World) (target : Value) (items : List Value) (n : Nat) : Prop :=
  ∃ answers : List Bool, items.map (fun item => w.structurallyEqual item target) =
    answers.map some ∧ n = answers.count true

section answers
variable {w : World} {items : List Value} {target : Value}

theorem finds_cons_of_true {item : Value} (hitem : w.structurallyEqual item target = some true)
    {place : Option Nat} : w.Finds target (item :: items) place ↔ place = some 0 := by
  constructor
  · intro h
    cases place with
    | none =>
      have hfalse := h item List.mem_cons_self
      rw [hitem] at hfalse
      cases hfalse
    | some place =>
      obtain ⟨front, other, rest, heq, rfl, hfront, -⟩ := h
      -- In front of what is found nothing is equal, so that the first element is it.
      cases front with
      | nil => rfl
      | cons first front =>
        obtain ⟨rfl, -⟩ := List.cons.inj heq
        have hfalse := hfront item List.mem_cons_self
        rw [hitem] at hfalse
        cases hfalse
  · rintro rfl
    exact ⟨[], item, items, rfl, rfl, nofun, hitem⟩

theorem finds_cons_of_false {item : Value} (hitem : w.structurallyEqual item target = some false)
    {place : Option Nat} : w.Finds target (item :: items) place ↔
      ∃ found, w.Finds target items found ∧ place = found.map (· + 1) := by
  constructor
  · intro h
    cases place with
    | none => exact ⟨none, fun other hother => h other (List.mem_cons_of_mem _ hother), rfl⟩
    | some place =>
      obtain ⟨front, other, rest, heq, rfl, hfront, hother⟩ := h
      -- The first element is not equal, so that it stands in front of what is found.
      cases front with
      | nil =>
        obtain ⟨rfl, rfl⟩ := List.cons.inj heq
        rw [hitem] at hother
        cases hother
      | cons first front =>
        obtain ⟨rfl, rfl⟩ := List.cons.inj heq
        refine ⟨some front.length, ⟨front, other, rest, rfl, rfl, ?_, hother⟩, rfl⟩
        exact fun before hbefore => hfront before (List.mem_cons_of_mem _ hbefore)
  · rintro ⟨found, hfound, rfl⟩
    cases found with
    | none => exact List.forall_mem_cons.mpr ⟨hitem, hfound⟩
    | some place =>
      obtain ⟨front, other, rest, rfl, rfl, hfront, hother⟩ := hfound
      exact ⟨item :: front, other, rest, rfl, rfl,
        List.forall_mem_cons.mpr ⟨hitem, hfront⟩, hother⟩

/-- **Searches** answer with what they find. -/
theorem positionOf_eq_some_iff {place : Option Nat} :
    w.positionOf items target = some place ↔ w.Finds target items place := by
  induction items generalizing place with
  | nil =>
    cases place with
    | none => simp [positionOf, Finds]
    | some place => simp [positionOf, Finds]
  | cons item rest ih =>
    rw [positionOf]
    cases hitem : w.structurallyEqual item target with
    | none =>
      -- Neither an equal element nor a different one.
      refine iff_of_false (by simp) fun h => ?_
      cases place with
      | none =>
        rw [h item List.mem_cons_self] at hitem
        cases hitem
      | some place =>
        obtain ⟨front, other, rest', heq, -, hfront, hother⟩ := h
        cases front with
        | nil =>
          obtain ⟨rfl, -⟩ := List.cons.inj heq
          rw [hother] at hitem
          cases hitem
        | cons first front =>
          obtain ⟨rfl, -⟩ := List.cons.inj heq
          rw [hfront _ List.mem_cons_self] at hitem
          cases hitem
    | some equal =>
      cases equal with
      | true => simp [finds_cons_of_true hitem, eq_comm]
      | false => simp [finds_cons_of_false hitem, ih, eq_comm]

theorem occurrences_eq_some_iff {n : Nat} :
    w.occurrences items target = some n ↔ w.Counts target items n := by
  induction items generalizing n with
  | nil =>
    constructor
    · intro h
      obtain rfl := Option.some.inj h
      exact ⟨[], rfl, rfl⟩
    · rintro ⟨answers, h, rfl⟩
      obtain rfl := List.map_eq_nil_iff.mp h.symm
      rfl
  | cons item rest ih =>
    rw [occurrences]
    -- Without an answer for one element there is no number of equal ones.
    cases hitem : w.structurallyEqual item target with
    | none =>
      refine iff_of_false (by simp) ?_
      rintro ⟨answers, h, -⟩
      cases answers <;> simp [hitem] at h
    | some found =>
      rw [Option.map_eq_some_iff]
      simp only [ih]
      constructor
      · rintro ⟨k, ⟨answers, h, rfl⟩, rfl⟩
        refine ⟨found :: answers, by simp [hitem, h], ?_⟩
        cases found <;> simp
      · rintro ⟨answers, h, rfl⟩
        cases answers with
        | nil => simp at h
        | cons answer answers =>
          simp only [List.map_cons, hitem, List.cons.injEq, Option.some.injEq] at h
          obtain ⟨rfl, h⟩ := h
          refine ⟨_, ⟨answers, h, rfl⟩, ?_⟩
          cases found <;> simp

/-- If every comparison has an answer, the search finds the first yes. -/
theorem finds_findIdx? {answer : Value → Bool}
    (h : ∀ item ∈ items, w.structurallyEqual item target = some (answer item)) :
    w.Finds target items (items.findIdx? answer) := by
  induction items with
  | nil => exact nofun
  | cons item rest ih =>
    obtain ⟨hitem, hrest⟩ := List.forall_mem_cons.mp h
    rw [List.findIdx?_cons]
    cases hanswer : answer item with
    | true => exact (finds_cons_of_true (hanswer ▸ hitem)).mpr rfl
    | false => exact (finds_cons_of_false (hanswer ▸ hitem)).mpr ⟨_, ih hrest, rfl⟩

theorem counts_countP {answer : Value → Bool}
    (h : ∀ item ∈ items, w.structurallyEqual item target = some (answer item)) :
    w.Counts target items (items.countP answer) := by
  refine ⟨items.map answer, ?_, ?_⟩
  · rw [List.map_map]
    exact List.map_congr_left h
  · rw [List.count, List.countP_map]
    congr 1
    funext item
    simp

end answers

end World

/-! ## Methods -/

namespace ArrayMethod

section searches
variable {w : World} {this : ObjectId} {items : List Value} {v : Value}
  (hitems : w.items this = .ok items)
include hitems

theorem find_of_finds {place : Option Nat} (h : w.Finds (w.unwrap v) items place) :
    Behaviour.find this v w = .done place w := by
  simp only [Behaviour.find, Run.bind_apply, Run.read_apply, id_eq, hitems, Run.lift_ok,
    World.positionOf_eq_some_iff.mpr h, Run.ofTerminating_some]

theorem invoke_contains {place : Option Nat} (h : w.Finds (w.unwrap v) items place) :
    contains.invoke this [v] w = .done (.bool place.isSome) w := by
  simp only [invoke, Arguments.one, Run.bind_apply, Run.lift_ok, find_of_finds hitems h,
    Run.pure_apply]

theorem invoke_index {place : Option Nat} (h : w.Finds (w.unwrap v) items place) :
    index.invoke this [v] w = .done (place.elim (.int (-1)) Value.ofCount) w := by
  simp only [invoke, Arguments.one, Run.bind_apply, Run.lift_ok, find_of_finds hitems h]
  cases place <;> rfl

theorem invoke_count {n : Nat} (h : w.Counts (w.unwrap v) items n) :
    count.invoke this [v] w = .done (Value.ofCount n) w := by
  simp only [invoke, Arguments.one, Behaviour.occurrencesOf, Run.bind_apply, Run.lift_ok,
    Run.read_apply, id_eq, hitems, World.occurrences_eq_some_iff.mpr h, Run.ofTerminating_some,
    Run.pure_apply]

theorem invoke_remove {place : Option Nat} (h : w.Finds (w.unwrap v) items place) :
    remove.invoke this [v] w =
      place.elim (.raised .elementNotFound w) fun i =>
        .done .null (w.setPayload this (.list (items.eraseIdx i))) := by
  simp only [invoke, Arguments.one, Run.bind_apply, Run.lift_ok, find_of_finds hitems h]
  cases place with
  | none => rfl
  | some i =>
    simp only [Behaviour.itemsOf, Run.bind_apply, Run.read_apply, id_eq, hitems, Run.lift_ok]
    rfl

end searches

end ArrayMethod

end DynamicObjects
