import DynamicObjects.Equality
import DynamicObjects.Proofs.Heap.Nodes

/-! # Element Pairs of a Comparison

    Comparing two payloads either ends at once, with a verdict that depends on
    nothing else, or goes through pairs of elements: those at the same place
    of two lists, those of the same name of two mappings.

    `elements?` gives these pairs and `sequence` compares them from left to
    right, so that lists and mappings need one induction between them. -/

namespace DynamicObjects

namespace Comparison

/-! ## Pairs of elements -/

/-- The pairs of elements that two payloads leave to compare, if the verdict
    depends on them.  A name that only the left mapping binds has no pair. -/
def elements? : Value → Value → Option (List (Option (Value × Value)))
  | .list xs, .list ys =>
    if xs.length = ys.length then some ((xs.zip ys).map some) else none
  | .dict xs, .dict ys =>
    if xs.length = ys.length then
      some (xs.map fun entry => (Bindings.get? entry.1 ys).map (Prod.mk entry.2))
    else none
  | _, _ => none

/-- Compare pairs from left to right up to the first difference.  A missing
    pair is a difference. -/
def sequence (compare : Value → Value → PairSet → Comparison) :
    List (Option (Value × Value)) → PairSet → Comparison
  | [], met => some (true, met)
  | none :: _, met => some (false, met)
  | some (x, y) :: rest, met =>
    match compare x y met with
    | some (true, met) => sequence compare rest met
    | answer => answer

/-- What two payloads without pairs of elements compare as. -/
def verdict (x y : Value) : Bool :=
  ((payloads (fun _ _ _ => none) x y .empty).map Prod.fst).getD false

section sequencing
variable {compare : Value → Value → PairSet → Comparison} {met met' : PairSet} {x y : Value}
  {rest : List (Option (Value × Value))}

theorem sequence_cons_of_true (h : compare x y met = some (true, met')) :
    sequence compare (some (x, y) :: rest) met = sequence compare rest met' := by
  simp only [sequence, h]

theorem sequence_cons_of_false (h : compare x y met = some (false, met')) :
    sequence compare (some (x, y) :: rest) met = some (false, met') := by
  simp only [sequence, h]

theorem sequence_cons_of_none (h : compare x y met = none) :
    sequence compare (some (x, y) :: rest) met = none := by
  simp only [sequence, h]

/-- A sequence that says yes begins with a pair that is equal, and says yes behind it. -/
theorem sequence_cons_eq_true {q : Option (Value × Value)}
    (h : sequence compare (q :: rest) met = some (true, met')) :
    ∃ x y met₁, q = some (x, y) ∧ compare x y met = some (true, met₁) ∧
      sequence compare rest met₁ = some (true, met') := by
  match q with
  | none => cases h
  | some (x, y) =>
    match hxy : compare x y met with
    | some (true, met₁) =>
      rw [sequence_cons_of_true hxy] at h
      exact ⟨x, y, met₁, rfl, hxy, h⟩
    | some (false, met₁) =>
      rw [sequence_cons_of_false hxy] at h
      cases h
    | none =>
      rw [sequence_cons_of_none hxy] at h
      cases h

theorem lists_eq_sequence {xs ys : List Value} (hlen : xs.length = ys.length) (met : PairSet) :
    lists compare xs ys met = sequence compare ((xs.zip ys).map some) met := by
  induction xs generalizing ys met with
  | nil =>
    rw [List.length_eq_zero_iff.mp hlen.symm]
    rfl
  | cons x xs ih =>
    obtain ⟨y, ys, rfl⟩ := List.exists_cons_of_length_eq_add_one hlen.symm
    have hlen' : xs.length = ys.length := by simpa using hlen
    simp only [lists, List.zip_cons_cons, List.map_cons, sequence]
    split <;> simp_all

theorem entries_eq_sequence (xs ys : Bindings Value) (met : PairSet) :
    entries compare xs ys met =
      sequence compare
        (xs.map fun entry => (Bindings.get? entry.1 ys).map (Prod.mk entry.2)) met := by
  induction xs generalizing met with
  | nil => rfl
  | cons entry xs ih =>
    obtain ⟨name, x⟩ := entry
    simp only [entries, List.map_cons]
    cases Bindings.get? name ys with
    | none => rfl
    | some y =>
      simp only [Option.map_some, sequence]
      split <;> simp_all

end sequencing

/-! ## One level of a comparison -/

section level
variable (compare : Value → Value → PairSet → Comparison) (met : PairSet) {x y : Value}

theorem payloads_of_elements {ps : List (Option (Value × Value))} (h : elements? x y = some ps) :
    payloads compare x y met = sequence compare ps met := by
  unfold elements? at h
  split at h
  · next xs ys =>
    split at h
    · next hlen =>
      obtain rfl := Option.some.inj h
      simp only [payloads, Value.asComplex?, Value.asReal?, Option.map_none, if_pos hlen]
      exact lists_eq_sequence hlen met
    · cases h
  · next xs ys =>
    split at h
    · next hlen =>
      obtain rfl := Option.some.inj h
      simp only [payloads, Value.asComplex?, Value.asReal?, Option.map_none, if_pos hlen]
      exact entries_eq_sequence xs ys met
    · cases h
  · cases h

/-- Without pairs of elements, neither the way elements are compared nor the
    pairs met so far matter. -/
theorem payloads_of_no_elements (h : elements? x y = none) :
    payloads compare x y met = some (verdict x y, met) := by
  cases x <;> cases y <;>
    simp_all [verdict, payloads, elements?, Value.asComplex?, Value.asReal?]

end level

theorem isElement_of_elements {x y : Value} {ps : List (Option (Value × Value))}
    (h : elements? x y = some ps) {a b : Value} (hab : some (a, b) ∈ ps) :
    a.IsElement x ∧ b.IsElement y := by
  unfold elements? at h
  split at h
  · -- Lists are paired by position, mappings by name.
    next xs ys =>
    split at h
    · obtain rfl := Option.some.inj h
      obtain ⟨⟨a', b'⟩, hmem, heq⟩ := List.mem_map.mp hab
      obtain ⟨rfl, rfl⟩ := Prod.mk.inj (Option.some.inj heq)
      have hmem := List.of_mem_zip hmem
      exact ⟨.list hmem.1, .list hmem.2⟩
    · cases h
  · next xs ys =>
    split at h
    · obtain rfl := Option.some.inj h
      obtain ⟨⟨name, a'⟩, hmem, heq⟩ := List.mem_map.mp hab
      obtain ⟨b', hget, heq⟩ := Option.map_eq_some_iff.mp heq
      obtain ⟨rfl, rfl⟩ := Prod.mk.inj heq
      exact ⟨.dict hmem, .dict (Bindings.mem_of_get?_eq_some hget)⟩
    · cases h
  · cases h

theorem values_succ (w : World) (depth : Nat) (x y : Value) (met : PairSet) :
    values w (depth + 1) x y met =
      match meet? x y met with
      | none => some (true, met)
      | some met => payloads (values w depth) (w.unwrap x) (w.unwrap y) met := rfl

end Comparison

end DynamicObjects
