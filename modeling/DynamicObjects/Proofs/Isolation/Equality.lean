import DynamicObjects.Proofs.Comparison.Frame
import DynamicObjects.Proofs.Isolation.Beside

/-! # Comparisons side by side

    Comparisons and truths follow payloads, which are the same in two worlds
    side by side.  So are their answers, and so is whether there is an answer at
    all, though the worlds may differ in how deep the search for one goes. -/

namespace DynamicObjects

namespace Value

theorem Within.element {K : Places} {a v : Value} (hv : v.Within K) (h : a.IsElement v) :
    a.Within K :=
  fun u hu => hv u (nodes_subset_of_mem a h.mem_nodes hu)

end Value

namespace World

variable {S : Apart} {w w' : World} {x y v : Value}

/-- What is clear of the differences looks alike, and so does all that is met from
    there. -/
theorem Beside.agreesOn (h : w.Beside S w') : w.AgreesOn w' fun v => w.Clear S v where
  unwrap_eq := h.unwrap_eq
  unwrap := h.clear_unwrap
  element hv hu := hv.element hu

/-- **Structural equality** answers alike. -/
theorem Beside.structurallyEqual_eq (h : w.Beside S w') (hx : w.Clear S x)
    (hy : w.Clear S y) : w'.structurallyEqual x y = w.structurallyEqual x y :=
  structurallyEqual_congr h.agreesOn hx hy

theorem Beside.positionOf_eq (h : w.Beside S w') {items : List Value}
    (hitems : w.ClearAll S items) (hv : w.Clear S v) :
    w'.positionOf items v = w.positionOf items v := by
  induction items with
  | nil => rfl
  | cons item rest ih =>
    obtain ⟨hitem, hrest⟩ := List.forall_mem_cons.mp hitems
    rw [positionOf, positionOf, h.structurallyEqual_eq hitem hv, ih hrest]

theorem Beside.occurrences_eq (h : w.Beside S w') {items : List Value}
    (hitems : w.ClearAll S items) (hv : w.Clear S v) :
    w'.occurrences items v = w.occurrences items v := by
  induction items with
  | nil => rfl
  | cons item rest ih =>
    obtain ⟨hitem, hrest⟩ := List.forall_mem_cons.mp hitems
    rw [occurrences, occurrences, h.structurallyEqual_eq hitem hv, ih hrest]

theorem Beside.truthWithin_eq (h : w.Beside S w') (depth : Nat) (hv : w.Clear S v) :
    w'.truthWithin depth v = w.truthWithin depth v := by
  induction depth generalizing v with
  | zero => rfl
  | succ depth ih =>
    cases v with
    | object o =>
      rw [truthWithin, truthWithin, h.payload?_eq (Value.within_object.mp hv)]
      cases hpayload : w.payload? o with
      | none => rfl
      | some u => exact ih (h.clear_property hpayload)
    | _ => rfl

/-- **Truth** is alike. -/
theorem Beside.truth_eq (h : w.Beside S w') (hv : w.Clear S v) :
    w'.truth v = w.truth v := by
  rw [truth, truth, h.size_eq, h.truthWithin_eq _ hv]

theorem Beside.compareStructurally_eq (h : w.Beside S w') (hx : w.Clear S x)
    (hy : w.Clear S y) : w'.compareStructurally x y = w.compareStructurally x y := by
  rw [compareStructurally, compareStructurally, h.unwrap_eq hx, h.unwrap_eq hy]

end World

end DynamicObjects
