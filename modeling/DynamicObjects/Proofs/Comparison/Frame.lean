import DynamicObjects.Proofs.Comparison.Equivalence

/-! # What a comparison reads

    A comparison goes from values to their payloads, and from these to their
    elements.  Two worlds in which everything that is met on the way has the same
    payload give the same answer, or none in both.

    Main results:
    - `World.structurallyEqual_congr`: worlds that agree on what is met
    - `World.agreesOn_not_leadsTo`: worlds that differ in one object agree on what
      does not lead to it -/

namespace DynamicObjects

namespace Comparison

/-- Two ways to compare that agree on the pairs to compare give one answer. -/
theorem sequence_congr {compare compare' : Value → Value → PairSet → Comparison}
    {ps : List (Option (Value × Value))}
    (h : ∀ a b, some (a, b) ∈ ps → ∀ met, compare' a b met = compare a b met) (met : PairSet) :
    sequence compare' ps met = sequence compare ps met := by
  induction ps generalizing met with
  | nil => rfl
  | cons first rest ih =>
    rcases first with _ | ⟨a, b⟩
    · rfl
    · have hrest := ih fun a b hab => h a b (List.mem_cons_of_mem _ hab)
      rw [sequence, sequence, h a b List.mem_cons_self]
      rcases compare a b met with _ | ⟨_ | _, met₁⟩
      · rfl
      · rfl
      · exact hrest met₁

end Comparison

namespace World

/-! ## Worlds that agree -/

/-- Two worlds **agree** on some values: these have the same payloads in both, and
    with them also their payloads and elements are among the values. -/
structure AgreesOn (w w' : World) (P : Value → Prop) : Prop where
  unwrap_eq : ∀ {v : Value}, P v → w'.unwrap v = w.unwrap v
  unwrap : ∀ {v : Value}, P v → P (w.unwrap v)
  element : ∀ {u v : Value}, P v → u.IsElement v → P u

section agree
variable {w w' : World} {P : Value → Prop} {x y : Value}

open Comparison in
theorem AgreesOn.values_eq (h : w.AgreesOn w' P) (depth : Nat) (hx : P x) (hy : P y)
    (met : PairSet) : values w' depth x y met = values w depth x y met := by
  -- By induction on the depth: what is compared next is among the values again.
  induction depth generalizing x y met with
  | zero => rfl
  | succ depth ih =>
    rw [values_succ, values_succ, h.unwrap_eq hx, h.unwrap_eq hy]
    cases meet? x y met with
    | none => rfl
    | some met₁ =>
      cases hps : Comparison.elements? (w.unwrap x) (w.unwrap y) with
      | none => simp only [payloads_of_no_elements _ _ hps]
      | some ps =>
        simp only [payloads_of_elements _ _ hps]
        refine sequence_congr (fun a b hab met => ?_) met₁
        obtain ⟨ha, hb⟩ := isElement_of_elements hps hab
        exact ih (h.element (h.unwrap hx) ha) (h.element (h.unwrap hy) hb) met

/-- **Worlds that agree** on two values compare them alike. -/
theorem structurallyEqual_congr (h : w.AgreesOn w' P) (hx : P x) (hy : P y) :
    w'.structurallyEqual x y = w.structurallyEqual x y := by
  -- A depth that leads to an answer in one world leads to it in the other.
  cases hequal : w.structurallyEqual x y with
  | some answer =>
    obtain ⟨depth, found, hvalues⟩ := structurallyEqual_eq_some hequal
    exact structurallyEqual_of_values ((h.values_eq depth hx hy .empty).trans hvalues)
  | none =>
    cases hequal' : w'.structurallyEqual x y with
    | none => rfl
    | some answer =>
      obtain ⟨depth, found, hvalues⟩ := structurallyEqual_eq_some hequal'
      rw [h.values_eq depth hx hy] at hvalues
      rw [structurallyEqual_of_values hvalues] at hequal
      cases hequal

end agree

/-! ## Objects that are not met -/

/-- A value **leads to** an object: through elements and payloads, the way that a
    comparison goes. -/
inductive LeadsTo (w : World) (a : ObjectId) : Value → Prop where
  | self : LeadsTo w a (.object a)
  | payload {o : ObjectId} {v : Value} (hv : w.payload? o = some v) (h : LeadsTo w a v) :
      LeadsTo w a (.object o)
  | element {u v : Value} (hu : u.IsElement v) (h : LeadsTo w a u) : LeadsTo w a v

section leads
variable {w w' : World} {a : ObjectId} {v : Value}

theorem LeadsTo.of_unwrap (h : w.LeadsTo a (w.unwrap v)) : w.LeadsTo a v := by
  cases v with
  | object o =>
    rw [World.unwrap] at h
    cases hpayload : w.payload? o with
    | none =>
      rw [hpayload] at h
      exact h
    | some u =>
      rw [hpayload] at h
      exact .payload hpayload h
  | _ => exact h

/-- **Worlds that differ in one object** agree on what does not lead to it. -/
theorem agreesOn_not_leadsTo (hothers : ∀ o, o ≠ a → w'.payload? o = w.payload? o) :
    w.AgreesOn w' fun v => ¬ w.LeadsTo a v where
  unwrap_eq := by
    intro v hv
    cases v with
    | object o =>
      have hne : o ≠ a := by
        rintro rfl
        exact hv .self
      rw [World.unwrap, World.unwrap, hothers o hne]
    | _ => rfl
  unwrap hv h := hv h.of_unwrap
  element hv hu h := hv (.element hu h)

end leads

end World

end DynamicObjects
