import DynamicObjects.Proofs.Enumeration.Worlds

/-! # Equality in isomorphic worlds

    A comparison walks through mappings in their order, keeps the pairs that it has met,
    and stops at the first difference.  So the order decides what is compared, and even
    whether the comparison ends.  It does not decide the answer: an answer is yes exactly
    if the values are bisimilar, and no bisimulation knows an order.

    The argument:
    1. What matches a payload matches any payload that is like it.
    2. So a bisimulation between values is carried along a renaming to one between values
       that are like them, in both directions.

    Main results:
    - `World.Alike.bisimilar`: bisimilarity is carried along
    - `World.Isomorphic.structurallyEqual_eq`: there is one answer -/

namespace DynamicObjects

section payloads
variable {r : Renaming} {x x' y y' : Value}

theorem Value.Alike.asComplex?_eq (h : x.Alike r x') : x.asComplex? = x'.asComplex? := by
  cases h <;> rfl

/-- Values that are related, **carried along** a renaming. -/
def Carried (r : Renaming) (R : Value → Value → Prop) : Value → Value → Prop :=
  Relation.Comp (fun x' x => x.Alike r x') (Relation.Comp R (Value.Alike r))

/-- What is **like matching payloads** matches. -/
theorem PayloadMatch.carried {R : Value → Value → Prop} (h : PayloadMatch R x y)
    (hx : x.Alike r x') (hy : y.Alike r y') : PayloadMatch (Carried r R) x' y' := by
  cases h with
  | number hz hu heq =>
    exact .number (hx.asComplex?_eq ▸ hz) (hy.asComplex?_eq ▸ hu) heq
  | null =>
    cases hx
    cases hy
    exact .null
  | text s =>
    cases hx
    cases hy
    exact .text s
  -- Elements are carried there and back: from the one side over to the other pair.
  | list hall =>
    cases x' with
    | list xs' =>
      cases y' with
      | list ys' =>
        exact .list (forall₂_comp (Value.alike_list.mp hx).flip
          (forall₂_comp hall (Value.alike_list.mp hy)))
      | _ => cases hy
    | _ => cases hx
  | dict hall =>
    cases x' with
    | dict xs' =>
      cases y' with
      | dict ys' =>
        exact .dict ((Value.alike_dict.mp hx).values.swap.comp
          (hall.comp (Value.alike_dict.mp hy).values))
      | _ => cases hy
    | _ => cases hx
  | function heq =>
    cases hx with
    | function hf =>
      cases hy with
      | function hg => exact .function ((r.idents.unique hf.ident hg.ident).mp heq)
  | foreign heq =>
    cases hx with
    | foreign hf =>
      cases hy with
      | foreign hg => exact .foreign ((r.idents.unique hf.ident hg.ident).mp heq)
  | object o =>
    cases hx with
    | object ho =>
      cases hy with
      | object ho' =>
        obtain rfl := (ho.eq_iff ho').mp rfl
        exact .object _

end payloads

namespace World

variable {r : Renaming} {w w' : World} {x x' y y' : Value}

/-- **Bisimilarity** is carried along a renaming. -/
theorem Alike.bisimilar (h : w.Alike r w') (hx : x.Alike r x') (hy : y.Alike r y')
    (hxy : w.Bisimilar x y) : w'.Bisimilar x' y' := by
  refine ⟨Carried r w.Bisimilar, ?_, x, hx, y, hxy, hy⟩
  rintro a' b' ⟨a, ha, b, hab, hb⟩
  rcases isBisimulation_bisimilar a b hab with ⟨o, rfl, rfl⟩ | hmatch
  · cases ha with
    | object ho =>
      cases hb with
      | object ho' =>
        obtain rfl := (ho.eq_iff ho').mp rfl
        exact .inl ⟨_, rfl, rfl⟩
  · exact .inr (hmatch.carried (h.unwrap ha) (h.unwrap hb))

/-- **Comparisons** of values that are alike give one answer, as far as they end. -/
theorem Isomorphic.structurallyEqual_eq (h : w.Isomorphic r w') (hx : x.Alike r x')
    (hy : y.Alike r y') {answer answer' : Bool} (hanswer : w.structurallyEqual x y = some answer)
    (hanswer' : w'.structurallyEqual x' y' = some answer') : answer = answer' := by
  have hw := h.distinctNames
  have hw' := h.symm.distinctNames
  -- A yes on one side makes the values on both sides bisimilar.
  cases answer with
  | true =>
    have hxy := bisimilar_of_structurallyEqual hw hx.distinctNames hy.distinctNames hanswer
    exact (eq_true_of_bisimilar hw' hx.symm.distinctNames hy.symm.distinctNames
      (h.bisimilar hx hy hxy) hanswer').symm
  | false =>
    cases answer' with
    | false => rfl
    | true =>
      have hxy := bisimilar_of_structurallyEqual hw' hx.symm.distinctNames hy.symm.distinctNames
        hanswer'
      exact eq_true_of_bisimilar hw hx.distinctNames hy.distinctNames
        (h.symm.bisimilar hx.symm hy.symm hxy) hanswer

end World

end DynamicObjects
