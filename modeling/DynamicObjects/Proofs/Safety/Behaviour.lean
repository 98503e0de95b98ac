import DynamicObjects.Behaviour.Array
import DynamicObjects.Proofs.Safety.Keeps
import Mathlib.Data.List.InsertIdx

/-! # Behaviours keep worlds well-formed

    One lemma for each handler and method that is not the host's.  What they
    store is made of their arguments, of what they read, and of new objects; and
    they write to their receiver only. -/

namespace DynamicObjects

open Run

/-! ## Arguments -/

theorem Arguments.mem_of_one {method : String} {args : List Value} {v : Value}
    (h : Arguments.one method args = .ok v) : v ∈ args := by
  unfold Arguments.one at h
  split at h
  · obtain rfl := Except.ok.inj h
    exact List.mem_singleton_self _
  · cases h

theorem Arguments.mem_of_two {method : String} {args : List Value} {v u : Value}
    (h : Arguments.two method args = .ok (v, u)) : v ∈ args ∧ u ∈ args := by
  unfold Arguments.two at h
  split at h
  · obtain ⟨rfl, rfl⟩ := Prod.mk.inj (Except.ok.inj h)
    exact ⟨List.mem_cons_self, List.mem_cons_of_mem _ (List.mem_singleton_self _)⟩
  · cases h

namespace Behaviour

variable {L : World.Locations} {w : World} {this : ObjectId} {args : List Value}

/-! ## Arrays -/

theorem supportsAll_items (hw : w.WellFormed) {items : List Value}
    (h : w.items this = .ok items) : w.SupportsAll items := by
  unfold World.items at h
  split at h
  · next items' hpayload =>
    obtain rfl := Except.ok.inj h
    exact World.supports_list.mp (hw.property? hpayload)
  · cases h

theorem itemsOf_keeps (hw : w.Fits L) : (itemsOf this).Keeps L w World.SupportsAll :=
  keeps_world_bind <| keeps_lift hw fun _ h => supportsAll_items hw.wellFormed h

/-- What changes an array ends by storing the elements and answering. -/
theorem storeItems_keeps (hw : w.Fits L) (hthis : ¬ L this payloadName) {items : List Value}
    (hitems : w.SupportsAll items) {answer : Value} (hanswer : w.Supports answer) :
    (do
      storeItems this items
      return answer : Run Value).Keeps L w World.Supports := by
  have hstored : w.Safe L (w.setPayload this (.list items)) :=
    hw.setProperty (World.supports_list.mpr hitems) hthis
  have hstore : (storeItems this items).Keeps L w fun _ _ => True := keeps_modify hstored
  apply hstore.bind
  intro _ w₁ hsafe _
  exact keeps_pure hsafe.fits (hanswer.later hsafe.later)

theorem converted_keeps (hw : w.Fits L) {v : Value} (hv : w.Supports v) :
    (converted v).Keeps L w World.Supports :=
  keeps_step (hw.toObject hv) (World.supports_object _)

theorem arrayGetItem_keeps (hw : w.Fits L) : (arrayGetItem this args).Keeps L w World.Supports := by
  unfold arrayGetItem
  apply keeps_lift_bind hw
  intro key _
  apply keeps_world_bind
  apply keeps_lift_bind hw
  intro index _
  apply keeps_lift_bind hw
  intro items hitems
  apply keeps_lift_bind hw
  intro place _
  refine keeps_pure hw ?_
  rw [List.getD_eq_getElem?_getD]
  cases hv : items[place]? with
  | none => exact World.supports_null
  | some v => exact supportsAll_items hw.wellFormed hitems v (List.mem_of_getElem? hv)

theorem arraySetItem_keeps (hw : w.Fits L) (hthis : ¬ L this payloadName)
    (hargs : w.SupportsAll args) : (arraySetItem this args).Keeps L w World.Supports := by
  unfold arraySetItem
  apply keeps_lift_bind hw
  rintro ⟨key, v⟩ h
  apply keeps_world_bind
  apply keeps_lift_bind hw
  intro index _
  apply (converted_keeps hw (hargs v (Arguments.mem_of_two h).2)).bind
  intro u w₁ hsafe hu
  apply (itemsOf_keeps hsafe.fits).bind
  intro items w₂ hsafe₂ hitems
  apply keeps_lift_bind hsafe₂.fits
  intro place _
  -- Each new item is an old one or the conversion.
  have hnew : w₂.SupportsAll (items.set place u) := by
    intro x hx
    rcases List.mem_or_eq_of_mem_set hx with hx | rfl
    · exact hitems x hx
    · exact hu.later hsafe₂.later
  exact storeItems_keeps hsafe₂.fits hthis hnew World.supports_null

theorem arrayLength_keeps (hw : w.Fits L) : (arrayLength this args).Keeps L w World.Supports := by
  unfold arrayLength
  apply keeps_lift_bind hw
  intro _ _
  apply (itemsOf_keeps hw).bind
  intro items w₁ hsafe _
  exact keeps_pure hsafe.fits (World.supports_int _)

theorem find_keeps (hw : w.Fits L) (v : Value) : (find this v).Keeps L w fun _ _ => True := by
  unfold find
  apply keeps_world_bind
  apply keeps_lift_bind hw
  intro items _
  exact keeps_ofTerminating hw _

theorem occurrencesOf_keeps (hw : w.Fits L) (v : Value) :
    (occurrencesOf this v).Keeps L w fun _ _ => True := by
  unfold occurrencesOf
  apply keeps_world_bind
  apply keeps_lift_bind hw
  intro items _
  exact keeps_ofTerminating hw _

theorem sorted_subset {items items' : List Value} (h : sorted w items = .ok items') :
    items' ⊆ items := by
  unfold sorted at h
  split at h
  · obtain rfl := Except.ok.inj h
    exact fun v hv => List.mem_mergeSort.mp hv
  · cases h

theorem extension_eq_ok {v : Value} {items : List Value} (h : extension w v = .ok items) :
    w.unwrap v = .list items := by
  unfold extension at h
  split at h
  · next items' hdata =>
    obtain rfl := Except.ok.inj h
    exact hdata
  · cases h

end Behaviour

section methods
variable {L : World.Locations} {w : World} {this : ObjectId} {args : List Value}

open Behaviour in
/-- **Array methods** write the payload of their receiver at most. -/
theorem ArrayMethod.invoke_keeps (method : ArrayMethod) (hw : w.Fits L)
    (hthis : ¬ L this payloadName) (hargs : w.SupportsAll args) :
    (method.invoke this args).Keeps L w World.Supports := by
  unfold ArrayMethod.invoke
  -- Conversions and answers concern the arguments; the payload is stored last, and only
  -- there `hthis` is needed.
  cases method with
  | append =>
    apply keeps_lift_bind hw
    intro v h
    apply (converted_keeps hw (hargs v (Arguments.mem_of_one h))).bind
    intro u w₁ hsafe hu
    apply (itemsOf_keeps hsafe.fits).bind
    intro items w₂ hsafe₂ hitems
    have hnew : w₂.SupportsAll (items ++ [u]) := by simp [hitems, hu.later hsafe₂.later]
    exact storeItems_keeps hsafe₂.fits hthis hnew World.supports_null
  | pop =>
    apply keeps_lift_bind hw
    intro _ _
    apply (itemsOf_keeps hw).bind
    intro items w₁ hsafe hitems
    cases hlast : items.getLast? with
    | none => exact keeps_raise hsafe.fits _
    | some last =>
      have hrest : w₁.SupportsAll items.dropLast := hitems.subset (List.dropLast_subset items)
      have hanswer : w₁.Supports last := hitems last (List.mem_of_getLast? hlast)
      exact storeItems_keeps hsafe.fits hthis hrest hanswer
  | contains =>
    apply keeps_lift_bind hw
    intro v _
    apply (find_keeps hw v).bind
    intro found w₁ hsafe _
    exact keeps_pure hsafe.fits (World.supports_bool _)
  | count =>
    apply keeps_lift_bind hw
    intro v _
    apply (occurrencesOf_keeps hw v).bind
    intro n w₁ hsafe _
    exact keeps_pure hsafe.fits (World.supports_int _)
  | insert =>
    apply keeps_lift_bind hw
    rintro ⟨key, v⟩ h
    apply keeps_world_bind
    apply keeps_lift_bind hw
    intro index _
    apply (converted_keeps hw (hargs v (Arguments.mem_of_two h).2)).bind
    intro u w₁ hsafe hu
    apply (itemsOf_keeps hsafe.fits).bind
    intro items w₂ hsafe₂ hitems
    have hnew : w₂.SupportsAll (items.insertIdx (insertionPoint items.length index) u) := by
      intro x hx
      rcases List.eq_or_mem_of_mem_insertIdx hx with rfl | hx
      · exact hu.later hsafe₂.later
      · exact hitems x hx
    exact storeItems_keeps hsafe₂.fits hthis hnew World.supports_null
  | remove =>
    apply keeps_lift_bind hw
    intro v _
    apply (find_keeps hw v).bind
    intro found w₁ hsafe _
    cases found with
    | none => exact keeps_raise hsafe.fits _
    | some place =>
      apply (itemsOf_keeps hsafe.fits).bind
      intro items w₂ hsafe₂ hitems
      have hrest : w₂.SupportsAll (items.eraseIdx place) :=
        hitems.subset (List.eraseIdx_subset ..)
      exact storeItems_keeps hsafe₂.fits hthis hrest World.supports_null
  | sort =>
    apply keeps_lift_bind hw
    intro _ _
    apply keeps_world_bind
    apply keeps_lift_bind hw
    intro items hitems
    apply keeps_lift_bind hw
    intro items' hsorted
    have hsupports := supportsAll_items hw.wellFormed hitems
    have hnew : w.SupportsAll items' := hsupports.subset (sorted_subset hsorted)
    exact storeItems_keeps hw hthis hnew World.supports_null
  | index =>
    apply keeps_lift_bind hw
    intro v _
    apply (find_keeps hw v).bind
    intro found w₁ hsafe _
    cases found with
    | none => exact keeps_pure hsafe.fits (World.supports_int _)
    | some place => exact keeps_pure hsafe.fits (World.supports_int _)
  | extend =>
    apply keeps_lift_bind hw
    intro v h
    apply keeps_world_bind
    apply keeps_lift_bind hw
    intro more hmore
    -- The argument may be the receiver itself, so its items are read before anything is
    -- stored.
    have hvalue := hw.wellFormed.unwrap (hargs v (Arguments.mem_of_one h))
    rw [extension_eq_ok hmore] at hvalue
    apply (keeps_step (hw.toObjects (World.supports_list.mp hvalue))
      (World.supportsAll_toObjects w more)).bind
    intro more' w₁ hsafe hmore'
    apply (itemsOf_keeps hsafe.fits).bind
    intro items w₂ hsafe₂ hitems
    have hnew : w₂.SupportsAll (items ++ more') :=
      World.supportsAll_append.mpr ⟨hitems, hmore'.later hsafe₂.later⟩
    exact storeItems_keeps hsafe₂.fits hthis hnew World.supports_null
  | clear =>
    apply keeps_lift_bind hw
    intro _ _
    apply (itemsOf_keeps hw).bind
    intro _ w₁ hsafe _
    exact storeItems_keeps hsafe.fits hthis World.supportsAll_nil World.supports_null
  | reverse =>
    apply keeps_lift_bind hw
    intro _ _
    apply (itemsOf_keeps hw).bind
    intro items w₁ hsafe hitems
    have hnew : w₁.SupportsAll items.reverse := hitems.subset (List.reverse_subset.mpr fun _ h => h)
    exact storeItems_keeps hsafe.fits hthis hnew World.supports_null
  | copy =>
    apply keeps_lift_bind hw
    intro _ _
    apply (itemsOf_keeps hw).bind
    intro items w₁ hsafe hitems
    exact keeps_pure hsafe.fits (World.supports_list.mpr hitems)

end methods

end DynamicObjects
