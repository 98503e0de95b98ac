import DynamicObjects.Proofs.Isolation.Equality
import DynamicObjects.Proofs.Isolation.Follows
import DynamicObjects.Proofs.Safety.Dispatch

/-! # Behaviours side by side

    One lemma for each handler and method of arrays and numbers and for each
    store of attributes.  What they look up is found alike in worlds side by
    side, and what they store is made of their arguments, of what they have
    found, and of new objects. -/

namespace DynamicObjects

open Run

variable {S : Apart} {w w' : World} {this : ObjectId} {args : List Value}

/-- Payloads that cannot be sorted together are among those to be sorted. -/
theorem SortOrder.mem_of_covering_eq_error {keys : List Value} {a b : Value}
    (h : SortOrder.covering keys = .error (a, b)) : a ∈ keys ∧ b ∈ keys := by
  -- The pair that does not fit is a payload and the one in front of it.
  have hextend : ∀ (rest : List Value) (order : SortOrder) (previous : Value),
      SortOrder.extend order previous rest = .error (a, b) →
        a ∈ previous :: rest ∧ b ∈ rest := by
    intro rest
    induction rest with
    | nil => exact fun _ _ h => by cases h
    | cons key rest ih =>
      intro order previous h
      rw [SortOrder.extend] at h
      split at h
      · next order' _ =>
        obtain ⟨ha, hb⟩ := ih order' key h
        exact ⟨List.mem_cons_of_mem _ ha, List.mem_cons_of_mem _ hb⟩
      · obtain ⟨rfl, rfl⟩ := Prod.mk.inj (Except.error.inj h)
        exact ⟨List.mem_cons_self, List.mem_cons_self⟩
  unfold SortOrder.covering at h
  split at h
  · next first second rest =>
    obtain ⟨ha, hb⟩ := hextend _ _ _ h
    refine ⟨?_, hb⟩
    rcases List.mem_cons.mp ha with rfl | ha
    · exact List.mem_cons_self
    · exact ha
  · cases h

/-! ## Arrays -/

namespace World

theorem Beside.items_eq (h : w.Beside S w') (hthis : w.Outside S this) :
    w'.items this = w.items this := by
  rw [items, items, h.payload?_eq hthis]

theorem Beside.clearAll_items (h : w.Beside S w') {items : List Value}
    (hitems : w.items this = .ok items) : w.ClearAll S items := by
  unfold World.items at hitems
  split at hitems
  · next items' hpayload =>
    obtain rfl := Except.ok.inj hitems
    exact Value.within_list.mp (h.clear_property hpayload)
  · cases hitems

theorem Beside.subscript_eq (h : w.Beside S w') (container : String) {v : Value}
    (hv : w.Clear S v) : w'.subscript container v = w.subscript container v := by
  cases v with
  | object o =>
    have ho := Value.within_object.mp hv
    rw [subscript, subscript, h.isInstanceOf_eq ho, h.payload?_eq ho]
  | _ => rfl

end World

namespace Behaviour

theorem itemsOf_follows (hw : w.Beside S w') (hthis : w.Outside S this) :
    (itemsOf this).Oblivious S w w' (World.ClearAll S) :=
  follows_world_bind <| follows_lift hw (hw.items_eq hthis) fun _ h => hw.clearAll_items h

/-- What changes an array ends by storing the elements and answering. -/
theorem storeItems_follows (hw : w.Beside S w') (hthis : w.Outside S this) {items : List Value}
    (hitems : w.ClearAll S items) {answer : Value} (hanswer : w.Clear S answer) :
    (do
      storeItems this items
      return answer : Run Value).Oblivious S w w' (World.Clear S) := by
  have hstored := hw.setProperty hthis payloadName (Value.within_list.mpr hitems)
  apply (follows_modify hstored).bind
  intro _ w₁ w₁' honward _
  exact follows_pure honward.beside (honward.clear hanswer)

theorem converted_follows (hw : w.Beside S w') {v : Value} (hv : w.Clear S v) :
    (converted v).Oblivious S w w' (World.Clear S) := by
  have hobject := hw.toObject hv
  exact follows_step (congrArg Value.object hobject.fst_eq) hobject.onward
    (Value.within_object.mpr hobject.outside)

theorem arrayGetItem_follows (hw : w.Beside S w') (hthis : w.Outside S this)
    (hargs : w.ClearAll S args) : (arrayGetItem this args).Oblivious S w w' (World.Clear S) := by
  unfold arrayGetItem
  apply follows_lift_bind hw rfl
  intro key hkey
  apply follows_world_bind
  apply follows_lift_bind hw (hw.subscript_eq _ (hargs key (Arguments.mem_of_one hkey)))
  intro index _
  apply follows_lift_bind hw (hw.items_eq hthis)
  intro items hitems
  apply follows_lift_bind hw rfl
  intro place _
  refine follows_pure hw ?_
  rw [List.getD_eq_getElem?_getD]
  cases hv : items[place]? with
  | none => exact Value.within_null
  | some v => exact hw.clearAll_items hitems v (List.mem_of_getElem? hv)

theorem arraySetItem_follows (hw : w.Beside S w') (hthis : w.Outside S this)
    (hargs : w.ClearAll S args) : (arraySetItem this args).Oblivious S w w' (World.Clear S) := by
  unfold arraySetItem
  apply follows_lift_bind hw rfl
  rintro ⟨key, v⟩ h
  apply follows_world_bind
  apply follows_lift_bind hw (hw.subscript_eq _ (hargs key (Arguments.mem_of_two h).1))
  intro index _
  apply (converted_follows hw (hargs v (Arguments.mem_of_two h).2)).bind
  intro u w₁ w₁' honward hu
  apply (itemsOf_follows honward.beside (honward.outside hthis)).bind
  intro items w₂ w₂' honward₂ hitems
  apply follows_lift_bind honward₂.beside rfl
  intro place _
  -- Of the new elements one is what has been given, and the others are old ones.
  have hnew : w₂.ClearAll S (items.set place u) := by
    intro x hx
    rcases List.mem_or_eq_of_mem_set hx with hx | rfl
    · exact hitems x hx
    · exact honward₂.clear hu
  exact storeItems_follows honward₂.beside (honward₂.outside (honward.outside hthis)) hnew
      Value.within_null

theorem arrayLength_follows (hw : w.Beside S w') (hthis : w.Outside S this) :
    (arrayLength this args).Oblivious S w w' (World.Clear S) := by
  unfold arrayLength
  apply follows_lift_bind hw rfl
  intro _ _
  apply (itemsOf_follows hw hthis).bind
  intro items w₁ w₁' honward _
  exact follows_pure honward.beside (Value.within_int _)

theorem find_follows (hw : w.Beside S w') (hthis : w.Outside S this) {v : Value}
    (hv : w.Clear S v) : (find this v).Oblivious S w w' fun _ _ => True := by
  unfold find
  apply follows_world_bind
  apply follows_lift_bind hw (hw.items_eq hthis)
  intro items hitems
  rw [hw.unwrap_eq hv, hw.positionOf_eq (hw.clearAll_items hitems) (hw.clear_unwrap hv)]
  exact follows_ofTerminating hw fun _ h => h

theorem occurrencesOf_follows (hw : w.Beside S w') (hthis : w.Outside S this) {v : Value}
    (hv : w.Clear S v) : (occurrencesOf this v).Oblivious S w w' fun _ _ => True := by
  unfold occurrencesOf
  apply follows_world_bind
  apply follows_lift_bind hw (hw.items_eq hthis)
  intro items hitems
  rw [hw.unwrap_eq hv, hw.occurrences_eq (hw.clearAll_items hitems) (hw.clear_unwrap hv)]
  exact follows_ofTerminating hw fun _ h => h

theorem insertionIndex_eq (h : w.Beside S w') {v : Value} (hv : w.Clear S v) :
    insertionIndex w' v = insertionIndex w v := by
  rw [insertionIndex, insertionIndex, h.unwrap_eq hv]

theorem extension_eq (h : w.Beside S w') {v : Value} (hv : w.Clear S v) :
    extension w' v = extension w v := by
  rw [extension, extension, h.unwrap_eq hv]

/-- Sorting compares the payloads of the elements, and names two of them if they
    have no order in common. -/
theorem sorted_eq (h : w.Beside S w') {items : List Value} (hitems : w.ClearAll S items) :
    sorted w' items = sorted w items := by
  have hkeys : items.map w'.unwrap = items.map w.unwrap :=
    List.map_congr_left fun v hv => h.unwrap_eq (hitems v hv)
  rw [sorted, sorted, hkeys]
  cases hcovering : SortOrder.covering (items.map w.unwrap) with
  | ok order =>
    -- The order looks at payloads only, and these are the same on all elements.
    have hsame := List.map_mergeSort (l := items) (f := id)
      (r := fun a b => order.le (w'.unwrap a) (w'.unwrap b))
      (s := fun a b => order.le (w.unwrap a) (w.unwrap b)) fun a ha b hb => by
        rw [h.unwrap_eq (hitems a ha), h.unwrap_eq (hitems b hb), id, id]
    rw [List.map_id, List.map_id] at hsame
    exact congrArg Except.ok hsame
  | error pair =>
    obtain ⟨a, b⟩ := pair
    have hclear : ∀ u ∈ items.map w.unwrap, w.Clear S u := by
      intro u hu
      obtain ⟨v, hv, rfl⟩ := List.mem_map.mp hu
      exact h.clear_unwrap (hitems v hv)
    obtain ⟨ha, hb⟩ := SortOrder.mem_of_covering_eq_error hcovering
    dsimp only
    rw [h.kindName_eq (hclear a ha), h.kindName_eq (hclear b hb)]

end Behaviour

open Behaviour in
/-- **Array methods** write the payload of their receiver at most. -/
theorem ArrayMethod.invoke_follows (method : ArrayMethod) (hw : w.Beside S w')
    (hthis : w.Outside S this) (hargs : w.ClearAll S args) :
    (method.invoke this args).Oblivious S w w' (World.Clear S) := by
  unfold ArrayMethod.invoke
  -- In each case: the arguments, then what is read, and then what is stored of both.
  cases method with
  | append =>
    apply follows_lift_bind hw rfl
    intro v h
    apply (converted_follows hw (hargs v (Arguments.mem_of_one h))).bind
    intro u w₁ w₁' honward hu
    apply (itemsOf_follows honward.beside (honward.outside hthis)).bind
    intro items w₂ w₂' honward₂ hitems
    have hnew : w₂.ClearAll S (items ++ [u]) :=
      List.forall_mem_append.mpr ⟨hitems, List.forall_mem_singleton.mpr (honward₂.clear hu)⟩
    exact storeItems_follows honward₂.beside (honward₂.outside (honward.outside hthis)) hnew
      Value.within_null
  | pop =>
    apply follows_lift_bind hw rfl
    intro _ _
    apply (itemsOf_follows hw hthis).bind
    intro items w₁ w₁' honward hitems
    cases hlast : items.getLast? with
    | none => exact follows_raise honward.beside _
    | some last =>
      have hrest : w₁.ClearAll S items.dropLast :=
        fun v hv => hitems v (List.dropLast_subset items hv)
      have hanswer : w₁.Clear S last := hitems last (List.mem_of_getLast? hlast)
      exact storeItems_follows honward.beside (honward.outside hthis) hrest hanswer
  | contains =>
    apply follows_lift_bind hw rfl
    intro v h
    apply (find_follows hw hthis (hargs v (Arguments.mem_of_one h))).bind
    intro found w₁ w₁' honward _
    exact follows_pure honward.beside (Value.within_bool _)
  | count =>
    apply follows_lift_bind hw rfl
    intro v h
    apply (occurrencesOf_follows hw hthis (hargs v (Arguments.mem_of_one h))).bind
    intro n w₁ w₁' honward _
    exact follows_pure honward.beside (Value.within_int _)
  | insert =>
    apply follows_lift_bind hw rfl
    rintro ⟨key, v⟩ h
    apply follows_world_bind
    apply follows_lift_bind hw (insertionIndex_eq hw (hargs key (Arguments.mem_of_two h).1))
    intro index _
    apply (converted_follows hw (hargs v (Arguments.mem_of_two h).2)).bind
    intro u w₁ w₁' honward hu
    apply (itemsOf_follows honward.beside (honward.outside hthis)).bind
    intro items w₂ w₂' honward₂ hitems
    have hnew : w₂.ClearAll S (items.insertIdx (insertionPoint items.length index) u) := by
      intro x hx
      rcases List.eq_or_mem_of_mem_insertIdx hx with rfl | hx
      · exact honward₂.clear hu
      · exact hitems x hx
    exact storeItems_follows honward₂.beside (honward₂.outside (honward.outside hthis)) hnew
      Value.within_null
  | remove =>
    apply follows_lift_bind hw rfl
    intro v h
    apply (find_follows hw hthis (hargs v (Arguments.mem_of_one h))).bind
    intro found w₁ w₁' honward _
    cases found with
    | none => exact follows_raise honward.beside _
    | some place =>
      apply (itemsOf_follows honward.beside (honward.outside hthis)).bind
      intro items w₂ w₂' honward₂ hitems
      have hrest : w₂.ClearAll S (items.eraseIdx place) :=
        fun v hv => hitems v (List.eraseIdx_subset hv)
      exact storeItems_follows honward₂.beside (honward₂.outside (honward.outside hthis)) hrest
        Value.within_null
  | sort =>
    apply follows_lift_bind hw rfl
    intro _ _
    apply follows_world_bind
    apply follows_lift_bind hw (hw.items_eq hthis)
    intro items hitems
    have hclear := hw.clearAll_items hitems
    apply follows_lift_bind hw (sorted_eq hw hclear)
    intro items' hsorted
    have hnew : w.ClearAll S items' := fun v hv => hclear v (sorted_subset hsorted hv)
    exact storeItems_follows hw hthis hnew Value.within_null
  | index =>
    apply follows_lift_bind hw rfl
    intro v h
    apply (find_follows hw hthis (hargs v (Arguments.mem_of_one h))).bind
    intro found w₁ w₁' honward _
    cases found with
    | none => exact follows_pure honward.beside (Value.within_int _)
    | some place => exact follows_pure honward.beside (Value.within_int _)
  | extend =>
    apply follows_lift_bind hw rfl
    intro v h
    have hv := hargs v (Arguments.mem_of_one h)
    apply follows_world_bind
    apply follows_lift_bind hw (extension_eq hw hv)
    intro more hmore
    have hvalue := hw.clear_unwrap hv
    rw [extension_eq_ok hmore] at hvalue
    obtain ⟨hfst, hconverted, hobjects⟩ := hw.toObjects (Value.within_list.mp hvalue)
    apply (follows_step (Q := World.ClearAll S) hfst hconverted hobjects).bind
    intro more' w₁ w₁' honward hmore'
    apply (itemsOf_follows honward.beside (honward.outside hthis)).bind
    intro items w₂ w₂' honward₂ hitems
    have hnew : w₂.ClearAll S (items ++ more') :=
      List.forall_mem_append.mpr ⟨hitems, honward₂.clearAll hmore'⟩
    exact storeItems_follows honward₂.beside (honward₂.outside (honward.outside hthis)) hnew
      Value.within_null
  | clear =>
    apply follows_lift_bind hw rfl
    intro _ _
    apply (itemsOf_follows hw hthis).bind
    intro _ w₁ w₁' honward _
    exact storeItems_follows honward.beside (honward.outside hthis)
      (fun v hv => absurd hv List.not_mem_nil) Value.within_null
  | reverse =>
    apply follows_lift_bind hw rfl
    intro _ _
    apply (itemsOf_follows hw hthis).bind
    intro items w₁ w₁' honward hitems
    have hnew : w₁.ClearAll S items.reverse := fun v hv => hitems v (List.mem_reverse.mp hv)
    exact storeItems_follows honward.beside (honward.outside hthis) hnew Value.within_null
  | copy =>
    apply follows_lift_bind hw rfl
    intro _ _
    apply (itemsOf_follows hw hthis).bind
    intro items w₁ w₁' honward hitems
    exact follows_pure honward.beside (Value.within_list.mpr hitems)

/-! ## Attributes -/

namespace World

theorem Beside.moduleName_eq (h : w.Beside S w') (hthis : w.Outside S this) :
    w'.moduleName this = w.moduleName this := by
  rw [moduleName, moduleName, h.property?_eq hthis]

theorem Beside.namespace?_eq (h : w.Beside S w') (hthis : w.Outside S this) :
    w'.namespace? this = w.namespace? this := by
  rw [namespace?, namespace?, h.property?_eq hthis]

theorem Beside.clear_namespace? (h : w.Beside S w') {entries : Bindings Value}
    (hentries : w.namespace? this = some entries) : w.Clear S (.dict entries) := by
  unfold namespace? at hentries
  split at hentries
  · next entries' hproperty =>
    obtain rfl := Option.some.inj hentries
    exact h.clear_property hproperty
  · cases hentries

theorem Beside.shapeOf_eq (h : w.Beside S w') (hthis : w.Outside S this) :
    w'.shapeOf this = w.shapeOf this := by
  rw [shapeOf, shapeOf, h.typeOf_eq hthis, h.typeName_eq hthis]

theorem Beside.checkMemberWrite_eq (h : w.Beside S w') (hthis : w.Outside S this)
    (shape : StructShape) (name : String) :
    w'.checkMemberWrite this shape name = w.checkMemberWrite this shape name := by
  rw [checkMemberWrite, checkMemberWrite, h.object_eq hthis]

theorem Beside.attributeName_eq (h : w.Beside S w') {v : Value} (hv : w.Clear S v) :
    Arguments.attributeName w' v = Arguments.attributeName w v := by
  cases v with
  | object o =>
    rw [Arguments.attributeName, Arguments.attributeName, h.kindName_eq hv]
    · exact fun _ he => nomatch he
    · exact fun _ he => nomatch he
  | _ => rfl

end World

namespace AttributeStore

theorem get_eq (h : w.Beside S w') (hthis : w.Outside S this) (store : AttributeStore)
    (name : String) : store.get w' this name = store.get w this name := by
  cases store with
  | properties => rw [get, get, h.property?_eq hthis, h.typeName_eq hthis]
  | moduleNames => rw [get, get, h.namespace?_eq hthis, h.moduleName_eq hthis]
  | structMembers => rw [get, get, h.shapeOf_eq hthis, h.property?_eq hthis]

theorem clear_get (h : w.Beside S w') {store : AttributeStore} {name : String} {v : Value}
    (hget : store.get w this name = .ok v) : w.Clear S v := by
  -- What is read is a property, an entry of one, or null.
  cases store with
  | properties =>
    rw [get] at hget
    split at hget
    · next u hu =>
      obtain rfl := Except.ok.inj hget
      exact h.clear_property hu
    · cases hget
  | moduleNames =>
    rw [get] at hget
    split at hget
    · next u hu =>
      obtain rfl := Except.ok.inj hget
      obtain ⟨entries, hentries, hu⟩ := Option.bind_eq_some_iff.mp hu
      exact Value.within_dict.mp (h.clear_namespace? hentries) _
        (Bindings.mem_of_get?_eq_some hu)
    · cases hget
  | structMembers =>
    rw [get] at hget
    cases hshape : w.shapeOf this with
    | error f =>
      rw [hshape] at hget
      cases hget
    | ok shape =>
      rw [hshape] at hget
      simp only [bind, Except.bind] at hget
      split at hget
      · next u hu =>
        obtain rfl := Except.ok.inj hget
        exact h.clear_property hu
      · split at hget
        · obtain rfl := Except.ok.inj hget
          exact Value.within_object.mpr h.nullObject
        · cases hget

theorem getHandler_follows (store : AttributeStore) (hw : w.Beside S w')
    (hthis : w.Outside S this) (hargs : w.ClearAll S args) :
    (store.getHandler this args).Oblivious S w w' (World.Clear S) := by
  unfold getHandler
  apply follows_lift_bind hw rfl
  intro v h
  apply follows_world_bind
  apply follows_lift_bind hw (hw.attributeName_eq (hargs v (Arguments.mem_of_one h)))
  intro name _
  exact follows_lift hw (get_eq hw hthis store name) fun _ hget => clear_get hw hget

theorem set_follows (store : AttributeStore) (hw : w.Beside S w') (hthis : w.Outside S this)
    (name : String) {v : Value} (hv : w.Clear S v) :
    (set this name v store).Oblivious S w w' fun _ _ => True := by
  have hconverted := Behaviour.converted_follows hw hv
  cases store with
  | properties => exact follows_modify (hw.setProperty hthis name hv)
  | moduleNames =>
    unfold set
    apply hconverted.bind
    intro u w₁ w₁' honward hu
    apply follows_world_bind
    rw [honward.beside.namespace?_eq (honward.outside hthis),
      honward.beside.moduleName_eq (honward.outside hthis)]
    cases hentries : w₁.namespace? this with
    | none => exact follows_raise honward.beside _
    | some entries =>
      apply follows_modify
      apply honward.beside.setProperty (honward.outside hthis)
      refine Value.within_dict.mpr fun entry hentry => ?_
      rcases Bindings.mem_set hentry with rfl | hentry
      · exact hu
      · -- All other entries have been there before.
        exact Value.within_dict.mp (honward.beside.clear_namespace? hentries) entry hentry
  | structMembers =>
    unfold set
    apply follows_world_bind
    apply follows_lift_bind hw (hw.shapeOf_eq hthis)
    intro shape _
    apply follows_lift_bind hw (hw.checkMemberWrite_eq hthis shape name)
    intro _ _
    apply hconverted.bind
    intro u w₁ w₁' honward hu
    exact follows_modify (honward.beside.setProperty (honward.outside hthis) name hu)

theorem setHandler_follows (store : AttributeStore) (hw : w.Beside S w')
    (hthis : w.Outside S this) (hargs : w.ClearAll S args) :
    (store.setHandler this args).Oblivious S w w' (World.Clear S) := by
  unfold setHandler
  apply follows_lift_bind hw rfl
  rintro ⟨key, v⟩ h
  apply follows_world_bind
  apply follows_lift_bind hw (hw.attributeName_eq (hargs key (Arguments.mem_of_two h).1))
  intro name _
  apply (set_follows store hw hthis name (hargs v (Arguments.mem_of_two h).2)).bind
  intro _ w₁ w₁' honward _
  exact follows_pure honward.beside Value.within_null

end AttributeStore

/-! ## Arithmetic -/

namespace Behaviour

theorem combine_eq (h : w.Beside S w') (op : NumberOp) (hthis : w.Outside S this) {other : Value}
    (hother : w.Clear S other) : combine w' op this other = combine w op this other := by
  rw [combine, combine, h.unwrap_eq (Value.within_object.mpr hthis), h.unwrap_eq hother,
    h.typeName_eq hthis, h.kindName_eq hother]

theorem arithmetic_follows (op : NumberOp) (hw : w.Beside S w') (hthis : w.Outside S this)
    (hargs : w.ClearAll S args) :
    (arithmetic op this args).Oblivious S w w' (World.Clear S) := by
  unfold arithmetic
  apply follows_lift_bind hw rfl
  intro other h
  apply follows_world_bind
  apply follows_lift_bind hw (combine_eq hw op hthis (hargs other (Arguments.mem_of_one h)))
  intro a _
  have ha : w.Clear S a.toValue := by cases a <;> simp [Number.toValue]
  exact converted_follows hw ha

end Behaviour

end DynamicObjects
