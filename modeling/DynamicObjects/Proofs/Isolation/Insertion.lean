import DynamicObjects.Proofs.Heap.Lifetime
import DynamicObjects.Proofs.Isolation.Confined

/-! # Insertion

    Two worlds come to lie side by side when one of them declares types: nothing
    refers to what a declaration adds, and this refers to nothing that existed.
    The other world passes over the places and identities that are taken, so that
    new objects go to the same places in both.

    Main results:
    - `World.Beside.insert`: worlds stay side by side when one of them declares
      types
    - `World.Beside.kept_iff`: what is set apart keeps nothing alive but itself
    - `World.Beside.collect`: worlds stay side by side when objects are released -/

namespace DynamicObjects

/-! ## What is set apart -/

namespace Apart

/-- Nothing is set apart. -/
def nothing : Apart := ⟨fun _ => False, fun _ => False⟩

/-- After a world has grown, all that is new in it is set apart, too. -/
def grown (S : Apart) (w w₁ : World) : Apart where
  objects o := S.objects o ∨ w.heap.size ≤ o.index ∧ o.index < w₁.heap.size
  idents n := S.idents n ∨ w.nextIdent ≤ n ∧ n < w₁.nextIdent

end Apart

mutual

/-- The references of a value are among its nodes. -/
theorem Value.Within.references {K : Places} {v : Value} (h : v.Within K) :
    ∀ p ∈ v.references, K p := by
  match v with
  | .object o => exact List.forall_mem_singleton.mpr (Value.within_object.mp h)
  | .list items => exact Value.Within.referencesList (Value.within_list.mp h)
  | .dict entries => exact Value.Within.referencesEntries (Value.within_dict.mp h)
  | .null | .bool _ | .int _ | .float _ | .complex _ | .text _ | .function _ | .foreign _ =>
    exact fun p hp => absurd hp List.not_mem_nil

theorem Value.Within.referencesList {K : Places} {items : List Value}
    (h : ∀ v ∈ items, v.Within K) : ∀ p ∈ Value.referencesList items, K p := by
  match items with
  | [] => exact fun p hp => absurd hp List.not_mem_nil
  | v :: rest =>
    obtain ⟨hv, hrest⟩ := List.forall_mem_cons.mp h
    exact List.forall_mem_append.mpr ⟨hv.references, Value.Within.referencesList hrest⟩

theorem Value.Within.referencesEntries {K : Places} {entries : List (String × Value)}
    (h : ∀ entry ∈ entries, entry.2.Within K) : ∀ p ∈ Value.referencesEntries entries, K p := by
  match entries with
  | [] => exact fun p hp => absurd hp List.not_mem_nil
  | (_, v) :: rest =>
    obtain ⟨hv, hrest⟩ := List.forall_mem_cons.mp h
    exact List.forall_mem_append.mpr ⟨hv.references, Value.Within.referencesEntries hrest⟩

end

namespace World

variable {S : Apart} {w w' w₁' : World} {roots roots' : List ObjectId}

theorem ClearObject.references {x : Object} (hx : w.ClearObject S x) :
    ∀ p ∈ x.references, w.Outside S p := by
  intro p hp
  rcases Object.mem_references.mp hp with ⟨entry, hentry, hp⟩ | hp
  · exact (hx.properties entry hentry).references p hp
  · exact hx.type.shared p hp

/-- A world is **grounded** if it refers to nothing but what exists or has existed. -/
abbrev Grounded (w : World) : Prop := w.Beside .nothing w

theorem grounded_iff :
    w.Grounded ↔ (∀ o x, w.object? o = some x → w.ClearObject .nothing x) ∧
      ∀ o ∈ singletons, o.index < w.heap.size := by
  constructor
  · exact fun h => ⟨fun _ _ hx => h.clear hx, fun o ho => (h.singletons o ho).1⟩
  · rintro ⟨hclear, hsingletons⟩
    exact ⟨rfl, rfl, fun _ => rfl, fun hx => hclear _ _ hx, fun h => h.elim, fun _ _ h => h.elim,
      fun h => h.elim, fun h => h.elim, fun o ho => ⟨hsingletons o ho, id⟩⟩

theorem grounded_initial : initial.Grounded := by
  refine grounded_iff.mpr ⟨?_, by decide⟩
  have hobject : ∀ {T : TypeDescriptor} {v : Value}, T ∈ TypeDescriptor.builtins →
      initial.Clear .nothing v →
      initial.ClearObject .nothing ((Object.bare T).setProperty payloadName v) :=
    fun hT hv => ⟨clearType_builtin hT, List.forall_mem_singleton.mpr hv⟩
  rintro ⟨_ | _ | _ | i⟩ x hx <;> cases hx
  · exact hobject (by simp [TypeDescriptor.builtins]) Value.within_null
  · exact hobject (by simp [TypeDescriptor.builtins]) (Value.within_bool true)
  · exact hobject (by simp [TypeDescriptor.builtins]) (Value.within_bool false)

/-! ## Insertion -/

/-- Pass over some places and some identities, as if what they stand for had been
    released at once. -/
def passOver (w : World) (places idents : Nat) : World :=
  { w with heap := w.heap ++ Array.replicate places none, nextIdent := w.nextIdent + idents }

@[simp] theorem size_passOver (w : World) (places idents : Nat) :
    (w.passOver places idents).heap.size = w.heap.size + places := by
  simp [passOver]

@[simp] theorem object?_passOver (w : World) (places idents : Nat) (o : ObjectId) :
    (w.passOver places idents).object? o = w.object? o := by
  rw [object?, object?, passOver, Array.getElem?_append]
  split
  · rfl
  · next hlt =>
    rw [Array.getElem?_eq_none (Nat.le_of_not_lt hlt), Array.getElem?_replicate]
    split <;> rfl

theorem WellFormed.passOver (hw : w.WellFormed) (places idents : Nat) :
    (w.passOver places idents).WellFormed := by
  have hlater : w.Later (w.passOver places idents) := by
    refine ⟨by rw [size_passOver]; exact Nat.le_add_right _ _, fun _ => ?_⟩
    rw [object?_passOver]
  refine ⟨⟨?_, ?_⟩, ?_⟩
  · intro o x hx entry hentry
    rw [object?_passOver] at hx
    exact (hw.supports hx entry hentry).later hlater
  · intro o x hx
    rw [object?_passOver] at hx
    exact hw.names hx
  · intro o
    rw [object, object?_passOver]
    exact hw.settled o

/-- **Insertion**: if the second world goes on and what it adds is confined, then
    the first one lies beside it as soon as it has passed over what is new. -/
theorem Beside.insert (h : w.Beside S w') (hextends : w'.Extends w₁') (hgrounded : w₁'.Grounded)
    (hconfined : ∀ K : Apart, (∀ o : ObjectId, w'.heap.size ≤ o.index → K.objects o) →
      (∀ n, w'.nextIdent ≤ n → K.idents n) → w'.Confined K → w₁'.Confined K) :
    (w.passOver (w₁'.heap.size - w'.heap.size) (w₁'.nextIdent - w'.nextIdent)).Beside
      (S.grown w' w₁') w₁' := by
  have hsize := h.size_eq
  have hident := h.nextIdent_eq
  have hgrows := hextends.size_le
  have hgives := hextends.nextIdent_le
  have hsize₁ : (w.passOver (w₁'.heap.size - w'.heap.size)
      (w₁'.nextIdent - w'.nextIdent)).heap.size = w₁'.heap.size := by
    rw [size_passOver]
    omega
  have hident₁ : (w.passOver (w₁'.heap.size - w'.heap.size)
      (w₁'.nextIdent - w'.nextIdent)).nextIdent = w₁'.nextIdent := by
    change w.nextIdent + (w₁'.nextIdent - w'.nextIdent) = w₁'.nextIdent
    omega
  have hobject₁ := object?_passOver w (w₁'.heap.size - w'.heap.size)
    (w₁'.nextIdent - w'.nextIdent)
  generalize w.passOver (w₁'.heap.size - w'.heap.size) (w₁'.nextIdent - w'.nextIdent) = w₁
    at hsize₁ hident₁ hobject₁ ⊢
  have houtside : ∀ {o}, w.Outside S o → w₁.Outside (S.grown w' w₁') o := by
    rintro o ⟨hlt, hS⟩
    refine ⟨by omega, ?_⟩
    rintro (hold | ⟨hnew, -⟩)
    · exact hS hold
    · omega
  constructor
  case size_eq => exact hsize₁.symm
  case nextIdent_eq => exact hident₁.symm
  case object?_eq =>
    intro o ho
    rw [hobject₁]
    by_cases hlt : o.index < w'.heap.size
    · rw [hextends.object?_eq hlt, h.object?_eq fun hS => ho (.inl hS)]
    -- What is new and not set apart lies beyond both worlds.
    · have hbeyond : w₁'.heap.size ≤ o.index :=
        Nat.le_of_not_lt fun hnew => ho (.inr ⟨by omega, hnew⟩)
      rw [object?_eq_none_of_size_le hbeyond, object?_eq_none_of_size_le (by omega)]
  case clear =>
    intro o x hx
    rw [hobject₁] at hx
    have hclear := h.clear hx
    refine ⟨⟨fun p hp => houtside (hclear.type.shared p hp), fun n hn => ?_⟩,
      fun entry hentry => (hclear.properties entry hentry).mono fun _ hp => houtside hp⟩
    obtain ⟨hlt, hS⟩ := hclear.type.ident n hn
    refine ⟨by omega, ?_⟩
    rintro (hold | ⟨hnew, -⟩)
    · exact hS hold
    · omega
  case vacant =>
    intro o ho
    rw [hobject₁]
    rcases ho with hS | ⟨hnew, -⟩
    · exact h.vacant hS
    · exact object?_eq_none_of_size_le (by omega)
  case confined =>
    -- Whatever is to come counts as new as well: it has not been referred to yet.
    let K : Apart :=
      ⟨fun o => S.objects o ∨ w'.heap.size ≤ o.index, fun n => S.idents n ∨ w'.nextIdent ≤ n⟩
    have hbefore : w'.Confined K := by
      intro o x ho hx
      have hS : S.objects o := ho.resolve_right fun hnew =>
        absurd (index_lt_of_object?_eq_some hx) (Nat.not_lt.mpr hnew)
      obtain ⟨htype, hreferences⟩ := h.confined hS hx
      refine ⟨htype.imp_right ?_, fun p hp => (hreferences p hp).imp_left .inl⟩
      rintro ⟨shape, n, hstruct, hn⟩
      exact ⟨shape, n, hstruct, .inl hn⟩
    intro o x ho hx
    obtain ⟨htype, hreferences⟩ := hconfined K (fun _ => .inr) (fun _ => .inr) hbefore
      (ho.imp_right And.left) hx
    have hclear := hgrounded.clear hx
    refine ⟨htype.imp_right ?_, fun p hp => ?_⟩
    · rintro ⟨shape, n, hstruct, hn⟩
      exact ⟨shape, n, hstruct, hn.imp_right fun hnew => ⟨hnew, (hclear.type.ident n (by
        rw [hstruct]; rfl)).1⟩⟩
    · rcases hreferences p hp with (hS | hnew) | hsingle
      · exact .inl (.inl hS)
      · exact .inl (.inr ⟨hnew, (hclear.references p hp).1⟩)
      · exact .inr hsingle
  case index_lt =>
    rintro o (hS | ⟨-, hnew⟩)
    · have hlt := h.index_lt hS
      omega
    · omega
  case ident_lt =>
    rintro n (hS | ⟨-, hnew⟩)
    · have hlt := h.ident_lt hS
      omega
    · omega
  case singletons => exact fun o ho => houtside (h.singletons o ho)

/-! ## Releases -/

/-- The declared types of two worlds **own alike** if each of their shared methods
    is kept alive in the other world, too, unless it is set apart. -/
structure OwnAlike (S : Apart) (w w' : World) (roots roots' : List ObjectId) : Prop where
  kept : ∀ entry ∈ w.declared, ∀ o ∈ entry.2.sharedMethods, w'.Kept roots' o
  kept_back : ∀ entry ∈ w'.declared, ∀ o ∈ entry.2.sharedMethods, ¬ S.objects o → w.Kept roots o

theorem ownAlike_of_nothing_shared (h : ∀ entry ∈ w.declared, entry.2.sharedMethods = [])
    (h' : ∀ entry ∈ w'.declared, entry.2.sharedMethods = []) : w.OwnAlike S w' roots roots' := by
  refine ⟨fun entry hentry o ho => ?_, fun entry hentry o ho => ?_⟩
  · rw [h entry hentry] at ho
    cases ho
  · rw [h' entry hentry] at ho
    cases ho

theorem mem_ownRoots {o : ObjectId} :
    o ∈ w.ownRoots ++ roots ↔ o ∈ singletons ∨
      (∃ entry ∈ w.declared, o ∈ entry.2.sharedMethods) ∨ o ∈ roots := by
  rw [List.mem_append, ownRoots, List.mem_append, List.mem_flatMap, or_assoc]

theorem Kept.of_singleton {o : ObjectId} (ho : o ∈ singletons) : w.Kept roots o :=
  .root (mem_ownRoots.mpr (.inl ho))

theorem Kept.of_root {o : ObjectId} (ho : o ∈ roots) : w.Kept roots o :=
  .root (mem_ownRoots.mpr (.inr (.inr ho)))

/-- What is set apart keeps nothing alive but itself. -/
theorem Beside.kept_iff (h : w.Beside S w')
    (hroots : ∀ o, ¬ S.objects o → (o ∈ roots' ↔ o ∈ roots))
    (halike : w.OwnAlike S w' roots roots') {o : ObjectId} (ho : ¬ S.objects o) :
    w'.Kept roots' o ↔ w.Kept roots o := by
  constructor
  · intro hkept
    refine Kept.of_each (P := fun q => ¬ S.objects q ∧ w'.Kept roots' q) ?_ ⟨ho, hkept⟩
    rintro q ⟨hq, hkept⟩
    rcases ownedWithin_kept w' roots' q hkept with hroot | ⟨p, hp, howned⟩
    · rcases mem_ownRoots.mp hroot with hsingle | ⟨entry, hentry, hshared⟩ | hroot
      · exact .inl (.of_singleton hsingle)
      · exact .inl (halike.kept_back entry hentry q hshared hq)
      · exact .inl (.of_root ((hroots q hq).mp hroot))
    · -- What is set apart owns nothing outside but singletons, which are kept anyway.
      by_cases hS : S.objects p
      · obtain ⟨x, hx, hreference⟩ := mem_owned_iff.mp howned
        have hsingle := ((h.confined hS hx).references q hreference).resolve_left hq
        exact .inl (.of_singleton hsingle)
      · rw [World.owned, h.object?_eq hS, ← World.owned] at howned
        exact .inr ⟨p, ⟨hS, hp⟩, howned⟩
  · intro hkept
    refine Kept.of_each (P := fun q => ¬ S.objects q ∧ w.Kept roots q) ?_ ⟨ho, hkept⟩
    rintro q ⟨hq, hkept⟩
    rcases ownedWithin_kept w roots q hkept with hroot | ⟨p, hp, howned⟩
    · rcases mem_ownRoots.mp hroot with hsingle | ⟨entry, hentry, hshared⟩ | hroot
      · exact .inl (.of_singleton hsingle)
      · exact .inl (halike.kept entry hentry q hshared)
      · exact .inl (.of_root ((hroots q hq).mpr hroot))
    · have hS : ¬ S.objects p := by
        intro hS
        obtain ⟨x, hx, -⟩ := mem_owned_iff.mp howned
        rw [h.vacant hS] at hx
        cases hx
      rw [World.owned, ← h.object?_eq hS, ← World.owned] at howned
      exact .inr ⟨p, ⟨hS, hp⟩, howned⟩

/-- **Release**: worlds side by side stay so if the same objects are kept alive. -/
theorem Beside.collect (h : w.Beside S w')
    (hkept : ∀ o, ¬ S.objects o → (w'.Kept roots' o ↔ w.Kept roots o)) :
    (w.collect roots).Beside S (w'.collect roots') := by
  have hsize : w.heap.size ≤ (w.collect roots).heap.size := Nat.le_of_eq (size_collect w _).symm
  -- Nothing but the objects that are there can be told apart after a release.
  constructor
  case size_eq => rw [size_collect, size_collect, h.size_eq]
  case nextIdent_eq => rw [nextIdent_collect, nextIdent_collect, h.nextIdent_eq]
  case object?_eq =>
    intro o ho
    by_cases hlives : w.Kept roots o
    · rw [object?_collect_of_kept hlives, object?_collect_of_kept ((hkept o ho).mpr hlives),
        h.object?_eq ho]
    · have hdies : ¬ w'.Kept roots' o := fun hlives' => hlives ((hkept o ho).mp hlives')
      rw [object?_collect_of_not_kept hlives, object?_collect_of_not_kept hdies]
  case clear =>
    exact fun hx => (h.clear (object?_collect hx)).mono hsize (Nat.le_of_eq (nextIdent_collect ..).symm)
  case vacant => exact fun ho => object?_collect_of_none (h.vacant ho)
  case confined => exact fun _ _ ho hx => h.confined ho (object?_collect hx)
  case index_lt => exact fun ho => Nat.lt_of_lt_of_le (h.index_lt ho) hsize
  case ident_lt =>
    rw [nextIdent_collect]
    exact h.ident_lt
  case singletons => exact fun o ho => (h.singletons o ho).mono hsize

end World

end DynamicObjects
