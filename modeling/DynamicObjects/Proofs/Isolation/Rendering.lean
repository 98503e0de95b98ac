import DynamicObjects.Proofs.Isolation.Behaviour
import DynamicObjects.Proofs.Rendering.Guard

/-! # Rendering side by side

    To show a value follows its elements, which are the same in worlds side by
    side.  How deep a rendering may go is computed from the whole world; there
    is at least as much depth beside, and more depth changes no text. -/

namespace DynamicObjects

open Run

/-- The handlers of a host are **oblivious** of some places if they have the same
    effect in worlds side by side: they reach nothing but what they are given
    and what that leads to, and they look up no type by name. -/
def Natives.Oblivious (natives : Natives) (S : Apart) : Prop :=
  ∀ (name : String) (this : ObjectId) (args : List Value) (w w' : World), w.Beside S w' →
    w.Outside S this → w.ClearAll S args →
    (natives name this args).Oblivious S w w' (World.Clear S)

variable {S : Apart} {w w' : World} {this : ObjectId} {args : List Value}

/-! ## Computations that show arrays -/

namespace Showing

variable {α β : Type} {P Q : World → α → Prop} {R : World → β → Prop}

/-- One computation **follows** another whatever is being shown. -/
def Follows (r r' : Showing α) (S : Apart) (w w' : World) (Q : World → α → Prop) : Prop :=
  ∀ shown, (r shown).Follows (r' shown) S w w' fun w₁ result => ∀ a, result.1 = .ok a → Q w₁ a

theorem follows_pure (hw : w.Beside S w') {a : α} (ha : Q w a) :
    (pure a : Showing α).Follows (pure a) S w w' Q := by
  refine fun shown => Run.follows_pure hw fun b hb => ?_
  obtain rfl := Except.ok.inj hb
  exact ha

theorem follows_ofRun {r r' : Run α} (h : r.Follows r' S w w' Q) :
    (ofRun r).Follows (ofRun r') S w w' Q :=
  fun _ => h.attempt.bind fun _ _ _ honward hresult => Run.follows_pure honward.beside hresult

theorem Follows.bind {r r' : Showing α} {next next' : α → Showing β} (h : r.Follows r' S w w' P)
    (hnext : ∀ a w₁ w₁', w.Onward S w₁ w₁' → P w₁ a →
      (next a).Follows (next' a) S w₁ w₁' R) :
    (r >>= next).Follows (r' >>= next') S w w' R := by
  intro shown
  refine (h shown).bind fun result w₁ w₁' honward hresult => ?_
  obtain ⟨_ | a, shown₁⟩ := result
  · exact Run.follows_pure honward.beside fun _ hb => by cases hb
  · exact hnext a w₁ w₁' honward (hresult a rfl) shown₁

theorem Follows.guarded {r r' : Showing α} (h : r.Follows r' S w w' Q) (o : ObjectId) :
    (guarded o r).Follows (guarded o r') S w w' Q :=
  fun shown => (h (shown.insert o)).bind fun _ _ _ honward hresult =>
    Run.follows_pure honward.beside hresult

theorem Follows.during {r r' : Showing α} (h : r.Follows r' S w w' Q) (shown : ObjectSet) :
    (r.during shown).Follows (r'.during shown) S w w' Q := by
  refine (h shown).bind fun result w₁ w₁' honward hresult => ?_
  obtain ⟨_ | a, shown₁⟩ := result
  · exact follows_raise honward.beside _
  · exact Run.follows_pure honward.beside (hresult a rfl)

theorem follows_read_bind {view : World → α} {next next' : α → Showing β}
    (h : (next (view w)).Follows (next' (view w')) S w w' R) :
    (ofRun (Run.read view) >>= next).Follows (ofRun (Run.read view) >>= next') S w w' R :=
  fun shown => ⟨fun hdone => (h shown).done hdone, fun hraised => (h shown).raised hraised⟩

end Showing

/-! ## Renderings without elements -/

namespace World

theorem Beside.textOf_eq (h : w.Beside S w') (hthis : w.Outside S this) :
    Rendering.textOf w' this = Rendering.textOf w this :=
  Rendering.textOf_congr (h.payload?_eq hthis)

theorem Beside.identityText_eq (h : w.Beside S w') (hthis : w.Outside S this) :
    Rendering.identityText w' this = Rendering.identityText w this := by
  rw [Rendering.identityText, Rendering.identityText, h.typeName_eq hthis]

theorem Beside.structText_eq (h : w.Beside S w') (hthis : w.Outside S this) :
    Rendering.structText w' this = Rendering.structText w this := by
  rw [Rendering.structText, Rendering.structText, h.shapeOf_eq hthis, h.object_eq hthis]

theorem Beside.boolText_eq (h : w.Beside S w') (hthis : w.Outside S this) :
    Rendering.boolText w' this = Rendering.boolText w this := by
  rw [Rendering.boolText, Rendering.boolText, h.payload?_eq hthis]
  cases hpayload : w.payload? this with
  | none => rfl
  | some v => exact congrArg (Option.map _) (h.truth_eq (h.clear_property hpayload))

theorem Beside.wrapperText_eq (h : w.Beside S w') (hthis : w.Outside S this) :
    Rendering.wrapperText w' this = Rendering.wrapperText w this := by
  have hkind : (w.payload? this).map w'.kindName = (w.payload? this).map w.kindName :=
    Option.map_congr fun v hv => h.kindName_eq (h.clear_property hv)
  unfold Rendering.wrapperText
  rw [h.payload?_eq hthis, hkind]

end World

theorem Rendering.alone_follows (hw : w.Beside S w') (hthis : w.Outside S this)
    (how : Rendering) : (how.alone this).Oblivious S w w' (World.Clear S) := by
  unfold Rendering.alone
  apply follows_world_bind
  cases how with
  | array | null => exact follows_pure hw (Value.within_text _)
  -- An object shows its place, its type or its payload, which are the same on both sides.
  | identity =>
    dsimp only
    rw [hw.identityText_eq hthis]
    exact follows_pure hw (Value.within_text _)
  | bool =>
    dsimp only
    rw [hw.boolText_eq hthis]
    apply (follows_ofTerminating hw fun _ h => h).bind
    intro text w₁ w₁' honward _
    exact follows_pure honward.beside (Value.within_text _)
  | integer | float | complex =>
    dsimp only
    rw [numberText_congr (hw.payload?_eq hthis)]
    exact follows_pure hw (Value.within_text _)
  | text | quotedText =>
    dsimp only
    rw [hw.textOf_eq hthis]
    exact follows_pure hw (Value.within_text _)
  | module =>
    dsimp only
    rw [hw.moduleName_eq hthis]
    exact follows_pure hw (Value.within_text _)
  | struct =>
    apply follows_lift_bind hw (hw.structText_eq hthis)
    intro text _
    exact follows_pure hw (Value.within_text _)
  | function =>
    dsimp only
    rw [functionText_congr (hw.payload?_eq hthis)]
    exact follows_pure hw (Value.within_text _)
  | wrapper =>
    dsimp only
    rw [hw.wrapperText_eq hthis]
    exact follows_pure hw (Value.within_text _)

theorem Rendering.expectText_follows (hw : w.Beside S w') (slot : Slot) {v : Value}
    (hv : w.Clear S v) :
    (Rendering.expectText slot v).Oblivious S w w' fun _ _ => True := by
  unfold Rendering.expectText
  apply follows_world_bind
  have hvalue := hw.clear_unwrap hv
  rw [hw.unwrap_eq hv]
  split
  · exact follows_pure hw trivial
  · rw [hw.kindName_eq hvalue]
    exact follows_raise hw _

/-! ## Rendering along the elements -/

section rendering
variable {element : Value → Showing String}
    (helement : ∀ {v : Value} {w w' : World}, w.Beside S w' → w.Clear S v →
      (element v).Follows (element v) S w w' fun _ _ => True)
include helement

theorem showAll_follows (hw : w.Beside S w') {items : List Value} (hitems : w.ClearAll S items) :
    (showAll element items).Follows (showAll element items) S w w' fun _ _ => True := by
  induction items generalizing w w' with
  | nil => exact Showing.follows_pure hw trivial
  | cons v rest ih =>
    unfold showAll
    obtain ⟨hv, hrest⟩ := List.forall_mem_cons.mp hitems
    apply (helement hw hv).bind
    intro text w₁ w₁' honward _
    apply (ih honward.beside (honward.clearAll hrest)).bind
    intro texts w₂ w₂' honward₂ _
    exact Showing.follows_pure honward₂.beside trivial

theorem Rendering.run_follows (hw : w.Beside S w') (hthis : w.Outside S this) (how : Rendering) :
    (how.run element this).Follows (how.run element this) S w w' (World.Clear S) := by
  intro shown
  unfold Rendering.run
  split
  · refine Showing.Follows.guarded (Showing.follows_read_bind ?_) this shown
    have hitems : (ofExcept (w.items this)).Follows (ofExcept (w'.items this)) S w w'
        (World.ClearAll S) :=
      follows_lift hw (hw.items_eq hthis) fun _ h => hw.clearAll_items h
    refine (Showing.follows_ofRun hitems).bind fun items w₁ w₁' honward hclear => ?_
    refine (showAll_follows helement honward.beside hclear).bind
      fun texts w₂ w₂' honward₂ _ => ?_
    exact Showing.follows_pure honward₂.beside (Value.within_text _)
  · exact Showing.follows_ofRun (alone_follows hw hthis how) shown

end rendering

theorem toObject_follows (hw : w.Beside S w') {v : Value} (hv : w.Clear S v) :
    (Run.step fun w => w.toObject v).Oblivious S w w' (World.Outside S) :=
  have hobject := hw.toObject hv
  follows_step hobject.fst_eq hobject.onward hobject.outside

/-! ## The depth of a rendering -/

namespace World

/-- Worlds side by side have the same nodes but for those in the vacant places. -/
theorem Beside.weight_le (h : w.Beside S w') : w.weight ≤ w'.weight := by
  have hslots : List.Forall₂ (fun slot slot' => slot = none ∨ slot = slot') w.heap.toList
      w'.heap.toList := by
    rw [List.forall₂_iff_get]
    refine ⟨by simp [h.size_eq], fun i hi hi' => ?_⟩
    have hslot : w.object? ⟨i⟩ = w.heap.toList.get ⟨i, hi⟩ := by
      rw [object?, Array.getElem?_eq_getElem (by simpa using hi)]
      simp
    have hslot' : w'.object? ⟨i⟩ = w'.heap.toList.get ⟨i, hi'⟩ := by
      rw [object?, Array.getElem?_eq_getElem (by simpa using hi')]
      simp
    by_cases hS : S.objects ⟨i⟩
    · exact .inl (hslot.symm.trans (h.vacant hS))
    · exact .inr (hslot.symm.trans ((h.object?_eq hS).symm.trans hslot'))
  -- The weight counts nodes, slot by slot, and a vacant slot has none.
  rw [← length_nodes, ← length_nodes, nodes, nodes]
  generalize w.heap.toList = slots at hslots ⊢
  generalize w'.heap.toList = slots' at hslots ⊢
  induction hslots with
  | nil => exact Nat.le_refl _
  | cons hslot _ ih =>
    rw [List.flatMap_cons, List.flatMap_cons, List.length_append, List.length_append]
    refine Nat.add_le_add ?_ ih
    rcases hslot with rfl | rfl
    · exact Nat.zero_le _
    · exact Nat.le_refl _

theorem Beside.renderingDepth_le (h : w.Beside S w') (v : Value) :
    w.renderingDepth v ≤ w'.renderingDepth v := by
  rw [renderingDepth, renderingDepth, h.size_eq]
  exact Nat.mul_le_mul_left _ (Nat.add_le_add_right (Nat.add_le_add_right h.weight_le _) _)

end World

/-! ## Rendering -/

namespace Natives

variable {natives : Natives} (hnatives : natives.Oblivious S)
include hnatives

theorem showObject_follows (depth : Nat) (hw : w.Beside S w') (hthis : w.Outside S this)
    (form : TextForm) :
    (natives.showObject depth form this).Follows (natives.showObject depth form this) S w w'
      fun _ _ => True := by
  induction depth generalizing w w' form this with
  | zero => exact Showing.follows_ofRun (follows_of_eq_diverged rfl)
  | succ depth ih =>
    -- The handler runs at this depth; what it shows in turn runs at `depth`, by `ih`.
    unfold showObject
    apply Showing.follows_read_bind
    rw [hw.typeOf_eq hthis]
    split
    · exact Showing.follows_ofRun (follows_raise hw _)
    · next slot handler _ =>
      have hexpected : ∀ {w w' : World} {v : Value}, w.Beside S w' → w.Clear S v →
          (Showing.ofRun (Rendering.expectText slot v)).Follows
            (Showing.ofRun (Rendering.expectText slot v)) S w w' fun _ _ => True :=
        fun hw hv => Showing.follows_ofRun (Rendering.expectText_follows hw slot hv)
      cases handler with
      | native name =>
        have hhost := hnatives name this [] w w' hw hthis fun v hv => absurd hv List.not_mem_nil
        exact (Showing.follows_ofRun hhost).bind
          fun v w₁ w₁' honward hv => hexpected honward.beside hv
      | rendering how =>
        refine (Rendering.run_follows ?_ hw hthis how).bind
          fun v w₁ w₁' honward hv => hexpected honward.beside hv
        intro v w w' hw hv
        refine (Showing.follows_ofRun (toObject_follows hw hv)).bind
          fun o w₁ w₁' honward ho => ?_
        exact ih honward.beside ho _

theorem showValue_follows (depth : Nat) (hw : w.Beside S w') (form : TextForm) {v : Value}
    (hv : w.Clear S v) :
    (natives.showValue depth form v).Follows (natives.showValue depth form v) S w w'
      fun _ _ => True := by
  unfold showValue
  split
  · exact Showing.follows_pure hw trivial
  · refine (Showing.follows_ofRun (toObject_follows hw hv)).bind fun o w₁ w₁' honward ho => ?_
    exact showObject_follows hnatives depth honward.beside ho _

/-- **Texts** are alike. -/
theorem render_follows (hw : w.Beside S w') (form : TextForm) {v : Value} (hv : w.Clear S v) :
    (natives.render form v).Oblivious S w w' fun _ _ => True :=
  follows_deepening (hw.renderingDepth_le v)
    (fun hle => (showValue_below hle form v).during (.refl _) w')
    fun depth => (showValue_follows hnatives depth hw form hv).during .empty

theorem renderHandler_follows (hw : w.Beside S w') (hthis : w.Outside S this) (how : Rendering) :
    (natives.renderHandler how this).Oblivious S w w' (World.Clear S) :=
  follows_deepening (hw.renderingDepth_le _)
    (fun hle => (Rendering.run_below (showValue_below hle _) this how).during (.refl _) w')
    fun depth => (Rendering.run_follows (fun hw hv => showValue_follows hnatives depth hw _ hv)
      hw hthis how).during .empty

end Natives

end DynamicObjects
