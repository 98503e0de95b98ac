import DynamicObjects.Proofs.Safety.Behaviour
import DynamicObjects.Rendering

/-! # Rendering keeps worlds well-formed

    To show a value converts its elements and may ask the host; nothing else
    happens to the world. -/

namespace DynamicObjects

open Run

/-- The handlers of a host **respect** sealed properties if they keep those of
    other objects than their receiver, and what is well-formed, as the program's
    own handlers do. -/
def Natives.Respect (natives : Natives) (L : World.Locations) : Prop :=
  ∀ (name : String) (this : ObjectId) (args : List Value) (w : World), w.Fits L →
    (∀ property, ¬ L this property) → w.SupportsAll args →
    (natives name this args).Keeps L w World.Supports

variable {L : World.Locations} {w : World} {this : ObjectId} {args : List Value}

/-! ## Computations that show arrays -/

namespace Showing

variable {α β : Type} {P Q : World → α → Prop} {R : World → β → Prop}

/-- A computation **keeps** what is well-formed and sealed, whatever is being shown. -/
def Keeps (r : Showing α) (L : World.Locations) (w : World) (Q : World → α → Prop) : Prop :=
  ∀ shown, (r shown).Keeps L w fun w' result => ∀ a, result.1 = .ok a → Q w' a

theorem keeps_pure (hw : w.Fits L) {a : α} (ha : Q w a) : (pure a : Showing α).Keeps L w Q := by
  refine fun shown => Run.keeps_pure hw fun b hb => ?_
  obtain rfl := Except.ok.inj hb
  exact ha

theorem keeps_ofRun {r : Run α} (h : r.Keeps L w Q) : (ofRun r).Keeps L w Q :=
  fun _ => h.attempt.bind fun _ _ hsafe hresult => Run.keeps_pure hsafe.fits hresult

theorem Keeps.bind {r : Showing α} {next : α → Showing β} (h : r.Keeps L w P)
    (hnext : ∀ a w₁, w.Safe L w₁ → P w₁ a → (next a).Keeps L w₁ R) :
    (r >>= next).Keeps L w R := by
  intro shown
  refine (h shown).bind fun result w₁ hsafe hresult => ?_
  obtain ⟨_ | a, shown₁⟩ := result
  · exact Run.keeps_pure hsafe.fits fun _ hb => by cases hb
  · exact hnext a w₁ hsafe (hresult a rfl) shown₁

theorem Keeps.guarded {r : Showing α} (h : r.Keeps L w Q) (o : ObjectId) :
    (guarded o r).Keeps L w Q :=
  fun shown => (h (shown.insert o)).bind fun _ _ hsafe hresult =>
    Run.keeps_pure hsafe.fits hresult

theorem Keeps.during {r : Showing α} (h : r.Keeps L w Q) (shown : ObjectSet) :
    (r.during shown).Keeps L w Q := by
  refine (h shown).bind fun result w₁ hsafe hresult => ?_
  obtain ⟨_ | a, shown⟩ := result
  · exact keeps_raise hsafe.fits _
  · exact Run.keeps_pure hsafe.fits (hresult a rfl)

theorem keeps_world_bind {next : World → Showing β} (h : (next w).Keeps L w R) (hw : w.Fits L) :
    (ofRun (Run.read id) >>= next).Keeps L w R := by
  have hread : (ofRun (Run.read id)).Keeps L w fun w' a => w' = w ∧ a = w :=
    keeps_ofRun (keeps_of_eq_done rfl hw.refl ⟨rfl, rfl⟩)
  refine hread.bind fun a w₁ _ ha => ?_
  obtain ⟨rfl, rfl⟩ := ha
  exact h

end Showing

/-! ## Rendering -/

theorem toObject_keeps (hw : w.Fits L) {v : Value} (hv : w.Supports v) :
    (Run.step fun w => w.toObject v).Keeps L w fun _ _ => True :=
  keeps_step (hw.toObject hv) trivial

theorem Rendering.alone_keeps (hw : w.Fits L) (how : Rendering) :
    (how.alone this).Keeps L w World.Supports := by
  unfold Rendering.alone
  apply keeps_world_bind
  cases how with
  | bool =>
    apply (keeps_ofTerminating hw _).bind
    intro text w₁ hsafe _
    exact keeps_pure hsafe.fits (World.supports_text _)
  | struct =>
    apply keeps_lift_bind hw
    intro text _
    exact keeps_pure hw (World.supports_text _)
  | array | identity | null | integer | float | complex | text | quotedText | module | function
  | wrapper =>
    exact keeps_pure hw (World.supports_text _)

theorem Rendering.expectText_keeps (hw : w.Fits L) (slot : Slot) (v : Value) :
    (Rendering.expectText slot v).Keeps L w fun _ _ => True := by
  unfold Rendering.expectText
  apply keeps_world_bind
  split
  · exact keeps_pure hw trivial
  · exact keeps_raise hw _

section rendering
variable {element : Value → Showing String}
    (helement : ∀ {v : Value} {w : World}, w.Fits L → w.Supports v →
      (element v).Keeps L w fun _ _ => True)
include helement

theorem showAll_keeps (hw : w.Fits L) {items : List Value} (hitems : w.SupportsAll items) :
    (showAll element items).Keeps L w fun _ _ => True := by
  induction items generalizing w with
  | nil => exact Showing.keeps_pure hw trivial
  | cons v rest ih =>
    unfold showAll
    obtain ⟨hv, hrest⟩ := World.supportsAll_cons.mp hitems
    apply (helement hw hv).bind
    intro text w₁ hsafe _
    apply (ih hsafe.fits (hrest.later hsafe.later)).bind
    intro texts w₂ hsafe₂ _
    exact Showing.keeps_pure hsafe₂.fits trivial

theorem Rendering.run_keeps (hw : w.Fits L) (how : Rendering) :
    (how.run element this).Keeps L w World.Supports := by
  intro shown
  unfold Rendering.run
  split
  · refine Showing.Keeps.guarded (Showing.keeps_world_bind ?_ hw) this shown
    have hitems : (ofExcept (w.items this)).Keeps L w World.SupportsAll :=
      keeps_lift hw fun items hitems => Behaviour.supportsAll_items hw.wellFormed hitems
    refine (Showing.keeps_ofRun hitems).bind fun items w₁ hsafe hitems => ?_
    refine (showAll_keeps helement hsafe.fits hitems).bind fun texts w₂ hsafe₂ _ => ?_
    exact Showing.keeps_pure hsafe₂.fits (World.supports_text _)
  · exact Showing.keeps_ofRun (alone_keeps hw how) shown

end rendering

namespace Natives

/-- A handler of the host that shows an object belongs to its type. -/
theorem usesHost_of_handler? {form : TextForm} {T : TypeDescriptor} {s : Slot} {name : String}
    (h : form.handler? T = some (s, .native name)) : T.UsesHost := by
  -- Without a `repr` of its own a type is represented by its `str`.
  have hplain : ∀ {s : Slot},
      (T.slots .str).map (fun h => (Slot.str, h.ofStr)) = some (s, .native name) → T.UsesHost := by
    intro s h
    obtain ⟨handler, hslot, heq⟩ := Option.map_eq_some_iff.mp h
    cases handler with
    | native other => exact .inl ⟨.str, other, hslot⟩
    | str how => cases heq
  cases form with
  | plain => exact hplain h
  | representation =>
    unfold TextForm.handler? at h
    dsimp only at h
    split at h
    · next handler hslot =>
      cases handler with
      | native other => exact .inl ⟨.repr, other, hslot⟩
      | repr how => cases h
    · exact hplain h

variable {natives : Natives} (hnatives : natives.Respect L)
include hnatives

theorem showObject_keeps (depth : Nat) (hw : w.Fits L) (form : TextForm) :
    (natives.showObject depth form this).Keeps L w fun _ _ => True := by
  induction depth generalizing w form this with
  | zero => exact Showing.keeps_ofRun keeps_diverge
  | succ depth ih =>
    unfold showObject
    have htype : (Run.read fun w => w.typeOf this).Keeps L w
        fun w' T => w' = w ∧ T = w.typeOf this :=
      keeps_of_eq_done rfl hw.refl ⟨rfl, rfl⟩
    refine (Showing.keeps_ofRun htype).bind fun T w₁ _ hT => ?_
    obtain ⟨rfl, rfl⟩ := hT
    split
    · exact Showing.keeps_ofRun (keeps_raise hw _)
    · next slot handler hhandler =>
      have hexpected : ∀ {w' : World} {v : Value}, w'.Fits L →
          (Showing.ofRun (Rendering.expectText slot v)).Keeps L w' fun _ _ => True :=
        fun hw' => Showing.keeps_ofRun (Rendering.expectText_keeps hw' slot _)
      cases handler with
      | native name =>
        -- The host shows only what has one of its handlers, and that is not sealed.
        have hthis : ∀ property, ¬ L this property :=
          fun _ ho => hw.not_usesHost ho (usesHost_of_handler? hhandler)
        have hhost := hnatives name this [] w₁ hw hthis World.supportsAll_nil
        exact (Showing.keeps_ofRun hhost).bind fun v w₁ hsafe _ => hexpected hsafe.fits
      | rendering how =>
        refine (Rendering.run_keeps ?_ hw how).bind fun v w₁ hsafe _ => hexpected hsafe.fits
        intro v w hw hv
        refine (Showing.keeps_ofRun (toObject_keeps hw hv)).bind fun o w₁ hsafe _ => ?_
        exact ih hsafe.fits _

theorem showValue_keeps (depth : Nat) (hw : w.Fits L) (form : TextForm)
    {v : Value} (hv : w.Supports v) :
    (natives.showValue depth form v).Keeps L w fun _ _ => True := by
  unfold showValue
  split
  · exact Showing.keeps_pure hw trivial
  · refine (Showing.keeps_ofRun (toObject_keeps hw hv)).bind fun o w₁ hsafe _ => ?_
    exact showObject_keeps hnatives depth hsafe.fits _

theorem stringify_keeps (hw : w.Fits L) {v : Value} (hv : w.Supports v) :
    (natives.stringify v).Keeps L w fun _ _ => True :=
  keeps_deepening fun depth => (showValue_keeps hnatives depth hw .plain hv).during .empty

theorem represent_keeps (hw : w.Fits L) {v : Value} (hv : w.Supports v) :
    (natives.represent v).Keeps L w fun _ _ => True :=
  keeps_deepening fun depth => (showValue_keeps hnatives depth hw .representation hv).during .empty

theorem renderHandler_keeps (hw : w.Fits L) (how : Rendering) :
    (natives.renderHandler how this).Keeps L w World.Supports :=
  keeps_deepening fun depth =>
    (Rendering.run_keeps (fun hw hv => showValue_keeps hnatives depth hw _ hv) hw how).during
      .empty

end Natives

end DynamicObjects
