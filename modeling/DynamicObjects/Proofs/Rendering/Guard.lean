import DynamicObjects.Rendering

/-! # The set of arrays being shown

    Rendering carries the set of the arrays that are being shown.  An array is in
    it while its elements are shown, and has left it when that has ended, also
    when an element has failed.  So the set is the same after a rendering as
    before it, whatever handlers of the host do.

    Two renderings of the same that start with the same set end in the same way,
    unless the one that may go less deep runs out of depth.

    Main results:
    - `Natives.showValue_leads`: the set after a rendering, and the world after it
    - `Natives.showValue_below`: depth and representation of the set do not matter -/

namespace DynamicObjects

/-! ## Equal sets -/

namespace ObjectSet

/-- Two sets are the **same** if they have the same members. -/
def Same (s t : ObjectSet) : Prop := ∀ o, s.contains o = t.contains o

variable {s t u : ObjectSet}

protected theorem Same.refl (s : ObjectSet) : s.Same s := fun _ => rfl

theorem Same.symm (h : s.Same t) : t.Same s := fun o => (h o).symm

theorem Same.trans (h₁ : s.Same t) (h₂ : t.Same u) : s.Same u := fun o => (h₁ o).trans (h₂ o)

theorem Same.insert (h : s.Same t) (o : ObjectId) : (s.insert o).Same (t.insert o) := by
  intro p
  rw [contains_insert, contains_insert, h p]

theorem Same.erase (h : s.Same t) (o : ObjectId) : (s.erase o).Same (t.erase o) := by
  intro p
  rw [contains_erase, contains_erase, h p]

/-- What is inserted and then erased again leaves no trace. -/
theorem erase_insert_same {o : ObjectId} (h : s.contains o = false) :
    ((s.insert o).erase o).Same s := by
  intro p
  rw [contains_erase, contains_insert]
  by_cases hp : o = p
  · subst hp
    simp [h]
  · simp [hp]

end ObjectSet

namespace Showing

variable {α β : Type}

theorem bind_apply (r : Showing α) (next : α → Showing β) (shown : ObjectSet) (w : World) :
    (r >>= next) shown w =
      match r shown w with
      | .done (.ok a, shown₁) w₁ => next a shown₁ w₁
      | .done (.error f, shown₁) w₁ => .done (.error f, shown₁) w₁
      | .raised f w₁ => .raised f w₁
      | .diverged => .diverged := by
  show Showing.bind r next shown w = _
  simp only [Showing.bind, Run.bind_apply]
  cases r shown w with
  | done result w₁ => obtain ⟨_ | a, shown₁⟩ := result <;> rfl
  | raised f w₁ => rfl
  | diverged => rfl

theorem ofRun_apply (r : Run α) (shown : ObjectSet) (w : World) :
    ofRun r shown w =
      match r w with
      | .done a w₁ => .done (.ok a, shown) w₁
      | .raised f w₁ => .done (.error f, shown) w₁
      | .diverged => .diverged := by
  simp only [ofRun, Run.attempt, Run.bind_apply]
  cases r w <;> rfl

theorem guarded_apply (o : ObjectId) (r : Showing α) (shown : ObjectSet) (w : World) :
    guarded o r shown w =
      match r (shown.insert o) w with
      | .done (result, shown₁) w₁ => .done (result, shown₁.erase o) w₁
      | .raised f w₁ => .raised f w₁
      | .diverged => .diverged := by
  simp only [guarded, Run.bind_apply]
  cases r (shown.insert o) w <;> rfl

theorem during_apply (r : Showing α) (shown : ObjectSet) (w : World) :
    r.during shown w =
      match r shown w with
      | .done (.ok a, _) w₁ => .done a w₁
      | .done (.error f, _) w₁ => .raised f w₁
      | .raised f w₁ => .raised f w₁
      | .diverged => .diverged := by
  simp only [during, Run.bind_apply]
  cases r shown w with
  | done result w₁ => obtain ⟨_ | a, shown₁⟩ := result <;> rfl
  | raised f w₁ => rfl
  | diverged => rfl

/-! ## Before and after -/

/-- An end with the same set as before, and with a world that is related to the one
    before. -/
def EndsWith (R : World → World → Prop) (shown : ObjectSet) (w : World) :
    Outcome (Except Fault α × ObjectSet) → Prop
  | .done (_, shown') w' => shown'.Same shown ∧ R w w'
  | .raised _ _ => False
  | .diverged => True

/-- A computation **leads** from a world to related ones, and restores the set. -/
def Leads (R : World → World → Prop) (w : World) (r : Showing α) : Prop :=
  ∀ shown, EndsWith R shown w (r shown w)

end Showing

/-- Worlds stay related while values are converted and handlers of the host show
    objects. -/
structure Natives.Change (natives : Natives) (R : World → World → Prop) : Prop where
  refl : ∀ w, R w w
  trans : ∀ {w w₁ w₂}, R w w₁ → R w₁ w₂ → R w w₂
  convert : ∀ w v, R w (w.toObject v).2
  native : ∀ {form : TextForm} {w w' this slot name},
    form.handler? (w.typeOf this) = some (slot, .native name) →
      ((∃ v, natives name this [] w = .done v w') ∨ ∃ f, natives name this [] w = .raised f w') →
      R w w'

section leads
variable {α β : Type} {natives : Natives} {R : World → World → Prop} {w : World}

namespace Showing

theorem leads_ofRun {r : Run α}
    (h : ∀ {w'}, ((∃ a, r w = .done a w') ∨ ∃ f, r w = .raised f w') → R w w') :
    Leads R w (ofRun r) := by
  intro shown
  rw [ofRun_apply]
  cases hr : r w with
  | done a w' => exact ⟨.refl _, h (.inl ⟨a, hr⟩)⟩
  | raised f w' => exact ⟨.refl _, h (.inr ⟨f, hr⟩)⟩
  | diverged => trivial

theorem leads_pure (hrefl : ∀ w, R w w) (a : α) : Leads R w (pure a : Showing α) :=
  fun _ => ⟨.refl _, hrefl w⟩

/-- Runs that only look at the world leave it as it is. -/
theorem leads_ofRun_self (hrefl : ∀ w, R w w) {r : Run α}
    (h : ∀ {w'}, ((∃ a, r w = .done a w') ∨ ∃ f, r w = .raised f w') → w' = w) :
    Leads R w (ofRun r) :=
  leads_ofRun fun hr => by
    rw [h hr]
    exact hrefl w

theorem leads_read_bind {view : World → α} {next : α → Showing β}
    (h : Leads R w (next (view w))) : Leads R w (ofRun (Run.read view) >>= next) := by
  intro shown
  rw [bind_apply, ofRun_apply]
  exact h shown

theorem Leads.bind {r : Showing α} {next : α → Showing β}
    (htrans : ∀ {w w₁ w₂}, R w w₁ → R w₁ w₂ → R w w₂) (h : Leads R w r)
    (hnext : ∀ a w₁, R w w₁ → Leads R w₁ (next a)) : Leads R w (r >>= next) := by
  intro shown
  have hfirst := h shown
  rw [bind_apply]
  cases hr : r shown w with
  | done result w₁ =>
    obtain ⟨result, shown₁⟩ := result
    rw [hr] at hfirst
    obtain ⟨hsame, hR⟩ := hfirst
    cases result with
    | error f => exact ⟨hsame, hR⟩
    | ok a =>
      -- The second computation starts with the set that the first has restored.
      have hsecond := hnext a w₁ hR shown₁
      dsimp only
      cases ha : next a shown₁ w₁ with
      | done result w₂ =>
        rw [ha] at hsecond
        exact ⟨hsecond.1.trans hsame, htrans hR hsecond.2⟩
      | raised f w₂ =>
        rw [ha] at hsecond
        exact hsecond
      | diverged => trivial
  | raised f w₁ =>
    rw [hr] at hfirst
    exact hfirst.elim
  | diverged => trivial

/-- An array that is not being shown leaves the set again. -/
theorem Leads.guarded {r : Showing α} (h : Leads R w r) {o : ObjectId} {shown : ObjectSet}
    (ho : shown.contains o = false) : EndsWith R shown w (guarded o r shown w) := by
  have hbody := h (shown.insert o)
  rw [guarded_apply]
  cases hr : r (shown.insert o) w with
  | done result w₁ =>
    rw [hr] at hbody
    exact ⟨(hbody.1.erase o).trans (ObjectSet.erase_insert_same ho), hbody.2⟩
  | raised f w₁ =>
    rw [hr] at hbody
    exact hbody
  | diverged => trivial

end Showing

open Showing

/-- To show an object by itself leaves the world as it is. -/
theorem Rendering.alone_world {how : Rendering} {this : ObjectId} {w' : World}
    (h : (∃ v, how.alone this w = .done v w') ∨ ∃ f, how.alone this w = .raised f w') :
    w' = w := by
  simp only [alone, Run.bind_apply, Run.read_apply, id_eq] at h
  cases how with
  | bool => cases hb : boolText w this <;> simp_all [Run.bind_apply]
  | struct => cases hs : structText w this <;> simp_all [Run.bind_apply]
  | _ => simp_all

theorem Rendering.expectText_world {slot : Slot} {v : Value} {w' : World}
    (h : (∃ s, expectText slot v w = .done s w') ∨ ∃ f, expectText slot v w = .raised f w') :
    w' = w := by
  simp only [expectText, Run.bind_apply, Run.read_apply, id_eq] at h
  cases hv : w.unwrap v <;> simp_all

variable (hchange : natives.Change R)
include hchange

theorem leads_toObject (v : Value) (w : World) :
    Leads R w (Showing.ofRun (Run.step fun w => w.toObject v)) := by
  refine leads_ofRun fun {w'} h => ?_
  have hw' : (w.toObject v).2 = w' := by simpa using h
  exact hw' ▸ hchange.convert w v

theorem showAll_leads {element : Value → Showing String} (helement : ∀ v w, Leads R w (element v))
    (items : List Value) (w : World) : Leads R w (showAll element items) := by
  induction items generalizing w with
  | nil => exact leads_pure hchange.refl _
  | cons v rest ih =>
    refine (helement v w).bind hchange.trans fun text w₁ _ => ?_
    exact (ih w₁).bind hchange.trans fun texts w₂ _ => leads_pure hchange.refl _

theorem Rendering.run_leads {element : Value → Showing String}
    (helement : ∀ v w, Leads R w (element v)) (this : ObjectId) (how : Rendering) :
    Leads R w (how.run element this) := by
  intro shown
  unfold Rendering.run
  split
  · next hguard =>
    -- The array is not in the set, so that to take it out again restores the set.
    refine Leads.guarded ?_ hguard.2
    refine leads_read_bind ?_
    refine (leads_ofRun_self hchange.refl ?_).bind hchange.trans fun items w₁ _ => ?_
    · intro w' h
      cases hitems : w.items this <;> simp_all [Run.ofExcept]
    · exact (showAll_leads hchange helement items w₁).bind hchange.trans
        fun texts w₂ _ => leads_pure hchange.refl _
  · exact leads_ofRun_self hchange.refl alone_world shown

namespace Natives

theorem showObject_leads (depth : Nat) (form : TextForm) (this : ObjectId) :
    Leads R w (natives.showObject depth form this) := by
  -- Induction on the depth: elements of an array are shown with one level less, and are the
  -- only values met beneath the object.
  induction depth generalizing w form this with
  | zero => exact leads_ofRun_self hchange.refl (by simp [Run.diverge])
  | succ depth ih =>
    unfold showObject
    refine leads_read_bind ?_
    cases hhandler : form.handler? (w.typeOf this) with
    | none => exact leads_ofRun_self hchange.refl (by simp)
    | some entry =>
      obtain ⟨slot, handler⟩ := entry
      have hexpected : ∀ (v : Value) (w' : World),
          Leads R w' (Showing.ofRun (Rendering.expectText slot v)) :=
        fun v w' => leads_ofRun_self hchange.refl Rendering.expectText_world
      cases handler with
      | native name =>
        have hnative : Leads R w (Showing.ofRun (natives name this [])) :=
          leads_ofRun (hchange.native hhandler)
        exact hnative.bind hchange.trans fun v w₁ _ => hexpected v w₁
      | rendering how =>
        have hrun := Rendering.run_leads (w := w) hchange (fun v w =>
          (leads_toObject hchange v w).bind hchange.trans fun o w₁ _ => ih .representation o)
          this how
        exact hrun.bind hchange.trans fun v w₁ _ => hexpected v w₁

/-- **Restored**: after a rendering the same arrays are being shown as before. -/
theorem showValue_leads (depth : Nat) (form : TextForm) (v : Value) :
    Leads R w (natives.showValue depth form v) := by
  unfold showValue
  split
  · exact leads_pure hchange.refl _
  · refine (leads_toObject hchange v w).bind hchange.trans fun o w₁ _ => ?_
    exact showObject_leads hchange depth _ o

end Natives

end leads

/-! ## Depth -/

namespace Showing

variable {α β : Type} {r r' : Showing α}

/-- One computation is **below** another if they end in the same way from the same
    set, unless the lower one does not end. -/
def Below (r r' : Showing α) : Prop :=
  ∀ (shown shown' : ObjectSet) (w : World), shown.Same shown' → r shown w = .diverged ∨
    ∃ result after after' w', r shown w = .done (result, after) w' ∧
      r' shown' w = .done (result, after') w' ∧ after.Same after'

theorem below_pure (a : α) : (pure a : Showing α).Below (pure a) :=
  fun _ _ w hsame => .inr ⟨.ok a, _, _, w, rfl, rfl, hsame⟩

theorem below_ofRun (r : Run α) : (ofRun r).Below (ofRun r) := by
  intro shown shown' w hsame
  rw [ofRun_apply, ofRun_apply]
  cases r w with
  | done a w' => exact .inr ⟨.ok a, _, _, w', rfl, rfl, hsame⟩
  | raised f w' => exact .inr ⟨.error f, _, _, w', rfl, rfl, hsame⟩
  | diverged => exact .inl rfl

theorem Below.bind {next next' : α → Showing β} (h : r.Below r')
    (hnext : ∀ a, (next a).Below (next' a)) : (r >>= next).Below (r' >>= next') := by
  intro shown shown' w hsame
  rw [bind_apply, bind_apply]
  rcases h _ _ w hsame with hr | ⟨result, after, after', w₁, hr, hr', hafter⟩
  · rw [hr]
    exact .inl rfl
  · rw [hr, hr']
    cases result with
    | error f => exact .inr ⟨.error f, after, after', w₁, rfl, rfl, hafter⟩
    | ok a => exact hnext a _ _ w₁ hafter

theorem Below.guarded (h : r.Below r') (o : ObjectId) : (guarded o r).Below (guarded o r') := by
  intro shown shown' w hsame
  rw [guarded_apply, guarded_apply]
  rcases h _ _ w (hsame.insert o) with hr | ⟨result, after, after', w₁, hr, hr', hafter⟩
  · rw [hr]
    exact .inl rfl
  · rw [hr, hr']
    exact .inr ⟨result, _, _, w₁, rfl, rfl, hafter.erase o⟩

theorem Below.during (h : r.Below r') {shown shown' : ObjectSet} (hsame : shown.Same shown')
    (w : World) : r.during shown w = .diverged ∨ r'.during shown' w = r.during shown w := by
  rw [during_apply, during_apply]
  rcases h _ _ w hsame with hr | ⟨result, after, after', w₁, hr, hr', -⟩
  · rw [hr]
    exact .inl rfl
  · rw [hr, hr']
    cases result <;> exact .inr rfl

end Showing

section below
variable {element element' : Value → Showing String}
    (helement : ∀ v, (element v).Below (element' v))
include helement

theorem showAll_below (items : List Value) :
    (showAll element items).Below (showAll element' items) := by
  induction items with
  | nil => exact Showing.below_pure _
  | cons v rest ih =>
    exact (helement v).bind fun text => ih.bind fun texts => Showing.below_pure _

theorem Rendering.run_below (this : ObjectId) (how : Rendering) :
    (how.run element this).Below (how.run element' this) := by
  intro shown shown' w hsame
  unfold Rendering.run
  rw [hsame this]
  split
  · refine Showing.Below.guarded ?_ this _ _ w hsame
    refine (Showing.below_ofRun _).bind fun w₀ => (Showing.below_ofRun _).bind fun items => ?_
    exact (showAll_below helement items).bind fun texts => Showing.below_pure _
  · exact Showing.below_ofRun _ _ _ w hsame

end below

namespace Natives

variable {natives : Natives}

theorem showObject_below {depth depth' : Nat} (hle : depth ≤ depth') (form : TextForm)
    (this : ObjectId) :
    (natives.showObject depth form this).Below (natives.showObject depth' form this) := by
  -- By induction on the lower depth: without any, the rendering does not end.
  induction depth generalizing depth' form this with
  | zero => exact fun _ _ _ _ => .inl rfl
  | succ depth ih =>
    obtain ⟨depth', rfl⟩ : ∃ d, depth' = d + 1 := ⟨depth' - 1, by omega⟩
    unfold showObject
    refine (Showing.below_ofRun _).bind fun T => ?_
    cases form.handler? T with
    | none => exact Showing.below_ofRun _
    | some entry =>
      obtain ⟨slot, handler⟩ := entry
      have hexpected : ∀ v : Value,
          (Showing.ofRun (Rendering.expectText slot v)).Below
            (Showing.ofRun (Rendering.expectText slot v)) :=
        fun v => Showing.below_ofRun _
      cases handler with
      | native name => exact (Showing.below_ofRun _).bind hexpected
      | rendering how =>
        refine (Rendering.run_below (fun v => ?_) this how).bind hexpected
        exact (Showing.below_ofRun _).bind fun o => ih (Nat.le_of_succ_le_succ hle) _ o

/-- **Depth does not matter** where it suffices, nor how the set has come about. -/
theorem showValue_below {depth depth' : Nat} (hle : depth ≤ depth') (form : TextForm)
    (v : Value) : (natives.showValue depth form v).Below (natives.showValue depth' form v) := by
  unfold showValue
  split
  · exact Showing.below_pure _
  · exact (Showing.below_ofRun _).bind fun o => showObject_below hle _ o

end Natives

end DynamicObjects
