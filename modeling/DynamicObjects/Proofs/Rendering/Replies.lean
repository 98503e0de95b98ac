import DynamicObjects.Proofs.Isolation.Insertion
import DynamicObjects.Proofs.Rendering.Unambiguous

/-! # What is shown in a world that has grown

    A `Reply` is how a computation ends, apart from the world that it leaves: with
    a result, with a fault, or never.  While something is shown, the world may grow
    by what is converted.  What an old object shows by itself is not affected, as
    long as nothing refers to places where there is no object yet.

    Main results:
    - `Rendering.alone_reply`: what an object shows by itself, after growth
    - `Natives.replies_elements`: an array replies as its elements do -/

namespace DynamicObjects

/-! ## Replies -/

/-- How a computation ends, whatever the world is then. -/
inductive Reply (α : Type) where
  | result (a : α)
  | fault (f : Fault)
  | never

namespace Reply

variable {α β ι : Type}

instance : Inhabited (Reply α) := ⟨never⟩

/-- Continue with the result, if there is one. -/
def bind : Reply α → (α → Reply β) → Reply β
  | result a, next => next a
  | fault f, _ => fault f
  | never, _ => never

/-- The results of several computations, up to the first that has none. -/
def all (replyOf : ι → Reply α) : List ι → Reply (List α)
  | [] => result []
  | i :: rest => (replyOf i).bind fun a => (all replyOf rest).bind fun as => result (a :: as)

end Reply

/-- The reply of a run. -/
def Outcome.reply {α : Type} : Outcome α → Reply α
  | .done a _ => .result a
  | .raised f _ => .fault f
  | .diverged => .never

namespace Showing

variable {α β : Type} {r : Showing α} {next : α → Showing β} {shown : ObjectSet} {w : World}

/-- A computation **replies** in a world: it ends like that, with the same set as
    before, and all that it has done to the world is to let it grow. -/
def Replies (r : Showing α) (shown : ObjectSet) (w : World) : Reply α → Prop
  | .result a => ∃ shown' w', r shown w = .done (.ok a, shown') w' ∧ shown'.Same shown ∧ w.Grows w'
  | .fault f =>
    ∃ shown' w', r shown w = .done (.error f, shown') w' ∧ shown'.Same shown ∧ w.Grows w'
  | .never => r shown w = .diverged

theorem replies_pure (a : α) : (pure a : Showing α).Replies shown w (.result a) :=
  ⟨shown, w, rfl, .refl shown, .refl w⟩

/-- It replies, too, if it goes on like another one that starts in a grown world. -/
theorem Replies.of_grows {r' : Showing α} {w' : World} {reply : Reply α}
    (h : r'.Replies shown w' reply) (hgrows : w.Grows w') (heq : r shown w = r' shown w') :
    r.Replies shown w reply := by
  cases reply with
  | never => exact heq.trans h
  | _ =>
    obtain ⟨shown₁, w₁, hr, hsame, hgrows₁⟩ := h
    exact ⟨shown₁, w₁, heq.trans hr, hsame, hgrows.trans hgrows₁⟩

/-- A run that shows no array replies as such. -/
theorem replies_ofRun {r : Run α}
    (h : ∀ {w'}, ((∃ a, r w = .done a w') ∨ ∃ f, r w = .raised f w') → w.Grows w') :
    (ofRun r).Replies shown w (r w).reply := by
  have hrun := ofRun_apply r shown w
  cases hr : r w with
  | done a w' =>
    rw [hr] at hrun
    exact ⟨shown, w', hrun, .refl shown, h (.inl ⟨a, hr⟩)⟩
  | raised f w' =>
    rw [hr] at hrun
    exact ⟨shown, w', hrun, .refl shown, h (.inr ⟨f, hr⟩)⟩
  | diverged =>
    rw [hr] at hrun
    exact hrun

/-- **Step**: the second computation starts in a grown world with the same set. -/
theorem Replies.bind {first : Reply α} {replyOf : α → Reply β} (h : r.Replies shown w first)
    (hnext : ∀ a shown' w', shown'.Same shown → w.Grows w' →
      (next a).Replies shown' w' (replyOf a)) :
    (r >>= next).Replies shown w (first.bind replyOf) := by
  have hrun := bind_apply r next shown w
  -- Only a result of the first computation gets to the second one.
  cases first with
  | result a =>
    obtain ⟨shown₁, w₁, hr, hsame₁, hgrows₁⟩ := h
    have hsecond := hnext a shown₁ w₁ hsame₁ hgrows₁
    rw [hr] at hrun
    show (r >>= next).Replies shown w (replyOf a)
    cases ha : replyOf a with
    | never =>
      rw [ha] at hsecond
      exact hrun.trans hsecond
    | _ =>
      rw [ha] at hsecond
      obtain ⟨shown₂, w₂, hnext, hsame₂, hgrows₂⟩ := hsecond
      exact ⟨shown₂, w₂, hrun.trans hnext, hsame₂.trans hsame₁, hgrows₁.trans hgrows₂⟩
  | fault f =>
    obtain ⟨shown₁, w₁, hr, hsame₁, hgrows₁⟩ := h
    rw [hr] at hrun
    exact ⟨shown₁, w₁, hrun, hsame₁, hgrows₁⟩
  | never =>
    rw [show r shown w = .diverged from h] at hrun
    exact hrun

theorem Replies.during {reply : Reply α} (h : r.Replies shown w reply) :
    (r.during shown w).reply = reply := by
  rw [during_apply]
  cases reply with
  | never => rw [show r shown w = .diverged from h]; rfl
  | _ =>
    obtain ⟨shown', w', hr, -, -⟩ := h
    rw [hr]
    rfl

/-- There is one reply only. -/
theorem Replies.functional {a b : Reply α} (ha : r.Replies shown w a) (hb : r.Replies shown w b) :
    a = b :=
  ha.during.symm.trans hb.during

end Showing

open Showing

/-- **Elements** reply one after the other, if each of them replies when its turn
    comes. -/
theorem showAll_replies {ι : Type} {element : Value → Showing String} {replyOf : ι → Reply String}
    {vs : List Value} {is : List ι} {shown shown' : ObjectSet} {w w' : World}
    (h : List.Forall₂ (fun v i => ∀ shown' w', shown'.Same shown → w.Grows w' →
      (element v).Replies shown' w' (replyOf i)) vs is)
    (hsame : shown'.Same shown) (hgrows : w.Grows w') :
    (showAll element vs).Replies shown' w' (.all replyOf is) := by
  induction h generalizing shown' w' with
  | nil => exact replies_pure []
  | cons hfirst _ ih =>
    refine (hfirst shown' w' hsame hgrows).bind fun text shown₁ w₁ hsame₁ hgrows₁ => ?_
    refine (ih (hsame₁.trans hsame) (hgrows.trans hgrows₁)).bind fun texts shown₂ w₂ _ _ => ?_
    exact replies_pure (text :: texts)

/-! ## What an object shows by itself -/

namespace World

variable {w w₁ : World} {o : ObjectId}

/-- The payload of an object refers to what exists or has existed. -/
theorem Grounded.references_lt (h : w.Grounded) {v : Value} (hv : w.payload? o = some v) :
    ∀ p ∈ v.references, p.index < w.heap.size :=
  fun p hp => ((h.clear_property hv).references p hp).1

/-- More depth gives the same truth, if there is one. -/
theorem truthWithin_mono {depth depth' : Nat} (hle : depth ≤ depth') {v : Value} {b : Bool}
    (h : w.truthWithin depth v = some b) : w.truthWithin depth' v = some b := by
  induction depth generalizing depth' v with
  | zero => cases h
  | succ depth ih =>
    obtain ⟨depth', rfl⟩ : ∃ d, depth' = d + 1 := ⟨depth' - 1, by omega⟩
    cases v with
    | object p =>
      rw [truthWithin] at h ⊢
      cases hpayload : w.payload? p with
      | none =>
        rw [hpayload] at h
        exact h
      | some u =>
        rw [hpayload] at h
        exact ih (Nat.le_of_succ_le_succ hle) h
    | _ => exact h

namespace Grows

variable (hgrows : w.Grows w₁) (hgrounded : w.Grounded)
include hgrows

theorem typeOf_eq (ho : o.index < w.heap.size) : w₁.typeOf o = w.typeOf o := by
  rw [typeOf, typeOf, hgrows.object_eq ho]

theorem payload?_eq (ho : o.index < w.heap.size) : w₁.payload? o = w.payload? o :=
  hgrows.property?_eq ho payloadName

theorem steady : w.Steady w₁ where
  later := ⟨hgrows.size_le, fun ho => by rw [hgrows.object?_eq ho]⟩
  payload?_eq ho _ := hgrows.payload?_eq ho

theorem items_eq (ho : o.index < w.heap.size) : w₁.items o = w.items o := by
  rw [World.items, World.items, hgrows.payload?_eq ho]

theorem kindName_eq {v : Value} (hv : ∀ p ∈ v.references, p.index < w.heap.size) :
    w₁.kindName v = w.kindName v := by
  cases v with
  | object p => exact congrArg TypeDescriptor.name (hgrows.typeOf_eq (hv p List.mem_cons_self))
  | _ => rfl

include hgrounded in
theorem truthWithin_eq {depth : Nat} {v : Value} (hv : ∀ p ∈ v.references, p.index < w.heap.size) :
    w₁.truthWithin depth v = w.truthWithin depth v := by
  induction depth generalizing v with
  | zero => rfl
  | succ depth ih =>
    cases v with
    | object p =>
      rw [truthWithin, truthWithin, hgrows.payload?_eq (hv p List.mem_cons_self)]
      cases hpayload : w.payload? p with
      | none => rfl
      | some u => exact ih (hgrounded.references_lt hpayload)
    | _ => rfl

include hgrounded in
theorem boolText_eq (ho : o.index < w.heap.size) :
    Rendering.boolText w₁ o = Rendering.boolText w o := by
  rw [Rendering.boolText, Rendering.boolText, hgrows.payload?_eq ho]
  cases hpayload : w.payload? o with
  | none => rfl
  | some v =>
    have htruth : w₁.truth v = w.truthWithin (w₁.heap.size + 2) v :=
      hgrows.truthWithin_eq hgrounded (hgrounded.references_lt hpayload)
    refine congrArg (Option.map _) ?_
    rw [htruth, truth]
    cases hwithin : w.truthWithin (w.heap.size + 2) v with
    | some b => exact truthWithin_mono (Nat.add_le_add_right hgrows.size_le 2) hwithin
    | none =>
      -- The payloads go on for ever, at whatever depth.
      have hnone : Rendering.boolText w o = none := by
        rw [Rendering.boolText, hpayload]
        exact congrArg (Option.map _) hwithin
      have hforever := (boolText_eq_none_iff.mp hnone).truthWithin (w₁.heap.size + 3)
      rw [truthWithin, hpayload] at hforever
      exact hforever

include hgrounded in
theorem wrapperText_eq (ho : o.index < w.heap.size) :
    Rendering.wrapperText w₁ o = Rendering.wrapperText w o := by
  have hkind : (w.payload? o).map w₁.kindName = (w.payload? o).map w.kindName :=
    Option.map_congr fun v hv => hgrows.kindName_eq (hgrounded.references_lt hv)
  unfold Rendering.wrapperText
  rw [hgrows.payload?_eq ho, hkind]

end Grows

end World

section alone
variable {w w₁ : World} {o : ObjectId} {slot : Slot}

namespace Rendering

/-- **By itself** an old object shows the same in a world that has grown. -/
theorem alone_reply (hgrows : w.Grows w₁) (hgrounded : w.Grounded) (ho : o.index < w.heap.size)
    (how : Rendering) :
    ((how.alone o >>= expectText slot) w₁).reply =
      ((how.alone o >>= expectText slot) w).reply := by
  have hobject := hgrows.object_eq ho
  have hpayload := hgrows.payload?_eq ho
  simp only [alone, Run.bind_apply, Run.read_apply, id_eq]
  -- Each rendering reads the object, its payload or its type, which growth keeps.
  cases how with
  | array | null => rfl
  | bool =>
    rw [hgrows.boolText_eq hgrounded ho]
    cases boolText w o <;> rfl
  | wrapper =>
    rw [hgrows.wrapperText_eq hgrounded ho]
    rfl
  | struct =>
    have htext : structText w₁ o = structText w o := by
      rw [structText, structText, World.shapeOf, World.shapeOf, World.typeName, World.typeName,
        World.typeOf, World.typeOf, hobject]
    rw [htext]
    cases structText w o <;> rfl
  | identity =>
    have htext : identityText w₁ o = identityText w o := by
      rw [identityText, identityText, World.typeName, World.typeName, World.typeOf, World.typeOf,
        hobject]
    rw [htext]
    rfl
  | module =>
    have htext : w₁.moduleName o = w.moduleName o := by
      rw [World.moduleName, World.moduleName, hgrows.property?_eq ho]
    rw [htext]
    rfl
  | integer | float | complex =>
    rw [numberText_congr hpayload]
    rfl
  | text | quotedText =>
    rw [textOf_congr hpayload]
    rfl
  | function =>
    rw [functionText_congr hpayload]
    rfl

/-- To expect a text leaves the world as it is. -/
theorem ends_of_expectText {r : Run Value} {w' : World}
    (h : (∃ s, (r >>= expectText slot) w = .done s w') ∨
      ∃ f, (r >>= expectText slot) w = .raised f w') :
    (∃ v, r w = .done v w') ∨ ∃ f, r w = .raised f w' := by
  rcases h with ⟨s, hdone⟩ | ⟨f, hraised⟩
  · obtain ⟨v, w₁, hv, htext⟩ := Run.bind_eq_done_iff.mp hdone
    rw [expectText_world (.inl ⟨s, htext⟩)]
    exact .inl ⟨v, hv⟩
  · rcases Run.bind_eq_raised_iff.mp hraised with hf | ⟨v, w₁, hv, htext⟩
    · exact .inr ⟨f, hf⟩
    · rw [expectText_world (.inr ⟨f, htext⟩)]
      exact .inl ⟨v, hv⟩

end Rendering

end alone

/-! ## One object -/

/-- What an array shows of the texts of its elements. -/
def Reply.bracketed (texts : Reply (List String)) : Reply String :=
  texts.bind fun texts => .result ("[" ++ String.intercalate ", " texts ++ "]")

/-- Two runs one after the other show no array if neither does. -/
theorem Showing.ofRun_bind_apply {α β : Type} (r : Run α) (next : α → Run β) (shown : ObjectSet)
    (w : World) :
    (ofRun r >>= fun a => ofRun (next a)) shown w = ofRun (r >>= next) shown w := by
  rw [bind_apply, ofRun_apply, ofRun_apply, Run.bind_apply]
  cases r w with
  | done a w₁ => exact ofRun_apply (next a) shown w₁
  | raised f w₁ => rfl
  | diverged => rfl

namespace Natives

variable {natives : Natives} {form : TextForm} {slot : Slot} {o : ObjectId} {shown : ObjectSet}
    {w : World} {depth : Nat}

theorem replies_unsupported (hhandler : form.handler? (w.typeOf o) = none) :
    (natives.showObject (depth + 1) form o).Replies shown w
      (.fault (.slotUnsupported .str (w.typeName o))) := by
  have hrun : natives.showObject (depth + 1) form o shown w =
      .done (.error (.slotUnsupported .str (w.typeName o)), shown) w := by
    rw [showObject, bind_apply, ofRun_apply]
    dsimp only [Run.read_apply]
    rw [hhandler]
    rfl
  exact ⟨shown, w, hrun, .refl shown, .refl w⟩

/-- What the host shows of an object, if its handler lets the world grow at most. -/
theorem replies_native {name : String}
    (hhandler : form.handler? (w.typeOf o) = some (slot, .native name))
    (hgrows : ∀ {w'}, ((∃ v, natives name o [] w = .done v w') ∨
      ∃ f, natives name o [] w = .raised f w') → w.Grows w') :
    (natives.showObject (depth + 1) form o).Replies shown w
      ((natives name o [] >>= Rendering.expectText slot) w).reply := by
  have hrun : natives.showObject (depth + 1) form o shown w =
      ofRun (natives name o [] >>= Rendering.expectText slot) shown w := by
    rw [← ofRun_bind_apply, showObject, bind_apply, ofRun_apply]
    dsimp only [Run.read_apply]
    rw [hhandler]
  have hreplies : (ofRun (natives name o [] >>= Rendering.expectText slot)).Replies shown w _ :=
    replies_ofRun fun hend => hgrows (Rendering.ends_of_expectText hend)
  exact hreplies.of_grows (.refl w) hrun

theorem showObject_rendering {how : Rendering}
    (hhandler : form.handler? (w.typeOf o) = some (slot, .rendering how)) :
    natives.showObject (depth + 1) form o shown w =
      (how.run (natives.showElement depth) o >>= fun v =>
        ofRun (Rendering.expectText slot v)) shown w := by
  rw [showObject, bind_apply, ofRun_apply]
  dsimp only [Run.read_apply]
  rw [hhandler]
  rfl

/-- What is shown without elements. -/
theorem replies_alone {how : Rendering}
    (hhandler : form.handler? (w.typeOf o) = some (slot, .rendering how))
    (ho : ¬ (how = .array ∧ shown.contains o = false)) :
    (natives.showObject (depth + 1) form o).Replies shown w
      ((how.alone o >>= Rendering.expectText slot) w).reply := by
  have hrun : natives.showObject (depth + 1) form o shown w =
      ofRun (how.alone o >>= Rendering.expectText slot) shown w := by
    rw [showObject_rendering hhandler, bind_apply, Rendering.run_alone ho, ← bind_apply,
      ofRun_bind_apply]
  refine (replies_ofRun fun hend => ?_).of_grows (.refl w) hrun
  rw [Rendering.alone_world (Rendering.ends_of_expectText hend)]
  exact .refl w

theorem replies_noElements {f : Fault}
    (hhandler : form.handler? (w.typeOf o) = some (slot, .rendering .array))
    (ho : shown.contains o = false) (hitems : w.items o = .error f) :
    (natives.showObject (depth + 1) form o).Replies shown w (.fault f) := by
  have hrun : natives.showObject (depth + 1) form o shown w =
      .done (.error f, (shown.insert o).erase o) w := by
    rw [showObject_rendering hhandler, bind_apply, Rendering.run_elements ho, hitems]
  exact ⟨_, w, hrun, ObjectSet.erase_insert_same ho, .refl w⟩

/-- **Elements**: an array that is not being shown replies as its elements do. -/
theorem replies_elements {items : List Value} {texts : Reply (List String)}
    (hhandler : form.handler? (w.typeOf o) = some (slot, .rendering .array))
    (ho : shown.contains o = false) (hitems : w.items o = .ok items)
    (hall : (showAll (natives.showElement depth) items).Replies (shown.insert o) w texts) :
    (natives.showObject (depth + 1) form o).Replies shown w texts.bracketed := by
  have hrestored : ∀ {shown' : ObjectSet}, shown'.Same (shown.insert o) →
      (shown'.erase o).Same shown :=
    fun hsame => (hsame.erase o).trans (ObjectSet.erase_insert_same ho)
  have hrun : natives.showObject (depth + 1) form o shown w = _ :=
    (showObject_rendering hhandler).trans (bind_apply _ _ _ _)
  rw [Rendering.run_elements ho, hitems] at hrun
  -- With a result and with a fault the array is erased again, so the set is the same.
  cases texts with
  | result texts =>
    obtain ⟨shown', w', hshow, hsame, hgrows⟩ := hall
    simp only [hshow] at hrun
    exact ⟨shown'.erase o, w', hrun, hrestored hsame, hgrows⟩
  | fault f =>
    obtain ⟨shown', w', hshow, hsame, hgrows⟩ := hall
    simp only [hshow] at hrun
    exact ⟨shown'.erase o, w', hrun, hrestored hsame, hgrows⟩
  | never =>
    have hshow : showAll (natives.showElement depth) items (shown.insert o) w = .diverged := hall
    simp only [hshow] at hrun
    exact hrun

/-- An element is converted first. -/
theorem replies_showElement {v : Value} {reply : Reply String}
    (h : (natives.showObject depth .representation (w.toObject v).1).Replies shown (w.toObject v).2
      reply) : (natives.showElement depth v).Replies shown w reply := by
  refine h.of_grows (w.toObject_grows v) ?_
  rw [showElement, bind_apply, ofRun_apply]
  rfl

end Natives

end DynamicObjects
