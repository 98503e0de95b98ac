import DynamicObjects.Proofs.Conversion.Positions
import DynamicObjects.Proofs.Rendering.Path
import DynamicObjects.Proofs.Rendering.Spelling
import DynamicObjects.Proofs.Safety.Singletons
import Mathlib.Data.String.Basic

/-! # Representations are unambiguous

    The representation of a datum is what it is spelled as.  So different data have
    different representations, as long as the objects of the two truth values count
    as different ones.

    The argument:
    1. A datum is converted to new arrays, which stand in the order of the elements:
       none of them is being shown when it is its turn.
    2. Each level of lists takes one level of depth, and the size of the datum is
       enough.
    3. What is spelled can be read in one way.

    Main results:
    - `Natives.represent_datum`: representations are spelled
    - `Natives.represent_unambiguous_iff`: when they tell data apart -/

namespace DynamicObjects

open Showing

/-! ## Arrays that are not being shown -/

namespace ObjectSet

/-- Nothing from some place on is in a set. -/
def FreeFrom (place : Nat) (shown : ObjectSet) : Prop :=
  ∀ o : ObjectId, place ≤ o.index → shown.contains o = false

variable {place place' : Nat} {shown shown' : ObjectSet}

theorem freeFrom_empty (place : Nat) : empty.FreeFrom place := fun o _ => by simp

theorem FreeFrom.mono (h : shown.FreeFrom place) (hle : place ≤ place') :
    shown.FreeFrom place' :=
  fun o ho => h o (Nat.le_trans hle ho)

theorem FreeFrom.same (h : shown.FreeFrom place) (hsame : shown'.Same shown) :
    shown'.FreeFrom place :=
  fun o ho => (hsame o).trans (h o ho)

theorem FreeFrom.insert (h : shown.FreeFrom place) {o : ObjectId} (ho : place ≤ o.index) :
    (shown.insert o).FreeFrom (o.index + 1) := by
  intro p hp
  have hne : o ≠ p := by
    rintro rfl
    exact Nat.not_succ_le_self _ hp
  rw [contains_insert, h p (by omega)]
  simp [hne]

/-- An object in front of some place does not matter behind it. -/
theorem FreeFrom.insert_old (h : shown.FreeFrom place) {o : ObjectId} (ho : o.index < place) :
    (shown.insert o).FreeFrom place := by
  intro p hp
  have hne : o ≠ p := by
    rintro rfl
    omega
  rw [contains_insert, h p hp]
  simp [hne]

end ObjectSet

/-! ## Computations that give a result -/

namespace Showing

variable {α β : Type}

/-- A computation **gives** a result in a world, whatever is being shown in front of
    some place; it leaves the world as it is, and restores the set. -/
def Gives (place : Nat) (w : World) (r : Showing α) (a : α) : Prop :=
  ∀ shown, shown.FreeFrom place → ∃ shown', r shown w = .done (.ok a, shown') w ∧
    shown'.Same shown

section gives
variable {place : Nat} {w : World}

theorem gives_pure (a : α) : Gives place w (pure a : Showing α) a :=
  fun shown _ => ⟨shown, rfl, .refl shown⟩

theorem gives_ofRun {r : Run α} {a : α} (h : r w = .done a w) : Gives place w (ofRun r) a := by
  intro shown _
  refine ⟨shown, ?_, .refl shown⟩
  rw [ofRun_apply, h]

theorem Gives.mono {place' : Nat} {r : Showing α} {a : α} (h : Gives place w r a)
    (hle : place' ≤ place) : Gives place' w r a :=
  fun shown hfree => h shown (hfree.mono hle)

theorem Gives.bind {r : Showing α} {next : α → Showing β} {a : α} {b : β}
    (h : Gives place w r a) (hnext : Gives place w (next a) b) :
    Gives place w (r >>= next) b := by
  intro shown hfree
  obtain ⟨shown₁, hr, hsame₁⟩ := h shown hfree
  obtain ⟨shown₂, hnext, hsame₂⟩ := hnext shown₁ (hfree.same hsame₁)
  refine ⟨shown₂, ?_, hsame₂.trans hsame₁⟩
  rw [bind_apply, hr]
  exact hnext

end gives

end Showing

/-! ## What truth values count as -/

namespace World

/-- The objects of the truth values hold values that **count as** truth values. -/
def TruthsCountAs (w : World) (counts : Bool → Bool) : Prop :=
  ∀ b, ∃ v, w.payload? (boolObject b) = some v ∧ (∀ o, v ≠ .object o) ∧ truthOfRaw v = counts b

section truths
variable {w w' : World} {counts : Bool → Bool}

theorem boolObject_mem_singletons (b : Bool) : boolObject b ∈ singletons := by
  cases b <;> decide

/-- They do so in all worlds that only have more objects. -/
theorem TruthsCountAs.grows (h : w.TruthsCountAs counts) (hw : w.HasSingletons)
    (hgrows : w.Grows w') : w'.TruthsCountAs counts := by
  intro b
  obtain ⟨v, hpayload, hcounts⟩ := h b
  refine ⟨v, ?_, hcounts⟩
  rw [payload?, hgrows.property?_eq (hw.index_lt (boolObject_mem_singletons b))]
  exact hpayload

/-- And that is what they show. -/
theorem TruthsCountAs.boolText_eq (h : w.TruthsCountAs counts) (b : Bool) :
    Rendering.boolText w (boolObject b) = some (if counts b then "true" else "false") := by
  obtain ⟨v, hpayload, hraw, hcounts⟩ := h b
  have htruth : w.truth v = some (counts b) := by
    rw [← hcounts]
    cases v with
    | object o => exact absurd rfl (hraw o)
    | _ => rfl
  rw [Rendering.boolText, hpayload]
  simp only [htruth, Option.map_some]

/-- Truth values count as themselves while the singletons are intact. -/
theorem SingletonsIntact.truthsCountAs (h : w.SingletonsIntact) : w.TruthsCountAs id := by
  intro b
  refine ⟨.bool b, ?_, nofun, rfl⟩
  rw [h _ (boolObject_mem_singletons b)]
  cases b <;> rfl

end truths

end World

/-! ## Showing data -/

namespace Datum

variable (counts : Bool → Bool)

/-- The texts of the elements make up the text of the list. -/
theorem bracketed_spelling (items : List Datum) :
    Rendering.bracketed (items.map (spelling counts)) = .text ((list items).spelling counts) := by
  rw [Rendering.bracketed, Value.text.injEq, ← String.toList_inj, spelling, spelled_list]
  simp [String.toList_intercalate, Function.comp_def, spelling]

end Datum

namespace Natives

variable {natives : Natives} {w : World} {counts : Bool → Bool} {place depth : Nat} {o : ObjectId}

/-- What is shown of an element: the value is converted, and then its representation
    is shown to a limited depth. -/
def showElement (natives : Natives) (depth : Nat) (v : Value) : Showing String := do
  let o ← Showing.ofRun (Run.step fun w => w.toObject v)
  natives.showObject depth .representation o

/-- An object gives the text that its rendering gives. -/
theorem showObject_gives {form : TextForm} {slot : Slot} {how : Rendering} {text : String}
    (hhandler : form.handler? (w.typeOf o) = some (slot, .rendering how))
    (hrun : Gives place w (how.run (natives.showElement depth) o) (.text text)) :
    Gives place w (natives.showObject (depth + 1) form o) text := by
  have hread : Gives place w (ofRun (Run.read fun w => w.typeOf o)) (w.typeOf o) := gives_ofRun rfl
  rw [showObject]
  refine hread.bind ?_
  rw [hhandler]
  exact hrun.bind (gives_ofRun rfl)

/-- **Alone**: an object that shows a text by itself gives this text. -/
theorem showObject_gives_alone {form : TextForm} {slot : Slot} {how : Rendering} {text : String}
    (hhandler : form.handler? (w.typeOf o) = some (slot, .rendering how)) (harray : how ≠ .array)
    (halone : how.alone o w = .done (.text text) w) :
    Gives place w (natives.showObject (depth + 1) form o) text := by
  refine showObject_gives hhandler fun shown hfree => ?_
  rw [Rendering.run_alone fun h => harray h.1]
  exact gives_ofRun halone shown hfree

/-- **Elements**: an array gives what its elements give, with one more level of depth,
    since it is not being shown. -/
theorem showObject_gives_elements {items : List Value} {texts : List String} {text : String}
    (ho : place ≤ o.index) (htype : w.typeOf o = .array)
    (hpayload : w.payload? o = some (.list items))
    (hall : Gives (o.index + 1) w (showAll (natives.showElement depth) items) texts)
    (htext : Rendering.bracketed texts = .text text) :
    Gives place w (natives.showObject (depth + 1) .representation o) text := by
  have hhandler : TextForm.representation.handler? (w.typeOf o) =
      some (.repr, .rendering .array) := by rw [htype]; rfl
  have hitems : w.items o = .ok items := by rw [World.items, hpayload]
  refine showObject_gives hhandler fun shown hfree => ?_
  -- The elements stand behind the array, which is in the set while they are shown.
  obtain ⟨shown₁, hshown, hsame⟩ := hall (shown.insert o) (hfree.insert ho)
  refine ⟨shown₁.erase o, ?_, (hsame.erase o).trans (ObjectSet.erase_insert_same (hfree o ho))⟩
  rw [Rendering.run_elements (hfree o ho), hitems]
  simp only [hshown, htext]

/-- A truth value shows by itself what it is spelled as; so do integers and texts. -/
theorem alone_bool (htruths : w.TruthsCountAs counts) (b : Bool) :
    Rendering.bool.alone (World.boolObject b) w =
      .done (.text ((Datum.bool b).spelling counts)) w := by
  have hspelling : (Datum.bool b).spelling counts = if counts b then "true" else "false" := by
    rw [Datum.spelling, Datum.spelled, String.ofList_toList]
  rw [hspelling, Rendering.alone, Run.bind_apply, Run.read_apply]
  simp only [id_eq, Run.bind_apply, htruths.boolText_eq, Run.ofTerminating_some, Run.pure_apply]

theorem alone_integer {n : Int64} (hpayload : w.payload? o = some (.int n)) :
    Rendering.integer.alone o w = .done (.text ((Datum.int n).spelling counts)) w := by
  have hnumber : Rendering.numberText w o .integer = integerText n.toInt := by
    unfold Rendering.numberText
    rw [hpayload]
  rw [Datum.spelling, Datum.spelled, ← hnumber]
  rfl

theorem alone_quotedText {s : String} (hpayload : w.payload? o = some (.text s)) :
    Rendering.quotedText.alone o w = .done (.text ((Datum.text s).spelling counts)) w := by
  have htext : Rendering.textOf w o = s := by rw [Rendering.textOf, hpayload]
  rw [Datum.spelling, Datum.spelled, ← htext]
  rfl

mutual

/-- **Data** that have been converted give what they are spelled as, at a depth that
    is not less than their size. -/
theorem showObject_gives_datum (hw : w.HasSingletons) (htruths : w.TruthsCountAs counts)
    {start lo hi depth : Nat} {o : ObjectId} (d : Datum)
    (ho : w.IsConversion start o d.value) (horder : w.IsInOrder lo hi o d.value)
    (hdepth : d.value.size ≤ depth) :
    Gives lo w (natives.showObject depth .representation o) (d.spelling counts) := by
  obtain ⟨depth, rfl⟩ : ∃ k, depth = k + 1 := by
    have hpos := d.value.size_pos
    exact ⟨depth - 1, by omega⟩
  match d with
  | .null =>
    obtain rfl := ho
    exact showObject_gives_alone (by rw [hw.typeOf_nullObject]; rfl) (by decide) rfl
  | .bool b =>
    obtain rfl := ho
    exact showObject_gives_alone (by rw [hw.typeOf_boolObject]; rfl) (by decide)
      (alone_bool htruths b)
  | .int n =>
    obtain ⟨-, htype, hpayload⟩ := ho
    exact showObject_gives_alone (by rw [← Option.some.inj htype]; rfl) (by decide)
      (alone_integer hpayload)
  | .text s =>
    obtain ⟨-, htype, hpayload⟩ := ho
    exact showObject_gives_alone (by rw [← Option.some.inj htype]; rfl) (by decide)
      (alone_quotedText hpayload)
  | .list items =>
    rw [Datum.value, World.IsConversion] at ho
    rw [Datum.value, World.IsInOrder] at horder
    rw [Datum.value, Value.size] at hdepth
    obtain ⟨-, htype, os, hpayload, hos⟩ := ho
    obtain ⟨hlo, -, os', hpayload', horder⟩ := horder
    -- Both speak of the elements that the array holds.
    obtain rfl := World.eq_of_payload_objects hpayload hpayload'
    exact showObject_gives_elements hlo htype hpayload
      (showAll_gives_data hw htruths items hos horder (Nat.le_of_succ_le_succ hdepth))
      (Datum.bracketed_spelling counts items)

/-- Elements stand behind the array in order, each of them in front of the next one. -/
theorem showAll_gives_data (hw : w.HasSingletons) (htruths : w.TruthsCountAs counts)
    {start lo hi depth : Nat} {os : List ObjectId} (items : List Datum)
    (hos : w.AreConversions start os (Datum.values items))
    (horder : w.AreInOrder lo hi os (Datum.values items))
    (hdepth : Value.sizeList (Datum.values items) ≤ depth) :
    Gives lo w (showAll (natives.showElement depth) (os.map .object))
      (items.map (Datum.spelling counts)) := by
  match items with
  | [] =>
    obtain rfl : os = [] := hos
    exact gives_pure []
  | d :: rest =>
    rw [Datum.values, World.AreConversions] at hos
    rw [Datum.values, World.AreInOrder] at horder
    rw [Datum.values, Value.sizeList] at hdepth
    obtain ⟨o, os, rfl, hfirst, hrest⟩ := hos
    obtain ⟨o', os', mid, heq, hlo, hhi, horder, horders⟩ := horder
    obtain ⟨rfl, rfl⟩ := List.cons.inj heq
    -- The element has been converted already, so the world stays as it is.
    have helement : Gives lo w (natives.showElement depth (.object o)) (d.spelling counts) :=
      (gives_ofRun rfl).bind (showObject_gives_datum hw htruths d hfirst horder (by omega))
    have helements : Gives mid w (showAll (natives.showElement depth) (os.map .object))
        (rest.map (Datum.spelling counts)) :=
      showAll_gives_data hw htruths rest hrest horders (by omega)
    exact helement.bind ((helements.mono hlo).bind (gives_pure _))

end

/-! ## Representations -/

/-- **Representations** of data are what these are spelled as. -/
theorem represent_datum (natives : Natives) (hw : w.HasSingletons)
    (htruths : w.TruthsCountAs counts) (d : Datum) :
    natives.represent d.value w = .done (d.spelling counts) (w.toObject d.value).2 := by
  obtain ⟨depth, hdepth, hrender⟩ := exists_render_eq natives .representation d.value w
  have hsize : d.value.size ≤ depth := by
    have hlt := World.lt_renderingDepth w d.value
    omega
  have hgrows := w.toObject_grows d.value
  have hgives : Gives w.heap.size (w.toObject d.value).2
      (natives.showObject depth .representation (w.toObject d.value).1) (d.spelling counts) :=
    showObject_gives_datum (hw.later (w.toObject_later d.value)) (htruths.grows hw hgrows) d
      (World.toObject_isConversion d.value (Nat.le_refl _)) (w.toObject_isInOrder d.value) hsize
  obtain ⟨shown, hshown, -⟩ := hgives .empty (ObjectSet.freeFrom_empty _)
  rw [represent, hrender, showValue, during_bind, ofRun_apply, Run.step_apply]
  · simp only [during_apply, hshown]
  · exact fun s hform _ => by cases hform

/-- **Unambiguous**.  In worlds whose truth values count alike, data have
    representations, and what is represented alike is the same, exactly if true and
    false do not count as the same.  Quotes keep their content apart from all that
    stands behind them, whatever the truth values count as. -/
theorem represent_unambiguous_iff (natives : Natives) {w' : World} (hw : w.HasSingletons)
    (hw' : w'.HasSingletons) (htruths : w.TruthsCountAs counts)
    (htruths' : w'.TruthsCountAs counts) :
    (∀ d : Datum, ∃ text w₁, natives.represent d.value w = .done text w₁ ∧
      w₁.HasSingletons ∧ w₁.TruthsCountAs counts) ∧
    ((∀ (d e : Datum) text w₁ w₂, natives.represent d.value w = .done text w₁ →
      natives.represent e.value w' = .done text w₂ → d = e) ↔ counts true ≠ counts false) ∧
    ∀ s t rest rest', Quoted.encode s ++ rest = Quoted.encode t ++ rest' →
      s = t ∧ rest = rest' := by
  -- In either world the representation is the spelling, so both are compared there.
  have hleft := represent_datum natives hw htruths
  have hright := represent_datum natives hw' htruths'
  refine ⟨fun d => ?_, ?_, fun s t rest rest' => Quoted.encode_append_inj⟩
  · exact ⟨_, _, hleft d, hw.later (w.toObject_later d.value),
      htruths.grows hw (w.toObject_grows d.value)⟩
  · rw [← Datum.spelling_injective_iff]
    constructor
    · intro h d e heq
      exact h d e _ _ _ (hleft d) (heq ▸ hright e)
    · intro hinjective d e text w₁ w₂ hd he
      obtain ⟨hd, -⟩ := Outcome.done.inj ((hleft d).symm.trans hd)
      obtain ⟨he, -⟩ := Outcome.done.inj ((hright e).symm.trans he)
      exact hinjective (hd.trans he.symm)

/-- At the start true and false count as themselves, so that different data have
    different representations. -/
theorem represent_unambiguous_initial :
    World.initial.HasSingletons ∧ World.initial.TruthsCountAs id ∧
      ∀ (d e : Datum) text w₁ w₂,
        Stock.natives.represent d.value World.initial = .done text w₁ →
        Stock.natives.represent e.value World.initial = .done text w₂ → d = e := by
  have hintact : World.initial.SingletonsIntact := fun _ _ => rfl
  have hinitial := World.hasSingletons_initial
  obtain ⟨-, hiff, -⟩ := represent_unambiguous_iff Stock.natives hinitial hinitial
    hintact.truthsCountAs hintact.truthsCountAs
  exact ⟨hinitial, hintact.truthsCountAs, hiff.mpr (by decide)⟩

end Natives

/-- When the initializer of truth has been called without arguments, true and false
    are both represented as false. -/
theorem represent_truthInitialized :
    (∃ last, SparingRun Stock.host last truthInitialized) ∧
      Stock.natives.represent (Datum.bool true).value truthInitialized =
        .done "false" truthInitialized ∧
      Stock.natives.represent (Datum.bool false).value truthInitialized =
        .done "false" truthInitialized ∧
      Datum.bool true ≠ Datum.bool false :=
  ⟨sparingRun_truthInitialized.imp fun _ h => h.1, rfl, rfl, by simp⟩

end DynamicObjects
