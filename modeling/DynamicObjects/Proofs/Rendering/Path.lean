import DynamicObjects.Host.Stock
import DynamicObjects.Proofs.Rendering.Depth
import DynamicObjects.Proofs.Rendering.Reference
import DynamicObjects.Proofs.Safety.Reachable
import Mathlib.Tactic.IntervalCases

/-! # Rendering follows the path

    Rendering comes to an end and gives what the reference gives, for a host that
    leaves arrays alone: by induction on the depth, as long as there is more of it
    than the arrays that are left may use up.

    Main results:
    - `Natives.showObject_agrees`: the reference at a depth that suffices
    - `Natives.render_follows_path`: the reference for every value -/

namespace DynamicObjects

open Showing

/-! ## Agreement -/

/-- A set **holds** the arrays of a path. -/
def ObjectSet.Holds (shown : ObjectSet) (path : List ObjectId) : Prop :=
  ∀ o, shown.contains o = decide (o ∈ path)

namespace ObjectSet

variable {shown shown' : ObjectSet} {path : List ObjectId}

theorem holds_empty : empty.Holds [] := fun o => by simp

theorem Holds.same (h : shown.Holds path) (hsame : shown.Same shown') : shown'.Holds path :=
  fun o => (hsame o).symm.trans (h o)

theorem Holds.insert (h : shown.Holds path) (o : ObjectId) :
    (shown.insert o).Holds (o :: path) := by
  intro p
  rw [contains_insert, h p]
  simp [eq_comm]

end ObjectSet

namespace Showing

variable {α β : Type}

theorem during_bind (r : Showing α) (next : α → Showing β) (shown : ObjectSet) (w : World) :
    (r >>= next).during shown w =
      match r shown w with
      | .done (.ok a, shown₁) w₁ => (next a).during shown₁ w₁
      | .done (.error f, _) w₁ => .raised f w₁
      | .raised f w₁ => .raised f w₁
      | .diverged => .diverged := by
  rw [during_apply, bind_apply]
  cases r shown w with
  | done result w₁ =>
    obtain ⟨_ | a, shown₁⟩ := result
    · rfl
    · exact (during_apply _ _ _).symm
  | raised f w₁ => rfl
  | diverged => rfl

/-- Runs that show no array need no set. -/
theorem during_ofRun_bind (r : Run α) (next : α → Run β) (shown : ObjectSet) (w : World) :
    (ofRun r >>= fun a => ofRun (next a)).during shown w = (r >>= next) w := by
  rw [during_bind, ofRun_apply, Run.bind_apply]
  cases r w with
  | done a w₁ =>
    dsimp only
    rw [during_apply, ofRun_apply]
    cases next a w₁ <;> rfl
  | raised f w₁ => rfl
  | diverged => rfl

end Showing

namespace Rendering

theorem expectText_ne_diverged (slot : Slot) (v : Value) (w : World) :
    expectText slot v w ≠ .diverged := by
  simp only [expectText, Run.bind_apply, Run.read_apply, id_eq]
  cases w.unwrap v <;> simp

section run
variable {element : Value → Showing String} {this : ObjectId} {how : Rendering}
    {shown : ObjectSet} {w : World}

theorem run_alone (h : ¬ (how = .array ∧ shown.contains this = false)) :
    how.run element this shown w = ofRun (how.alone this) shown w := by
  rw [run, if_neg h]

/-- An array that is not being shown joins the set, and its elements are shown. -/
theorem run_elements (h : shown.contains this = false) :
    Rendering.array.run element this shown w =
      match w.items this with
      | .error f => .done (.error f, (shown.insert this).erase this) w
      | .ok items =>
        match showAll element items (shown.insert this) w with
        | .done (.ok texts, shown₁) w₁ => .done (.ok (bracketed texts), shown₁.erase this) w₁
        | .done (.error f, shown₁) w₁ => .done (.error f, shown₁.erase this) w₁
        | .raised f w₁ => .raised f w₁
        | .diverged => .diverged := by
  rw [run, if_pos ⟨rfl, h⟩, guarded_apply, bind_apply, ofRun_apply]
  dsimp only [Run.read_apply, id_eq]
  rw [bind_apply, ofRun_apply]
  -- Whatever comes of the elements, the array leaves the set when they are done.
  cases w.items this with
  | error f => rfl
  | ok items =>
    dsimp only [Run.ofExcept, Run.pure_apply]
    rw [bind_apply]
    cases showAll element items (shown.insert this) w with
    | done result w₁ => obtain ⟨_ | texts, shown₁⟩ := result <;> rfl
    | raised f w₁ => rfl
    | diverged => rfl

end run

/-- By itself everything but an endless truth value has something to show. -/
theorem of_alone_eq_diverged {how : Rendering} {o : ObjectId} {w : World}
    (h : how.alone o w = .diverged) : how = .bool ∧ w.PayloadsForEver o := by
  simp only [alone, Run.bind_apply, Run.read_apply, id_eq] at h
  cases how with
  | bool =>
    refine ⟨rfl, World.boolText_eq_none_iff.mp ?_⟩
    cases hb : boolText w o <;> simp_all [Run.bind_apply]
  | struct => cases hs : structText w o <;> simp_all [Run.bind_apply]
  | _ => simp_all

end Rendering

namespace Natives

/-- An outcome is as the reference says, for an object. -/
def Agrees (natives : Natives) (path : List ObjectId) (form : TextForm) (o : ObjectId)
    (w : World) : Outcome String → Prop
  | .done text w' => Shows natives path form o w (.ok text) w'
  | .raised f w' => Shows natives path form o w (.error f) w'
  | .diverged => Stalls natives path form o w

/-- An outcome is as the reference says, for the elements of an array. -/
def AgreesAll (natives : Natives) (path : List ObjectId) (items : List Value) (w : World) :
    Outcome (List String) → Prop
  | .done texts w' => ShowsAll natives path items w (.ok texts) w'
  | .raised f w' => ShowsAll natives path items w (.error f) w'
  | .diverged => ∃ before v after texts w₁, items = before ++ v :: after ∧
      ShowsAll natives path before w (.ok texts) w₁ ∧
      Stalls natives path .representation (w₁.toObject v).1 (w₁.toObject v).2

variable {natives : Natives} {path : List ObjectId} {form : TextForm} {o : ObjectId}
    {w : World} {shown : ObjectSet}

theorem agrees_attempt {r : Run String} (hend : r w ≠ .diverged)
    (h : ∀ {result w'}, Run.attempt r w = .done result w' → Shows natives path form o w result w') :
    Agrees natives path form o w (r w) := by
  cases hr : r w with
  | done text w' => exact h (by rw [Run.attempt, hr])
  | raised f w' => exact h (by rw [Run.attempt, hr])
  | diverged => exact absurd hr hend

/-! ### One object -/

section object
variable {slot : Slot} {depth : Nat}

theorem showObject_during (hhandler : form.handler? (w.typeOf o) = none) :
    (natives.showObject (depth + 1) form o).during shown w =
      .raised (.slotUnsupported .str (w.typeName o)) w := by
  rw [showObject, during_bind, ofRun_apply]
  dsimp only [Run.read_apply]
  rw [hhandler]
  rfl

theorem showObject_during_native {name : String}
    (hhandler : form.handler? (w.typeOf o) = some (slot, .native name)) :
    (natives.showObject (depth + 1) form o).during shown w =
      (natives name o [] >>= Rendering.expectText slot) w := by
  rw [showObject, during_bind, ofRun_apply]
  dsimp only [Run.read_apply]
  rw [hhandler]
  exact during_ofRun_bind _ _ shown w

theorem showObject_during_rendering {how : Rendering}
    (hhandler : form.handler? (w.typeOf o) = some (slot, .rendering how)) :
    (natives.showObject (depth + 1) form o).during shown w =
      (how.run (natives.showValue depth .representation) o >>= fun v =>
        ofRun (Rendering.expectText slot v)).during shown w := by
  rw [showObject, during_bind, ofRun_apply]
  dsimp only [Run.read_apply]
  rw [hhandler]
  rfl

theorem native_agrees (hnatives : natives.LeaveArrays) {name : String}
    (hhandler : form.handler? (w.typeOf o) = some (slot, .native name)) :
    Agrees natives path form o w ((natives name o [] >>= Rendering.expectText slot) w) := by
  refine agrees_attempt (fun hend => ?_) fun hrun => .native hhandler hrun
  rcases Run.bind_eq_diverged_iff.mp hend with hend | ⟨v, w₁, -, hend⟩
  · exact (hnatives hhandler).ne_diverged hend
  · exact Rendering.expectText_ne_diverged slot v w₁ hend

theorem alone_agrees {how : Rendering}
    (hhandler : form.handler? (w.typeOf o) = some (slot, .rendering how))
    (ho : how = .array → o ∈ path) :
    Agrees natives path form o w ((how.alone o >>= Rendering.expectText slot) w) := by
  by_cases hend : how.alone o w = .diverged
  · obtain ⟨rfl, hpayloads⟩ := Rendering.of_alone_eq_diverged hend
    rw [Run.bind_apply, hend]
    exact .truth hhandler hpayloads
  · refine agrees_attempt (fun hdiverged => ?_) fun hrun => .alone hhandler ho hrun
    rcases Run.bind_eq_diverged_iff.mp hdiverged with h | ⟨v, w₁, -, h⟩
    · exact hend h
    · exact Rendering.expectText_ne_diverged slot v w₁ h

/-- An array that is not on the path agrees if its elements do along the path that
    it has joined. -/
theorem elements_agree {element : Value → Showing String}
    (hhandler : form.handler? (w.typeOf o) = some (slot, .rendering .array)) (ho : o ∉ path)
    (hshown : shown.contains o = false)
    (hall : ∀ {items}, w.items o = .ok items → AgreesAll natives (o :: path) items w
      ((showAll element items).during (shown.insert o) w)) :
    Agrees natives path form o w
      ((Rendering.array.run element o >>= fun v =>
        ofRun (Rendering.expectText slot v)).during shown w) := by
  rw [during_bind, Rendering.run_elements hshown]
  cases hitems : w.items o with
  | error f => exact .noElements hhandler ho hitems
  | ok items =>
    have hagrees := hall hitems
    rw [during_apply] at hagrees
    dsimp only
    cases hshow : showAll element items (shown.insert o) w with
    | done result w₁ =>
      obtain ⟨result, shown₁⟩ := result
      rw [hshow] at hagrees
      cases result with
      | error f => exact .elements hhandler ho hitems hagrees
      | ok texts => exact .elements hhandler ho hitems hagrees
    | raised f w₁ =>
      rw [hshow] at hagrees
      exact .elements hhandler ho hitems hagrees
    | diverged =>
      rw [hshow] at hagrees
      -- The reference stalls at the first element that does, after those before it are
      -- shown.
      obtain ⟨before, v, after, texts, w₁, rfl, hbefore, hstalls⟩ := hagrees
      exact .element hhandler ho hitems hbefore hstalls

end object

/-! ### Elements -/

/-- The elements are shown as the reference says if each of them is, whenever its
    turn comes. -/
theorem showAll_agrees {element : Value → Showing String}
    (hleads : ∀ v w, Leads World.Steady w (element v)) {items : List Value}
    (hshown : shown.Holds path)
    (helement : ∀ v ∈ items, ∀ {w' shown'}, w.Steady w' → shown'.Holds path →
      Agrees natives path .representation (w'.toObject v).1 (w'.toObject v).2
        ((element v).during shown' w')) :
    AgreesAll natives path items w ((showAll element items).during shown w) := by
  induction items generalizing w shown with
  | nil => exact .nil
  | cons v rest ih =>
    have hfirst := helement v List.mem_cons_self (.refl w) hshown
    have hlead := hleads v w shown
    rw [during_apply] at hfirst
    rw [showAll, during_bind]
    cases hv : element v shown w with
    | done result w₁ =>
      obtain ⟨result, shown₁⟩ := result
      rw [hv] at hfirst hlead
      obtain ⟨hsame, hsteady⟩ := hlead
      cases result with
      | error f => exact .fault hfirst
      | ok text =>
        -- The others are shown in a later world, and the set is the same again.
        have hrest := ih (w := w₁) (hshown.same hsame.symm) fun v hv w' shown' hsteady' =>
          helement v (List.mem_cons_of_mem _ hv) (hsteady.trans hsteady')
        dsimp only
        rw [during_bind]
        rw [during_apply] at hrest
        cases hall : showAll element rest shown₁ w₁ with
        | done result w₂ =>
          obtain ⟨result, shown₂⟩ := result
          rw [hall] at hrest
          cases result with
          | error f => exact .cons hfirst hrest
          | ok texts => exact .cons hfirst hrest
        | raised f w₂ =>
          rw [hall] at hrest
          exact .cons hfirst hrest
        | diverged =>
          rw [hall] at hrest
          obtain ⟨before, u, after, texts, w₂, rfl, hbefore, hstalls⟩ := hrest
          exact ⟨v :: before, u, after, _, w₂, rfl, .cons hfirst hbefore, hstalls⟩
    | raised f w₁ =>
      rw [hv] at hlead
      exact hlead.elim
    | diverged =>
      rw [hv] at hfirst
      exact ⟨[], v, rest, [], w, rfl, .nil, hfirst⟩

/-- A level of lists, or an old array that joins the path, leaves enough depth. -/
theorem unshown_cons_depth {n limit levels levels' depth : Nat} (ho : o ∉ path)
    (hlevels : o.index < n ∧ levels' = limit ∨ levels = levels' + 1)
    (hdepth : World.unshown n path * (limit + 2) + levels < depth + 1) :
    World.unshown n (o :: path) * (limit + 2) + levels' < depth := by
  rcases hlevels with ⟨hlt, rfl⟩ | rfl
  · have hle := Nat.mul_le_mul_right (levels' + 2) (World.unshown_cons_lt hlt ho)
    rw [Nat.succ_mul] at hle
    omega
  · have hle := Nat.mul_le_mul_right (limit + 2) (World.unshown_cons_le n o path)
    omega

/-- **Agreement**: an object is shown as the reference says, at a depth that is not
    used up before all old arrays are on the path. -/
theorem showObject_agrees (hnatives : natives.LeaveArrays) {n limit levels depth : Nat}
    (hbounded : w.Bounded n limit) (hwithin : w.Within n levels o) (hshown : shown.Holds path)
    (hdepth : World.unshown n path * (limit + 2) + levels < depth) :
    Agrees natives path form o w ((natives.showObject depth form o).during shown w) := by
  induction depth generalizing w path form o shown levels with
  | zero => omega
  | succ depth ih =>
    cases hhandler : form.handler? (w.typeOf o) with
    | none =>
      rw [showObject_during hhandler]
      exact .unsupported hhandler
    | some entry =>
      obtain ⟨slot, handler⟩ := entry
      cases handler with
      | native name =>
        rw [showObject_during_native hhandler]
        exact native_agrees hnatives hhandler
      | rendering how =>
        rw [showObject_during_rendering hhandler]
        by_cases hguard : how = .array ∧ shown.contains o = false
        · obtain ⟨rfl, hnot⟩ := hguard
          have ho : o ∉ path := by simpa [hshown o] using hnot
          refine elements_agree hhandler ho hnot fun hitems => ?_
          obtain ⟨levels', hlevels, helements⟩ :=
            hwithin.elements hbounded ⟨form, slot, hhandler⟩ hitems
          refine showAll_agrees (fun v _ => showValue_leads hnatives.change depth _ v)
            (hshown.insert o) ?_
          -- Each element has been converted before it is shown, which is steady.
          intro v hv w' shown' hsteady hholds
          show Agrees _ _ _ _ _ ((ofRun _ >>= natives.showObject depth .representation).during _ _)
          rw [during_bind, ofRun_apply]
          exact ih (hbounded.steady (hsteady.trans (w'.steady_toObject v)))
            (helements v hv hsteady) hholds (unshown_cons_depth ho hlevels hdepth)
        · have ho : how = .array → o ∈ path := by simpa [hshown o] using hguard
          rw [during_bind, Rendering.run_alone hguard, ← during_bind, during_ofRun_bind]
          exact alone_agrees hhandler ho

end Natives

/-! ## Values -/

namespace Natives

variable {natives : Natives} {w : World} {v : Value}

/-- An outcome is as the reference says, for a value. -/
def AgreesValue (natives : Natives) (form : TextForm) (v : Value) (w : World) :
    Outcome String → Prop
  | .done text w' => ShowsValue natives form v w (.ok text) w'
  | .raised f w' => ShowsValue natives form v w (.error f) w'
  | .diverged => StallsValue natives form v w

section agreesValue
variable {form : TextForm} {outcome : Outcome String} (h : AgreesValue natives form v w outcome)
include h

/-- There is but one text or fault that the reference gives, and an outcome that
    agrees has it. -/
theorem AgreesValue.done_iff {text : String} {w' : World} :
    outcome = .done text w' ↔ ShowsValue natives form v w (.ok text) w' := by
  constructor
  · rintro rfl
    exact h
  · intro hshows
    cases outcome with
    | done text' w₁ =>
      obtain ⟨htext, rfl⟩ := ShowsValue.functional h hshows
      rw [Except.ok.inj htext]
    | raised f w₁ => cases (ShowsValue.functional h hshows).1
    | diverged => exact absurd hshows (StallsValue.not_shows h)

theorem AgreesValue.raised_iff {f : Fault} {w' : World} :
    outcome = .raised f w' ↔ ShowsValue natives form v w (.error f) w' := by
  constructor
  · rintro rfl
    exact h
  · intro hshows
    cases outcome with
    | done text w₁ => cases (ShowsValue.functional h hshows).1
    | raised f' w₁ =>
      obtain ⟨hfault, rfl⟩ := ShowsValue.functional h hshows
      rw [Except.error.inj hfault]
    | diverged => exact absurd hshows (StallsValue.not_shows h)

theorem AgreesValue.diverged_iff : outcome = .diverged ↔ StallsValue natives form v w := by
  constructor
  · rintro rfl
    exact h
  · intro hstalls
    cases outcome with
    | done text w₁ => exact absurd h hstalls.not_shows
    | raised f w₁ => exact absurd h hstalls.not_shows
    | diverged => rfl

end agreesValue

theorem showValue_agrees (hnatives : natives.LeaveArrays) (hw : w.ArraysClosed)
    (hv : ∀ o ∈ v.references, o.index < w.heap.size) (form : TextForm) {depth : Nat}
    (hdepth : w.renderingDepth v ≤ depth) :
    AgreesValue natives form v w ((natives.showValue depth form v).during .empty w) := by
  -- All but a plain text is made an object first.
  have hobject : (form = .plain → ∀ s, v ≠ .text s) → AgreesValue natives form v w
      ((natives.showObject depth form (w.toObject v).1).during .empty (w.toObject v).2) := by
    intro hraw
    -- The new object reaches the old ones within the size of the value.
    have hsteady := w.steady_toObject v
    have hwithin : (w.toObject v).2.Within w.heap.size v.size (w.toObject v).1 :=
      World.within_of_isConversion hw.singletons v hv
        (World.toObject_isConversion v (Nat.le_refl _))
    have hagrees : Agrees natives [] form (w.toObject v).1 (w.toObject v).2
        ((natives.showObject depth form (w.toObject v).1).during .empty (w.toObject v).2) :=
      showObject_agrees hnatives (hw.bounded.steady hsteady) hwithin ObjectSet.holds_empty
        (Nat.lt_of_lt_of_le (World.lt_renderingDepth w v) hdepth)
    cases houtcome : (natives.showObject depth form (w.toObject v).1).during .empty
        (w.toObject v).2 with
    | done text w' =>
      rw [houtcome] at hagrees
      exact .object hraw hagrees
    | raised f w' =>
      rw [houtcome] at hagrees
      exact .object hraw hagrees
    | diverged =>
      rw [houtcome] at hagrees
      exact ⟨hraw, hagrees⟩
  unfold showValue
  split
  · exact .text
  · next hraw =>
    rw [during_bind, ofRun_apply]
    exact hobject fun hform s hs => hraw s hform hs

/-- **A rendering** goes as deep as it has to: it is tried with the usual depth first,
    and a deeper one ends in the same way if that one ends. -/
theorem exists_render_eq (natives : Natives) (form : TextForm) (v : Value) (w : World) :
    ∃ depth, w.renderingDepth v ≤ depth ∧
      natives.render form v w = (natives.showValue depth form v).during .empty w := by
  have hbelow := (natives.showValue_below (Nat.le_max_left Run.usualDepth (w.renderingDepth v))
    form v).during (ObjectSet.Same.refl .empty) w
  rw [render, Run.deepening]
  cases husual : (natives.showValue Run.usualDepth form v).during .empty w with
  | diverged =>
    -- The rendering is tried again, with a depth that suffices.
    exact ⟨_, Nat.le_refl _, rfl⟩
  | _ =>
    rw [husual] at hbelow
    rcases hbelow with h | h
    · cases h
    · exact ⟨_, Nat.le_max_right _ _, h.symm⟩

theorem render_agrees (hnatives : natives.LeaveArrays) (hw : w.ArraysClosed)
    (hv : ∀ o ∈ v.references, o.index < w.heap.size) (form : TextForm) :
    AgreesValue natives form v w (natives.render form v w) := by
  obtain ⟨depth, hdepth, hrender⟩ := exists_render_eq natives form v w
  rw [hrender]
  exact showValue_agrees hnatives hw hv form hdepth

/-- Two sets with the same members make no difference. -/
theorem showValue_during_congr (depth : Nat) (form : TextForm) (v : Value)
    {shown shown' : ObjectSet} (hsame : shown'.Same shown) (w : World) :
    (natives.showValue depth form v).during shown' w =
      (natives.showValue depth form v).during shown w := by
  have hbelow : (natives.showValue depth form v).Below (natives.showValue depth form v) :=
    showValue_below (Nat.le_refl depth) form v
  rcases hbelow.during hsame w with h | h
  · rcases hbelow.during hsame.symm w with h' | h'
    · rw [h, h']
    · exact h'
  · exact h.symm

/-- **Rendering follows the path**.  For a host that leaves arrays alone the text of
    a value, or the fault, is that of the reference; there is neither only if an
    endless truth value is met.  A rendering, whether it has failed or not, leaves
    the set of arrays being shown as it was, and has no effect on later ones. -/
theorem render_follows_path (hnatives : natives.LeaveArrays) (hw : w.ArraysClosed)
    (hv : ∀ o ∈ v.references, o.index < w.heap.size) (form : TextForm) :
    (∀ text w', natives.render form v w = .done text w' ↔
      ShowsValue natives form v w (.ok text) w') ∧
    (∀ f w', natives.render form v w = .raised f w' ↔
      ShowsValue natives form v w (.error f) w') ∧
    (natives.render form v w = .diverged ↔ StallsValue natives form v w) ∧
    ∀ depth shown result shown' w', natives.showValue depth form v shown w =
      .done (result, shown') w' → shown'.Same shown ∧
        ∀ depth' form' u w₁, (natives.showValue depth' form' u).during shown' w₁ =
          (natives.showValue depth' form' u).during shown w₁ := by
  have hagrees := render_agrees hnatives hw hv form
  -- What is shown later depends on the members of the set only, and these are restored.
  have hrestored : ∀ {depth shown result shown' w'}, natives.showValue depth form v shown w =
      .done (result, shown') w' → shown'.Same shown := by
    intro depth shown result shown' w' hend
    have hlead : EndsWith World.Steady shown w (natives.showValue depth form v shown w) :=
      showValue_leads hnatives.change depth form v shown
    rw [hend] at hlead
    exact hlead.1
  refine ⟨fun text w' => ?_, fun f w' => ?_, ?_, fun depth shown result shown' w' hend =>
    ⟨hrestored hend, fun depth' form' u => showValue_during_congr depth' form' u (hrestored hend)⟩⟩
  · exact hagrees.done_iff
  · exact hagrees.raised_iff
  · exact hagrees.diverged_iff

end Natives

/-! ## An array that contains itself -/

namespace Stock

/-- The handlers of the stock host write to their receiver at most, and what has such
    a handler is no array. -/
theorem natives_leaveArrays : natives.LeaveArrays := by
  intro form w this slot name hhandler
  -- Arrays are shown by a rendering, so the receiver of a handler is no array.
  have hthis : ¬ (w.typeOf this).IsArrayType := fun h => h.2 form slot name hhandler
  unfold Run.EndsSteadily natives
  cases StockHandler.ofName? name with
  | none => exact .inr ⟨_, w, rfl, .refl w⟩
  | some h =>
    cases h with
    | fail | raise => exact .inr ⟨_, w, rfl, .refl w⟩
    | null | zero | one | neg | text | boxfalse | self | args | echo =>
      exact .inl ⟨_, w, rfl, .refl w⟩
    | boxtext => exact .inl ⟨_, _, rfl, w.steady_toObject (.text "boxed")⟩
    | argc =>
      have hsteady : w.Steady (w.setProperty this "argc" (Value.ofCount 0)) :=
        World.steady_setProperty (.inl (by decide)) _
      exact .inl ⟨_, _, rfl, hsteady⟩
    | bump =>
      have hsteady : w.Steady (w.setProperty this "n" (.int (StockHandler.bumped w this))) :=
        World.steady_setProperty (.inl (by decide)) _
      exact .inl ⟨_, _, rfl, hsteady⟩
    | store =>
      have hsteady : w.Steady (w.setPayload this .null) := World.steady_setProperty (.inr hthis) _
      exact .inl ⟨_, _, rfl, hsteady⟩
    | marker =>
      have hident : w.Steady w.freshIdent.2 := ⟨⟨Nat.le_refl _, fun _ => rfl⟩, fun _ _ => rfl⟩
      have hbuilds : World.Builds w.freshIdent.2.heap.size (fun _ => True) w.freshIdent.2
          (w.freshIdent.2.allocate (StockHandler.markerType w.nextIdent)).2 :=
        World.allocate_builds _ (Nat.le_refl _)
      exact .inl ⟨_, _, rfl, hident.trans hbuilds.steady⟩

end Stock

/-- An array of the integer one and of the array itself. -/
def selfContaining : World :=
  (World.initial.toObject (.list [.int 1])).2.setPayload ⟨3⟩ (.list [.object ⟨16⟩, .object ⟨3⟩])

theorem arraysClosed_selfContaining : selfContaining.ArraysClosed := by
  -- The other objects are the singletons, the methods and the integer.
  have honly : ∀ {o : ObjectId}, (selfContaining.typeOf o).ShowsElements → o = ⟨3⟩ := by
    rintro ⟨i⟩ ⟨form, slot, h⟩
    by_cases hi : i < 17
    · interval_cases i <;> first | rfl | (cases form <;> cases h)
    · have hnone : selfContaining.object? ⟨i⟩ = none :=
        World.object?_eq_none_of_size_le (Nat.le_of_not_lt hi)
      rw [World.typeOf, World.object, hnone] at h
      cases form <;> cases h
  refine ⟨by decide, fun hshows => ?_, fun hshows hitems v hv p hp => ?_⟩
  · obtain rfl := honly hshows
    exact isArrayType_array
  · obtain rfl := honly hshows
    have hstored : selfContaining.items ⟨3⟩ = .ok [.object ⟨16⟩, .object ⟨3⟩] := rfl
    obtain rfl := Except.ok.inj (hstored.symm.trans hitems)
    simp only [List.mem_cons, List.not_mem_nil, or_false] at hv
    rcases hv with rfl | rfl <;> simp only [Value.references, List.mem_singleton] at hp <;>
      subst hp <;> decide

/-- It is written with dots for itself. -/
theorem render_follows_path_self :
    Stock.natives.LeaveArrays ∧ selfContaining.ArraysClosed ∧
      Natives.ShowsValue Stock.natives .plain (.object ⟨3⟩) selfContaining (.ok "[1, [...]]")
        selfContaining ∧
      Stock.natives.render .plain (.object ⟨3⟩) selfContaining =
        .done "[1, [...]]" selfContaining := by
  have hone : Natives.Shows Stock.natives [⟨3⟩] .representation ⟨16⟩ selfContaining (.ok "1")
      selfContaining := .alone rfl nofun rfl
  have hself : Natives.Shows Stock.natives [⟨3⟩] .representation ⟨3⟩ selfContaining (.ok "[...]")
      selfContaining := .alone rfl (by simp) rfl
  have hall : Natives.ShowsAll Stock.natives [⟨3⟩] [.object ⟨16⟩, .object ⟨3⟩] selfContaining
      (.ok ["1", "[...]"]) selfContaining := .cons hone (.cons hself .nil)
  have harray : Natives.Shows Stock.natives [] .plain ⟨3⟩ selfContaining (.ok "[1, [...]]")
      selfContaining := .elements rfl List.not_mem_nil rfl hall
  obtain ⟨hdone, -⟩ := Natives.render_follows_path Stock.natives_leaveArrays
    arraysClosed_selfContaining (v := .object ⟨3⟩) (by simp [Value.references]; decide) .plain
  have hvalue : Natives.ShowsValue Stock.natives .plain (.object ⟨3⟩) selfContaining
      (.ok "[1, [...]]") selfContaining := .object (by simp) harray
  exact ⟨Stock.natives_leaveArrays, arraysClosed_selfContaining, hvalue, (hdone _ _).mpr hvalue⟩

/-! ## An endless truth value -/

/-- Two truth values, each of which is the payload of the other. -/
def endlessTruth : World :=
  (((World.initial.box .bool (.bool false)).2.box .bool (.bool false)).2.setPayload ⟨3⟩
    (.object ⟨4⟩)).setPayload ⟨4⟩ (.object ⟨3⟩)

theorem reachable_endlessTruth : endlessTruth.Reachable Stock.host := by
  have hinitial : World.initial.Reachable Stock.host := .initial
  have hfirst := hinitial.step (.construct .bool []) World.supportsAll_nil (.inl rfl)
  have hsecond := hfirst.step (.construct .bool []) World.supportsAll_nil (.inl rfl)
  have hwritten := hsecond.step (.setAttr ⟨3⟩ payloadName (.object ⟨4⟩))
    (by simp [Operation.values]) (.inl rfl)
  exact hwritten.step (.setAttr ⟨4⟩ payloadName (.object ⟨3⟩)) (by simp [Operation.values])
    (.inl rfl)

/-- It has no text, since the search for the truth goes from one to the other for
    ever. -/
theorem render_endlessTruth :
    endlessTruth.Reachable Stock.host ∧ endlessTruth.PayloadsForEver ⟨3⟩ ∧
      Stock.natives.render .plain (.object ⟨3⟩) endlessTruth = .diverged := by
  refine ⟨reachable_endlessTruth, ?_, rfl⟩
  exact World.boolText_eq_none_iff.mp rfl

end DynamicObjects
