import DynamicObjects.Host
import DynamicObjects.Proofs.Isolation.Construction

/-! # Dispatch side by side

    A dispatch ends in the same way in worlds side by side, provided that the
    handlers and functions of the host do.

    Main results:
    - `Host.dispatch_follows`: a dispatch has the same answer
    - `Host.callMethod_follows`, `Host.equals_follows`: and so have method calls
      and comparisons -/

namespace DynamicObjects

open Run

/-- A host is **oblivious** of some places if its handlers are, and its functions
    too. -/
structure Host.Oblivious (host : Host) (S : Apart) : Prop where
  natives : host.natives.Oblivious S
  functions : ∀ (name : String) (args : List Value) (w w' : World), w.Beside S w' →
    w.ClearAll S args → (host.functions name args).Oblivious S w w' (World.Clear S)

variable {S : Apart} {w w' : World} {this : ObjectId} {args : List Value}

/-! ## Equality -/

theorem EqualityRule.decideEqual_follows (rule : EqualityRule) (hw : w.Beside S w')
    (hthis : w.Outside S this) (hargs : w.ClearAll S args) :
    (rule.decideEqual this args).Oblivious S w w' (World.Clear S) := by
  unfold decideEqual
  apply follows_lift_bind hw rfl
  intro other h
  have hother := hargs other (Arguments.mem_of_one h)
  have hobject : ∀ b : Bool, w.Clear S (World.boolValue b) :=
    fun b => Value.within_object.mpr (hw.boolObject b)
  apply follows_world_bind
  -- Whatever the rule reads is read of the same two values on both sides.
  cases rule with
  | identity => exact follows_pure hw (Value.within_bool _)
  | isNull =>
    dsimp only
    rw [hw.unwrap_eq hother]
    split
    · exact follows_pure hw (hobject true)
    · exact follows_pure hw (hobject false)
  | structural =>
    dsimp only
    rw [hw.structurallyEqual_eq (Value.within_object.mpr hthis) hother]
    apply (follows_ofTerminating hw fun _ h => h).bind
    intro same w₁ w₁' honward _
    exact follows_pure honward.beside (honward.clear (hobject same))
  | characters =>
    exact follows_lift_bind hw (Behaviour.sameCharacters_eq hw hthis hother)
      fun same _ => follows_pure hw (hobject same)

namespace Host

variable {host : Host} (hhost : host.Oblivious S)
include hhost

/-! ## Calls -/

theorem callFunction_follows (hw : w.Beside S w') {f : Function} (hf : w.Clear S (.function f))
    (hargs : w.ClearAll S args) :
    (host.callFunction f args).Oblivious S w w' (World.Clear S) := by
  unfold callFunction
  split
  · exact hhost.functions _ _ _ _ hw hargs
  · next receiver qualifiedName method hbody =>
    have hreceiver := Value.within_function.mp hf _ _ _ hbody
    apply follows_read_bind
    rw [hw.isAlive_eq hreceiver]
    split
    · unfold MethodBody.invoke
      cases method with
      | array method => exact method.invoke_follows hw hreceiver hargs
      | text method => exact method.invoke_follows hhost.natives hw hreceiver hargs
      | native name => exact hhost.natives _ _ _ _ _ hw hreceiver hargs
    · exact follows_raise hw _

theorem callPayload_follows (hw : w.Beside S w') (hthis : w.Outside S this)
    (hargs : w.ClearAll S args) :
    (host.callPayload this args).Oblivious S w w' (World.Clear S) := by
  unfold callPayload
  apply follows_world_bind
  rw [hw.payload?_eq hthis, hw.typeName_eq hthis]
  split
  · next f hpayload => exact callFunction_follows hhost hw (hw.clear_property hpayload) hargs
  · exact follows_raise hw _

/-! ## Dispatch -/

theorem invoke_follows {s : Slot} (h : Handler s) (hw : w.Beside S w')
    (hthis : w.Outside S this) (hargs : w.ClearAll S args) :
    (host.invoke h this args).Oblivious S w w' (World.Clear S) := by
  cases h with
  | native name => exact hhost.natives _ _ _ _ _ hw hthis hargs
  | construct how =>
    exact Natives.runInitializer_follows hhost.natives (.construct how) hw hthis hargs
  | str how => exact Natives.renderHandler_follows hhost.natives hw hthis how
  | repr how => exact Natives.renderHandler_follows hhost.natives hw hthis how
  | eq rule => exact rule.decideEqual_follows hw hthis hargs
  | identical =>
    exact follows_lift_bind hw rfl
      fun other _ => follows_pure hw (Value.within_object.mpr (hw.boolObject _))
  | getItem container =>
    cases container with
    | text => exact Behaviour.textGetItem_follows hw hthis hargs
    | array => exact Behaviour.arrayGetItem_follows hw hthis hargs
  | setItem => exact Behaviour.arraySetItem_follows hw hthis hargs
  | getAttr store => exact store.getHandler_follows hw hthis hargs
  | setAttr store => exact store.setHandler_follows hw hthis hargs
  | len container =>
    cases container with
    | text => exact Behaviour.textLength_follows hw hthis
    | array => exact Behaviour.arrayLength_follows hw hthis
  | call => exact callPayload_follows hhost hw hthis hargs
  | addNumber => exact Behaviour.arithmetic_follows .add hw hthis hargs
  | subNumber => exact Behaviour.arithmetic_follows .sub hw hthis hargs
  | mulNumber => exact Behaviour.arithmetic_follows .mul hw hthis hargs
  | divNumber => exact Behaviour.arithmetic_follows .div hw hthis hargs
  | concatenate => exact Behaviour.concatenate_follows hhost.natives hw hthis hargs
  | repeatText => exact Behaviour.repeatText_follows hw hthis hargs

/-- **Dispatch**: the type of the receiver is the same, and so is what its handler
    does. -/
theorem dispatch_follows (s : Slot) (hw : w.Beside S w') (hthis : w.Outside S this)
    (hargs : w.ClearAll S args) :
    (host.dispatch this s args).Oblivious S w w' (World.Clear S) := by
  unfold dispatch
  apply follows_read_bind
  rw [hw.typeOf_eq hthis]
  split
  · exact invoke_follows hhost _ hw hthis hargs
  · exact follows_raise hw _

/-! ## Operations on objects -/

theorem getAttr_follows (hw : w.Beside S w') (hthis : w.Outside S this) (name : String) :
    (host.getAttr this name).Oblivious S w w' (World.Clear S) := by
  unfold getAttr
  split
  · next property _ =>
    refine follows_of_eq_done (a := (w.property? this property).getD (.object World.nullObject))
      rfl ?_ hw.refl ?_
    · rw [Run.read_apply, hw.property?_eq hthis]
    · cases hv : w.property? this property with
      | none => exact Value.within_object.mpr hw.nullObject
      | some v => exact hw.clear_property hv
  · exact dispatch_follows hhost .getAttr hw hthis
      (List.forall_mem_singleton.mpr (Value.within_text name))

theorem setAttr_follows (hw : w.Beside S w') (hthis : w.Outside S this) (name : String)
    {v : Value} (hv : w.Clear S v) :
    (host.setAttr this name v).Oblivious S w w' fun _ _ => True := by
  unfold setAttr
  split
  · exact follows_modify (hw.setProperty hthis _ hv)
  · have hargs : w.ClearAll S [.text name, v] :=
      List.forall_mem_cons.mpr ⟨Value.within_text name, List.forall_mem_singleton.mpr hv⟩
    apply (dispatch_follows hhost .setAttr hw hthis hargs).bind
    intro _ w₁ w₁' honward _
    exact follows_pure honward.beside trivial

theorem call_follows (hw : w.Beside S w') (hthis : w.Outside S this)
    (hargs : w.ClearAll S args) : (host.call this args).Oblivious S w w' (World.Clear S) := by
  unfold call
  apply follows_read_bind
  rw [hw.typeOf_eq hthis]
  split
  · exact follows_raise hw _
  · exact dispatch_follows hhost .call hw hthis hargs

theorem callMethod_follows (hw : w.Beside S w') (hthis : w.Outside S this)
    (hargs : w.ClearAll S args) (name : String) :
    (host.callMethod this name args).Oblivious S w w' (World.Clear S) := by
  unfold callMethod
  apply (getAttr_follows hhost hw hthis name).bind
  intro callee w₁ w₁' honward hcallee
  split
  · exact call_follows hhost honward.beside (Value.within_object.mp hcallee)
      (honward.clearAll hargs)
  · exact callFunction_follows hhost honward.beside hcallee (honward.clearAll hargs)
  · apply follows_world_bind
    rw [honward.beside.kindName_eq hcallee]
    exact follows_raise honward.beside _

theorem equals_follows (hw : w.Beside S w') {x y : Value} (hx : w.Clear S x)
    (hy : w.Clear S y) : (host.equals x y).Oblivious S w w' fun _ _ => True := by
  unfold equals
  apply follows_world_bind
  split
  · next o =>
    have ho : w.Outside S o := Value.within_object.mp hx
    rw [hw.typeOf_eq ho]
    split
    · exact follows_pure hw trivial
    -- A handler that fails counts as unequal, in both worlds alike.
    · next h _ =>
      apply (invoke_follows hhost h hw ho (List.forall_mem_singleton.mpr hy)).attempt.bind
      intro answer w₁ w₁' honward hanswer
      cases answer with
      | error f => exact follows_pure honward.beside trivial
      | ok v =>
        apply follows_world_bind
        rw [honward.beside.truth_eq (hanswer v rfl)]
        exact follows_ofTerminating honward.beside fun _ h => h
  · exact follows_pure hw trivial
  · rw [hw.structurallyEqual_eq hx hy]
    exact follows_ofTerminating hw fun _ h => h

end Host

end DynamicObjects
