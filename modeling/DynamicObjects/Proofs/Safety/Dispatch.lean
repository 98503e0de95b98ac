import DynamicObjects.Host
import DynamicObjects.Proofs.Safety.Construction

/-! # Dispatch keeps worlds well-formed

    `Handler.Writes` tells which properties of its receiver a handler may write
    by itself.  Beside them a dispatch writes payloads of arrays through bound
    methods, and whatever the host writes.

    Main results:
    - `Host.dispatch_keeps`: a dispatch keeps the properties that are sealed
      unless the handler itself writes them
    - `Host.callMethod_keeps`: method calls keep them -/

namespace DynamicObjects

open Run

/-- A host **respects** sealed properties if its functions keep them, and its
    handlers those of others than their receiver. -/
structure Host.Respects (host : Host) (L : World.Locations) : Prop where
  natives : host.natives.Respect L
  functions : ∀ (name : String) (args : List Value) (w : World), w.Fits L → w.SupportsAll args →
    (host.functions name args).Keeps L w World.Supports

variable {L : World.Locations} {w : World} {this : ObjectId} {args : List Value}

/-! ## Arithmetic and equality -/

theorem Behaviour.arithmetic_keeps (op : NumberOp) (hw : w.Fits L) :
    (arithmetic op this args).Keeps L w World.Supports := by
  unfold arithmetic
  apply keeps_lift_bind hw
  intro other _
  apply keeps_world_bind
  apply keeps_lift_bind hw
  intro a _
  have ha : w.Supports a.toValue := by cases a <;> simp [Number.toValue]
  exact converted_keeps hw ha

theorem EqualityRule.decideEqual_keeps (rule : EqualityRule) (hw : w.Fits L) :
    (rule.decideEqual this args).Keeps L w World.Supports := by
  have hobject : ∀ b : Bool, w.Supports (World.boolValue b) := fun b => World.supports_object _
  unfold decideEqual
  apply keeps_lift_bind hw
  intro other _
  apply keeps_world_bind
  cases rule with
  | identity => exact keeps_pure hw (World.supports_bool _)
  | isNull =>
    dsimp only
    split
    · exact keeps_pure hw (hobject true)
    · exact keeps_pure hw (hobject false)
  | structural =>
    apply (keeps_ofTerminating hw _).bind
    intro same w₁ hsafe _
    exact keeps_pure hsafe.fits (World.supports_object _)
  | characters => exact keeps_lift_bind hw fun same _ => keeps_pure hw (hobject same)

/-! ## Attributes -/

namespace AttributeStore

/-- The property that an attribute write sets, on an object that is not under
    construction. -/
def Writes (T : TypeDescriptor) (key name : String) : AttributeStore → Prop
  | .properties => name = key
  | .moduleNames => name = namespaceName
  | .structMembers =>
    name = key ∧ ∀ shape, T.shape = some shape → shape.isGuarded name = false

/-- The names of a module are a property, as a mapping. -/
theorem supports_namespace? (hw : w.WellFormed) {entries : Bindings Value}
    (h : w.namespace? this = some entries) : w.Supports (.dict entries) := by
  unfold World.namespace? at h
  split at h
  · next entries' hproperty =>
    obtain rfl := Option.some.inj h
    exact hw.property? hproperty
  · cases h

theorem supports_get {store : AttributeStore} (hw : w.WellFormed) {name : String} {v : Value}
    (h : store.get w this name = .ok v) : w.Supports v := by
  cases store with
  | properties =>
    rw [get] at h
    split at h
    · next u hu =>
      obtain rfl := Except.ok.inj h
      exact hw.property? hu
    · cases h
  | moduleNames =>
    rw [get] at h
    split at h
    · next u hu =>
      obtain rfl := Except.ok.inj h
      obtain ⟨entries, hentries, hu⟩ := Option.bind_eq_some_iff.mp hu
      have hvalue := World.supports_dict.mp (supports_namespace? hw hentries)
      exact hvalue.2 _ (Bindings.mem_of_get?_eq_some hu)
    · cases h
  | structMembers =>
    rw [get] at h
    cases hshape : w.shapeOf this with
    | error f =>
      rw [hshape] at h
      cases h
    | ok shape =>
      rw [hshape] at h
      simp only [bind, Except.bind] at h
      split at h
      · next u hu =>
        obtain rfl := Except.ok.inj h
        exact hw.property? hu
      · -- A member without a value reads as null.
        split at h
        · obtain rfl := Except.ok.inj h
          exact World.supports_object _
        · cases h

theorem getHandler_keeps (store : AttributeStore) (hw : w.Fits L) :
    (store.getHandler this args).Keeps L w World.Supports := by
  unfold getHandler
  apply keeps_lift_bind hw
  intro v _
  apply keeps_world_bind
  apply keeps_lift_bind hw
  intro name _
  exact keeps_lift hw fun _ h => supports_get hw.wellFormed h

/-- A member that may be written outside its window is not guarded. -/
theorem isGuarded_of_checkMemberWrite (hw : w.WellFormed) {shape : StructShape} {name : String}
    (h : w.checkMemberWrite this shape name = .ok ()) : shape.isGuarded name = false := by
  unfold World.checkMemberWrite at h
  rw [hw.settled this] at h
  split at h
  · cases h
  · split at h
    · cases h
    · next hguarded => simpa using hguarded

theorem set_keeps (store : AttributeStore) (hw : w.Fits L) {key : String} {v : Value}
    (hv : w.Supports v)
    (hthis : ∀ name, store.Writes (w.typeOf this) key name → ¬ L this name) :
    (set this key v store).Keeps L w fun _ _ => True := by
  have hconverted := Behaviour.converted_keeps hw hv
  cases store with
  | properties => exact keeps_modify (hw.setProperty hv (hthis _ rfl))
  | moduleNames =>
    unfold set
    apply hconverted.bind
    intro u w₁ hsafe hu
    apply keeps_world_bind
    split
    · next entries hentries =>
      apply keeps_modify
      apply hsafe.fits.setProperty _ (hthis _ rfl)
      exact World.supports_dict_set (supports_namespace? hsafe.fits.wellFormed hentries) hu
    · exact keeps_raise hsafe.fits _
  | structMembers =>
    unfold set
    apply keeps_world_bind
    apply keeps_lift_bind hw
    intro shape hshape
    apply keeps_lift_bind hw
    intro _ hchecked
    -- Outside a construction the check lets no protected member through, which is what a
    -- sealed member may be.
    have hguarded := isGuarded_of_checkMemberWrite hw.wellFormed hchecked
    apply hconverted.bind
    intro u w₁ hsafe hu
    apply keeps_modify
    refine hsafe.fits.setProperty hu (hthis _ ⟨rfl, ?_⟩)
    intro shape' hshape'
    rw [World.shapeOf, hshape'] at hshape
    obtain rfl := Except.ok.inj hshape
    exact hguarded

theorem setHandler_keeps (store : AttributeStore) (hw : w.Fits L) (hargs : w.SupportsAll args)
    (hthis : ∀ key name, args.head? = some (.text key) →
      store.Writes (w.typeOf this) key name → ¬ L this name) :
    (store.setHandler this args).Keeps L w World.Supports := by
  unfold setHandler
  apply keeps_lift_bind hw
  rintro ⟨first, v⟩ htwo
  apply keeps_world_bind
  apply keeps_lift_bind hw
  intro key hname
  -- The handler takes its name from the first argument.
  have hkey : args.head? = some (.text key) := by
    unfold Arguments.two at htwo
    split at htwo
    · obtain ⟨rfl, rfl⟩ := Prod.mk.inj (Except.ok.inj htwo)
      unfold Arguments.attributeName at hname
      split at hname
      · obtain rfl := Except.ok.inj hname
        rfl
      · cases hname
    · cases htwo
  apply (set_keeps store hw (hargs v
    (Arguments.mem_of_two htwo).2) fun name => hthis key name hkey).bind
  intro _ w₁ hsafe _
  exact keeps_pure hsafe.fits World.supports_null

end AttributeStore

/-! ## Handlers -/

/-- The properties of its receiver that a handler may write. -/
def Handler.Writes {s : Slot} (h : Handler s) (T : TypeDescriptor) (args : List Value)
    (name : String) : Prop :=
  match h with
  | .construct _ => True
  | .setItem => name = payloadName
  | .setAttr store => ∃ key, args.head? = some (.text key) ∧
      store.Writes T key name
  | _ => False

namespace Host

variable {host : Host} (hhost : host.Respects L)
include hhost

/-- **Calls** run a method on a receiver that has it, so that array methods
    never run on what is sealed. -/
theorem callFunction_keeps (hw : w.Fits L) {f : Function} (hf : w.Supports (.function f))
    (hargs : w.SupportsAll args) : (host.callFunction f args).Keeps L w World.Supports := by
  have hbound : f.IsBound w := hf (.function f) (Value.self_mem_nodes _)
  unfold callFunction
  split
  · exact hhost.functions _ _ _ hw hargs
  · next receiver qualifiedName method hbody =>
    apply keeps_read_bind
    split
    · next halive =>
      obtain ⟨x, hx⟩ := Option.isSome_iff_exists.mp halive
      obtain ⟨key, hmethod⟩ := (hbound _ _ _ hbody).2 x hx
      -- A bound method belongs to the type of its receiver, and what is sealed has none of
      -- the array methods.
      have htype : w.typeOf receiver = x.type := by rw [World.typeOf, World.object, hx]; rfl
      unfold MethodBody.invoke
      cases method with
      | array method =>
        refine method.invoke_keeps hw (fun hsealed => ?_) hargs
        exact hw.not_array hsealed method key (htype ▸ hmethod)
      | text method => exact method.invoke_keeps hhost.natives hw hargs
      | native name =>
        have hreceiver : ∀ property, ¬ L receiver property :=
          fun _ ho => hw.not_usesHost ho (.inr ⟨key, name, htype ▸ hmethod⟩)
        exact hhost.natives _ _ _ _ hw hreceiver hargs
    · exact keeps_raise hw _

theorem callPayload_keeps (hw : w.Fits L) (hargs : w.SupportsAll args) :
    (host.callPayload this args).Keeps L w World.Supports := by
  unfold callPayload
  apply keeps_world_bind
  split
  · next f hpayload => exact callFunction_keeps hhost hw (hw.wellFormed.property? hpayload) hargs
  · exact keeps_raise hw _

theorem invoke_keeps {s : Slot} {h : Handler s} (hslot : (w.typeOf this).slots s = some h)
    (hw : w.Fits L) (hargs : w.SupportsAll args)
    (hthis : ∀ name, h.Writes (w.typeOf this) args name → ¬ L this name) :
    (host.invoke h this args).Keeps L w World.Supports := by
  cases h with
  | native name =>
    have hsealed : ∀ property, ¬ L this property :=
      fun _ ho => hw.not_usesHost ho (.inl ⟨s, name, hslot⟩)
    exact hhost.natives _ _ _ _ hw hsealed hargs
  | construct how =>
    exact Natives.runInitializer_keeps hhost.natives (.construct how) hw
      (fun name => hthis name trivial) hargs
  | str how => exact Natives.renderHandler_keeps hhost.natives hw how
  | repr how => exact Natives.renderHandler_keeps hhost.natives hw how
  | eq rule => exact rule.decideEqual_keeps hw
  | identical =>
    exact keeps_lift_bind hw fun other _ => keeps_pure hw (World.supports_object _)
  | getItem container =>
    cases container with
    | text => exact Behaviour.textGetItem_keeps hw
    | array => exact Behaviour.arrayGetItem_keeps hw
  | setItem => exact Behaviour.arraySetItem_keeps hw (hthis _ rfl) hargs
  | getAttr store => exact store.getHandler_keeps hw
  | setAttr store =>
    exact store.setHandler_keeps hw hargs fun key name hkey hwrites =>
      hthis name ⟨key, hkey, hwrites⟩
  | len container =>
    cases container with
    | text => exact Behaviour.textLength_keeps hw
    | array => exact Behaviour.arrayLength_keeps hw
  | call => exact callPayload_keeps hhost hw hargs
  | addNumber => exact Behaviour.arithmetic_keeps .add hw
  | subNumber => exact Behaviour.arithmetic_keeps .sub hw
  | mulNumber => exact Behaviour.arithmetic_keeps .mul hw
  | divNumber => exact Behaviour.arithmetic_keeps .div hw
  | concatenate => exact Behaviour.concatenate_keeps hhost.natives hw hargs
  | repeatText => exact Behaviour.repeatText_keeps hw

theorem dispatch_keeps (s : Slot) (hw : w.Fits L) (hargs : w.SupportsAll args)
    (hthis : ∀ h name, (w.typeOf this).slots s = some h →
      h.Writes (w.typeOf this) args name → ¬ L this name) :
    (host.dispatch this s args).Keeps L w World.Supports := by
  unfold dispatch
  apply keeps_read_bind
  split
  · next h hslot => exact invoke_keeps hhost hslot hw hargs fun name => hthis h name hslot
  · exact keeps_raise hw _

/-! ## Operations -/

theorem getAttr_keeps (hw : w.Fits L) (name : String) :
    (host.getAttr this name).Keeps L w World.Supports := by
  unfold getAttr
  split
  · next property _ =>
    refine ⟨fun hdone => ?_, fun hraised => by cases hraised⟩
    obtain ⟨rfl, rfl⟩ := Outcome.done.inj hdone
    refine ⟨hw.refl, ?_⟩
    change w.Supports ((w.property? this property).getD (.object World.nullObject))
    cases hv : w.property? this property with
    | none => exact World.supports_object _
    | some v => exact hw.wellFormed.property? hv
  · refine dispatch_keeps hhost .getAttr hw (by simp) ?_
    intro h _ _ hwrites
    cases h <;> exact hwrites.elim

theorem call_keeps (hw : w.Fits L) (hargs : w.SupportsAll args) :
    (host.call this args).Keeps L w World.Supports := by
  unfold call
  apply keeps_read_bind
  split
  · exact keeps_raise hw _
  · refine dispatch_keeps hhost .call hw hargs ?_
    intro h _ _ hwrites
    cases h <;> exact hwrites.elim

/-- **Method calls** write nothing themselves: what they call is another object
    or a function. -/
theorem callMethod_keeps (hw : w.Fits L) (hargs : w.SupportsAll args) (name : String) :
    (host.callMethod this name args).Keeps L w World.Supports := by
  unfold callMethod
  apply (getAttr_keeps hhost hw name).bind
  intro callee w₁ hsafe hcallee
  split
  · exact call_keeps hhost hsafe.fits (hargs.later hsafe.later)
  · exact callFunction_keeps hhost hsafe.fits hcallee (hargs.later hsafe.later)
  · exact keeps_world_bind (keeps_raise hsafe.fits _)

/-- The property that an attribute write addresses directly or through the
    handler of the type. -/
theorem setAttr_keeps (hw : w.Fits L) {name : String} {v : Value} (hv : w.Supports v)
    (hmarked : ∀ property, markedProperty? name = some property → ¬ L this property)
    (hthis : ∀ h other, markedProperty? name = none → (w.typeOf this).slots .setAttr = some h →
      h.Writes (w.typeOf this) [.text name, v] other → ¬ L this other) :
    (host.setAttr this name v).Keeps L w fun _ _ => True := by
  unfold setAttr
  split
  · next property hproperty =>
    exact keeps_modify (hw.setProperty hv (hmarked property hproperty))
  · next hunmarked =>
    have hargs : w.SupportsAll [.text name, v] := by simp [hv]
    apply (dispatch_keeps hhost .setAttr hw hargs fun h other => hthis h other hunmarked).bind
    intro _ w₁ hsafe _
    exact keeps_pure hsafe.fits trivial

/-- **Equality** asks the rule of one type, and may do what its handler does. -/
theorem equals_keeps (hw : w.Fits L) {x y : Value} (hy : w.Supports y) :
    (host.equals x y).Keeps L w fun _ _ => True := by
  unfold equals
  apply keeps_world_bind
  split
  · next o =>
    split
    · exact keeps_pure hw trivial
    · next h hslot =>
      have hargs : w.SupportsAll [y] := by simp [hy]
      have hanswer : (host.invoke h o [y]).Keeps L w World.Supports := by
        -- No rule of equality writes.
        refine invoke_keeps hhost hslot hw hargs ?_
        intro _ hwrites
        cases h <;> exact hwrites.elim
      apply hanswer.attempt.bind
      intro answer w₁ hsafe _
      split
      · exact keeps_pure hsafe.fits trivial
      · exact keeps_world_bind (keeps_ofTerminating hsafe.fits _)
  · exact keeps_pure hw trivial
  · exact keeps_ofTerminating hw _

end Host

end DynamicObjects
