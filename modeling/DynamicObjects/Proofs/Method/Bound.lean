import DynamicObjects.Proofs.Heap.Lifetime
import DynamicObjects.Proofs.Heap.Methods
import DynamicObjects.Proofs.Safety.Stock
import DynamicObjects.Proofs.Struct.Protection

/-! # Bound methods

    A native method becomes a function object when an object is made, and its
    function names this one object as the receiver.  The function object can then
    be stored and called anywhere.

    The argument:
    1. The payload of a function object is a sealed property: types of functions
       have neither handlers of the host nor methods.  So it is the same function
       after every operation that does not write it.
    2. All ways to call a function object run the function that is its payload.
    3. A function refers to its receiver without owning it, so that a release
       spares the receiver only if it has another owner.

    Main results:
    - `World.BindsTo.call`, `World.BindsTo.callMethod`: what a call does
    - `MethodRun.invariant`: a function object keeps its receiver along a run
    - `bound_methods_call_their_receiver`: installation, calls, lifetimes -/

namespace DynamicObjects

namespace World

/-! ## Function objects -/

/-- A function object is **bound** to a receiver, which it names in its payload. -/
def BindsTo (w : World) (m o : ObjectId) (qualifiedName : String) (body : MethodBody) : Prop :=
  w.typeOf m = .function ∧
    ∃ f, w.payload? m = some (.function f) ∧ f.body = .bound o qualifiedName body

section binds
variable {w w' : World} {m o : ObjectId} {qualifiedName : String} {body : MethodBody}

theorem BindsTo.index_lt (h : w.BindsTo m o qualifiedName body) : m.index < w.heap.size := by
  obtain ⟨-, f, hf, -⟩ := h
  exact index_lt_of_property?_eq_some hf

/-- The receiver has existed. -/
theorem BindsTo.receiver_lt (h : w.BindsTo m o qualifiedName body) (hw : w.WellFormed) :
    o.index < w.heap.size := by
  obtain ⟨-, f, hf, hbody⟩ := h
  have hsound := hw.property? hf (.function f) (Value.self_mem_nodes _)
  exact (hsound o qualifiedName body hbody).1

theorem sealable_function : TypeDescriptor.function.Sealable := by
  refine TypeDescriptor.sealable_of_texts (fun s name hslot => ?_)
    fun entry hentry => absurd hentry List.not_mem_nil
  cases s <;> cases hslot

theorem BindsTo.fits (h : w.BindsTo m o qualifiedName body) (hw : w.WellFormed) :
    w.Fits (only m payloadName) := by
  have htype := h.1
  refine hw.fits_of_sealable ?_ ?_
  · rintro p name ⟨rfl, -⟩
    exact h.index_lt
  · rintro p name ⟨rfl, -⟩
    rw [htype]
    exact sealable_function

/-- A function object stays bound while its payload is sealed. -/
theorem BindsTo.safe (h : w.BindsTo m o qualifiedName body)
    (hsafe : w.Safe (only m payloadName) w') : w'.BindsTo m o qualifiedName body := by
  obtain ⟨f, hf, hbody⟩ := h.2
  have hpayload : w'.payload? m = w.payload? m := hsafe.property?_eq ⟨rfl, rfl⟩
  exact ⟨(hsafe.later.typeOf_eq h.index_lt).trans h.1, f, hpayload.trans hf, hbody⟩

theorem bindsTo_functionObject {ident : Nat} {typeName name : String}
    (h : w.object? m = some (functionObject (boundMethod ident o typeName name body))) :
    w.BindsTo m o (typeName ++ "." ++ name) body := by
  refine ⟨?_, boundMethod ident o typeName name body, ?_, rfl⟩
  · rw [typeOf, object, h]
    rfl
  · rw [payload?, property?, object, h]
    exact Bindings.get?_set_self _ _ _

/-- A function object owns nothing, not even its receiver. -/
theorem owned_functionObject {f : Function} (h : w.object? m = some (functionObject f)) :
    w.owned m = [] := by
  rw [owned, h]
  rfl

end binds

end World

/-! ## Calls -/

/-- A call of a bound method: the method runs on the receiver if it is alive. -/
def Host.callBound (host : Host) (o : ObjectId) (qualifiedName : String) (body : MethodBody)
    (args : List Value) : Run Value := fun w =>
  if w.isAlive o then body.invoke host.natives o args w
  else .raised (.receiverReleased qualifiedName) w

namespace World

variable {host : Host} {w w₁ : World} {m o : ObjectId} {qualifiedName : String} {body : MethodBody}

theorem callFunction_bound {f : Function} (hbody : f.body = .bound o qualifiedName body)
    (args : List Value) (w : World) :
    host.callFunction f args w = host.callBound o qualifiedName body args w := by
  rw [Host.callFunction, hbody]
  simp only [Run.bind_apply, Run.read_apply, Host.callBound]
  split <;> rfl

/-- **A call** of a function object runs its function. -/
theorem BindsTo.dispatch_call (h : w.BindsTo m o qualifiedName body) (args : List Value) :
    host.dispatch m .call args w = host.callBound o qualifiedName body args w := by
  obtain ⟨htype, f, hf, hbody⟩ := h
  have hslot : (w.typeOf m).slots .call = some .call := by rw [htype]; rfl
  rw [Host.dispatch_apply host hslot, Host.invoke, Host.callPayload]
  simp only [Run.bind_apply, Run.read_apply, id_eq, hf]
  exact callFunction_bound hbody args w

theorem BindsTo.call (h : w.BindsTo m o qualifiedName body) (args : List Value) :
    host.call m args w = host.callBound o qualifiedName body args w := by
  have hslot : (w.typeOf m).slots .call = some .call := by rw [h.1]; rfl
  simp only [Host.call, Run.bind_apply, Run.read_apply]
  rw [hslot]
  exact h.dispatch_call args

/-- **A method call** is a call of what the attribute holds, whichever object has
    the attribute. -/
theorem BindsTo.callMethod (h : w₁.BindsTo m o qualifiedName body) {p : ObjectId} {name : String}
    (hget : host.getAttr p name w = .done (.object m) w₁) (args : List Value) :
    host.callMethod p name args w = host.callBound o qualifiedName body args w₁ := by
  simp only [Host.callMethod, Run.bind_apply, hget]
  exact h.call args

end World

/-! ## Runs -/

/-- A **run** that leaves the payload of a function object alone: where it leads
    to.  Objects may be released in between. -/
inductive MethodRun (host : Host) (m : ObjectId) (w : World) : World → Prop where
  | start : MethodRun host m w w
  | step {w₁ w₂ : World} (h : MethodRun host m w w₁) (op : Operation)
      (hkeeps : ¬ op.Writes w₁ m payloadName) (hvalues : w₁.SupportsAll op.values)
      (hends : op.EndsIn host w₁ w₂) : MethodRun host m w w₂
  | collect {w₁ : World} (h : MethodRun host m w w₁) (roots : List ObjectId) :
      MethodRun host m w (w₁.collect roots)

section runs
variable {host : Host} {w w' : World} {m o : ObjectId} {qualifiedName : String} {body : MethodBody}

/-- What a run keeps of a function object and of its receiver: as long as the
    function object lives it is bound, and no released object comes back. -/
structure MethodRun.Invariant (m o : ObjectId) (qualifiedName : String) (body : MethodBody)
    (w w' : World) : Prop where
  wellFormed : w'.WellFormed
  size_le : w.heap.size ≤ w'.heap.size
  binds : w'.isAlive m = true → w'.BindsTo m o qualifiedName body
  released : ∀ p : ObjectId, p.index < w.heap.size → w.isAlive p = false → w'.isAlive p = false

/-- **Step**: an operation that leaves the payload alone. -/
theorem MethodRun.Invariant.step {w₁ w₂ : World} (hwell : host.Respects World.unsealed)
    (hhost : host.Respects (World.only m payloadName)) (hm : m.index < w.heap.size)
    (h : Invariant m o qualifiedName body w w₁) {op : Operation}
    (hkeeps : ¬ op.Writes w₁ m payloadName) (hvalues : w₁.SupportsAll op.values)
    (hends : op.EndsIn host w₁ w₂) : Invariant m o qualifiedName body w w₂ := by
  have hsafe := Operation.safe_of_endsIn hwell h.wellFormed.fits hvalues (fun _ _ _ h => h) hends
  have halive : ∀ {p : ObjectId}, p.index < w.heap.size → w₂.isAlive p = w₁.isAlive p :=
    fun hp => hsafe.later.isAlive_eq (Nat.lt_of_lt_of_le hp h.size_le)
  refine ⟨hsafe.fits.wellFormed, Nat.le_trans h.size_le hsafe.later.size_le, ?_, ?_⟩
  · intro hlives
    -- What lives behind the step has lived in front of it, and was bound then.
    rw [halive hm] at hlives
    have hbinds := h.binds hlives
    have hwrites : ∀ p name, op.Writes w₁ p name → ¬ World.only m payloadName p name := by
      rintro p name hwrites ⟨rfl, rfl⟩
      exact hkeeps hwrites
    exact hbinds.safe
      (Operation.safe_of_endsIn hhost (hbinds.fits h.wellFormed) hvalues hwrites hends)
  · intro p hp hreleased
    rw [halive hp]
    exact h.released p hp hreleased

theorem MethodRun.Invariant.collect {w₁ : World} (h : Invariant m o qualifiedName body w w₁)
    (roots : List ObjectId) : Invariant m o qualifiedName body w (w₁.collect roots) := by
  refine ⟨h.wellFormed.collect roots, by rw [World.size_collect]; exact h.size_le, ?_, ?_⟩
  · intro hlives
    have hbinds := h.binds (World.isAlive_collect_iff.mp hlives).1
    rw [World.BindsTo, World.typeOf_collect hlives, World.payload?, World.property?_collect hlives]
    exact hbinds
  · intro p hp hreleased
    have hbefore := h.released p hp hreleased
    rw [← Bool.not_eq_true] at hbefore ⊢
    exact fun hlives => hbefore (World.isAlive_collect_iff.mp hlives).1

/-- The invariant of such a run. -/
theorem MethodRun.invariant (hwell : host.Respects World.unsealed)
    (hhost : host.Respects (World.only m payloadName)) (hw : w.WellFormed)
    (hbinds : w.isAlive m = true → w.BindsTo m o qualifiedName body) (hm : m.index < w.heap.size)
    (hrun : MethodRun host m w w') : Invariant m o qualifiedName body w w' := by
  induction hrun with
  | start => exact ⟨hw, Nat.le_refl _, hbinds, fun _ _ h => h⟩
  | step _ op hkeeps hvalues hends ih => exact ih.step hwell hhost hm hkeeps hvalues hends
  | collect _ roots ih => exact ih.collect roots

end runs

/-! ## Installation, calls, lifetimes -/

/-- **All ways to call** a function object are a call of the method on the
    receiver: by itself, by dispatch, as the function that it holds, or as what an
    attribute of any object holds. -/
structure Host.CallsReceiver (host : Host) (w : World) (m o : ObjectId) (qualifiedName : String)
    (body : MethodBody) : Prop where
  call : ∀ args, host.call m args w = host.callBound o qualifiedName body args w
  dispatch : ∀ args, host.dispatch m .call args w = host.callBound o qualifiedName body args w
  function : ∀ f args, w.payload? m = some (.function f) →
    host.callFunction f args w = host.callBound o qualifiedName body args w
  method : ∀ p name args w₁, host.getAttr p name w = .done (.object m) w₁ →
    host.callMethod p name args w = host.callBound o qualifiedName body args w₁

/-- **All calls fail** with the fault that names the method, and change nothing. -/
structure Host.RefusesCalls (host : Host) (w : World) (m : ObjectId) (qualifiedName : String) :
    Prop where
  call : ∀ args, host.call m args w = .raised (.receiverReleased qualifiedName) w
  dispatch : ∀ args, host.dispatch m .call args w = .raised (.receiverReleased qualifiedName) w
  method : ∀ p name args w₁, host.getAttr p name w = .done (.object m) w₁ →
    host.callMethod p name args w = .raised (.receiverReleased qualifiedName) w₁

section calls
variable {host : Host} {w w₁ w' : World} {m o : ObjectId} {qualifiedName name : String}
  {body : MethodBody} {T : TypeDescriptor} {args : List Value}

/-- A native method is bound when its object is made. -/
theorem World.allocate_bindsTo (w : World)
    (hmethod : Bindings.last? name T.methods = some (.native body)) :
    ∃ m, w.heap.size < m.index ∧
      (w.allocate T).2.property? ⟨w.heap.size⟩ name = some (.object m) ∧
      (w.allocate T).2.owned m = [] ∧
      (w.allocate T).2.BindsTo m ⟨w.heap.size⟩ (T.name ++ "." ++ name) body := by
  obtain ⟨m, ident, hlt, hm, hx⟩ := (w.allocate_carries T).native hmethod
  exact ⟨m, hlt, hm, owned_functionObject hx, bindsTo_functionObject hx⟩

/-- The initializer leaves the methods of the new object bound. -/
theorem World.BindsTo.newObject (hhost : host.Respects (World.only m payloadName))
    (hw : w.WellFormed) (hargs : w.SupportsAll args) (hnew : w.heap.size < m.index)
    (hbinds : (w.allocate T).2.BindsTo m ⟨w.heap.size⟩ qualifiedName body)
    (hdone : host.natives.newObject T args w = .done o w₁) :
    w₁.BindsTo m o qualifiedName body := by
  have hallocate := hw.fits.allocate T
  have hfits := hbinds.fits hallocate.fits.wellFormed
  rw [Natives.newObject, Run.bind_apply] at hdone
  simp only [Run.step_apply, World.allocate_fst] at hdone
  cases hinit : T.slots .init with
  | none =>
    rw [hinit] at hdone
    obtain ⟨rfl, rfl⟩ := Outcome.done.inj hdone
    exact hbinds
  | some h =>
    rw [hinit] at hdone
    obtain ⟨v, w₂, hrun, hdone⟩ := Run.bind_eq_done_iff.mp hdone
    obtain ⟨rfl, rfl⟩ := Outcome.done.inj hdone
    -- What is sealed is the payload of another object than the new one.
    have hthis : ∀ name, ¬ World.only m payloadName ⟨w.heap.size⟩ name := by
      rintro name ⟨rfl, -⟩
      exact Nat.lt_irrefl _ hnew
    have hkeeps := Natives.runInitializer_keeps hhost.natives h hfits hthis
      (hargs.later hallocate.later)
    exact hbinds.safe (hkeeps.done hrun).1

theorem Host.callBound_of_released (h : w.isAlive o = false) (args : List Value) :
    host.callBound o qualifiedName body args w = .raised (.receiverReleased qualifiedName) w := by
  rw [callBound, h]
  rfl

/-- In all worlds of a run in which a function object lives, it calls its receiver. -/
theorem MethodRun.Invariant.callsReceiver (hhost : host.Respects (World.only m payloadName))
    (h : Invariant m o qualifiedName body w w') (hlives : w'.isAlive m = true) :
    host.CallsReceiver w' m o qualifiedName body := by
  have hbinds := h.binds hlives
  refine ⟨hbinds.call, hbinds.dispatch_call, ?_, ?_⟩
  · intro f args hf
    obtain ⟨-, f', hf', hbody⟩ := hbinds
    obtain rfl : f' = f := by simpa [hf'] using hf
    exact World.callFunction_bound hbody args w'
  · intro p name args w₁ hget
    -- Reading an attribute leaves the function object bound.
    have hread := (Host.getAttr_keeps hhost (hbinds.fits h.wellFormed) name).done hget
    exact (hbinds.safe hread.1).callMethod hget args

end calls

/-- **Bound methods**: what is installed on a new object is bound to it; along a
    run that leaves its payload alone a function object runs its method on the
    receiver and on no other object, from wherever it is called.  It does not own
    the receiver, which is released just if it is not kept, as what has no owner
    never is; and once it has been released, all calls fail and change nothing. -/
theorem bound_methods_call_their_receiver {host : Host} (hwell : host.Respects World.unsealed) :
    (∀ {w w₁ : World} {T : TypeDescriptor} {args : List Value} {o : ObjectId} {name : String}
      {body : MethodBody}, w.WellFormed → w.SupportsAll args →
        Bindings.last? name T.methods = some (.native body) →
          ∃ m, (w.allocate T).2.property? ⟨w.heap.size⟩ name = some (.object m) ∧
            (w.allocate T).2.owned m = [] ∧
            (w.allocate T).2.BindsTo m ⟨w.heap.size⟩ (T.name ++ "." ++ name) body ∧
            (host.Respects (World.only m payloadName) →
              host.natives.newObject T args w = .done o w₁ →
                w₁.BindsTo m o (T.name ++ "." ++ name) body)) ∧
    (∀ {w w' : World} {m o : ObjectId} {qualifiedName : String} {body : MethodBody},
      host.Respects (World.only m payloadName) →
        w.WellFormed → w.BindsTo m o qualifiedName body → MethodRun host m w w' →
          w'.isAlive m = true → host.CallsReceiver w' m o qualifiedName body) ∧
    (∀ {w w' w'' : World} {m o : ObjectId} {qualifiedName : String} {body : MethodBody}
      {roots : List ObjectId}, host.Respects (World.only m payloadName) →
        w.WellFormed → w.BindsTo m o qualifiedName body → MethodRun host m w w' →
          ((w'.collect roots).isAlive o = true ↔ w'.isAlive o = true ∧ w'.Kept roots o) ∧
          (w'.Kept roots o → w'.HasOwner roots o) ∧
          (w'.isAlive m = true → m ∈ roots → (w'.collect roots).isAlive m = true) ∧
          (¬ w'.Kept roots o → MethodRun host m (w'.collect roots) w'' →
            w''.isAlive m = true → host.RefusesCalls w'' m qualifiedName)) ∧
    (∀ qualifiedName, (Fault.receiverReleased qualifiedName).kind = .runtimeError ∧
      (Fault.receiverReleased qualifiedName).message =
        "receiver of bound method '" ++ qualifiedName ++ "' no longer exists") := by
  refine ⟨?_, ?_, ?_, fun _ => ⟨rfl, rfl⟩⟩
  · intro w w₁ T args o name body hw hargs hmethod
    obtain ⟨m, hnew, hm, howned, hbinds⟩ := w.allocate_bindsTo hmethod
    exact ⟨m, hm, howned, hbinds, fun hhost => hbinds.newObject hhost hw hargs hnew⟩
  · intro w w' m o qualifiedName body hhost hw hbinds hrun hlives
    have hinvariant := hrun.invariant hwell hhost hw (fun _ => hbinds) hbinds.index_lt
    exact hinvariant.callsReceiver hhost hlives
  · intro w w' w'' m o qualifiedName body roots hhost hw hbinds hrun
    refine ⟨World.isAlive_collect_iff, World.Kept.hasOwner, ?_, ?_⟩
    · intro halive hroot
      exact World.isAlive_collect_iff.mpr ⟨halive, .root (List.mem_append_right _ hroot)⟩
    · intro hkept hrun' hlives
      have hinvariant := (hrun.invariant hwell hhost hw (fun _ => hbinds)
        hbinds.index_lt).collect roots
      have hm := Nat.lt_of_lt_of_le hbinds.index_lt hinvariant.size_le
      have ho := Nat.lt_of_lt_of_le (hbinds.receiver_lt hw) hinvariant.size_le
      have hlater := hrun'.invariant hwell hhost hinvariant.wellFormed hinvariant.binds hm
      have hcalls := hlater.callsReceiver hhost hlives
      -- The receiver has been released, and stays so whatever comes after.
      have hreleased : (w'.collect roots).isAlive o = false := by
        rw [← Bool.not_eq_true]
        exact fun halive => hkept (World.isAlive_collect_iff.mp halive).2
      have hnow := hlater.released o ho hreleased
      refine ⟨?_, ?_, ?_⟩
      · intro args
        rw [hcalls.call args, Host.callBound_of_released hnow]
      · intro args
        rw [hcalls.dispatch args, Host.callBound_of_released hnow]
      · intro p name args w₁ hget
        have hread := (Host.getAttr_keeps hwell hlater.wellFormed.fits name).done hget
        have halive := hread.1.later.isAlive_eq (Nat.lt_of_lt_of_le ho hlater.size_le)
        rw [hcalls.method p name args w₁ hget, Host.callBound_of_released (halive.trans hnow)]

/-! ## A method that outlives its array -/

/-- The array of one element, its methods and the element. -/
def arrayOfOne : World := (World.initial.toObject (.list [.int 1])).2

/-- The same array when it holds itself. -/
def arrayOfItself : World := arrayOfOne.setPayload ⟨3⟩ (.list [.object ⟨3⟩])

/-- The method `copy` of the array is called, then the array is released and the
    method is called again.  An array that holds itself is not released, though
    only its method is held from outside, and the method runs. -/
theorem copy_outlives_array :
    ∃ m, arrayOfOne.property? ⟨3⟩ "copy" = some (.object m) ∧
      (∀ args, Stock.host.call m args arrayOfOne =
        (MethodBody.array .copy).invoke Stock.natives ⟨3⟩ args arrayOfOne) ∧
      (arrayOfOne.collect [m]).isAlive m = true ∧
      (∀ args, Stock.host.call m args (arrayOfOne.collect [m]) =
        .raised (.receiverReleased "array.copy") (arrayOfOne.collect [m])) ∧
      (∀ args, Stock.host.call m args (arrayOfItself.collect [m]) =
        (MethodBody.array .copy).invoke Stock.natives ⟨3⟩ args (arrayOfItself.collect [m])) := by
  obtain ⟨hinstalled, hcalls, hlifetimes, -⟩ :=
    @bound_methods_call_their_receiver Stock.host Stock.host_respects
  have hargs : World.initial.SupportsAll [.list [.int 1]] := by simp [World.supports_list]
  have hmethod : Bindings.last? "copy" TypeDescriptor.array.methods =
      some (.native (.array .copy)) := rfl
  obtain ⟨m, hm, -, -, hbinds⟩ := @hinstalled .initial arrayOfOne .array [.list [.int 1]] ⟨3⟩ "copy"
    (.array .copy) World.wellFormed_initial hargs hmethod
  obtain rfl : m = ⟨15⟩ := by
    have hfifteen : (World.initial.allocate .array).2.property? ⟨World.initial.heap.size⟩ "copy" =
        some (.object ⟨15⟩) := rfl
    simpa using hm.symm.trans hfifteen
  have hbinds : arrayOfOne.BindsTo ⟨15⟩ ⟨3⟩ "array.copy" (.array .copy) :=
    hbinds Stock.host_respects rfl
  have hwell : arrayOfOne.WellFormed :=
    (World.wellFormed_initial.fits.toObject (hargs _ List.mem_cons_self)).fits.wellFormed
  obtain ⟨-, -, hkept, hrefuses⟩ := @hlifetimes _ _ (arrayOfOne.collect [⟨15⟩]) _ _ _ _ [⟨15⟩]
    Stock.host_respects hwell hbinds .start
  have hlives := hkept rfl List.mem_cons_self
  have hnone : ¬ arrayOfOne.Kept [⟨15⟩] ⟨3⟩ := World.not_kept_of_unowned (by decide) (by decide)
  refine ⟨⟨15⟩, rfl, ?_, hlives, (hrefuses hnone .start hlives).call, ?_⟩
  · intro args
    rw [(hcalls Stock.host_respects hwell hbinds .start rfl).call args]
    rfl
  · -- The array is owned by itself, which is all it takes.
    have hother : ¬ World.only ⟨15⟩ payloadName ⟨3⟩ payloadName := by
      rintro ⟨h, -⟩
      cases h
    have hsafe : arrayOfOne.Safe (World.only ⟨15⟩ payloadName) arrayOfItself :=
      (hbinds.fits hwell).setProperty (by simp [World.supports_list]) hother
    have hbinds' := hbinds.safe hsafe
    have hitself : arrayOfItself.Kept [⟨15⟩] ⟨3⟩ :=
      .of_each (P := (· = ⟨3⟩)) (by rintro o rfl; exact .inr ⟨⟨3⟩, rfl, by decide⟩) rfl
    have halive := World.isAlive_collect_iff.mpr ⟨rfl, hitself⟩
    have hlives' : (arrayOfItself.collect [⟨15⟩]).isAlive ⟨15⟩ = true :=
      World.isAlive_collect_iff.mpr ⟨rfl, .root (by decide)⟩
    intro args
    rw [(hcalls Stock.host_respects hsafe.fits.wellFormed hbinds' (.collect .start [⟨15⟩])
      hlives').call args, Host.callBound, halive]
    rfl

end DynamicObjects
