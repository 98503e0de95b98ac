import DynamicObjects.Catalogue
import DynamicObjects.Proofs.Heap.Lifetime
import DynamicObjects.Proofs.Safety.Dispatch

/-! # Reachable worlds

    `Operation` lists what a program can do to a world from outside, and
    `Operation.Writes` which properties each operation may write, new objects
    and the host apart.

    Main results:
    - `Operation.run_keeps`: an operation changes no other property
    - `World.Reachable.wellFormed`: all worlds between operations are well-formed -/

namespace DynamicObjects

open Run

/-! ## Builtin modules -/

namespace Catalogue

variable {L : World.Locations} {w : World} {natives : Natives} (hnatives : natives.Respect L)
include hnatives

theorem structInstance_keeps (hw : w.Fits L) (name : String) {members : Bindings Value}
    (hmembers : ∀ entry ∈ members, w.Supports entry.2) :
    (structInstance natives name members).Keeps L w fun _ _ => True := by
  have hvalues : w.SupportsAll (members.map Prod.snd) := by
    intro v hv
    obtain ⟨entry, hentry, rfl⟩ := List.mem_map.mp hv
    exact hmembers entry hentry
  unfold structInstance
  apply (Natives.makeStruct_keeps hnatives hw _ _ _).bind
  intro prototype w₁ hsafe _
  apply Natives.newStruct_keeps hnatives hsafe.fits _
  intro v hv
  obtain rfl := Option.some.inj hv
  exact (World.supports_list.mpr hvalues).later hsafe.later

theorem nezha_keeps (hw : w.Fits L) : (nezha natives).Keeps L w fun _ _ => True := by
  unfold nezha
  apply (structInstance_keeps hnatives hw _ (by simp)).bind
  intro aobing w₁ hsafe _
  apply (structInstance_keeps hnatives hsafe.fits _ (by simp)).bind
  intro nezha w₂ hsafe₂ _
  refine Natives.newModule_keeps hnatives hsafe₂.fits _ (World.supports_dict.mpr ⟨?_, by simp⟩)
  simp [Bindings.names]

theorem load_keeps (hw : w.Fits L) (name : String) :
    (load natives name).Keeps L w fun _ _ => True := by
  unfold load
  split
  · next build hbuild =>
    obtain rfl : build = nezha := by
      have hmem := Bindings.mem_of_get?_eq_some hbuild
      exact (Prod.mk.inj (List.mem_singleton.mp hmem)).2
    exact nezha_keeps hnatives hw
  · exact keeps_raise hw _

end Catalogue

/-! ## Operations -/

/-- What a program can do to the objects of a world. -/
inductive Operation where
  | convert (v : Value)
  | construct (T : TypeDescriptor) (args : List Value)
  | dispatch (o : ObjectId) (s : Slot) (args : List Value)
  | getAttr (o : ObjectId) (name : String)
  | setAttr (o : ObjectId) (name : String) (v : Value)
  | callMethod (o : ObjectId) (name : String) (args : List Value)
  | equals (x y : Value)
  | stringify (v : Value)
  | represent (v : Value)
  | toText (v : Value)
  | toArray (v : Value)
  | setProperty (o : ObjectId) (name : String) (v : Value)
  | eraseProperty (o : ObjectId) (name : String)
  | makeStruct (name members guarded : Value)
  | newStruct (prototype : Value) (data : Option Value)
  | assignMembers (o : ObjectId) (data : Value)
  | newModule (name : String) (entries : Bindings Value)
  | loadModule (name : String)
  | declareType (T : TypeDescriptor)
  /-- An identity for a new type, function or foreign value. -/
  | freshIdent

namespace Operation

/-- Perform an operation, whatever its result is. -/
def run (host : Host) : Operation → Run Unit
  | convert v => do
    let _ ← Run.step (fun w => w.toValue v)
  | construct T args => do
    let _ ← host.natives.newObject T args
  | dispatch o s args => do
    let _ ← host.dispatch o s args
  | getAttr o name => do
    let _ ← host.getAttr o name
  | setAttr o name v => host.setAttr o name v
  | callMethod o name args => do
    let _ ← host.callMethod o name args
  | equals x y => do
    let _ ← host.equals x y
  | stringify v => do
    let _ ← host.stringify v
  | represent v => do
    let _ ← host.represent v
  | toText v => do
    let _ ← host.natives.toText v
  | toArray v => do
    let _ ← Behaviour.iterated v
  | setProperty o name v => Run.modify (fun w => w.setProperty o name v)
  | eraseProperty o name => Run.modify (fun w => w.eraseProperty o name)
  | makeStruct name members guarded => do
    let _ ← host.natives.makeStruct name members guarded
  | newStruct prototype data => do
    let _ ← host.natives.newStruct prototype data
  | assignMembers o data => Behaviour.assignMembers o data
  | newModule name entries => do
    let _ ← host.natives.newModule name entries
  | loadModule name => do
    let _ ← Catalogue.load host.natives name
  | declareType T => Run.modify (fun w => w.declareType T)
  | freshIdent => Run.modify (fun w => w.freshIdent.2)

/-- The values that an operation is given. -/
def values : Operation → List Value
  | convert v | stringify v | represent v | toText v | toArray v => [v]
  | construct _ args | dispatch _ _ args | callMethod _ _ args => args
  | setAttr _ _ v | setProperty _ _ v | assignMembers _ v => [v]
  | equals x y => [x, y]
  | makeStruct name members guarded => [name, members, guarded]
  | newStruct prototype data => prototype :: data.toList
  | newModule _ entries => [.dict entries]
  | getAttr _ _ | eraseProperty _ _ | loadModule _ | declareType _ | freshIdent => []

/-- The properties of existing objects that an operation may write. -/
def Writes (w : World) (o : ObjectId) (name : String) : Operation → Prop
  | dispatch this s args =>
    this = o ∧ ∃ h, (w.typeOf o).slots s = some h ∧ h.Writes (w.typeOf o) args name
  | setAttr this key v =>
    this = o ∧ (Host.markedProperty? key = some name ∨
      Host.markedProperty? key = none ∧ ∃ h, (w.typeOf o).slots .setAttr = some h ∧
        h.Writes (w.typeOf o) [.text key, v] name)
  | setProperty this key _ | eraseProperty this key => this = o ∧ key = name
  | assignMembers this _ => this = o
  | _ => False

/-- An operation comes to an end in a world, with a result or with a fault. -/
def EndsIn (host : Host) (w w' : World) (op : Operation) : Prop :=
  op.run host w = .done () w' ∨ ∃ f, op.run host w = .raised f w'

section keeps
variable {L : World.Locations} {w : World} {host : Host}

/-- **Frame**: an operation keeps sealed properties that it does not write. -/
theorem run_keeps (hhost : host.Respects L) (op : Operation) (hw : w.Fits L)
    (hvalues : w.SupportsAll op.values) (hwrites : ∀ o name, op.Writes w o name → ¬ L o name) :
    (op.run host).Keeps L w fun _ _ => True := by
  have hdone : ∀ {α : Type} {r : Run α} {Q : World → α → Prop}, r.Keeps L w Q →
      (do let _ ← r : Run Unit).Keeps L w fun _ _ => True :=
    fun h => h.bind fun _ _ hsafe _ => keeps_pure hsafe.fits trivial
  -- Each operation is an instance of the lemma about the function it runs.
  cases op with
  | convert v => exact hdone (Behaviour.converted_keeps hw (hvalues v List.mem_cons_self))
  | construct T args => exact hdone (Natives.newObject_keeps hhost.natives T hw hvalues)
  | dispatch o s args =>
    exact hdone (Host.dispatch_keeps hhost s hw hvalues fun h name hslot hname =>
      hwrites o name ⟨rfl, h, hslot, hname⟩)
  | getAttr o name => exact hdone (Host.getAttr_keeps hhost hw name)
  | setAttr o name v =>
    refine Host.setAttr_keeps hhost hw (hvalues v List.mem_cons_self) ?_ ?_
    · exact fun property hmarked => hwrites o property ⟨rfl, .inl hmarked⟩
    · exact fun h other hunmarked hslot hother =>
        hwrites o other ⟨rfl, .inr ⟨hunmarked, h, hslot, hother⟩⟩
  | callMethod o name args => exact hdone (Host.callMethod_keeps hhost hw hvalues name)
  | equals x y =>
    exact hdone (Host.equals_keeps hhost hw (hvalues y (List.mem_cons_of_mem _ List.mem_cons_self)))
  | stringify v =>
    exact hdone (Natives.stringify_keeps hhost.natives hw (hvalues v List.mem_cons_self))
  | represent v =>
    exact hdone (Natives.represent_keeps hhost.natives hw (hvalues v List.mem_cons_self))
  | toText v => exact hdone (Natives.toText_keeps hhost.natives hw (hvalues v List.mem_cons_self))
  | toArray v => exact hdone (Behaviour.iterated_keeps hw (hvalues v List.mem_cons_self))
  | setProperty o name v =>
    exact keeps_modify (hw.setProperty (hvalues v List.mem_cons_self) (hwrites o name ⟨rfl, rfl⟩))
  | eraseProperty o name =>
    exact keeps_modify (hw.eraseProperty (hwrites o name ⟨rfl, rfl⟩))
  | makeStruct name members guarded =>
    exact hdone (Natives.makeStruct_keeps hhost.natives hw name members guarded)
  | newStruct prototype data =>
    refine hdone (Natives.newStruct_keeps hhost.natives hw prototype fun v hv => ?_)
    exact hvalues v (List.mem_cons_of_mem _ (by rw [hv]; exact List.mem_singleton_self v))
  | assignMembers o data =>
    exact Behaviour.assignMembers_keeps hw (fun name => hwrites o name rfl)
      (hvalues data List.mem_cons_self)
  | newModule name entries =>
    exact hdone (Natives.newModule_keeps hhost.natives hw name (hvalues _ List.mem_cons_self))
  | loadModule name => exact hdone (Catalogue.load_keeps hhost.natives hw name)
  | declareType T => exact keeps_modify (hw.of_heap_eq rfl)
  | freshIdent => exact keeps_modify (hw.of_heap_eq rfl)

theorem safe_of_endsIn (hhost : host.Respects L) {op : Operation} {w' : World} (hw : w.Fits L)
    (hvalues : w.SupportsAll op.values) (hwrites : ∀ o name, op.Writes w o name → ¬ L o name)
    (hends : op.EndsIn host w w') : w.Safe L w' := by
  have hkeeps := run_keeps hhost op hw hvalues hwrites
  rcases hends with hdone | ⟨f, hraised⟩
  · exact (hkeeps.done hdone).1
  · exact hkeeps.raised hraised

end keeps

end Operation

/-! ## Reachable worlds -/

namespace World

/-- Nothing is sealed. -/
def unsealed : Locations := fun _ _ => False

theorem WellFormed.fits {w : World} (hw : w.WellFormed) : w.Fits unsealed :=
  ⟨hw, fun h => h.elim, fun h => h.elim, fun h => h.elim⟩

/-- The worlds that operations on values of the world itself lead to, and the
    release of objects in between. -/
inductive Reachable (host : Host) : World → Prop where
  | initial : Reachable host initial
  | step {w w' : World} (h : Reachable host w) (op : Operation)
      (hvalues : w.SupportsAll op.values) (hends : op.EndsIn host w w') : Reachable host w'
  | collect {w : World} (h : Reachable host w) (roots : List ObjectId) :
      Reachable host (w.collect roots)

/-- What is left after a release is well-formed: a method may have lost its
    receiver, but never has another one. -/
theorem WellFormed.collect {w : World} (hw : w.WellFormed) (roots : List ObjectId) :
    (w.collect roots).WellFormed := by
  -- A value that was sound stays so: the heap has the same size, and what is left in it has
  -- its type.
  have hsupports : ∀ {v : Value}, w.Supports v → (w.collect roots).Supports v := by
    intro v hv u hu
    have hsound := hv u hu
    cases u with
    | function f =>
      intro receiver qualifiedName body hbody
      obtain ⟨hlt, hmethod⟩ := hsound receiver qualifiedName body hbody
      exact ⟨by rwa [size_collect], fun x hx => hmethod x (object?_collect hx)⟩
    | dict entries => exact hsound
    | _ => trivial
  refine ⟨⟨?_, ?_⟩, ?_⟩
  · exact fun hx entry hentry => hsupports (hw.supports (object?_collect hx) entry hentry)
  · exact fun hx => hw.names (object?_collect hx)
  · intro o
    have ho := hw.settled o
    rw [object] at ho ⊢
    cases hx : (w.collect roots).object? o with
    | none => rfl
    | some x =>
      rw [object?_collect hx] at ho
      exact ho

/-- **Reachable worlds are well-formed**. -/
theorem Reachable.wellFormed {host : Host} (hhost : host.Respects unsealed) {w : World}
    (h : Reachable host w) : w.WellFormed := by
  induction h with
  | initial => exact wellFormed_initial
  | step _ op hvalues hends ih =>
    have hsafe := Operation.safe_of_endsIn hhost ih.fits hvalues (fun _ _ _ h => h) hends
    exact hsafe.fits.wellFormed
  | collect _ roots ih => exact ih.collect roots

end World

end DynamicObjects
