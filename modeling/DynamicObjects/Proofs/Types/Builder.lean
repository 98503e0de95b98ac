import DynamicObjects.Host.Stock
import DynamicObjects.Proofs.Heap.Methods

/-! # Types that are built

    A type is what a sequence of builder calls makes of it: in each slot the last
    handler supplied, under each method name the last method declared.  A new
    object of the type is an object that carries these methods, on which the
    initializer has run once.

    Main results:
    - `slots_builtType`, `isOverridden_builtType`, `methods_builtType`: what the
      calls add up to
    - `Natives.newObject_eq`: construction is allocation and one run of the
      initializer
    - `built_type_constructs`: dispatch and construction for every built type -/

namespace DynamicObjects

/-! ## Builder calls -/

/-- What can be asked of a type builder. -/
inductive BuilderCall where
  | slot (s : Slot) (h : Handler s)
  | method (name : String) (body : MethodBody)
  | sharedMethod (name : String) (callable : ObjectId)
  | shape (shape : StructShape)

namespace BuilderCall

/-- The handler that a call supplies for a slot. -/
def handler? (s : Slot) : BuilderCall → Option (Handler s)
  | slot t h => if e : t = s then some (e ▸ h) else none
  | _ => none

/-- The method that a call declares. -/
def method? : BuilderCall → Option (String × Method)
  | method name body => some (name, .native body)
  | sharedMethod name callable => some (name, .shared callable)
  | _ => none

/-- The last handler that is supplied for a slot. -/
def lastHandler? (s : Slot) : List BuilderCall → Option (Handler s)
  | [] => none
  | call :: rest => (lastHandler? s rest).or (call.handler? s)

/-- The methods that are declared, in their order. -/
def methods (calls : List BuilderCall) : Bindings Method := calls.filterMap method?

/-- A slot has a last handler if any call supplies one. -/
theorem lastHandler?_isSome_iff {s : Slot} {calls : List BuilderCall} :
    (lastHandler? s calls).isSome = true ↔ ∃ h, slot s h ∈ calls := by
  induction calls with
  | nil => simp [lastHandler?]
  | cons call rest ih =>
    rw [lastHandler?, Option.isSome_or, Bool.or_eq_true, ih]
    -- A call supplies a handler for `s` only if it is the call for this slot.
    have hcall : (call.handler? s).isSome = true ↔ ∃ h, slot s h = call := by
      cases call with
      | slot t h =>
        rw [handler?]
        by_cases heq : t = s
        · subst heq
          simp
        · simp [heq, Ne.symm heq]
      | _ => simp [handler?]
    rw [hcall]
    simp only [List.mem_cons]
    constructor
    · rintro (⟨h, hmem⟩ | ⟨h, heq⟩)
      · exact ⟨h, .inr hmem⟩
      · exact ⟨h, .inl heq⟩
    · rintro ⟨h, heq | hmem⟩
      · exact .inr ⟨h, heq⟩
      · exact .inl ⟨h, hmem⟩

end BuilderCall

namespace TypeBuilder

/-- Do what a call asks for. -/
def perform (b : TypeBuilder) : BuilderCall → TypeBuilder
  | .slot s h => b.slot s h
  | .method name body => b.method name body
  | .sharedMethod name callable => b.sharedMethod name callable
  | .shape shape => b.withShape shape

/-- Do what all calls ask for, one after the other. -/
def performAll (b : TypeBuilder) (calls : List BuilderCall) : TypeBuilder := calls.foldl perform b

section calls
variable (b : TypeBuilder) (calls : List BuilderCall)

theorem slots_perform (call : BuilderCall) (s : Slot) :
    (b.perform call).slots s = (call.handler? s).or (b.slots s) := by
  cases call with
  | slot t h =>
    change b.slots.set t h s = _
    rw [SlotTable.set, BuilderCall.handler?]
    split
    · rw [Option.some_or]
    · rw [Option.none_or]
  | _ => rfl

/-- The last handler of each slot prevails. -/
theorem slots_performAll (s : Slot) :
    (b.performAll calls).slots s = (BuilderCall.lastHandler? s calls).or (b.slots s) := by
  -- The builder varies: what the first call supplies is there before the rest.
  induction calls generalizing b with
  | nil => rfl
  | cons call rest ih =>
    calc (b.performAll (call :: rest)).slots s
        = ((b.perform call).performAll rest).slots s := rfl
      _ = (BuilderCall.lastHandler? s rest).or ((b.perform call).slots s) := ih _
      _ = (BuilderCall.lastHandler? s (call :: rest)).or (b.slots s) := by
        rw [slots_perform, BuilderCall.lastHandler?, Option.or_assoc]

theorem mem_overrides_perform (call : BuilderCall) (s : Slot) :
    s ∈ (b.perform call).overrides ↔ (call.handler? s).isSome = true ∨ s ∈ b.overrides := by
  cases call with
  | slot t h =>
    have hhandler : ((BuilderCall.slot t h).handler? s).isSome = true ↔ s = t := by
      rw [BuilderCall.handler?]
      split
      · next heq => simp [heq]
      · next hne => simp [Ne.symm hne]
    -- A slot that is supplied again is not listed a second time.
    change s ∈ (if b.overrides.contains t then b.overrides else b.overrides ++ [t]) ↔ _
    rw [hhandler]
    split
    · next hmem =>
      have ht : t ∈ b.overrides := List.contains_iff_mem.mp hmem
      refine ⟨.inr, ?_⟩
      rintro (rfl | hs)
      · exact ht
      · exact hs
    · rw [List.mem_append, List.mem_singleton, or_comm]
  | _ => simp [perform, BuilderCall.handler?, method, sharedMethod, withShape]

/-- The slots that a type overrides are those that have been supplied. -/
theorem mem_overrides_performAll (s : Slot) :
    s ∈ (b.performAll calls).overrides ↔
      (BuilderCall.lastHandler? s calls).isSome = true ∨ s ∈ b.overrides := by
  induction calls generalizing b with
  | nil => simp [performAll, BuilderCall.lastHandler?]
  | cons call rest ih =>
    have hrest : s ∈ (b.performAll (call :: rest)).overrides ↔
        (BuilderCall.lastHandler? s rest).isSome = true ∨ s ∈ (b.perform call).overrides := ih _
    rw [hrest, mem_overrides_perform, BuilderCall.lastHandler?, Option.isSome_or, Bool.or_eq_true,
      or_assoc]

theorem methods_performAll :
    (b.performAll calls).methods = b.methods ++ BuilderCall.methods calls := by
  induction calls generalizing b with
  | nil => exact (List.append_nil _).symm
  | cons call rest ih =>
    have hrest : (b.performAll (call :: rest)).methods =
        (b.perform call).methods ++ BuilderCall.methods rest := ih _
    rw [hrest]
    cases call with
    | slot s h => rfl
    | method name body => exact List.append_assoc ..
    | sharedMethod name callable => exact List.append_assoc ..
    | shape shape => rfl

theorem name_performAll : (b.performAll calls).name = b.name := by
  induction calls generalizing b with
  | nil => rfl
  | cons call rest ih =>
    have hrest : (b.performAll (call :: rest)).name = (b.perform call).name := ih _
    rw [hrest]
    cases call <;> rfl

end calls

end TypeBuilder

/-! ## Built types -/

/-- The type that builder calls make. -/
def builtType (name : String) (category : Category) (calls : List BuilderCall) (ident : TypeId) :
    TypeDescriptor :=
  ((TypeBuilder.new name category).performAll calls).build ident

/-- The slots that every type answers. -/
def Slot.canonical : List Slot := [.init, .str, .eq, .equals, .getAttr, .setAttr]

theorem SlotTable.defaults_eq_none_iff {s : Slot} :
    SlotTable.defaults s = none ↔ s ∉ Slot.canonical := by
  cases s <;> simp [SlotTable.defaults, Slot.canonical]

section built
variable {name : String} {category : Category} {calls : List BuilderCall} {ident : TypeId}

@[simp] theorem name_builtType : (builtType name category calls ident).name = name :=
  TypeBuilder.name_performAll _ calls

/-- A slot has the last handler supplied for it, or the default. -/
theorem slots_builtType (s : Slot) :
    (builtType name category calls ident).slots s =
      (BuilderCall.lastHandler? s calls).or (SlotTable.defaults s) := by
  change (((TypeBuilder.new name category).performAll calls).slots s).or _ = _
  rw [TypeBuilder.slots_performAll, Option.or_assoc]
  rfl

theorem isOverridden_builtType (s : Slot) :
    (builtType name category calls ident).isOverridden s = true ↔
      ∃ h, BuilderCall.slot s h ∈ calls := by
  rw [← BuilderCall.lastHandler?_isSome_iff]
  change ((TypeBuilder.new name category).performAll calls).overrides.contains s = true ↔ _
  rw [List.contains_iff_mem, TypeBuilder.mem_overrides_performAll]
  simp [TypeBuilder.new]

@[simp] theorem methods_builtType :
    (builtType name category calls ident).methods = BuilderCall.methods calls :=
  (TypeBuilder.methods_performAll _ calls).trans (List.nil_append _)

end built

/-! ## Construction -/

/-- The end of a construction whose initializer ends like this: the new object
    itself, or what its initializer fails with. -/
def Outcome.constructed (o : ObjectId) : Outcome Value → Outcome ObjectId
  | .done _ w => .done o w
  | .raised f w => .raised f w
  | .diverged => .diverged

/-- **Construction** is an allocation and one run of the initializer. -/
theorem Natives.newObject_eq (natives : Natives) {T : TypeDescriptor} {h : Handler .init}
    (hinit : T.slots .init = some h) (args : List Value) (w : World) :
    natives.newObject T args w =
      (natives.runInitializer h ⟨w.heap.size⟩ args (w.allocate T).2).constructed ⟨w.heap.size⟩ := by
  simp only [newObject, hinit, Run.bind_apply, Run.step_apply, World.allocate_fst]
  cases natives.runInitializer h ⟨w.heap.size⟩ args (w.allocate T).2 <;> rfl

/-! ## Dispatch and construction -/

/-- **Built types**: whatever calls a type is built by, each slot holds the last
    handler supplied for it, or else its default, or else nothing, and dispatch
    goes by that; and a new object carries the last method of each name and has
    been initialized once, while everything else is as it was. -/
theorem built_type_constructs (host : Host) (name : String) (category : Category)
    (calls : List BuilderCall) (ident : TypeId) :
    (∀ s, (builtType name category calls ident).slots s =
      (BuilderCall.lastHandler? s calls).or (SlotTable.defaults s)) ∧
    (∀ s, (builtType name category calls ident).slots s = none ↔
      (∀ h, BuilderCall.slot s h ∉ calls) ∧ s ∉ Slot.canonical) ∧
    (∀ s, (builtType name category calls ident).isOverridden s = true ↔
      ∃ h, BuilderCall.slot s h ∈ calls) ∧
    (∀ (w : World) (o : ObjectId) (s : Slot) (args : List Value),
      w.typeOf o = builtType name category calls ident →
        host.dispatch o s args w =
          match (builtType name category calls ident).slots s with
          | some h => host.invoke h o args w
          | none => .raised (.slotUnsupported s name) w) ∧
    (∀ s, (Fault.slotUnsupported s name).kind = .typeError ∧
      (Fault.slotUnsupported s name).message =
        "'" ++ name ++ "' object does not support '" ++ s.name ++ "'") ∧
    (∀ (w : World) (args : List Value),
      w.Grows (w.allocate (builtType name category calls ident)).2 ∧
      (w.allocate (builtType name category calls ident)).2.Carries ⟨w.heap.size⟩
        (builtType name category calls ident) (BuilderCall.methods calls) ∧
      host.natives.newObject (builtType name category calls ident) args w =
        (host.natives.runInitializer
          ((BuilderCall.lastHandler? .init calls).getD (.construct .ignore)) ⟨w.heap.size⟩ args
          (w.allocate (builtType name category calls ident)).2).constructed ⟨w.heap.size⟩) := by
  refine ⟨slots_builtType, ?_, isOverridden_builtType, ?_, fun _ => ⟨rfl, rfl⟩, ?_⟩
  · intro s
    rw [slots_builtType, Option.or_eq_none_iff, SlotTable.defaults_eq_none_iff,
      ← Option.not_isSome_iff_eq_none, BuilderCall.lastHandler?_isSome_iff, not_exists]
  · -- Dispatch looks at nothing but the slot.
    intro w o s args htype
    simp only [Host.dispatch, Run.bind_apply, Run.read_apply, htype]
    cases (builtType name category calls ident).slots s with
    | some h => rfl
    | none =>
      rw [name_builtType]
      rfl
  · -- The object is allocated with its methods, and then initialized.
    intro w args
    have hbuilds : World.Builds w.heap.size (fun _ => False) w
        (w.allocate (builtType name category calls ident)).2 :=
      World.allocate_builds _ (Nat.le_refl _)
    have hcarries := w.allocate_carries (builtType name category calls ident)
    rw [methods_builtType] at hcarries
    refine ⟨hbuilds.grows (Nat.le_refl _), hcarries, host.natives.newObject_eq ?_ args w⟩
    rw [slots_builtType]
    cases BuilderCall.lastHandler? .init calls <;> rfl

/-- Both the initializer and a method are declared a second time. -/
def counterCalls : List BuilderCall :=
  [.slot .init (.native "fail"), .method "next" (.native "argc"), .sharedMethod "none" ⟨0⟩,
   .slot .init (.native "store"), .method "next" (.native "bump")]

/-- The type of counters is built, an object of it is made, and it is asked for
    its length, which it does not have. -/
theorem counter_constructed :
    ∃ w, Stock.natives.newObject (builtType "Counter" .type counterCalls (.declared 0)) [.int 7]
        .initial = .done ⟨3⟩ w ∧
      w.payload? ⟨3⟩ = some (.int 7) ∧ w.property? ⟨3⟩ "none" = some (.object ⟨0⟩) ∧
      (∃ m ident, w.property? ⟨3⟩ "next" = some (.object m) ∧ w.payload? m =
        some (.function ⟨ident, "next", .bound ⟨3⟩ "Counter.next" (.native "bump")⟩)) ∧
      Stock.host.dispatch ⟨3⟩ .len [] w = .raised (.slotUnsupported .len "Counter") w := by
  obtain ⟨-, hempty, -, hdispatch, -, hconstructs⟩ :=
    built_type_constructs Stock.host "Counter" .type counterCalls (.declared 0)
  obtain ⟨-, -, hnew⟩ := hconstructs .initial [.int 7]
  refine ⟨_, hnew, rfl, rfl, ⟨⟨5⟩, 1, rfl, rfl⟩, ?_⟩
  rw [hdispatch _ _ .len [] rfl, (hempty .len).mpr ⟨?_, by decide⟩]
  simp [counterCalls]

end DynamicObjects
