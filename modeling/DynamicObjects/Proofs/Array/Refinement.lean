import DynamicObjects.Host.Stock
import DynamicObjects.Proofs.Array.Sequence
import DynamicObjects.Proofs.Heap.Methods

/-! # Runs of array operations

    Arrays refine sequences along every run.  A step of a run performs an operation
    on some array and ends with a result or a fault; between the steps new objects
    may be made.  What the run does to the sequence of one array, `SequenceRun`,
    consists of what the operations on this array yield, in their order.

    The argument:
    1. A new array stands for the conversions of the values it is made of.
    2. Every step keeps every array an array: `ArrayOperation.run_refines` for the
       array it is about, and it touches no other.
    3. By induction along the run, with the sequence of each array.

    Main results:
    - `World.isArray_newObject`: what the construction of an array gives
    - `arrays_refine_sequences`: every run of operations on arrays -/

namespace DynamicObjects

namespace World

/-! ## New arrays -/

section new
variable {w : World} {a : ObjectId}

/-- The methods of a new array are bound to it. -/
theorem allocate_bindsMethod (w : World) (method : ArrayMethod) :
    (w.allocate .array).2.BindsMethod ⟨w.heap.size⟩ method.name (.array method) := by
  have hlast : Bindings.last? method.name TypeDescriptor.array.methods =
      some (.native (.array method)) := by
    cases method <;> rfl
  obtain ⟨m, ident, -, hm, hx⟩ := (w.allocate_carries .array).native hlast
  refine ⟨m, boundMethod ident ⟨w.heap.size⟩ "array" method.name (.array method), _, hm, ?_, ?_,
    rfl⟩
  · rw [typeOf, object, hx]
    rfl
  · rw [payload?, property?, object, hx]
    exact Bindings.get?_set_self _ _ _

/-- What is new becomes an array once its payload is set. -/
theorem isArray_setPayload {w₁ : World} {os : List ObjectId} (w : World)
    (hgrows : (w.allocate .array).2.Grows w₁) :
    (w₁.setPayload ⟨w.heap.size⟩ (.list (os.map .object))).IsArray ⟨w.heap.size⟩ os := by
  have htype := w.allocate_type .array
  have hlt := w.size_lt_allocate .array
  rw [← hgrows.object?_eq (o := ⟨w.heap.size⟩) hlt] at htype
  obtain ⟨htype', hpayload⟩ := setPayload_self htype (.list (os.map .object))
  refine ⟨htype', hpayload, fun method => ?_⟩
  have htouches := (hgrows.touchesOnly hlt).trans
    (touchesOnly_setPayload w₁ ⟨w.heap.size⟩ (.list (os.map .object)))
  exact (allocate_bindsMethod w method).kept
    (fun ho => htouches.others (ne_of_typeOf_function (htouches.type.symm.trans htype') ho))
    (htouches.property?_eq (by cases method <;> decide))

/-- **The conversion of a list** is an array. -/
theorem isArray_toObject (w : World) (items : List Value) :
    ∃ os, (w.toObject (.list items)).2.IsArray (w.toObject (.list items)).1 os := by
  obtain ⟨os, hos, -⟩ := toObjects_areConversions (w := (w.allocate .array).2) items (Nat.le_refl _)
  rw [toObject_list, hos]
  exact ⟨os, isArray_setPayload w ((w.allocate .array).2.toObjects_grows items)⟩

/-- **The construction of an array** gives one. -/
theorem isArray_newObject {natives : Natives} {args : List Value} {w' : World}
    (h : natives.newObject .array args w = .done a w') : ∃ os, w'.IsArray a os := by
  have hinit : TypeDescriptor.array.slots .init = some (.construct .array) := rfl
  simp only [Natives.newObject, hinit, Run.bind_apply, Run.step_apply, Natives.runInitializer,
    Initializer.run, Run.read_apply, id_eq] at h
  cases hitems : Initializer.itemsFrom (w.allocate .array).2 args with
  | error f =>
    rw [hitems] at h
    cases h
  | ok items =>
    obtain ⟨os, hos, -⟩ :=
      toObjects_areConversions (w := (w.allocate .array).2) items (Nat.le_refl _)
    rw [hitems] at h
    simp only [Run.lift_ok, Run.modify_apply, Run.pure_apply, hos] at h
    cases h
    exact ⟨os, isArray_setPayload w ((w.allocate .array).2.toObjects_grows items)⟩

end new

end World

/-! ## Steps -/

/-- An operation on an array, with the worlds around it and how it has ended. -/
structure ArrayStep where
  array : ObjectId
  op : ArrayOperation
  before : World
  result : Except Fault Value
  after : World

/-- An operation addresses the element at an index. -/
def ArrayOperation.Addresses (w : World) (i : Int64) : ArrayOperation → Prop
  | getItem [key] | setItem [key, _] => w.subscript "array" key = .ok i
  | _ => False

namespace ArrayStep

/-- The operation of a step has ended like that. -/
def Performed (host : Host) (s : ArrayStep) : Prop :=
  Run.attempt (s.op.run host s.array) s.before = .done s.result s.after

/-- What a single step guarantees.  No object but the array is changed, and the
    array only if there is no fault; an element is accessed exactly if its index
    is in range. -/
structure Sound (s : ArrayStep) : Prop where
  others : ∀ {o : ObjectId}, o ≠ s.array → o.index < s.before.heap.size →
    s.after.object? o = s.before.object? o
  fault : ∀ {f : Fault}, s.result = .error f →
    s.after.payload? s.array = s.before.payload? s.array
  bounds : ∀ {os : List ObjectId} {i : Int64}, s.before.IsArray s.array os →
    s.op.Addresses s.before i →
      ((∃ v, s.result = .ok v) ↔ 0 ≤ i.toInt ∧ i.toInt < os.length)

end ArrayStep

section steps
variable {host : Host} {w : World} {s : ArrayStep} {os : List ObjectId}

/-- An operation that ends has refined what the array stands for. -/
theorem ArrayStep.Performed.refines (h : s.Performed host) (harray : s.before.IsArray s.array os) :
    match s.result with
    | .ok answer => s.op.Refines s.before s.array os (.done answer s.after)
    | .error f => s.op.Refines s.before s.array os (.raised f s.after) := by
  have hrefines := ArrayOperation.run_refines host harray s.op
  rw [ArrayStep.Performed, Run.attempt] at h
  -- A step has recorded how its operation ended.
  cases houtcome : s.op.run host s.array s.before with
  | done answer w' =>
    rw [houtcome] at h hrefines
    obtain ⟨hresult, hafter⟩ := Outcome.done.inj h
    rw [← hresult, ← hafter]
    exact hrefines
  | raised f w' =>
    rw [houtcome] at h hrefines
    obtain ⟨hresult, hafter⟩ := Outcome.done.inj h
    rw [← hresult, ← hafter]
    exact hrefines
  | diverged =>
    rw [houtcome] at h
    cases h

/-- However it ends, nothing but the array is touched. -/
theorem ArrayStep.Performed.touchesOnly (h : s.Performed host)
    (harray : s.before.IsArray s.array os) : World.TouchesOnly s.array s.before s.after := by
  have hrefines := h.refines harray
  cases hresult : s.result with
  | ok answer =>
    rw [hresult] at hrefines
    obtain ⟨-, -, -, htouches⟩ := hrefines
    exact htouches
  | error f =>
    rw [hresult] at hrefines
    exact hrefines.2.2

/-- An access makes sense exactly within the sequence. -/
theorem ArrayOperation.Addresses.defined_iff {op : ArrayOperation} {i : Int64}
    (h : op.Addresses w i) : op.Defined w os ↔ 0 ≤ i.toInt ∧ i.toInt < os.length := by
  constructor
  · rintro ⟨w', answer, os', hyields⟩
    -- Of all operations only these two address an element, and both do so by a subscript.
    cases hyields with
    | getItem hkey hi ho =>
      obtain rfl := Except.ok.inj (hkey.symm.trans h)
      have hlt := (List.getElem?_eq_some_iff.mp ho).1
      omega
    | setItem hkey hi ho =>
      obtain rfl := Except.ok.inj (hkey.symm.trans h)
      exact hi
    | _ => exact h.elim
  · intro hi
    have hlt : i.toInt.toNat < os.length := by omega
    match op, h with
    | getItem [key], h =>
      exact ⟨w, _, os, .getItem h hi.1 (List.getElem?_eq_getElem hlt)⟩
    | setItem [key, v], h =>
      exact ⟨(w.toObject v).2, _, _,
        .setItem h hi (World.toObject_isConversion v (Nat.le_refl _))⟩

/-- **Every step is sound**. -/
theorem ArrayStep.Performed.sound (h : s.Performed host) (harray : s.before.IsArray s.array os) :
    s.Sound where
  others := (h.touchesOnly harray).others
  fault := by
    intro f hresult
    have hrefines := h.refines harray
    rw [hresult] at hrefines
    exact hrefines.2.1.payload.trans harray.payload.symm
  bounds := by
    intro os i harray haddresses
    rw [← haddresses.defined_iff]
    have hrefines := h.refines harray
    -- An access that is defined has succeeded, one that is not has failed.
    cases hresult : s.result with
    | ok answer =>
      rw [hresult] at hrefines
      obtain ⟨os', hyields, -⟩ := hrefines
      exact ⟨fun _ => ⟨s.after, answer, os', hyields⟩, fun _ => ⟨answer, rfl⟩⟩
    | error f =>
      rw [hresult] at hrefines
      exact ⟨fun ⟨_, h⟩ => (by cases h), fun hdefined => absurd hdefined hrefines.1⟩

end steps

/-! ## Runs -/

/-- A **run** of operations on arrays, between which objects may be made. -/
inductive ArrayRun (host : Host) (w : World) : List ArrayStep → World → Prop where
  | start : ArrayRun host w [] w
  | make {steps : List ArrayStep} {w₁ w₂ : World} (h : ArrayRun host w steps w₁)
      (hgrows : w₁.Grows w₂) : ArrayRun host w steps w₂
  | step {steps : List ArrayStep} {s : ArrayStep} {os : List ObjectId}
      (h : ArrayRun host w steps s.before) (harray : s.before.IsArray s.array os)
      (hperformed : s.Performed host) : ArrayRun host w (steps ++ [s]) s.after

/-- What the steps do to the **sequence** of one array.  Operations on it that end
    with a result yield that result and the next sequence; those that fail make no
    sense on the sequence, and it stays; operations on other arrays do not matter. -/
inductive SequenceRun (a : ObjectId) (os : List ObjectId) :
    List ArrayStep → List ObjectId → Prop where
  | start : SequenceRun a os [] os
  | yields {steps : List ArrayStep} {s : ArrayStep} {os₁ os₂ : List ObjectId} {answer : Value}
      (h : SequenceRun a os steps os₁) (harray : s.array = a) (hresult : s.result = .ok answer)
      (hyields : s.op.Yields s.before os₁ s.after answer os₂) :
      SequenceRun a os (steps ++ [s]) os₂
  | fails {steps : List ArrayStep} {s : ArrayStep} {os₁ : List ObjectId} {f : Fault}
      (h : SequenceRun a os steps os₁) (harray : s.array = a) (hresult : s.result = .error f)
      (hno : ¬ s.op.Defined s.before os₁) : SequenceRun a os (steps ++ [s]) os₁
  | other {steps : List ArrayStep} {s : ArrayStep} {os₁ : List ObjectId}
      (h : SequenceRun a os steps os₁) (hne : s.array ≠ a) : SequenceRun a os (steps ++ [s]) os₁

section runs
variable {host : Host} {w w' : World} {steps : List ArrayStep} {a : ObjectId}
  {os : List ObjectId}

/-- Along a run every array stays one, and what it stands for follows its sequence. -/
theorem ArrayRun.sequenceRun (hrun : ArrayRun host w steps w') (h : w.IsArray a os) :
    ∃ os', SequenceRun a os steps os' ∧ w'.IsArray a os' := by
  induction hrun with
  | start => exact ⟨os, .start, h⟩
  | make _ hgrows ih =>
    obtain ⟨os₁, hsequence, harray⟩ := ih
    refine ⟨os₁, hsequence, harray.touched (hgrows.touchesOnly harray.index_lt) ?_⟩
    exact (hgrows.property?_eq harray.index_lt payloadName).trans harray.payload
  | @step steps s ps _ hother hperformed ih =>
    obtain ⟨os₁, hsequence, harray⟩ := ih
    -- Only what is done to the array itself can move its sequence on.
    by_cases ha : s.array = a
    · subst ha
      have hrefines := hperformed.refines harray
      cases hresult : s.result with
      | ok answer =>
        rw [hresult] at hrefines
        obtain ⟨os₂, hyields, harray', -⟩ := hrefines
        exact ⟨os₂, .yields hsequence rfl hresult hyields, harray'⟩
      | error f =>
        rw [hresult] at hrefines
        exact ⟨os₁, .fails hsequence rfl hresult hrefines.1, hrefines.2.1⟩
    · refine ⟨os₁, .other hsequence ha, ?_⟩
      exact harray.untouched (hperformed.touchesOnly hother) hother.type (Ne.symm ha)

theorem ArrayRun.sound (hrun : ArrayRun host w steps w') : ∀ s ∈ steps, s.Sound := by
  induction hrun with
  | start => exact fun _ hs => (List.not_mem_nil hs).elim
  | make _ _ ih => exact ih
  | step _ harray hperformed ih =>
    intro t ht
    rcases List.mem_append.mp ht with ht | ht
    · exact ih t ht
    · obtain rfl := List.mem_singleton.mp ht
      exact hperformed.sound harray

/-- **Arrays refine sequences**.  New arrays stand for sequences of objects; along
    every run each array stands for what its operations yield from there; every
    step leaves other objects alone, and the array too if it fails.  And a run can
    always go on, unless a search for a payload takes for ever. -/
theorem arrays_refine_sequences (hrun : ArrayRun host w steps w') :
    (∀ args a w₁, host.natives.newObject .array args w' = .done a w₁ →
      ∃ os, w₁.IsArray a os) ∧
    (∀ a os, w.IsArray a os → ∃ os', SequenceRun a os steps os' ∧ w'.IsArray a os' ∧
      ∀ op : ArrayOperation, op.run host a w' = .diverged → op.SearchesForEver w' os') ∧
    ∀ s ∈ steps, s.Sound := by
  refine ⟨fun _ _ _ h => World.isArray_newObject h, fun a os h => ?_, hrun.sound⟩
  obtain ⟨os', hsequence, harray⟩ := hrun.sequenceRun h
  refine ⟨os', hsequence, harray, fun op hdiverged => ?_⟩
  have hrefines := ArrayOperation.run_refines host harray op
  rw [hdiverged] at hrefines
  exact hrefines

end runs

/-! ## An array extended by itself -/

/-- An array of the integer one. -/
def singleElement : World := (World.initial.toObject (.list [.int 1])).2

/-- The same array with that integer twice. -/
def doubledElement : World :=
  singleElement.setPayload ⟨3⟩ (.list [.object ⟨16⟩, .object ⟨16⟩])

/-- The array is extended by itself. -/
def extendBySelf : ArrayStep :=
  ⟨⟨3⟩, .method .extend [.object ⟨3⟩], singleElement, .ok .null, doubledElement⟩

/-- Then it is read behind its end. -/
def readBehindEnd : ArrayStep :=
  ⟨⟨3⟩, .getItem [.int 2], doubledElement, .error (.indexOutOfRange 2 2), doubledElement⟩

/-- It has its element twice then, as the sequence has. -/
theorem arrays_refine_sequences_self :
    ArrayRun Stock.host singleElement [extendBySelf, readBehindEnd] doubledElement ∧
      singleElement.IsArray ⟨3⟩ [⟨16⟩] ∧
      SequenceRun ⟨3⟩ [⟨16⟩] [extendBySelf, readBehindEnd] [⟨16⟩, ⟨16⟩] ∧
      doubledElement.IsArray ⟨3⟩ [⟨16⟩, ⟨16⟩] := by
  -- What an array stands for can be read off its payload.
  have hobject : ∀ (ps : List ObjectId) {w : World} {os : List ObjectId}, w.IsArray ⟨3⟩ os →
      w.payload? ⟨3⟩ = some (.list (ps.map .object)) → os = ps := by
    intro ps w os h hpayload
    have hsame := h.payload.symm.trans hpayload
    exact List.map_injective_iff.mpr (fun _ _ h => Value.object.inj h)
      (Value.list.inj (Option.some.inj hsame))
  obtain ⟨os, hos⟩ := World.isArray_toObject World.initial [.int 1]
  obtain rfl := hobject [⟨16⟩] hos rfl
  have hextend : extendBySelf.Performed Stock.host := rfl
  have hread : readBehindEnd.Performed Stock.host := rfl
  have hextended : ArrayRun Stock.host singleElement [extendBySelf] doubledElement :=
    .step .start hos hextend
  obtain ⟨os, -, hos'⟩ := hextended.sequenceRun hos
  have hrun : ArrayRun Stock.host singleElement [extendBySelf, readBehindEnd] doubledElement :=
    .step hextended hos' hread
  obtain ⟨-, hsequence, -⟩ := arrays_refine_sequences hrun
  obtain ⟨os', hsteps, harray, -⟩ := hsequence ⟨3⟩ [⟨16⟩] hos
  obtain rfl := hobject [⟨16⟩, ⟨16⟩] harray rfl
  exact ⟨hrun, hos, hsteps, harray⟩

end DynamicObjects
