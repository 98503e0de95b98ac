import DynamicObjects.Host.Stock
import DynamicObjects.Proofs.Safety.Reachable

/-! # Marks of instances

    The mark that tells an instance of a struct from its prototype is set by an
    assignment of members, on the object that is assigned to, and by nothing
    else; it is never taken away.  What a host does is up to the host.

    The argument:
    1. New objects are no concern of those that exist, and properties are not
       marks.
    2. A run keeps marks if its parts do, wherever it starts from; so there is one
       line for each part of a handler.

    Main results:
    - `Host.dispatch_marks`: no handler marks an object that exists
    - `Natives.newStruct_marks`: what an instantiation marks is new -/

namespace DynamicObjects

/-! ## Worlds -/

/-- A world **keeps the marks** of another one on some objects if these are
    instances as before. -/
structure World.KeepsMarks (M : ObjectId → Prop) (w w' : World) : Prop where
  size_le : w.heap.size ≤ w'.heap.size
  isInstance_eq : ∀ {o : ObjectId}, M o → (w'.object o).isInstance = (w.object o).isInstance

/-- Some objects are not beyond the end of a world. -/
def World.Contains (M : ObjectId → Prop) (w : World) : Prop :=
  ∀ o, M o → o.index < w.heap.size

variable {M : ObjectId → Prop}

namespace World

variable {w w₁ w₂ : World}

protected theorem KeepsMarks.refl (w : World) : w.KeepsMarks M w := ⟨Nat.le_refl _, fun _ => rfl⟩

theorem KeepsMarks.trans (h₁ : w.KeepsMarks M w₁) (h₂ : w₁.KeepsMarks M w₂) :
    w.KeepsMarks M w₂ where
  size_le := Nat.le_trans h₁.size_le h₂.size_le
  isInstance_eq ho := (h₂.isInstance_eq ho).trans (h₁.isInstance_eq ho)

theorem KeepsMarks.contains (h : w.KeepsMarks M w₁) (hM : w.Contains M) : w₁.Contains M :=
  fun o ho => Nat.lt_of_lt_of_le (hM o ho) h.size_le

theorem Grows.keepsMarks (h : w.Grows w₁) (hM : w.Contains M) : w.KeepsMarks M w₁ :=
  ⟨h.size_le, fun ho => by rw [h.object_eq (hM _ ho)]⟩

theorem keepsMarks_of_heap_eq (h : w₁.heap = w.heap) : w.KeepsMarks M w₁ := by
  refine ⟨Nat.le_of_eq (by rw [h]), fun {o} _ => ?_⟩
  rw [object, object, object?, object?, h]

/-- A change of another object, or of anything but the mark. -/
theorem keepsMarks_update (w : World) (o : ObjectId) {f : Object → Object}
    (hf : M o → ∀ x, (f x).isInstance = x.isInstance) : w.KeepsMarks M (w.update o f) := by
  refine ⟨Nat.le_of_eq (size_update w o f).symm, fun {p} hp => ?_⟩
  rw [object, object, object?_update]
  split
  · next hpo =>
    cases w.object? p with
    | none => rfl
    | some x => exact hf (hpo ▸ hp) x
  · rfl

/-- To write a property is not to mark an object. -/
theorem keepsMarks_setProperty (w : World) (o : ObjectId) (name : String) (v : Value) :
    w.KeepsMarks M (w.setProperty o name v) :=
  w.keepsMarks_update o fun _ _ => rfl

theorem keepsMarks_toObject (hM : w.Contains M) (v : Value) : w.KeepsMarks M (w.toObject v).2 :=
  (w.toObject_grows v).keepsMarks hM

theorem keepsMarks_toObjects (hM : w.Contains M) (items : List Value) :
    w.KeepsMarks M (w.toObjects items).2 :=
  (w.toObjects_grows items).keepsMarks hM

theorem keepsMarks_toEntries (hM : w.Contains M) (entries : Bindings Value) :
    w.KeepsMarks M (w.toEntries entries).2 :=
  ((toEntries_builds_any w entries).grows (Nat.le_refl _)).keepsMarks hM

theorem keepsMarks_allocate (hM : w.Contains M) (T : TypeDescriptor) :
    w.KeepsMarks M (w.allocate T).2 := by
  have h : Builds w.heap.size (fun _ => False) w (w.allocate T).2 :=
    allocate_builds T (Nat.le_refl _)
  exact (h.grows (Nat.le_refl _)).keepsMarks hM

end World

/-! ## Runs -/

namespace Run

variable {α β : Type}

/-- A run **marks nothing** among some objects, wherever it starts from and ends. -/
structure MarksNothing (r : Run α) (M : ObjectId → Prop) : Prop where
  done : ∀ {w w' : World} {a : α}, w.Contains M → r w = .done a w' → w.KeepsMarks M w'
  raised : ∀ {w w' : World} {f : Fault}, w.Contains M → r w = .raised f w' → w.KeepsMarks M w'

namespace MarksNothing

variable {r : Run α} {next : α → Run β}

protected theorem pure (a : α) : (pure a : Run α).MarksNothing M where
  done _ hdone := by
    obtain ⟨-, rfl⟩ := Outcome.done.inj hdone
    exact .refl _
  raised _ hraised := by cases hraised

protected theorem raise (f : Fault) : (raise f : Run α).MarksNothing M where
  done _ hdone := by cases hdone
  raised _ hraised := by
    obtain ⟨-, rfl⟩ := Outcome.raised.inj hraised
    exact .refl _

/-- The second run may depend on where the result of the first has come from. -/
theorem bind_of_done (hr : r.MarksNothing M)
    (hnext : ∀ {w w₁ : World} {a : α}, w.Contains M → r w = .done a w₁ → (next a).MarksNothing M) :
    (r >>= next).MarksNothing M where
  done hM hdone := by
    obtain ⟨a, w₁, hfirst, hsecond⟩ := bind_eq_done_iff.mp hdone
    have hkeeps := hr.done hM hfirst
    exact hkeeps.trans ((hnext hM hfirst).done (hkeeps.contains hM) hsecond)
  raised hM hraised := by
    rcases bind_eq_raised_iff.mp hraised with hfirst | ⟨a, w₁, hfirst, hsecond⟩
    · exact hr.raised hM hfirst
    · have hkeeps := hr.done hM hfirst
      exact hkeeps.trans ((hnext hM hfirst).raised (hkeeps.contains hM) hsecond)

protected theorem bind (hr : r.MarksNothing M) (hnext : ∀ a, (next a).MarksNothing M) :
    (r >>= next).MarksNothing M :=
  hr.bind_of_done fun _ _ => hnext _

protected theorem step {change : World → α × World}
    (h : ∀ {w : World}, w.Contains M → w.KeepsMarks M (change w).2) :
    (Run.step change).MarksNothing M where
  done hM hdone := by
    obtain ⟨-, rfl⟩ := Outcome.done.inj hdone
    exact h hM
  raised _ hraised := by cases hraised

protected theorem modify {change : World → World} (h : ∀ w : World, w.KeepsMarks M (change w)) :
    (Run.modify change).MarksNothing M where
  done {w w' a} _ hdone := by
    obtain ⟨-, rfl⟩ := Outcome.done.inj hdone
    exact h w
  raised _ hraised := by cases hraised

protected theorem read (view : World → α) : (Run.read view).MarksNothing M where
  done _ hdone := by
    obtain ⟨-, rfl⟩ := Outcome.done.inj hdone
    exact .refl _
  raised _ hraised := by cases hraised

protected theorem diverge : (Run.diverge : Run α).MarksNothing M where
  done _ hdone := by cases hdone
  raised _ hraised := by cases hraised

protected theorem lift (e : Except Fault α) : (liftM e : Run α).MarksNothing M := by
  cases e with
  | ok a => exact .pure a
  | error f => exact .raise f

protected theorem ofTerminating (x : Option α) : (Run.ofTerminating x).MarksNothing M := by
  cases x with
  | some a => exact .pure a
  | none => exact .diverge

/-- A fault that is caught has marked nothing either. -/
protected theorem attempt (hr : r.MarksNothing M) : (Run.attempt r).MarksNothing M where
  done {w w' a} hM hdone := by
    rw [Run.attempt] at hdone
    cases h : r w with
    | done b w₁ =>
      rw [h] at hdone
      obtain ⟨-, rfl⟩ := Outcome.done.inj hdone
      exact hr.done hM h
    | raised f w₁ =>
      rw [h] at hdone
      obtain ⟨-, rfl⟩ := Outcome.done.inj hdone
      exact hr.raised hM h
    | diverged =>
      rw [h] at hdone
      cases hdone
  raised {w w' f} _ hraised := by
    rw [Run.attempt] at hraised
    cases h : r w <;> rw [h] at hraised <;> cases hraised

protected theorem deepening {limit : World → Nat} {within : Nat → Run α}
    (h : ∀ depth, (within depth).MarksNothing M) :
    (Run.deepening limit within).MarksNothing M := by
  have heq : ∀ w, ∃ depth, Run.deepening limit within w = within depth w := by
    intro w
    rw [Run.deepening]
    cases husual : within usualDepth w with
    | done a w₁ => exact ⟨usualDepth, husual.symm⟩
    | raised f w₁ => exact ⟨usualDepth, husual.symm⟩
    | diverged => exact ⟨limit w, rfl⟩
  constructor
  · intro w w' a hM hdone
    obtain ⟨depth, hdepth⟩ := heq w
    exact (h depth).done hM (hdepth ▸ hdone)
  · intro w w' f hM hraised
    obtain ⟨depth, hdepth⟩ := heq w
    exact (h depth).raised hM (hdepth ▸ hraised)

theorem setProperty (o : ObjectId) (name : String) (v : Value) :
    (Run.modify fun w => w.setProperty o name v).MarksNothing M :=
  .modify fun w => w.keepsMarks_setProperty o name v

theorem toObject (v : Value) : (Run.step fun w => w.toObject v).MarksNothing M :=
  .step fun hM => World.keepsMarks_toObject hM v

theorem toValue (v : Value) : (Run.step fun w => w.toValue v).MarksNothing M :=
  .step fun hM => World.keepsMarks_toObject hM v

end MarksNothing

end Run

open Run (MarksNothing)

variable {this : ObjectId} {args : List Value}

/-! ## Arrays -/

namespace Behaviour

theorem itemsOf_marks (this : ObjectId) : (itemsOf this).MarksNothing M :=
  .bind (.read _) fun _ => .lift _

/-- What changes an array ends by storing the elements and answering. -/
theorem storeItems_marks (items : List Value) (answer : Value) :
    (do
      storeItems this items
      return answer : Run Value).MarksNothing M :=
  .bind (.setProperty this payloadName _) fun _ => .pure _

theorem arrayGetItem_marks : (arrayGetItem this args).MarksNothing M :=
  .bind (.lift _) fun _ => .bind (.read _) fun _ => .bind (.lift _) fun _ =>
    .bind (.lift _) fun _ => .bind (.lift _) fun _ => .pure _

theorem arraySetItem_marks : (arraySetItem this args).MarksNothing M :=
  .bind (.lift _) fun _ => .bind (.read _) fun _ => .bind (.lift _) fun _ =>
    .bind (.toValue _) fun _ => .bind (itemsOf_marks this) fun _ => .bind (.lift _) fun _ =>
      storeItems_marks _ _

theorem arrayLength_marks : (arrayLength this args).MarksNothing M :=
  .bind (.lift _) fun _ => .bind (itemsOf_marks this) fun _ => .pure _

theorem find_marks (v : Value) : (find this v).MarksNothing M :=
  .bind (.read _) fun _ => .bind (.lift _) fun _ => .ofTerminating _

theorem occurrencesOf_marks (v : Value) : (occurrencesOf this v).MarksNothing M :=
  .bind (.read _) fun _ => .bind (.lift _) fun _ => .ofTerminating _

end Behaviour

open Behaviour in
theorem ArrayMethod.invoke_marks (method : ArrayMethod) :
    (method.invoke this args).MarksNothing M := by
  cases method with
  | append =>
    exact .bind (.lift _) fun _ => .bind (.toValue _) fun _ => .bind (itemsOf_marks this) fun _ =>
      storeItems_marks _ _
  | pop =>
    refine .bind (.lift _) fun _ => .bind (itemsOf_marks this) fun items => ?_
    cases items.getLast? with
    | none => exact .raise _
    | some last => exact storeItems_marks _ _
  | contains => exact .bind (.lift _) fun _ => .bind (find_marks _) fun _ => .pure _
  | count => exact .bind (.lift _) fun _ => .bind (occurrencesOf_marks _) fun _ => .pure _
  | insert =>
    exact .bind (.lift _) fun _ => .bind (.read _) fun _ => .bind (.lift _) fun _ =>
      .bind (.toValue _) fun _ => .bind (itemsOf_marks this) fun _ => storeItems_marks _ _
  | remove =>
    refine .bind (.lift _) fun _ => .bind (find_marks _) fun found => ?_
    cases found with
    | none => exact .raise _
    | some place => exact .bind (itemsOf_marks this) fun _ => storeItems_marks _ _
  | sort =>
    exact .bind (.lift _) fun _ => .bind (.read _) fun _ => .bind (.lift _) fun _ =>
      .bind (.lift _) fun _ => storeItems_marks _ _
  | index =>
    refine .bind (.lift _) fun _ => .bind (find_marks _) fun found => ?_
    cases found with
    | none => exact .pure _
    | some place => exact .pure _
  | extend =>
    exact .bind (.lift _) fun _ => .bind (.read _) fun _ => .bind (.lift _) fun more =>
      .bind (.step fun hM => World.keepsMarks_toObjects hM more) fun _ =>
        .bind (itemsOf_marks this) fun _ => storeItems_marks _ _
  | clear => exact .bind (.lift _) fun _ => .bind (itemsOf_marks this) fun _ => storeItems_marks _ _
  | reverse =>
    exact .bind (.lift _) fun _ => .bind (itemsOf_marks this) fun _ => storeItems_marks _ _
  | copy => exact .bind (.lift _) fun _ => .bind (itemsOf_marks this) fun _ => .pure _

/-! ## Rendering -/

namespace Showing

variable {α β : Type}

/-- A computation marks nothing, whatever is being shown. -/
def MarksNothing (r : Showing α) (M : ObjectId → Prop) : Prop :=
  ∀ shown, (r shown).MarksNothing M

namespace MarksNothing

variable {r : Showing α} {next : α → Showing β}

protected theorem pure (a : α) : (pure a : Showing α).MarksNothing M := fun _ => .pure _

protected theorem ofRun {r : Run α} (h : r.MarksNothing M) : (Showing.ofRun r).MarksNothing M :=
  fun _ => .bind h.attempt fun _ => .pure _

protected theorem bind (h : r.MarksNothing M) (hnext : ∀ a, (next a).MarksNothing M) :
    (r >>= next).MarksNothing M := by
  refine fun shown => .bind (h shown) fun result => ?_
  obtain ⟨_ | a, shown₁⟩ := result
  · exact .pure _
  · exact hnext a shown₁

protected theorem guarded (h : r.MarksNothing M) (o : ObjectId) :
    (Showing.guarded o r).MarksNothing M :=
  fun shown => .bind (h (shown.insert o)) fun _ => .pure _

protected theorem during (h : r.MarksNothing M) (shown : ObjectSet) :
    (r.during shown).MarksNothing M := by
  refine .bind (h shown) fun result => ?_
  obtain ⟨_ | a, shown₁⟩ := result
  · exact .raise _
  · exact .pure _

end MarksNothing

end Showing

theorem Rendering.alone_marks (how : Rendering) : (how.alone this).MarksNothing M := by
  refine .bind (.read _) fun w => ?_
  cases how with
  | bool => exact .bind (.ofTerminating _) fun _ => .pure _
  | struct => exact .bind (.lift _) fun _ => .pure _
  | array | identity | null | integer | float | complex | text | quotedText | module | function
  | wrapper => exact .pure _

theorem Rendering.expectText_marks (slot : Slot) (v : Value) :
    (Rendering.expectText slot v).MarksNothing M := by
  refine .bind (.read _) fun w => ?_
  split
  · exact .pure _
  · exact .raise _

section rendering
variable {element : Value → Showing String} (helement : ∀ v, (element v).MarksNothing M)
include helement

theorem showAll_marks (items : List Value) : (showAll element items).MarksNothing M := by
  induction items with
  | nil => exact .pure _
  | cons v rest ih => exact .bind (helement v) fun _ => .bind ih fun _ => .pure _

theorem Rendering.run_marks (how : Rendering) : (how.run element this).MarksNothing M := by
  intro shown
  unfold Rendering.run
  split
  · refine Showing.MarksNothing.guarded ?_ this shown
    exact .bind (.ofRun (.read _)) fun _ => .bind (.ofRun (.lift _)) fun _ =>
      .bind (showAll_marks helement _) fun _ => .pure _
  · exact Showing.MarksNothing.ofRun (alone_marks how) shown

end rendering

/-- The handlers of a host **mark nothing**, like those that are not the host's. -/
def Natives.MarkNothing (natives : Natives) (M : ObjectId → Prop) : Prop :=
  ∀ (name : String) (this : ObjectId) (args : List Value), (natives name this args).MarksNothing M

variable {natives : Natives} (hnatives : natives.MarkNothing M)

namespace Natives
include hnatives

theorem showObject_marks (depth : Nat) (form : TextForm) (this : ObjectId) :
    (natives.showObject depth form this).MarksNothing M := by
  induction depth generalizing form this with
  | zero => exact .ofRun .diverge
  | succ depth ih =>
    refine .bind (.ofRun (.read _)) fun T => ?_
    split
    · exact .ofRun (.raise _)
    · next slot handler hhandler =>
      have hexpected : ∀ v, (Showing.ofRun (Rendering.expectText slot v)).MarksNothing M :=
        fun v => .ofRun (Rendering.expectText_marks slot v)
      cases handler with
      | native name => exact .bind (.ofRun (hnatives name this [])) hexpected
      | rendering how =>
        refine .bind (Rendering.run_marks (fun v => ?_) how) hexpected
        exact .bind (.ofRun (.toObject v)) fun o => ih .representation o

theorem showValue_marks (depth : Nat) (form : TextForm) (v : Value) :
    (natives.showValue depth form v).MarksNothing M := by
  unfold showValue
  split
  · exact .pure _
  · exact .bind (.ofRun (.toObject _)) fun o => showObject_marks hnatives depth _ o

theorem render_marks (form : TextForm) (v : Value) : (natives.render form v).MarksNothing M :=
  .deepening fun depth => (showValue_marks hnatives depth form v).during .empty

theorem renderHandler_marks (how : Rendering) : (natives.renderHandler how this).MarksNothing M :=
  .deepening fun depth =>
    (Rendering.run_marks (fun v => showValue_marks hnatives depth _ v) how).during .empty

end Natives

/-! ## Strings -/

namespace Behaviour

theorem newText_marks (s : String) : (newText s).MarksNothing M := .toValue _

theorem textGetItem_marks : (textGetItem this args).MarksNothing M :=
  .bind (.lift _) fun _ => .bind (.read _) fun _ => .bind (.lift _) fun _ =>
    .bind (.read _) fun _ => .bind (.lift _) fun _ => newText_marks _

theorem textLength_marks : (textLength this args).MarksNothing M :=
  .bind (.lift _) fun _ => .bind (.read _) fun _ => .pure _

theorem repeatText_marks : (repeatText this args).MarksNothing M :=
  .bind (.lift _) fun _ => .bind (.read _) fun _ => .bind (.lift _) fun _ =>
    .bind (.lift _) fun _ => newText_marks _

theorem iterated_marks (v : Value) : (iterated v).MarksNothing M := by
  constructor
  case done =>
    intro w w' a hM hdone
    rw [iterated_eq] at hdone
    cases helements : w.elements? v with
    | none =>
      rw [helements] at hdone
      cases hdone
    | some items =>
      rw [helements] at hdone
      obtain ⟨-, rfl⟩ := Outcome.done.inj hdone
      -- Only the new array is made, and what is new has no mark.
      exact World.keepsMarks_toObject hM _
  case raised =>
    intro w w' f hM hraised
    rw [iterated_eq] at hraised
    cases helements : w.elements? v with
    | none =>
      rw [helements] at hraised
      obtain ⟨-, rfl⟩ := Outcome.raised.inj hraised
      exact .refl _
    | some items =>
      rw [helements] at hraised
      cases hraised

include hnatives

theorem concatenate_marks : (concatenate natives this args).MarksNothing M :=
  .bind (.lift _) fun _ => .bind (.read _) fun _ =>
    .bind (Natives.render_marks hnatives .plain _) fun _ => newText_marks _

theorem stringifyAll_marks (items : List Value) : (stringifyAll natives items).MarksNothing M := by
  induction items with
  | nil => exact .pure _
  | cons v rest ih =>
    exact .bind (Natives.render_marks hnatives .plain v) fun _ => .bind ih fun _ => .pure _

end Behaviour

namespace Format
include hnatives

theorem convert_marks (layout : Layout) (conversion : Char) (v : Value) :
    (convert natives layout conversion v).MarksNothing M := by
  refine .bind (.read _) fun w => ?_
  dsimp only
  split
  · exact .bind (Natives.render_marks hnatives .plain _) fun _ => .pure _
  · exact .bind (Natives.render_marks hnatives .representation _) fun _ => .pure _
  · exact .bind (.lift _) fun _ => .pure _

theorem substitute_marks (pieces : List Piece) (args : List Value) :
    (substitute natives pieces args).MarksNothing M := by
  induction pieces generalizing args with
  | nil =>
    cases args with
    | nil => exact .pure _
    | cons v rest => exact .raise _
  | cons piece pieces ih =>
    cases piece with
    | literal c =>
      rw [substitute]
      exact .bind (ih args) fun _ => .pure _
    | directive layout conversion =>
      cases args with
      | nil => exact .raise _
      | cons v rest =>
        exact .bind (convert_marks hnatives layout conversion v) fun _ => .bind (ih rest) fun _ =>
          .pure _
    | incomplete =>
      rw [substitute]
      exact .raise _

end Format

open Behaviour in
include hnatives in
theorem TextMethod.invoke_marks (method : TextMethod) :
    (method.invoke natives this args).MarksNothing M := by
  have hanswer : ∀ holds : List Char → Bool,
      (do
        Arguments.none method.name args
        let cs ← charsOf this
        return .bool (holds cs) : Run Value).MarksNothing M :=
    fun holds => .bind (.lift _) fun _ => .bind (.read _) fun _ => .pure _
  cases method with
  | isAlpha | isDecimal | isDigit | isNumeric | isLower | isUpper => exact hanswer _
  | join =>
    exact .bind (.lift _) fun _ => .bind (iterated_marks _) fun _ => .bind (.read _) fun _ =>
      .bind (stringifyAll_marks hnatives _) fun _ => newText_marks _
  | format =>
    exact .bind (.read _) fun _ => .bind (.read _) fun _ =>
      .bind (Format.substitute_marks hnatives _ _) fun _ => newText_marks _

/-! ## Arithmetic, equality and attributes -/

theorem Behaviour.arithmetic_marks (op : NumberOp) : (arithmetic op this args).MarksNothing M :=
  .bind (.lift _) fun _ => .bind (.read _) fun _ => .bind (.lift _) fun _ => .toValue _

theorem EqualityRule.decideEqual_marks (rule : EqualityRule) :
    (rule.decideEqual this args).MarksNothing M := by
  refine .bind (.lift _) fun other => .bind (.read _) fun w => ?_
  cases rule with
  | identity => exact .pure _
  | isNull =>
    dsimp only
    split
    · exact .pure _
    · exact .pure _
  | structural => exact .bind (.ofTerminating _) fun _ => .pure _
  | characters => exact .bind (.lift _) fun _ => .pure _

theorem AttributeStore.getHandler_marks (store : AttributeStore) :
    (store.getHandler this args).MarksNothing M :=
  .bind (.lift _) fun _ => .bind (.read _) fun _ => .bind (.lift _) fun _ => .lift _

theorem AttributeStore.set_marks (store : AttributeStore) (name : String) (v : Value) :
    (store.set this name v).MarksNothing M := by
  cases store with
  | properties => exact .setProperty this name v
  | moduleNames =>
    refine .bind (.toValue v) fun u => .bind (.read _) fun w => ?_
    split
    · exact .setProperty this namespaceName _
    · exact .raise _
  | structMembers =>
    exact .bind (.read _) fun _ => .bind (.lift _) fun _ => .bind (.lift _) fun _ =>
      .bind (.toValue v) fun u => .setProperty this name u

theorem AttributeStore.setHandler_marks (store : AttributeStore) :
    (store.setHandler this args).MarksNothing M := by
  refine .bind (.lift _) fun ⟨key, v⟩ => .bind (.read _) fun _ => .bind (.lift _) fun name => ?_
  exact .bind (store.set_marks name v) fun _ => .pure _

/-! ## Construction -/

namespace Behaviour

theorem fillModule_marks (name : String) (entries : Bindings Value) :
    (fillModule this name entries).MarksNothing M := by
  refine .bind (.step fun hM => World.keepsMarks_toEntries hM entries) fun entries => ?_
  refine .modify fun w => ?_
  exact (w.keepsMarks_setProperty this declaredName _).trans (World.keepsMarks_setProperty ..)

theorem constructModule_marks : (constructModule this args).MarksNothing M := by
  refine .bind (.read _) fun w => ?_
  split
  · exact .bind (.lift _) fun _ => fillModule_marks _ _
  · exact .bind (.lift _) fun _ => .bind (.lift _) fun _ => fillModule_marks _ _
  · exact .raise _

theorem constructStruct_marks : (constructStruct this args).MarksNothing M := by
  refine .bind (.read _) fun w => ?_
  split
  · exact .bind (.lift _) fun _ => .setProperty this declaredName _
  · split
    · exact .modify fun w => w.keepsMarks_update this fun _ _ => rfl
    · exact .raise _
  · exact .raise _

/-- **An assignment of members** marks the object that is assigned to. -/
theorem assignMembers_marks (hthis : ¬ M this) (data : Value) :
    (assignMembers this data).MarksNothing M := by
  have hwindow : ∀ flag, (Run.modify fun w => w.setUnderConstruction this flag).MarksNothing M :=
    fun flag => .modify fun w => w.keepsMarks_update this fun _ _ => rfl
  have hmark : (Run.modify fun w => w.markInstance this).MarksNothing M :=
    .modify fun w => w.keepsMarks_update this fun h => absurd h hthis
  refine .bind (.read _) fun w => .bind (.lift _) fun shape => .bind (.lift _) fun entries => ?_
  refine .bind (hwindow true) fun _ => ?_
  refine .bind (.attempt (.bind (.read _) fun _ => .lift _)) fun checked => ?_
  cases checked with
  | error f => exact .bind (hwindow false) fun _ => .raise f
  | ok _ =>
    refine .bind (.step fun hM => World.keepsMarks_toEntries hM entries) fun entries => ?_
    refine .bind (.modify fun w => w.keepsMarks_update this fun _ _ => rfl) fun _ => ?_
    exact .bind (hwindow false) fun _ => hmark

end Behaviour

/-- What is made goes to the next place. -/
theorem Natives.newObject_index {natives : Natives} {T : TypeDescriptor} {args : List Value}
    {o : ObjectId} {w w₁ : World} (h : natives.newObject T args w = .done o w₁) :
    o.index = w.heap.size := by
  rw [newObject, Run.bind_apply, Run.step_apply] at h
  cases hinit : T.slots .init with
  | none =>
    simp only [hinit] at h
    obtain ⟨rfl, -⟩ := Outcome.done.inj h
    rw [World.allocate_fst]
  | some handler =>
    simp only [hinit] at h
    obtain ⟨v, w₂, -, hpure⟩ := Run.bind_eq_done_iff.mp h
    obtain ⟨rfl, -⟩ := Outcome.done.inj hpure
    rw [World.allocate_fst]

section natives
include hnatives

theorem Initializer.run_marks (how : Initializer) : (how.run natives this args).MarksNothing M := by
  have hstore : ∀ v, (Run.modify fun w => w.setPayload this v).MarksNothing M :=
    fun v => .setProperty this payloadName v
  refine .bind (.read _) fun w => ?_
  cases how with
  | ignore => exact .pure _
  | null => exact hstore _
  | bool =>
    dsimp only
    split
    · exact hstore _
    · exact .bind (.ofTerminating _) fun _ => hstore _
  | integer | float | complex | function | wrapper => exact .bind (.lift _) fun _ => hstore _
  | text =>
    refine .bind (.bind (.read _) fun w => ?_) fun _ => hstore _
    split
    · exact .pure _
    · exact .pure _
    · split
      · exact .pure _
      · exact Natives.render_marks hnatives .plain _
    · exact Natives.render_marks hnatives .plain _
  | array =>
    exact .bind (.lift _) fun items =>
      .bind (.step fun hM => World.keepsMarks_toObjects hM items) fun _ => hstore _
  | module => exact Behaviour.constructModule_marks
  | struct => exact Behaviour.constructStruct_marks

namespace Natives

theorem runInitializer_marks (h : Handler .init) :
    (natives.runInitializer h this args).MarksNothing M := by
  cases h with
  | native name => exact hnatives name this args
  | construct how => exact .bind (Initializer.run_marks hnatives how) fun _ => .pure _

theorem newObject_marks (T : TypeDescriptor) (args : List Value) :
    (natives.newObject T args).MarksNothing M := by
  refine .bind (.step fun hM => World.keepsMarks_allocate hM T) fun o => ?_
  split
  · exact .pure _
  · exact .bind (runInitializer_marks hnatives _) fun _ => .pure _

theorem toText_marks (v : Value) : (natives.toText v).MarksNothing M := by
  have hfresh : ∀ v, (do
      let s ← natives.stringify v
      natives.newObject .string [.text s] : Run ObjectId).MarksNothing M :=
    fun v => .bind (render_marks hnatives .plain v) fun _ => newObject_marks hnatives _ _
  unfold toText
  split
  · refine .bind (.read _) fun T => ?_
    split
    · exact .pure _
    · exact hfresh _
  · exact hfresh _

theorem makeStruct_marks (name members guarded : Value) :
    (natives.makeStruct name members guarded).MarksNothing M := by
  refine .bind (.read _) fun w => .bind (.lift _) fun shape => ?_
  refine .bind (.step fun _ => World.keepsMarks_of_heap_eq rfl) fun T => ?_
  exact newObject_marks hnatives T []

/-- **An instantiation** marks the new object, if anything. -/
theorem newStruct_marks (prototype : Value) (data : Option Value) :
    (natives.newStruct prototype data).MarksNothing M := by
  cases prototype with
  | object o =>
    refine .bind (.read _) fun T => ?_
    split
    · exact .raise _
    · refine (newObject_marks hnatives T _).bind_of_done fun {w w₁ clone} hM hclone => ?_
      have hnew : ¬ M clone := fun h => by
        have hlt := hM clone h
        have hindex := newObject_index hclone
        omega
      refine .bind (.read _) fun data => ?_
      split
      · exact .pure _
      · exact .pure _
      · exact .bind (Behaviour.assignMembers_marks hnew _) fun _ => .pure _
  | _ => exact .raise _

theorem newModule_marks (name : String) (entries : Bindings Value) :
    (natives.newModule name entries).MarksNothing M :=
  newObject_marks hnatives _ _

end Natives

end natives

/-! ## Dispatch -/

/-- A host **marks nothing** if neither its handlers nor its functions do. -/
structure Host.MarksNothing (host : Host) (M : ObjectId → Prop) : Prop where
  natives : host.natives.MarkNothing M
  functions : ∀ (name : String) (args : List Value), (host.functions name args).MarksNothing M

variable {host : Host} (hhost : host.MarksNothing M)

namespace Host
include hhost

theorem callFunction_marks (f : Function) (args : List Value) :
    (host.callFunction f args).MarksNothing M := by
  unfold callFunction
  split
  · exact hhost.functions _ _
  · next receiver qualifiedName method hbody =>
    refine .bind (.read _) fun alive => ?_
    split
    · cases method with
      | array method => exact method.invoke_marks
      | text method => exact method.invoke_marks hhost.natives
      | native name => exact hhost.natives name receiver args
    · exact .raise _

theorem callPayload_marks : (host.callPayload this args).MarksNothing M := by
  refine .bind (.read _) fun w => ?_
  split
  · exact callFunction_marks hhost _ _
  · exact .raise _

theorem invoke_marks {s : Slot} (h : Handler s) : (host.invoke h this args).MarksNothing M := by
  cases h with
  | native name => exact hhost.natives name this args
  | construct how => exact Natives.runInitializer_marks hhost.natives (.construct how)
  | str how => exact Natives.renderHandler_marks hhost.natives how
  | repr how => exact Natives.renderHandler_marks hhost.natives how
  | eq rule => exact rule.decideEqual_marks
  | identical => exact .bind (.lift _) fun _ => .pure _
  | getItem container =>
    cases container with
    | text => exact Behaviour.textGetItem_marks
    | array => exact Behaviour.arrayGetItem_marks
  | setItem => exact Behaviour.arraySetItem_marks
  | getAttr store => exact store.getHandler_marks
  | setAttr store => exact store.setHandler_marks
  | len container =>
    cases container with
    | text => exact Behaviour.textLength_marks
    | array => exact Behaviour.arrayLength_marks
  | call => exact callPayload_marks hhost
  | addNumber => exact Behaviour.arithmetic_marks .add
  | subNumber => exact Behaviour.arithmetic_marks .sub
  | mulNumber => exact Behaviour.arithmetic_marks .mul
  | divNumber => exact Behaviour.arithmetic_marks .div
  | concatenate => exact Behaviour.concatenate_marks hhost.natives
  | repeatText => exact Behaviour.repeatText_marks

/-- **No handler** marks an object, unless it is the host's and does so. -/
theorem dispatch_marks (this : ObjectId) (s : Slot) (args : List Value) :
    (host.dispatch this s args).MarksNothing M := by
  refine .bind (.read _) fun T => ?_
  split
  · exact invoke_marks hhost _
  · exact .raise _

theorem getAttr_marks (name : String) : (host.getAttr this name).MarksNothing M := by
  unfold getAttr
  split
  · exact .read _
  · exact dispatch_marks hhost this .getAttr _

theorem setAttr_marks (name : String) (v : Value) : (host.setAttr this name v).MarksNothing M := by
  unfold setAttr
  split
  · exact .setProperty this _ v
  · exact .bind (dispatch_marks hhost this .setAttr _) fun _ => .pure _

theorem call_marks : (host.call this args).MarksNothing M := by
  refine .bind (.read _) fun T => ?_
  split
  · exact .raise _
  · exact dispatch_marks hhost this .call args

theorem callMethod_marks (name : String) (args : List Value) :
    (host.callMethod this name args).MarksNothing M := by
  refine .bind (getAttr_marks hhost name) fun callee => ?_
  split
  · exact call_marks hhost
  · exact callFunction_marks hhost _ _
  · exact .bind (.read _) fun _ => .raise _

theorem equals_marks (x y : Value) : (host.equals x y).MarksNothing M := by
  refine .bind (.read _) fun w => ?_
  split
  · split
    · exact .pure _
    · refine .bind (.attempt (invoke_marks hhost _)) fun answer => ?_
      split
      · exact .pure _
      · exact .bind (.read _) fun _ => .ofTerminating _
  · exact .pure _
  · exact .ofTerminating _

end Host

/-! ## Operations -/

theorem Catalogue.load_marks (hnatives : natives.MarkNothing M) (name : String) :
    (Catalogue.load natives name).MarksNothing M := by
  have hinstance : ∀ name members,
      (Catalogue.structInstance natives name members).MarksNothing M := fun name members =>
    .bind (Natives.makeStruct_marks hnatives _ _ _) fun _ => Natives.newStruct_marks hnatives _ _
  unfold Catalogue.load
  split
  · next build hbuild =>
    have hmem := Bindings.mem_of_get?_eq_some hbuild
    obtain rfl := (Prod.mk.inj (List.mem_singleton.mp hmem)).2
    exact .bind (hinstance _ _) fun _ => .bind (hinstance _ _) fun _ =>
      Natives.newModule_marks hnatives _ _
  · exact .raise _

include hhost in
/-- **An operation** marks an object only by an assignment of its members. -/
theorem Operation.run_marks (op : Operation) (hop : ∀ o data, op = .assignMembers o data → ¬ M o) :
    (op.run host).MarksNothing M := by
  have hdone : ∀ {α : Type} {r : Run α}, r.MarksNothing M →
      (do let _ ← r : Run Unit).MarksNothing M := fun h => .bind h fun _ => .pure _
  cases op with
  | convert v => exact hdone (.toValue v)
  | construct T args => exact hdone (Natives.newObject_marks hhost.natives T args)
  | dispatch o s args => exact hdone (Host.dispatch_marks hhost o s args)
  | getAttr o name => exact hdone (Host.getAttr_marks hhost name)
  | setAttr o name v => exact Host.setAttr_marks hhost name v
  | callMethod o name args => exact hdone (Host.callMethod_marks hhost name args)
  | equals x y => exact hdone (Host.equals_marks hhost x y)
  | stringify v => exact hdone (Natives.render_marks hhost.natives .plain v)
  | represent v => exact hdone (Natives.render_marks hhost.natives .representation v)
  | toText v => exact hdone (Natives.toText_marks hhost.natives v)
  | toArray v => exact hdone (Behaviour.iterated_marks v)
  | setProperty o name v => exact .setProperty o name v
  | eraseProperty o name => exact .modify fun w => w.keepsMarks_update o fun _ _ => rfl
  | makeStruct name members guarded =>
    exact hdone (Natives.makeStruct_marks hhost.natives name members guarded)
  | newStruct prototype data => exact hdone (Natives.newStruct_marks hhost.natives prototype data)
  -- The one case that marks, which is excluded for the objects of `M`.
  | assignMembers o data => exact Behaviour.assignMembers_marks (hop o data rfl) data
  | newModule name entries => exact hdone (Natives.newModule_marks hhost.natives name entries)
  | loadModule name => exact hdone (Catalogue.load_marks hhost.natives name)
  | declareType T => exact .modify fun w => World.keepsMarks_of_heap_eq rfl
  | freshIdent => exact .modify fun w => World.keepsMarks_of_heap_eq rfl

/-! ## The stock host -/

namespace Stock

theorem natives_mark_nothing : Stock.natives.MarkNothing M := by
  intro name this args
  unfold Stock.natives
  split
  · next h _ =>
    cases h with
    | fail | raise => exact .raise _
    | null | zero | one | neg | text | boxfalse | self | args | echo => exact .pure _
    | boxtext => exact Behaviour.newText_marks "boxed"
    | argc => exact .bind (.setProperty this "argc" _) fun _ => .pure _
    | store => exact .bind (.setProperty this payloadName _) fun _ => .pure _
    | marker =>
      refine ⟨fun {w _ _} hM hdone => ?_, fun _ hraised => by cases hraised⟩
      obtain ⟨-, rfl⟩ := Outcome.done.inj hdone
      have hident : w.KeepsMarks M w.freshIdent.2 := World.keepsMarks_of_heap_eq rfl
      exact hident.trans (World.keepsMarks_allocate (hident.contains hM)
        (StockHandler.markerType w.nextIdent))
    | bump => exact .bind (.read _) fun _ => .bind (.setProperty this "n" _) fun _ => .pure _
  · exact .raise _

/-- **The stock host** marks nothing. -/
theorem host_marks_nothing : Stock.host.MarksNothing M where
  natives := natives_mark_nothing
  functions name args := by
    show (Stock.functions name args).MarksNothing M
    unfold Stock.functions
    split
    · next f _ =>
      cases f with
      | double =>
        unfold StockFunction.run
        dsimp only
        split
        · exact .pure _
        · exact .raise _
      | argc | args | first => exact .pure _
      | text => exact .bind (Natives.render_marks natives_mark_nothing .plain _) fun _ => .pure _
      | boom => exact .raise _
    · exact .raise _

end Stock

end DynamicObjects
