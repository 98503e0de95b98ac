import DynamicObjects.Host.Stock
import DynamicObjects.Proofs.Isolation.Dispatch
import DynamicObjects.Proofs.Safety.Reachable

/-! # Answers

    The answer of an operation is what a program gets back from it.  In worlds
    side by side an operation on what they have in common has the same answer,
    or fails with the same fault.

    Main results:
    - `Operation.answer_follows`: an operation has the same answer
    - `Stock.host_oblivious`: the stock host is oblivious of anything -/

namespace DynamicObjects

open Run

/-! ## Operations with their answers -/

/-- What an operation gives back. -/
inductive Answer where
  | nothing
  | value (v : Value)
  | object (o : ObjectId)
  | truth (b : Bool)
  | text (s : String)
  | elements (items : List Value)
  | ident (n : Nat)

/-- An answer is clear of what is set apart if what it refers to is. -/
def Answer.Clear (S : Apart) (w : World) : Answer → Prop
  | value v => w.Clear S v
  | object o => w.Outside S o
  | elements items => w.ClearAll S items
  | nothing | truth _ | text _ | ident _ => True

namespace Operation

/-- Perform an operation and give its answer. -/
def answer (host : Host) : Operation → Run Answer
  | convert v => do
    let u ← Run.step (fun w => w.toValue v)
    return .value u
  | construct T args => do
    let o ← host.natives.newObject T args
    return .object o
  | dispatch o s args => do
    let v ← host.dispatch o s args
    return .value v
  | getAttr o name => do
    let v ← host.getAttr o name
    return .value v
  | setAttr o name v => do
    host.setAttr o name v
    return .nothing
  | callMethod o name args => do
    let v ← host.callMethod o name args
    return .value v
  | equals x y => do
    let b ← host.equals x y
    return .truth b
  | stringify v => do
    let s ← host.stringify v
    return .text s
  | represent v => do
    let s ← host.represent v
    return .text s
  | toText v => do
    let o ← host.natives.toText v
    return .object o
  | toArray v => do
    let items ← Behaviour.iterated v
    return .elements items
  | setProperty o name v => do
    Run.modify (fun w => w.setProperty o name v)
    return .nothing
  | eraseProperty o name => do
    Run.modify (fun w => w.eraseProperty o name)
    return .nothing
  | makeStruct name members guarded => do
    let o ← host.natives.makeStruct name members guarded
    return .object o
  | newStruct prototype data => do
    let o ← host.natives.newStruct prototype data
    return .object o
  | assignMembers o data => do
    Behaviour.assignMembers o data
    return .nothing
  | newModule name entries => do
    let o ← host.natives.newModule name entries
    return .object o
  | loadModule name => do
    let o ← Catalogue.load host.natives name
    return .object o
  | declareType T => do
    Run.modify (fun w => w.declareType T)
    return .nothing
  | freshIdent => do
    let n ← Run.step World.freshIdent
    return .ident n

/-- An operation **ends** in a world **with** an answer or with a fault. -/
def EndsWith (host : Host) (w : World) (op : Operation) : Except Fault Answer → World → Prop
  | .ok a, w' => op.answer host w = .done a w'
  | .error f, w' => op.answer host w = .raised f w'

/-- Whatever the answer is, it does not matter for the world. -/
theorem run_eq_answer (host : Host) (op : Operation) (w : World) :
    op.run host w = (op.answer host >>= fun _ => pure ()) w := by
  -- An answer is either the wrapped result or stands for having none.
  have hdrop : ∀ {α : Type} (r : Run α) (f : α → Answer),
      (r >>= fun _ => (pure () : Run Unit)) w =
        ((r >>= fun a => pure (f a)) >>= fun _ => pure ()) w := by
    intro α r f
    simp only [bind_apply]
    cases r w <;> rfl
  have hunit : ∀ (r : Run Unit) (a : Answer),
      r w = ((r >>= fun _ => pure a) >>= fun _ => pure ()) w := by
    intro r a
    simp only [bind_apply]
    cases r w <;> rfl
  cases op with
  | setAttr | setProperty | eraseProperty | assignMembers | declareType => exact hunit _ _
  | freshIdent => rfl
  | _ => exact hdrop _ _

theorem endsIn_iff {host : Host} {w w' : World} {op : Operation} :
    op.EndsIn host w w' ↔ ∃ result, op.EndsWith host w result w' := by
  have hrun := op.run_eq_answer host w
  constructor
  · rintro (hdone | ⟨f, hraised⟩)
    · obtain ⟨a, w₁, ha, hw₁⟩ := bind_eq_done_iff.mp (hrun.symm.trans hdone)
      obtain ⟨-, rfl⟩ := Outcome.done.inj hw₁
      exact ⟨.ok a, ha⟩
    · rcases bind_eq_raised_iff.mp (hrun.symm.trans hraised) with ha | ⟨a, w₁, -, hw₁⟩
      · exact ⟨.error f, ha⟩
      · cases hw₁
  · rintro ⟨f | a, hends⟩
    · exact .inr ⟨f, hrun.trans (bind_eq_raised_iff.mpr (.inl hends))⟩
    · exact .inl (hrun.trans (bind_eq_done_iff.mpr ⟨a, w', hends, rfl⟩))

/-- The objects that an operation is about. -/
def objects : Operation → List ObjectId
  | dispatch o _ _ | getAttr o _ | setAttr o _ _ | callMethod o _ _ => [o]
  | setProperty o _ _ | eraseProperty o _ | assignMembers o _ => [o]
  | _ => []

/-- The types that an operation makes objects of. -/
def types : Operation → List TypeDescriptor
  | construct T _ => [T]
  | _ => []

/-- An operation is **clear** of what is set apart if all that it is given is. -/
structure Clear (S : Apart) (w : World) (op : Operation) : Prop where
  values : w.ClearAll S op.values
  objects : ∀ o ∈ op.objects, w.Outside S o
  types : ∀ T ∈ op.types, w.ClearType S T

theorem clear_of_nothing_given {S : Apart} {w : World} {op : Operation} (hvalues : op.values = [])
    (hobjects : op.objects = []) (htypes : op.types = []) : op.Clear S w := by
  constructor <;> simp [World.ClearAll, hvalues, hobjects, htypes]

section follows
variable {S : Apart} {w w' : World} {host : Host} {op : Operation}

/-- Both runs wrap the same result. -/
theorem answered_follows {α : Type} {r : Run α} {P : World → α → Prop} {toAnswer : α → Answer}
    (h : r.Oblivious S w w' P) (hclear : ∀ w₁ a, P w₁ a → (toAnswer a).Clear S w₁) :
    (do let a ← r; return toAnswer a : Run Answer).Oblivious S w w' (Answer.Clear S) :=
  h.bind fun a w₁ _ honward ha => follows_pure honward.beside (hclear w₁ a ha)

/-- **An operation** on what two worlds side by side have in common has the same
    answer, or fails with the same fault. -/
theorem answer_follows (hhost : host.Oblivious S) (hw : w.Beside S w') (hop : op.Clear S w) :
    (op.answer host).Oblivious S w w' (Answer.Clear S) := by
  obtain ⟨hvalues, hobjects, htypes⟩ := hop
  -- Each operation hands on what it has been given, all of which is clear of what is set
  -- apart.
  cases op with
  | convert v =>
    exact answered_follows (Behaviour.converted_follows hw (hvalues v List.mem_cons_self))
      fun _ _ hu => hu
  | construct T args =>
    exact answered_follows (Natives.newObject_follows hhost.natives hw
      (htypes T List.mem_cons_self) hvalues) fun _ _ ho => ho
  | dispatch o s args =>
    exact answered_follows (Host.dispatch_follows hhost s hw (hobjects o List.mem_cons_self)
      hvalues) fun _ _ hv => hv
  | getAttr o name =>
    exact answered_follows (Host.getAttr_follows hhost hw (hobjects o List.mem_cons_self) name)
      fun _ _ hv => hv
  | setAttr o name v =>
    exact answered_follows (Host.setAttr_follows hhost hw (hobjects o List.mem_cons_self) name
      (hvalues v List.mem_cons_self)) fun _ _ _ => trivial
  | callMethod o name args =>
    exact answered_follows (Host.callMethod_follows hhost hw (hobjects o List.mem_cons_self)
      hvalues name) fun _ _ hv => hv
  | equals x y =>
    exact answered_follows (Host.equals_follows hhost hw (hvalues x List.mem_cons_self)
      (hvalues y (List.mem_cons_of_mem _ List.mem_cons_self))) fun _ _ _ => trivial
  | stringify v =>
    exact answered_follows (Natives.render_follows hhost.natives hw .plain
      (hvalues v List.mem_cons_self)) fun _ _ _ => trivial
  | represent v =>
    exact answered_follows (Natives.render_follows hhost.natives hw .representation
      (hvalues v List.mem_cons_self)) fun _ _ _ => trivial
  | toText v =>
    exact answered_follows (Natives.toText_follows hhost.natives hw
      (hvalues v List.mem_cons_self)) fun _ _ ho => ho
  | toArray v =>
    exact answered_follows (Behaviour.iterated_follows hw (hvalues v List.mem_cons_self))
      fun _ _ hitems => hitems
  | setProperty o name v =>
    exact answered_follows (follows_modify (hw.setProperty (hobjects o List.mem_cons_self) name
      (hvalues v List.mem_cons_self))) fun _ _ _ => trivial
  | eraseProperty o name =>
    exact answered_follows (follows_modify (hw.eraseProperty (hobjects o List.mem_cons_self)
      name)) fun _ _ _ => trivial
  | makeStruct name members guarded =>
    exact answered_follows (Natives.makeStruct_follows hhost.natives hw
      (hvalues name List.mem_cons_self) (hvalues members (by simp [values]))
      (hvalues guarded (by simp [values]))) fun _ _ ho => ho
  | newStruct prototype data =>
    have hdata : ∀ v, data = some v → w.Clear S v := by
      rintro v rfl
      exact hvalues v (List.mem_cons_of_mem _ (List.mem_singleton_self v))
    exact answered_follows (Natives.newStruct_follows hhost.natives hw
      (hvalues prototype List.mem_cons_self) hdata) fun _ _ ho => ho
  | assignMembers o data =>
    exact answered_follows (Behaviour.assignMembers_follows hw (hobjects o List.mem_cons_self)
      (hvalues data List.mem_cons_self)) fun _ _ _ => trivial
  | newModule name entries =>
    exact answered_follows (Natives.newModule_follows hhost.natives hw name
      (hvalues _ List.mem_cons_self)) fun _ _ ho => ho
  | loadModule name =>
    exact answered_follows (Catalogue.load_follows hhost.natives hw name) fun _ _ ho => ho
  | declareType T =>
    exact answered_follows (follows_modify (hw.declareType T)) fun _ _ _ => trivial
  | freshIdent =>
    have hident : (Run.step World.freshIdent).Oblivious S w w' fun _ _ => True :=
      follows_step hw.nextIdent_eq hw.freshIdent trivial
    exact answered_follows hident fun _ _ _ => trivial

/-- **Same end**: if an operation comes to an end in the first of two worlds side
    by side, it ends in the same way in the second. -/
theorem exists_endsWith (hhost : host.Oblivious S) (hw : w.Beside S w') (hop : op.Clear S w)
    {result : Except Fault Answer} {w₁ : World} (hends : op.EndsWith host w result w₁) :
    ∃ w₁', op.EndsWith host w' result w₁' ∧ w.Onward S w₁ w₁' ∧
      ∀ a, result = .ok a → a.Clear S w₁ := by
  have hfollows := answer_follows hhost hw hop
  cases result with
  | ok a =>
    obtain ⟨w₁', hdone, honward, ha⟩ := hfollows.done hends
    refine ⟨w₁', hdone, honward, fun b hb => ?_⟩
    obtain rfl := Except.ok.inj hb
    exact ha
  | error f =>
    obtain ⟨w₁', hraised, honward⟩ := hfollows.raised hends
    refine ⟨w₁', hraised, honward, fun b hb => ?_⟩
    cases hb

/-- An operation ends in one way only. -/
theorem EndsWith.unique {r₁ r₂ : Except Fault Answer} {w₁ w₂ : World}
    (h₁ : op.EndsWith host w r₁ w₁) (h₂ : op.EndsWith host w r₂ w₂) : r₁ = r₂ ∧ w₁ = w₂ := by
  cases r₁ with
  | ok a =>
    cases r₂ with
    | ok b =>
      obtain ⟨rfl, rfl⟩ := Outcome.done.inj (Eq.trans (Eq.symm h₁) h₂)
      exact ⟨rfl, rfl⟩
    | error g => cases Eq.trans (Eq.symm h₁) h₂
  | error f =>
    cases r₂ with
    | ok b => cases Eq.trans (Eq.symm h₁) h₂
    | error g =>
      obtain ⟨rfl, rfl⟩ := Outcome.raised.inj (Eq.trans (Eq.symm h₁) h₂)
      exact ⟨rfl, rfl⟩

end follows

end Operation

/-! ## The stock host -/

namespace Stock

variable {S : Apart}

theorem natives_oblivious : natives.Oblivious S := by
  intro name this args w w' hw hthis hargs
  have hhead : w.Clear S (args.headD .null) := by
    cases args with
    | nil => exact Value.within_null
    | cons v rest => exact hargs v List.mem_cons_self
  unfold natives
  split
  · next h _ =>
    cases h with
    | fail | raise => exact follows_raise hw _
    | null => exact follows_pure hw Value.within_null
    | zero | one | neg => exact follows_pure hw (Value.within_int _)
    | text => exact follows_pure hw (Value.within_text _)
    | boxtext => exact Behaviour.newText_follows hw _
    | boxfalse => exact follows_pure hw (Value.within_object.mpr (hw.boolObject false))
    | self => exact follows_pure hw (Value.within_object.mpr hthis)
    | argc =>
      apply (follows_modify (hw.setProperty hthis "argc" (Value.within_int _))).bind
      intro _ w₁ w₁' honward _
      exact follows_pure honward.beside (Value.within_int _)
    | store =>
      apply (follows_modify (hw.setProperty hthis payloadName hhead)).bind
      intro _ w₁ w₁' honward _
      exact follows_pure honward.beside Value.within_null
    | args => exact follows_pure hw (Value.within_list.mpr hargs)
    | echo => exact follows_pure hw hhead
    | marker =>
      -- The type of the marker has a new identity, and no new one is set apart.
      have hident := hw.freshIdent
      have hT : w.freshIdent.2.ClearType S (StockHandler.markerType w.nextIdent) := by
        refine ⟨fun o ho => absurd ho List.not_mem_nil, fun n hn => ?_⟩
        obtain rfl := TypeId.declared.inj hn
        exact ⟨Nat.lt_succ_self _, fun hS => Nat.lt_irrefl _ (hw.ident_lt hS)⟩
      have hallocate := hident.beside.allocate hT
      have hnew := Value.within_object.mpr
        (hident.beside.outside_allocate (StockHandler.markerType w.nextIdent))
      have hsame : StockHandler.marker.run this args w' =
          .done (.object (w.freshIdent.2.allocate (StockHandler.markerType w.nextIdent)).1)
            (w'.freshIdent.2.allocate (StockHandler.markerType w.nextIdent)).2 := by
        rw [← hallocate.1, ← hw.nextIdent_eq]
        rfl
      exact follows_of_eq_done rfl hsame (hident.trans hallocate.2) hnew
    | bump =>
      apply follows_read_bind
      rw [StockHandler.bumped, StockHandler.bumped, hw.property?_eq hthis]
      apply (follows_modify (hw.setProperty hthis "n" (Value.within_int _))).bind
      intro _ w₁ w₁' honward _
      exact follows_pure honward.beside (Value.within_int _)
  · exact follows_raise hw _

/-- **The stock host** looks at nothing but its receiver and its arguments. -/
theorem host_oblivious : host.Oblivious S where
  natives := natives_oblivious
  functions name args w w' hw hargs := by
    have hhead : w.Clear S (args.headD .null) := by
      cases args with
      | nil => exact Value.within_null
      | cons v rest => exact hargs v List.mem_cons_self
    -- A name that is none of its functions raises the same fault on both sides.
    change (functions name args).Oblivious S w w' (World.Clear S)
    unfold functions
    split
    · next f _ =>
      cases f with
      | double =>
        unfold StockFunction.run
        dsimp only
        split
        · exact follows_pure hw (Value.within_int _)
        · exact follows_raise hw _
      | argc => exact follows_pure hw (Value.within_int _)
      | args => exact follows_pure hw (Value.within_list.mpr hargs)
      | first => exact follows_pure hw hhead
      | text =>
        apply (Natives.render_follows natives_oblivious hw .plain hhead).bind
        intro s w₁ w₁' honward _
        exact follows_pure honward.beside (Value.within_text s)
      | boom => exact follows_raise hw _
    · exact follows_raise hw _

end Stock

end DynamicObjects
