import DynamicObjects.Proofs.Types.Declaration

/-! # Which declarations are accepted

    The declaration of a struct is given three values: a name, the members and
    the guarded members.  Each may be a raw value or an object, and so may each
    element of a list.  All of them are read before anything is changed.

    The argument:
    1. A name is read from a text, and names from a list of texts; anything
       else is an error of type.
    2. So the declaration describes a shape exactly if its values are a text and
       two lists of texts.
    3. With a shape, the declaration is one step (`Natives.makeStruct_eq`): it
       records one type and adds one object.

    Main results:
    - `Behaviour.declaredShape_readIf`: which values describe a shape
    - `makeStruct_accepts_iff`: success, failure, and what either leaves behind -/

namespace DynamicObjects

namespace World

/-- A text, raw or as an object. -/
def HoldsText (w : World) (v : Value) : Prop := ∃ text, w.unwrap v = .text text

/-- A list of nothing but texts, each of them raw or an object. -/
def HoldsTexts (w : World) (v : Value) : Prop :=
  ∃ items, w.unwrap v = .list items ∧ ∀ item ∈ items, w.HoldsText item

end World

/-! ## Names -/

namespace Behaviour

/-- Something that can be **read under a condition**: without the condition it is
    an error of type. -/
def ReadIf {α : Type} (P : Prop) (read : Except Fault α) : Prop :=
  match read with
  | .ok _ => P
  | .error f => ¬ P ∧ f.kind = .typeError

section readIf
variable {α β : Type} {P Q : Prop} {read : Except Fault α}

theorem ReadIf.exists_ok_iff (h : ReadIf P read) : (∃ a, read = .ok a) ↔ P := by
  cases read with
  | ok a => exact ⟨fun _ => h, fun _ => ⟨a, rfl⟩⟩
  | error f => simpa using h.1

/-- What is read in two steps has two conditions. -/
theorem ReadIf.bind (h : ReadIf P read) {next : α → Except Fault β}
    (hnext : ∀ a, ReadIf Q (next a)) : ReadIf (P ∧ Q) (read >>= next) := by
  cases read with
  | error f => exact ⟨fun hboth => h.1 hboth.1, h.2⟩
  | ok a =>
    show ReadIf (P ∧ Q) (next a)
    have hlast := hnext a
    cases hread : next a with
    | ok b =>
      rw [hread] at hlast
      exact ⟨h, hlast⟩
    | error f =>
      rw [hread] at hlast
      exact ⟨fun hboth => hlast.1 hboth.2, hlast.2⟩

/-- A last step that cannot fail. -/
theorem ReadIf.map (h : ReadIf P read) (f : α → β) :
    ReadIf P (read >>= fun a => (pure (f a) : Except Fault β)) := by
  cases read with
  | error f => exact h
  | ok a => exact h

end readIf

variable (w : World)

theorem memberName_readIf (v : Value) : ReadIf (w.HoldsText v) (memberName w v) := by
  unfold memberName World.HoldsText
  cases w.unwrap v with
  | text name => exact ⟨name, rfl⟩
  | _ => exact ⟨by simp, rfl⟩

/-- All elements are read, or the first one that is none is an error. -/
theorem mapM_memberName_readIf (items : List Value) :
    ReadIf (∀ item ∈ items, w.HoldsText item) (items.mapM (memberName w)) := by
  induction items with
  | nil => exact List.forall_mem_nil _
  | cons item rest ih =>
    rw [List.mapM_cons, List.forall_mem_cons]
    exact (memberName_readIf w item).bind fun name => ih.map _

theorem memberNames_readIf (v : Value) : ReadIf (w.HoldsTexts v) (memberNames w v) := by
  unfold memberNames World.HoldsTexts
  cases w.unwrap v with
  | list items => simpa using mapM_memberName_readIf w items
  | _ => exact ⟨by simp, rfl⟩

/-! ## Shapes -/

section shapes
variable (name members guarded : Value)

/-- A declaration **describes a shape** if it gives a text and two lists of
    texts. -/
theorem declaredShape_readIf :
    ReadIf (w.HoldsText name ∧ w.HoldsTexts members ∧ w.HoldsTexts guarded)
      (declaredShape w name members guarded) := by
  unfold declaredShape
  cases hname : w.unwrap name with
  | text text =>
    have hboth := (memberNames_readIf w members).bind fun names =>
      (memberNames_readIf w guarded).map (StructShape.mk text names)
    have htext : w.HoldsText name := ⟨text, hname⟩
    simpa only [htext, true_and] using hboth
  | _ => exact ⟨by simp [World.HoldsText, hname], rfl⟩

variable {w name members guarded}

/-- The shape has the name that is given. -/
theorem unwrap_eq_of_declaredShape {shape : StructShape}
    (h : declaredShape w name members guarded = .ok shape) : w.unwrap name = .text shape.name := by
  unfold declaredShape at h
  cases hname : w.unwrap name with
  | text text =>
    rw [hname] at h
    cases hmembers : memberNames w members <;> cases hguarded : memberNames w guarded <;>
      simp [hmembers, hguarded, bind, Except.bind, pure, Except.pure] at h
    rw [← h]
  | _ => simp [hname] at h

end shapes

end Behaviour

/-! ## What an accepted declaration leaves behind -/

namespace World

/-- **One struct more**: a type under a name and a prototype of it, and nothing
    else. -/
structure StructAdded (w : World) (text : String) (prototype : ObjectId) (w' : World) : Prop where
  /-- Other names still stand for what they stood for. -/
  others : ∀ other, other ≠ text → w'.typeNamed? other = w.typeNamed? other
  /-- A builtin type of the name would be found first. -/
  named : TypeDescriptor.builtin? text = none → w'.typeNamed? text = some (w'.typeOf prototype)
  /-- The prototype has neither flag, and one property. -/
  prototype_eq : ∃ T, w'.object? prototype = some ⟨T, [(declaredName, .text text)], false, false⟩
  /-- It has not been there before. -/
  isNew : w.object? prototype = none
  kept : ∀ o x, w.object? o = some x → w'.object? o = some x

theorem structAdded (w : World) (shape : StructShape) :
    w.StructAdded shape.name ⟨w.heap.size⟩ (w.structDeclared shape) where
  others other hother := by
    have hdeclared : (w.structDeclared shape).declared =
        w.declared.set shape.name (w.structType shape) := rfl
    unfold typeNamed?
    rw [hdeclared, Bindings.get?_set_ne hother]
  -- A builtin type of the name would hide the new one.
  named hbuiltin := by
    have hdeclared : (w.structDeclared shape).declared =
        w.declared.set shape.name (w.structType shape) := rfl
    rw [typeNamed?, hbuiltin, hdeclared, typeOf_structDeclared]
    exact Bindings.get?_set_self _ _ _
  prototype_eq := by
    refine ⟨w.structType shape, ?_⟩
    have hadded := object?_add_self (w.freshIdent.2.declareType (w.structType shape))
      (.bare (w.structType shape))
    rw [structDeclared, setProperty, object?_update, if_pos rfl]
    exact congrArg (Option.map _) hadded
  isNew := by simp [object?]
  kept o x hx := by
    rw [extends_structDeclared.object?_eq (index_lt_of_object?_eq_some hx), hx]

end World

/-! ## Success and failure -/

section accepts
variable {natives : Natives} {w : World} {name members guarded : Value}

/-- **Declarations of structs**: a declaration succeeds exactly if it is given a
    text and two lists of texts, and then there is one struct more.  Otherwise
    it is an error of type, and everything is as it was. -/
theorem makeStruct_accepts_iff :
    ((∃ prototype w', natives.makeStruct name members guarded w = .done prototype w') ↔
        w.HoldsText name ∧ w.HoldsTexts members ∧ w.HoldsTexts guarded) ∧
      (∀ prototype w', natives.makeStruct name members guarded w = .done prototype w' →
        ∃ text, w.unwrap name = .text text ∧ w.StructAdded text prototype w') ∧
      (¬ (w.HoldsText name ∧ w.HoldsTexts members ∧ w.HoldsTexts guarded) →
        ∃ f, natives.makeStruct name members guarded w = .raised f w ∧ f.kind = .typeError) := by
  have hread := Behaviour.declaredShape_readIf w name members guarded
  rw [← hread.exists_ok_iff, natives.makeStruct_eq]
  cases hshape : Behaviour.declaredShape w name members guarded with
  | ok shape =>
    refine ⟨by simp, fun prototype w' hdone => ?_, fun hnone => absurd ⟨shape, rfl⟩ hnone⟩
    obtain ⟨rfl, rfl⟩ : (⟨w.heap.size⟩ : ObjectId) = prototype ∧ w.structDeclared shape = w' := by
      simpa using hdone
    exact ⟨shape.name, Behaviour.unwrap_eq_of_declaredShape hshape, w.structAdded shape⟩
  | error f =>
    rw [hshape] at hread
    exact ⟨by simp, by simp, fun _ => ⟨f, rfl, hread.2⟩⟩

end accepts

/-- A declaration with one member, and one with a number among its members. -/
theorem makeStruct_accepts_point :
    (∃ prototype w', Stock.host.natives.makeStruct (.text "Point") (.list [.text "x"]) (.list [])
        .initial = .done prototype w' ∧ World.StructAdded .initial "Point" prototype w') ∧
      ∃ f, Stock.host.natives.makeStruct (.text "Point") (.list [.text "x", .int 5]) (.list [])
        .initial = .raised f .initial ∧ f.kind = .typeError := by
  constructor
  · have hpoint := @makeStruct_accepts_iff Stock.host.natives .initial (.text "Point")
      (.list [.text "x"]) (.list [])
    have hmembers : World.initial.HoldsTexts (.list [.text "x"]) :=
      ⟨[.text "x"], rfl, fun item hitem => ⟨"x", by rw [List.mem_singleton.mp hitem]; rfl⟩⟩
    have hguarded : World.initial.HoldsTexts (.list []) := ⟨[], rfl, List.forall_mem_nil _⟩
    obtain ⟨prototype, w', hdone⟩ := hpoint.1.mpr ⟨⟨"Point", rfl⟩, hmembers, hguarded⟩
    obtain ⟨text, htext, hadded⟩ := hpoint.2.1 prototype w' hdone
    have heq : text = "Point" := by simpa [World.unwrap, eq_comm] using htext
    rw [heq] at hadded
    exact ⟨prototype, w', hdone, hadded⟩
  · have hrefused := @makeStruct_accepts_iff Stock.host.natives .initial (.text "Point")
      (.list [.text "x", .int 5]) (.list [])
    refine hrefused.2.2 ?_
    rintro ⟨-, ⟨items, hitems, htexts⟩, -⟩
    have heq : items = [.text "x", .int 5] := by simpa [World.unwrap, eq_comm] using hitems
    obtain ⟨text, htext⟩ := htexts (.int 5) (by simp [heq])
    simp [World.unwrap] at htext

end DynamicObjects
