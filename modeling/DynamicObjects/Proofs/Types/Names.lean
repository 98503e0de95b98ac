import DynamicObjects.Host.Stock
import DynamicObjects.Proofs.Types.Declaration

/-! # Types by name

    Of all the types that a run of declarations records under a name, the last
    one prevails in the table of names.  The search by name asks the builtin
    types first, though, so that a type of a builtin name is recorded and never
    found.

    Main results:
    - `DeclarationRun.declared_eq`: the table after a run
    - `typeNamed?_after_declarations`: what is found by a name, and exactly when
      it is the type recorded last -/

namespace DynamicObjects

/-- Types by their own names, in the order in which they are recorded. -/
def byName (types : List TypeDescriptor) : Bindings TypeDescriptor :=
  types.map fun T => (T.name, T)

@[simp] theorem byName_append (types others : List TypeDescriptor) :
    byName (types ++ others) = byName types ++ byName others := List.map_append

theorem Bindings.setAll_append {α : Type} (bindings entries others : Bindings α) :
    bindings.setAll (entries ++ others) = (bindings.setAll entries).setAll others :=
  List.foldl_append

/-- A **run of declarations**, each of which may fail: the types that it records
    and where it leads to. -/
inductive DeclarationRun (host : Host) (w : World) : List TypeDescriptor → World → Prop where
  | start : DeclarationRun host w [] w
  | step {types : List TypeDescriptor} {w₁ w₂ : World} (h : DeclarationRun host w types w₁)
      (op : Operation) (hdeclares : op.IsDeclaration) (hends : op.EndsIn host w₁ w₂) :
      DeclarationRun host w (types ++ op.recorded host.natives w₁) w₂

section runs
variable {host : Host} {w w' : World} {types : List TypeDescriptor}

/-- The table of names is overridden by what a run records. -/
theorem DeclarationRun.declared_eq (hrun : DeclarationRun host w types w') :
    w'.declared = w.declared.setAll (byName types) := by
  induction hrun with
  | start => rfl
  | @step types w₁ w₂ _ op hdeclares hends ih =>
    rw [(Operation.declares hdeclares hends).2, ih, byName_append, Bindings.setAll_append]
    rfl

/-- **Declared types by name**: a builtin type is found first, then the type that
    has been recorded last.  So the last type recorded under a name is found
    exactly when no builtin type but itself has this name. -/
theorem typeNamed?_after_declarations (hrun : DeclarationRun host w types w') (name : String) :
    w'.typeNamed? name = (TypeDescriptor.builtin? name).or
        ((Bindings.last? name (byName types)).or (w.declared.get? name)) ∧
      ∀ T, Bindings.last? name (byName types) = some T →
        (w'.typeNamed? name = some T ↔ ∀ B, TypeDescriptor.builtin? name = some B → B = T) := by
  have hfound : w'.typeNamed? name = (TypeDescriptor.builtin? name).or
      ((Bindings.last? name (byName types)).or (w.declared.get? name)) := by
    rw [← Bindings.get?_setAll, ← hrun.declared_eq, World.typeNamed?]
    cases TypeDescriptor.builtin? name <;> rfl
  refine ⟨hfound, fun T hlast => ?_⟩
  rw [hfound, hlast, Option.some_or]
  cases TypeDescriptor.builtin? name with
  | none => simp
  | some B => simp

end runs

/-! ## Two declarations of a name -/

/-- The declaration of a struct with one member. -/
def structOf (name member : String) : Operation :=
  .makeStruct (.text name) (.list [.text member]) (.list [])

/-- Such a declaration succeeds. -/
theorem DeclarationRun.structOf {host : Host} {w w' : World} {types : List TypeDescriptor}
    (hrun : DeclarationRun host w types w') (name member : String) :
    DeclarationRun host w (types ++ [w'.structType ⟨name, [member], []⟩])
      (w'.structDeclared ⟨name, [member], []⟩) := by
  have hshape : Behaviour.declaredShape w' (.text name) (.list [.text member]) (.list []) =
      .ok ⟨name, [member], []⟩ := rfl
  refine hrun.step (DynamicObjects.structOf name member) trivial (.inl ?_)
  simp only [DynamicObjects.structOf, Operation.run, Run.bind_apply, Natives.makeStruct_eq, hshape,
    Run.pure_apply]

/-- A struct is declared twice, with another member the second time. -/
theorem typeNamed?_redeclared :
    ∃ first second w, DeclarationRun Stock.host .initial [first, second] w ∧
      first.name = second.name ∧ first.shape ≠ second.shape ∧
      w.typeNamed? "Point" = some second := by
  have hrun : DeclarationRun Stock.host .initial _ _ :=
    (DeclarationRun.start.structOf "Point" "x").structOf "Point" "y"
  refine ⟨_, _, _, hrun, rfl, ?_, ?_⟩
  · decide
  · refine ((typeNamed?_after_declarations hrun "Point").2 _ rfl).mpr fun B hB => ?_
    cases hB

/-- A struct of the name of a builtin type is recorded, but it is not found. -/
theorem typeNamed?_shadowed :
    ∃ T w, DeclarationRun Stock.host .initial [T] w ∧ T.name = "integer" ∧
      Bindings.last? "integer" (byName [T]) = some T ∧ w.typeNamed? "integer" ≠ some T := by
  have hrun : DeclarationRun Stock.host .initial _ _ := DeclarationRun.start.structOf "integer" "x"
  refine ⟨_, _, hrun, rfl, rfl, ?_⟩
  intro hfound
  have hident := congrArg (Option.map TypeDescriptor.ident) hfound
  exact absurd hident (by decide)

end DynamicObjects
