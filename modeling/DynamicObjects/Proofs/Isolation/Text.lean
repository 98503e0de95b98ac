import DynamicObjects.Proofs.Isolation.Rendering
import DynamicObjects.Proofs.Safety.Text

/-! # Strings side by side

    Strings answer with new strings, and ask the host only for texts of other
    objects. -/

namespace DynamicObjects

open Run

variable {S : Apart} {w w' : World} {this : ObjectId} {args : List Value}

/-! ## Slots -/

namespace Behaviour

theorem newText_follows (hw : w.Beside S w') (s : String) :
    (newText s).Oblivious S w w' (World.Clear S) :=
  converted_follows hw (Value.within_text s)

theorem textGetItem_follows (hw : w.Beside S w') (hthis : w.Outside S this)
    (hargs : w.ClearAll S args) : (textGetItem this args).Oblivious S w w' (World.Clear S) := by
  unfold textGetItem charsOf
  apply follows_lift_bind hw rfl
  intro key h
  apply follows_world_bind
  apply follows_lift_bind hw (hw.subscript_eq _ (hargs key (Arguments.mem_of_one h)))
  intro index _
  apply follows_read_bind
  rw [hw.textOf_eq hthis]
  apply follows_lift_bind hw rfl
  intro place _
  exact newText_follows hw _

theorem textLength_follows (hw : w.Beside S w') (hthis : w.Outside S this) :
    (textLength this args).Oblivious S w w' (World.Clear S) := by
  unfold textLength charsOf
  apply follows_lift_bind hw rfl
  intro _ _
  apply follows_read_bind
  rw [hw.textOf_eq hthis]
  exact follows_pure hw (Value.within_int _)

theorem repetitions_eq (h : w.Beside S w') {v : Value} (hv : w.Clear S v) :
    repetitions w' v = repetitions w v := by
  cases v with
  | object o =>
    have ho := Value.within_object.mp hv
    rw [repetitions, repetitions, h.isInstanceOf_eq ho, h.payload?_eq ho, h.kindName_eq hv]
  | _ => rfl

theorem repeatText_follows (hw : w.Beside S w') (hthis : w.Outside S this)
    (hargs : w.ClearAll S args) : (repeatText this args).Oblivious S w w' (World.Clear S) := by
  unfold repeatText
  apply follows_lift_bind hw rfl
  intro v h
  apply follows_world_bind
  apply follows_lift_bind hw (repetitions_eq hw (hargs v (Arguments.mem_of_one h)))
  intro count _
  rw [hw.textOf_eq hthis]
  apply follows_lift_bind hw rfl
  intro text _
  exact newText_follows hw _

theorem sameCharacters_eq (h : w.Beside S w') (hthis : w.Outside S this) {v : Value}
    (hv : w.Clear S v) : sameCharacters w' this v = sameCharacters w this v := by
  cases v with
  | object o =>
    have ho := Value.within_object.mp hv
    rw [sameCharacters, sameCharacters, h.isInstanceOf_eq ho, h.textOf_eq hthis, h.textOf_eq ho,
      h.kindName_eq hv]
  | _ => rfl

theorem elements?_eq (h : w.Beside S w') {v : Value} (hv : w.Clear S v) :
    w'.elements? v = w.elements? v := by
  rw [World.elements?, World.elements?, h.unwrap_eq hv]

/-- What is iterated is either the elements of the value or texts. -/
theorem clearAll_elements (h : w.Beside S w') {v : Value} (hv : w.Clear S v)
    {items : List Value} (hitems : w.elements? v = some items) : w.ClearAll S items := by
  have hvalue := h.clear_unwrap hv
  unfold World.elements? at hitems
  split at hitems
  · next items' hdata =>
    obtain rfl := Option.some.inj hitems
    rw [hdata] at hvalue
    exact Value.within_list.mp hvalue
  · obtain rfl := Option.some.inj hitems
    intro u hu
    obtain ⟨c, -, rfl⟩ := List.mem_map.mp hu
    exact Value.within_text _
  · obtain rfl := Option.some.inj hitems
    intro u hu
    obtain ⟨name, -, rfl⟩ := List.mem_map.mp hu
    exact Value.within_text _
  · cases hitems

theorem iterated_follows (hw : w.Beside S w') {v : Value} (hv : w.Clear S v) :
    (iterated v).Oblivious S w w' (World.ClearAll S) := by
  cases helements : w.elements? v with
  | none =>
    refine follows_of_eq_raised (f := .joinedNotIterable (w.kindName v)) ?_ ?_ hw.refl
    · rw [iterated, World.toArray?, helements, Option.map_none]
    · rw [iterated, World.toArray?, elements?_eq hw hv, helements, Option.map_none,
        hw.kindName_eq hv]
  | some items =>
    have hobject := hw.toObject (Value.within_list.mpr (clearAll_elements hw hv helements))
    have hitems := hobject.onward.beside.items_eq hobject.outside
    -- The elements become a new array, of which they are read again.
    refine follows_of_eq_done
      (a := (((w.toObject (.list items)).2.items (w.toObject (.list items)).1).toOption).getD [])
      ?_ ?_ hobject.onward ?_
    · rw [iterated, World.toArray?, helements, Option.map_some]
    · rw [iterated, World.toArray?, elements?_eq hw hv, helements, Option.map_some,
        ← hitems, ← hobject.fst_eq]
    · cases hfound : (w.toObject (.list items)).2.items (w.toObject (.list items)).1 with
      | error f => exact fun u hu => absurd hu List.not_mem_nil
      | ok items' => exact hobject.onward.beside.clearAll_items hfound

section natives
variable {natives : Natives} (hnatives : natives.Oblivious S)
include hnatives

theorem concatenate_follows (hw : w.Beside S w') (hthis : w.Outside S this)
    (hargs : w.ClearAll S args) :
    (concatenate natives this args).Oblivious S w w' (World.Clear S) := by
  unfold concatenate
  apply follows_lift_bind hw rfl
  intro other h
  apply follows_read_bind
  rw [hw.textOf_eq hthis]
  apply (Natives.render_follows hnatives hw .plain (hargs other (Arguments.mem_of_one h))).bind
  intro more w₁ w₁' honward _
  exact newText_follows honward.beside _

theorem stringifyAll_follows (hw : w.Beside S w') {items : List Value}
    (hitems : w.ClearAll S items) :
    (stringifyAll natives items).Oblivious S w w' fun _ _ => True := by
  induction items generalizing w w' with
  | nil => exact follows_pure hw trivial
  | cons v rest ih =>
    unfold stringifyAll
    obtain ⟨hv, hrest⟩ := List.forall_mem_cons.mp hitems
    apply (Natives.render_follows hnatives hw .plain hv).bind
    intro text w₁ w₁' honward _
    apply (ih honward.beside (honward.clearAll hrest)).bind
    intro texts w₂ w₂' honward₂ _
    exact follows_pure honward₂.beside trivial

end natives

end Behaviour

/-! ## Formatting -/

namespace Format

theorem characterArgument_eq (h : w.Beside S w') {v : Value} (hv : w.Clear S v) :
    characterArgument w' v = characterArgument w v := by
  cases v with
  | object o =>
    change Except.error (Fault.characterRequired _) = Except.error (Fault.characterRequired _)
    rw [h.kindName_eq hv]
  | _ => rfl

theorem scalarBody_eq (h : w.Beside S w') (layout : Layout) (conversion : Char) {v : Value}
    (hv : w.Clear S v) : scalarBody w' layout conversion v = scalarBody w layout conversion v := by
  unfold scalarBody
  rw [h.kindName_eq hv, characterArgument_eq h hv]

section natives
variable {natives : Natives} (hnatives : natives.Oblivious S)
include hnatives

theorem convert_follows (hw : w.Beside S w') (layout : Layout) (conversion : Char) {v : Value}
    (hv : w.Clear S v) :
    (convert natives layout conversion v).Oblivious S w w' fun _ _ => True := by
  have hvalue := hw.clear_unwrap hv
  unfold convert
  apply follows_world_bind
  rw [hw.unwrap_eq hv]
  dsimp only
  split
  · apply (Natives.render_follows hnatives hw .plain hvalue).bind
    intro text w₁ w₁' honward _
    exact follows_pure honward.beside trivial
  · apply (Natives.render_follows hnatives hw .representation hvalue).bind
    intro text w₁ w₁' honward _
    exact follows_pure honward.beside trivial
  · apply follows_lift_bind hw (scalarBody_eq hw layout _ hvalue)
    rintro ⟨body, isNumber⟩ _
    exact follows_pure hw trivial

theorem substitute_follows (hw : w.Beside S w') (pieces : List Piece)
    (hargs : w.ClearAll S args) :
    (substitute natives pieces args).Oblivious S w w' fun _ _ => True := by
  induction pieces generalizing w w' args with
  | nil =>
    cases args with
    | nil => exact follows_pure hw trivial
    | cons v rest => exact follows_raise hw _
  | cons piece pieces ih =>
    cases piece with
    | literal c =>
      unfold substitute
      apply (ih hw hargs).bind
      intro text w₁ w₁' honward _
      exact follows_pure honward.beside trivial
    -- Only a directive takes an argument, and only it can change the worlds.
    | directive layout conversion =>
      cases args with
      | nil => exact follows_raise hw _
      | cons v rest =>
        unfold substitute
        obtain ⟨hv, hrest⟩ := List.forall_mem_cons.mp hargs
        apply (convert_follows hnatives hw layout conversion hv).bind
        intro body w₁ w₁' honward _
        apply (ih honward.beside (honward.clearAll hrest)).bind
        intro text w₂ w₂' honward₂ _
        exact follows_pure honward₂.beside trivial
    | incomplete =>
      unfold substitute
      exact follows_raise hw _

end natives

end Format

/-! ## Methods -/

open Behaviour in
theorem TextMethod.invoke_follows {natives : Natives} (hnatives : natives.Oblivious S)
    (method : TextMethod) (hw : w.Beside S w') (hthis : w.Outside S this)
    (hargs : w.ClearAll S args) :
    (method.invoke natives this args).Oblivious S w w' (World.Clear S) := by
  have hanswer : ∀ holds : List Char → Bool,
      (do
        Arguments.none method.name args
        let cs ← charsOf this
        return .bool (holds cs) : Run Value).Oblivious S w w' (World.Clear S) := by
    intro holds
    apply follows_lift_bind hw rfl
    intro _ _
    apply follows_read_bind
    rw [hw.textOf_eq hthis]
    exact follows_pure hw (Value.within_bool _)
  -- The tests of a text are answered by its characters, which are the same.
  unfold TextMethod.invoke
  cases method with
  | isAlpha | isDecimal | isDigit | isNumeric | isLower | isUpper => exact hanswer _
  | join =>
    apply follows_lift_bind hw rfl
    intro v h
    apply (iterated_follows hw (hargs v (Arguments.mem_of_one h))).bind
    intro items w₁ w₁' honward hitems
    apply follows_read_bind
    rw [honward.beside.textOf_eq (honward.outside hthis)]
    apply (stringifyAll_follows hnatives honward.beside hitems).bind
    intro texts w₂ w₂' honward₂ _
    exact newText_follows honward₂.beside _
  | format =>
    have hvalues : args.map w'.unwrap = args.map w.unwrap :=
      List.map_congr_left fun v hv => hw.unwrap_eq (hargs v hv)
    have hclear : w.ClearAll S (args.map w.unwrap) := by
      intro u hu
      obtain ⟨v, hv, rfl⟩ := List.mem_map.mp hu
      exact hw.clear_unwrap (hargs v hv)
    apply follows_read_bind
    apply follows_read_bind
    rw [hvalues, hw.textOf_eq hthis]
    apply (Format.substitute_follows hnatives hw _ hclear).bind
    intro text w₁ w₁' honward _
    exact newText_follows honward.beside _

end DynamicObjects
