import DynamicObjects.Behaviour.Text
import DynamicObjects.Proofs.Safety.Rendering

/-! # Strings keep worlds well-formed

    Whatever strings are asked for, they answer with new objects; only texts of
    other objects may take the host. -/

namespace DynamicObjects

open Run

variable {L : World.Locations} {w : World} {this : ObjectId} {args : List Value}

/-! ## Slots -/

namespace Behaviour

theorem newText_keeps (hw : w.Fits L) (s : String) : (newText s).Keeps L w World.Supports :=
  converted_keeps hw (World.supports_text s)

theorem textGetItem_keeps (hw : w.Fits L) : (textGetItem this args).Keeps L w World.Supports := by
  unfold textGetItem charsOf
  apply keeps_lift_bind hw
  intro key _
  apply keeps_world_bind
  apply keeps_lift_bind hw
  intro index _
  apply keeps_read_bind
  apply keeps_lift_bind hw
  intro place _
  exact newText_keeps hw _

theorem textLength_keeps (hw : w.Fits L) : (textLength this args).Keeps L w World.Supports := by
  unfold textLength charsOf
  apply keeps_lift_bind hw
  intro _ _
  apply keeps_read_bind
  exact keeps_pure hw (World.supports_int _)

theorem repeatText_keeps (hw : w.Fits L) : (repeatText this args).Keeps L w World.Supports := by
  unfold repeatText
  apply keeps_lift_bind hw
  intro v _
  apply keeps_world_bind
  apply keeps_lift_bind hw
  intro count _
  apply keeps_lift_bind hw
  intro text _
  exact newText_keeps hw _

/-- What is iterated is either the elements of the value or texts. -/
theorem supportsAll_elements (hw : w.WellFormed) {v : Value} (hv : w.Supports v)
    {items : List Value} (h : w.elements? v = some items) : w.SupportsAll items := by
  have hvalue := hw.unwrap hv
  unfold World.elements? at h
  split at h
  · next items' hdata =>
    obtain rfl := Option.some.inj h
    rw [hdata] at hvalue
    exact World.supports_list.mp hvalue
  · obtain rfl := Option.some.inj h
    intro u hu
    obtain ⟨c, -, rfl⟩ := List.mem_map.mp hu
    exact World.supports_text _
  · obtain rfl := Option.some.inj h
    intro u hu
    obtain ⟨name, -, rfl⟩ := List.mem_map.mp hu
    exact World.supports_text _
  · cases h

theorem iterated_eq (w : World) (v : Value) :
    iterated v w =
      match w.elements? v with
      | some items =>
        .done ((((w.toObject (.list items)).2.items (w.toObject (.list items)).1).toOption).getD [])
          (w.toObject (.list items)).2
      | none => .raised (.joinedNotIterable (w.kindName v)) w := by
  unfold iterated World.toArray?
  cases w.elements? v <;> rfl

theorem iterated_keeps (hw : w.Fits L) {v : Value} (hv : w.Supports v) :
    (iterated v).Keeps L w World.SupportsAll := by
  have hiterated := iterated_eq w v
  cases helements : w.elements? v with
  | none =>
    rw [helements] at hiterated
    exact keeps_of_eq_raised hw hiterated
  | some items =>
    rw [helements] at hiterated
    have hsafe := hw.toObject
      (World.supports_list.mpr (supportsAll_elements hw.wellFormed hv helements))
    refine keeps_of_eq_done hiterated hsafe ?_
    cases hitems : (w.toObject (.list items)).2.items (w.toObject (.list items)).1 with
    | error f => exact World.supportsAll_nil
    | ok items' => exact supportsAll_items hsafe.fits.wellFormed hitems

section natives
variable {natives : Natives} (hnatives : natives.Respect L)
include hnatives

theorem concatenate_keeps (hw : w.Fits L) (hargs : w.SupportsAll args) :
    (concatenate natives this args).Keeps L w World.Supports := by
  unfold concatenate
  apply keeps_lift_bind hw
  intro other hother
  apply keeps_read_bind
  apply (Natives.stringify_keeps hnatives hw (hargs other (Arguments.mem_of_one hother))).bind
  intro more w₁ hsafe _
  exact newText_keeps hsafe.fits _

theorem stringifyAll_keeps (hw : w.Fits L) {items : List Value} (hitems : w.SupportsAll items) :
    (stringifyAll natives items).Keeps L w fun _ _ => True := by
  induction items generalizing w with
  | nil => exact keeps_pure hw trivial
  | cons v rest ih =>
    unfold stringifyAll
    obtain ⟨hv, hrest⟩ := World.supportsAll_cons.mp hitems
    apply (Natives.stringify_keeps hnatives hw hv).bind
    intro text w₁ hsafe _
    apply (ih hsafe.fits (hrest.later hsafe.later)).bind
    intro texts w₂ hsafe₂ _
    exact keeps_pure hsafe₂.fits trivial

end natives

end Behaviour

/-! ## Formatting -/

namespace Format

variable {natives : Natives} (hnatives : natives.Respect L)
include hnatives

theorem convert_keeps (hw : w.Fits L) (layout : Layout) (conversion : Char) {v : Value}
    (hv : w.Supports v) : (convert natives layout conversion v).Keeps L w fun _ _ => True := by
  have hvalue := hw.wellFormed.unwrap hv
  unfold convert
  apply keeps_world_bind
  dsimp only
  split
  · apply (Natives.stringify_keeps hnatives hw hvalue).bind
    intro text w₁ hsafe _
    exact keeps_pure hsafe.fits trivial
  · apply (Natives.represent_keeps hnatives hw hvalue).bind
    intro text w₁ hsafe _
    exact keeps_pure hsafe.fits trivial
  · apply keeps_lift_bind hw
    rintro ⟨body, isNumber⟩ _
    exact keeps_pure hw trivial

theorem substitute_keeps (hw : w.Fits L) (pieces : List Piece) (hargs : w.SupportsAll args) :
    (substitute natives pieces args).Keeps L w fun _ _ => True := by
  -- Induction on the pieces, with the world and the arguments free: a directive takes an
  -- argument and may change the world.
  induction pieces generalizing w args with
  | nil =>
    cases args with
    | nil => exact keeps_pure hw trivial
    | cons v rest => exact keeps_raise hw _
  | cons piece pieces ih =>
    cases piece with
    | literal c =>
      unfold substitute
      apply (ih hw hargs).bind
      intro text w₁ hsafe _
      exact keeps_pure hsafe.fits trivial
    | directive layout conversion =>
      cases args with
      | nil => exact keeps_raise hw _
      | cons v rest =>
        unfold substitute
        obtain ⟨hv, hrest⟩ := World.supportsAll_cons.mp hargs
        apply (convert_keeps hnatives hw layout conversion hv).bind
        intro body w₁ hsafe _
        apply (ih hsafe.fits (hrest.later hsafe.later)).bind
        intro text w₂ hsafe₂ _
        exact keeps_pure hsafe₂.fits trivial
    | incomplete =>
      unfold substitute
      exact keeps_raise hw _

end Format

/-! ## Methods -/

open Behaviour in
theorem TextMethod.invoke_keeps {natives : Natives} (hnatives : natives.Respect L)
    (method : TextMethod) (hw : w.Fits L) (hargs : w.SupportsAll args) :
    (method.invoke natives this args).Keeps L w World.Supports := by
  -- The six predicates read the characters and answer a truth value.
  have hanswer : ∀ holds : List Char → Bool,
      (do
        Arguments.none method.name args
        let cs ← charsOf this
        return .bool (holds cs) : Run Value).Keeps L w World.Supports :=
    fun holds => keeps_lift_bind hw fun _ _ =>
      keeps_read_bind (keeps_pure hw (World.supports_bool _))
  unfold TextMethod.invoke
  cases method with
  | isAlpha | isDecimal | isDigit | isNumeric | isLower | isUpper => exact hanswer _
  | join =>
    apply keeps_lift_bind hw
    intro v h
    apply (iterated_keeps hw (hargs v (Arguments.mem_of_one h))).bind
    intro items w₁ hsafe hitems
    apply keeps_read_bind
    apply (stringifyAll_keeps hnatives hsafe.fits hitems).bind
    intro texts w₂ hsafe₂ _
    exact newText_keeps hsafe₂.fits _
  | format =>
    apply keeps_read_bind
    apply keeps_read_bind
    have hvalues : w.SupportsAll (args.map w.unwrap) := by
      intro u hu
      obtain ⟨v, hv, rfl⟩ := List.mem_map.mp hu
      exact hw.wellFormed.unwrap (hargs v hv)
    apply (Format.substitute_keeps hnatives hw _ hvalues).bind
    intro text w₁ hsafe _
    exact newText_keeps hsafe.fits _

end DynamicObjects
