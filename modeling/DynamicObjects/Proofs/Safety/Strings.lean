import DynamicObjects.Proofs.Safety.Payload

/-! # What strings hold

    No operation on strings changes the text of one: arithmetic, subscripts and
    methods give new objects.  Two handlers of the type store a payload all the same:
    the initializer, when it is dispatched to a string that has its text already, and
    the default attribute write under the name of the payload.

    Main results:
    - `Operation.payload?_of_endsIn_string`: what one operation does to a string
    - `string_text_after_run`: what a whole run does to it -/

namespace DynamicObjects

/-! ## Strings -/

namespace World

/-- A string is alive: what has been released has no type of its own. -/
theorem isAlive_of_typeOf_string {w : World} {s : ObjectId} (hstring : w.typeOf s = .string) :
    w.isAlive s = true := by
  rw [isAlive]
  cases hx : w.object? s with
  | some x => rfl
  | none =>
    rw [typeOf, object, hx] at hstring
    have hcategory := congrArg TypeDescriptor.category hstring
    cases hcategory

theorem isPlain_of_typeOf_string {w : World} {s : ObjectId} (hstring : w.typeOf s = .string) :
    (w.typeOf s).IsPlain := hstring ▸ TypeDescriptor.isPlain_string

end World

/-- The text that a payload stands for in a string. -/
def Value.textOrEmpty : Value → String
  | .text t => t
  | _ => ""

theorem Rendering.textOf_eq (w : World) (s : ObjectId) :
    textOf w s = ((w.payload? s).map Value.textOrEmpty).getD "" := by
  unfold textOf
  cases w.payload? s with
  | none => rfl
  | some v => cases v <;> rfl

/-! ## Operations -/

namespace Operation

/-- The value that an operation stores as the payload of a string: the text of the
    arguments of its initializer, or what is assigned as an attribute. -/
def storedText? (host : Host) (w : World) (s : ObjectId) : Operation → Option Value
  | dispatch o .init args =>
    if o = s then
      match Initializer.textFrom host.natives args w with
      | .done t _ => some (.text t)
      | _ => none
    else none
  | op => op.assigned? s

section strings
variable {host : Host} {w w' : World} {s : ObjectId} {op : Operation}

/-- **The initializer** of a string overrides its text, unless it fails to make one
    of its arguments. -/
theorem payload?_of_endsIn_init_string (hhost : host.Respects (World.only s payloadName))
    (hw : w.WellFormed) (hstring : w.typeOf s = .string) {args : List Value}
    (hargs : w.SupportsAll args) (hends : (dispatch s .init args).EndsIn host w w') :
    w'.payload? s = ((dispatch s .init args).storedText? host w s).or (w.payload? s) := by
  have halive := World.isAlive_of_typeOf_string hstring
  have hfits := World.fits_of_isPlain (World.isPlain_of_typeOf_string hstring) halive hw
  have hkeeps := Initializer.textFrom_keeps hhost.natives hfits hargs
  have hslot : (w.typeOf s).slots .init = some (.construct .text) := by rw [hstring]; rfl
  rw [EndsIn, run_dispatch_init hslot] at hends
  simp only [Initializer.run, Run.bind_apply, Run.read_apply] at hends
  simp only [storedText?, if_true]
  -- The text is made before it is stored, by handlers that keep the payload.
  cases htext : Initializer.textFrom host.natives args w with
  | done t w₁ =>
    rw [htext] at hends
    obtain rfl : w' = w₁.setPayload s (.text t) := by
      rcases hends with h | ⟨f, h⟩ <;> cases h
      rfl
    have htype := (hkeeps.done htext).1.later.typeOf_eq (World.index_lt_of_isAlive halive)
    have halive' := World.isAlive_of_typeOf_string (htype.trans hstring)
    exact World.property?_setProperty_self w₁ halive' payloadName (.text t)
  | raised f w₁ =>
    rw [htext] at hends
    obtain rfl : w' = w₁ := by
      rcases hends with h | ⟨f, h⟩ <;> cases h
      rfl
    exact (hkeeps.raised htext).property?_eq ⟨rfl, rfl⟩
  | diverged =>
    rw [htext] at hends
    rcases hends with h | ⟨f, h⟩ <;> cases h

/-- **Step**: an operation that does not bypass the handlers leaves the payload of a
    string as it is or as it stores it. -/
theorem payload?_of_endsIn_string (hhost : host.Respects (World.only s payloadName))
    (hw : w.WellFormed) (hstring : w.typeOf s = .string) (hspares : ¬ op.Bypasses s payloadName)
    (hvalues : w.SupportsAll op.values) (hends : op.EndsIn host w w') :
    w'.payload? s = (op.storedText? host w s).or (w.payload? s) := by
  by_cases hinit : ∃ args, op = dispatch s .init args
  · obtain ⟨args, rfl⟩ := hinit
    exact payload?_of_endsIn_init_string hhost hw hstring hvalues hends
  · have hstored : op.storedText? host w s = op.assigned? s := by
      unfold storedText?
      split
      · next o args =>
        have ho : o ≠ s := fun ho => hinit ⟨args, by rw [ho]⟩
        rw [if_neg ho]
        rfl
      · rfl
    rw [hstored]
    exact (payload?_of_endsIn_plain hhost hw (World.isPlain_of_typeOf_string hstring)
      (World.isAlive_of_typeOf_string hstring) hspares hvalues hends).resolve_left hinit

end strings

end Operation

/-! ## Runs -/

/-- A **run** that writes the payload of a string by handlers only, and keeps the
    string from being released: where it leads to, and what it stores last. -/
inductive StringRun (host : Host) (s : ObjectId) (w : World) : Option Value → World → Prop where
  | start : StringRun host s w none w
  | step {last : Option Value} {w₁ w₂ : World} (h : StringRun host s w last w₁)
      (op : Operation) (hspares : ¬ op.Bypasses s payloadName)
      (hvalues : w₁.SupportsAll op.values) (hends : op.EndsIn host w₁ w₂) :
      StringRun host s w ((op.storedText? host w₁ s).or last) w₂
  | collect {last : Option Value} {w₁ : World} (h : StringRun host s w last w₁)
      (roots : List ObjectId) (halive : (w₁.collect roots).isAlive s = true) :
      StringRun host s w last (w₁.collect roots)

section runs
variable {host : Host} {w w' : World} {s : ObjectId} {last : Option Value}

/-- The invariant of such a run. -/
theorem StringRun.invariant (hwell : host.Respects World.unsealed)
    (hhost : host.Respects (World.only s payloadName)) (hw : w.WellFormed)
    (hstring : w.typeOf s = .string) (h : StringRun host s w last w') :
    w'.WellFormed ∧ w'.typeOf s = .string ∧ w'.payload? s = last.or (w.payload? s) := by
  induction h with
  | start => exact ⟨hw, hstring, (Option.none_or).symm⟩
  -- The type is part of the invariant: what the step does to the text depends on it.
  | @step last w₁ w₂ _ op hspares hvalues hends ih =>
    obtain ⟨hw₁, hstring₁, hpayload⟩ := ih
    have hsafe := Operation.safe_of_endsIn hwell hw₁.fits hvalues (fun _ _ _ h => h) hends
    have hlt := World.index_lt_of_isAlive (World.isAlive_of_typeOf_string hstring₁)
    have htype := hsafe.later.typeOf_eq hlt
    refine ⟨hsafe.fits.wellFormed, htype.trans hstring₁, ?_⟩
    rw [Operation.payload?_of_endsIn_string hhost hw₁ hstring₁ hspares hvalues hends, hpayload,
      Option.or_assoc]
  | @collect last w₁ _ roots halive ih =>
    obtain ⟨hw₁, hstring₁, hpayload⟩ := ih
    exact ⟨hw₁.collect roots, (World.typeOf_collect halive).trans hstring₁,
      (World.property?_collect halive payloadName).trans hpayload⟩

end runs

/-- **Strings** have the text that has been stored into them last, and the text that
    they had before if none has.  So the text of a string stays as it is unless its
    initializer or an attribute write stores another one. -/
theorem string_text_after_run {host : Host} {w w' : World} {s : ObjectId} {last : Option Value}
    (hwell : host.Respects World.unsealed) (hhost : host.Respects (World.only s payloadName))
    (hw : w.Reachable host) (hstring : w.typeOf s = .string) (hrun : StringRun host s w last w') :
    w'.payload? s = last.or (w.payload? s) ∧
      (Rendering.textOf w' s = Rendering.textOf w s ↔
        ∀ v, last = some v → v.textOrEmpty = Rendering.textOf w s) := by
  obtain ⟨-, -, hpayload⟩ := hrun.invariant hwell hhost (hw.wellFormed hwell) hstring
  refine ⟨hpayload, ?_⟩
  rw [Rendering.textOf_eq w' s, hpayload]
  cases last with
  | none => simp [Rendering.textOf_eq]
  | some v => simp

/-! ## A string initialized anew -/

/-- A string. -/
def withLetters : World := (World.initial.toObject (.text "abc")).2

theorem reachable_withLetters : withLetters.Reachable Stock.host :=
  .step .initial (.convert (.text "abc")) (by simp [Operation.values]) (.inl rfl)

/-- Its initializer gives it another text. -/
theorem string_initialized_anew :
    ∃ w, StringRun Stock.host ⟨3⟩ withLetters (some (.text "xyz")) w ∧
      Rendering.textOf w ⟨3⟩ ≠ Rendering.textOf withLetters ⟨3⟩ := by
  have hstring : withLetters.typeOf ⟨3⟩ = .string := rfl
  have hstart : StringRun Stock.host ⟨3⟩ withLetters none withLetters := .start
  have hrun := hstart.step (.dispatch ⟨3⟩ .init [.text "xyz"]) id (by simp [Operation.values])
    (.inl rfl)
  have hafter := string_text_after_run Stock.host_respects Stock.host_respects
    reachable_withLetters hstring hrun
  refine ⟨_, hrun, fun h => ?_⟩
  have hsame := hafter.2.mp h _ rfl
  exact absurd hsame (by decide)

/-- Both handlers change the text of the string: its initializer, and an attribute
    write under the name of the payload. -/
theorem string_text_replaced :
    withLetters.Reachable Stock.host ∧ withLetters.typeOf ⟨3⟩ = .string ∧
      Rendering.textOf withLetters ⟨3⟩ = "abc" ∧
      (∃ w, (Operation.dispatch ⟨3⟩ .init [.text "xyz"]).EndsIn Stock.host withLetters w ∧
        Rendering.textOf w ⟨3⟩ = "xyz") ∧
      ∃ w, (Operation.setAttr ⟨3⟩ payloadName (.text "xyz")).EndsIn Stock.host withLetters w ∧
        Rendering.textOf w ⟨3⟩ = "xyz" :=
  ⟨reachable_withLetters, rfl, rfl, ⟨_, .inl rfl, rfl⟩, _, .inl rfl, rfl⟩

end DynamicObjects
