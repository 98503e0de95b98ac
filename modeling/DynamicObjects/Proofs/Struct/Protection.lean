import DynamicObjects.Proofs.Safety.Reachable
import DynamicObjects.Proofs.Safety.Stock

/-! # Protection of members

    A guarded member of a struct object is written in two ways only: when member
    data is assigned, and by the initializer, which hands over what another
    object of the type holds and asks for no window.  In a run without the
    former, the member holds what the initializer has handed over last.

    Main results:
    - `Operation.property?_of_endsIn`: what one operation does to the member
    - `guarded_member_after_run`: what a whole run does to it -/

namespace DynamicObjects

/-! ## What is sealed -/

namespace World

/-- One property of one object. -/
def only (s : ObjectId) (p : String) : Locations := fun o name => o = s ∧ name = p

/-- An object is that of a declared struct, with a guarded member. -/
def Guards (w : World) (s : ObjectId) (p : String) : Prop :=
  ∃ shape ident, w.typeOf s = .struct shape ident ∧ shape.isGuarded p = true

/-- Nothing in a struct type is the host's. -/
theorem sealable_struct (shape : StructShape) (ident : TypeId) :
    (TypeDescriptor.struct shape ident).Sealable := by
  refine TypeDescriptor.sealable_of_texts (fun s name hslot => ?_)
    fun entry hentry => absurd hentry List.not_mem_nil
  cases s <;> cases hslot

section guards
variable {w w' : World} {s : ObjectId} {p : String}

theorem Guards.exists_shape (h : w.Guards s p) : ∃ shape, (w.typeOf s).shape = some shape := by
  obtain ⟨shape, ident, hstruct, -⟩ := h
  rw [hstruct]
  exact ⟨shape, rfl⟩

/-- A struct object has not been released. -/
theorem Guards.exists_object (h : w.Guards s p) : ∃ x, w.object? s = some x := by
  obtain ⟨shape, hshape⟩ := h.exists_shape
  exact Behaviour.object?_of_shape hshape

/-- Every property of a struct object can be sealed. -/
theorem WellFormed.fits_only (hw : w.WellFormed) {shape : StructShape} {ident : TypeId}
    (hstruct : w.typeOf s = .struct shape ident) : w.Fits (only s p) := by
  have hshape : (w.typeOf s).shape = some shape := by rw [hstruct]; rfl
  obtain ⟨x, hx⟩ := Behaviour.object?_of_shape hshape
  refine hw.fits_of_sealable ?_ ?_
  · rintro o name ⟨rfl, -⟩
    exact index_lt_of_object?_eq_some hx
  · rintro o name ⟨rfl, -⟩
    rw [hstruct]
    exact sealable_struct shape ident

theorem Guards.fits (h : w.Guards s p) (hw : w.WellFormed) : w.Fits (only s p) := by
  obtain ⟨shape, ident, hstruct, -⟩ := h
  exact hw.fits_only hstruct

end guards

end World

/-! ## Initializers -/

/-- The properties that the initializer of a struct object hands over to it: the
    declared name if it has no argument, and those of the argument if that is
    another object of the type. -/
def World.handed? (w : World) (s : ObjectId) : List Value → Option (Bindings Value)
  | [] => (w.typeOf s).shape.map fun shape => [(declaredName, .text shape.name)]
  | [.object o] => if w.isInstanceOf o (w.typeOf s) then some (w.object o).properties else none
  | _ => none

namespace Behaviour

variable {w w' : World} {s : ObjectId} {shape : StructShape}

theorem constructStruct_eq (hshape : (w.typeOf s).shape = some shape) (args : List Value) :
    constructStruct s args w =
      match w.handed? s args with
      | some entries => .done () (w.setProperties s entries)
      | none => .raised (.notConstructible (w.typeName s)) w := by
  have hshapeOf : w.shapeOf s = .ok shape := by rw [World.shapeOf, hshape]
  unfold constructStruct
  rcases args with _ | ⟨v, _ | ⟨u, rest⟩⟩
  · simp only [Run.bind_apply, Run.read_apply, id_eq, hshapeOf, Run.lift_ok, World.handed?, hshape]
    rfl
  · cases v with
    | object o =>
      simp only [Run.bind_apply, Run.read_apply, id_eq, World.handed?]
      -- A single object hands over its properties if it is an instance; whatever else is
      -- given is refused.
      by_cases htype : w.isInstanceOf o (w.typeOf s) = true
      · rw [if_pos htype, if_pos htype]
        rfl
      · rw [if_neg htype, if_neg htype]
        rfl
    | _ => rfl
  · cases v <;> rfl

theorem nodup_of_handed? (hw : w.WellFormed) {args : List Value} {entries : Bindings Value}
    (h : w.handed? s args = some entries) : (Bindings.names entries).Nodup := by
  unfold World.handed? at h
  split at h
  · obtain ⟨shape, -, rfl⟩ := Option.map_eq_some_iff.mp h
    exact List.nodup_singleton declaredName
  · next o =>
    split at h
    · obtain rfl := Option.some.inj h
      unfold World.object
      cases hx : w.object? o with
      | none => exact List.nodup_nil
      | some x => exact hw.names hx
    · cases h
  · cases h

end Behaviour

/-! ## Operations -/

namespace Operation

/-- An operation **avoids** a member if it neither assigns member data to the
    object nor writes that very property past the handlers of the type. -/
def Avoids (s : ObjectId) (p : String) : Operation → Prop
  | setProperty o name _ | eraseProperty o name => ¬ (o = s ∧ name = p)
  | setAttr o key _ => ¬ (o = s ∧ Host.markedProperty? key = some p)
  | assignMembers o _ => o ≠ s
  | _ => True

/-- The value that an operation hands over to a member, by a call of the
    initializer of the object. -/
def handed? (w : World) (s : ObjectId) (p : String) : Operation → Option Value
  | dispatch o .init args => if o = s then (w.handed? s args).bind (Bindings.get? p) else none
  | _ => none

section member
variable {host : Host} {w w' : World} {s : ObjectId} {p : String} {op : Operation}

/-- Of the handlers of a struct only the initializer writes guarded members. -/
theorem eq_init_of_writes (hguards : w.Guards s p) (havoids : op.Avoids s p)
    (hwrites : op.Writes w s p) : ∃ args, op = dispatch s .init args := by
  obtain ⟨shape, ident, hstruct, hguarded⟩ := hguards
  have hmembers : ∀ {slot : Slot} {h : Handler slot} {args : List Value},
      (w.typeOf s).slots slot = some h → h.Writes (w.typeOf s) args p → slot = .init := by
    intro slot h args hslot hname
    rw [hstruct] at hslot hname
    -- Of the handlers that write at all, a struct has no `setItem`, and its `setAttr` checks.
    cases h with
    | construct how => rfl
    | setItem => cases hslot
    | setAttr store =>
      obtain rfl : AttributeStore.structMembers = store := by
        cases hslot
        rfl
      obtain ⟨key, -, -, hfree⟩ := hname
      have hfalse := hfree shape rfl
      rw [hguarded] at hfalse
      cases hfalse
    | _ => exact hname.elim
  cases op with
  | dispatch o slot args =>
    obtain ⟨rfl, h, hslot, hname⟩ := hwrites
    obtain rfl := hmembers hslot hname
    exact ⟨args, rfl⟩
  | setAttr o key v =>
    obtain ⟨rfl, hmarked | ⟨-, h, hslot, hname⟩⟩ := hwrites
    · exact absurd ⟨rfl, hmarked⟩ havoids
    · have hslot := hmembers hslot hname
      cases hslot
  | setProperty o name v => exact absurd hwrites havoids
  | eraseProperty o name => exact absurd hwrites havoids
  | assignMembers o data => exact absurd hwrites havoids
  | _ => exact hwrites.elim

/-- The initializer is what a dispatch to it runs. -/
theorem run_dispatch_init {how : Initializer}
    (hslot : (w.typeOf s).slots .init = some (.construct how)) (args : List Value) :
    (dispatch s .init args).run host w = how.run host.natives s args w := by
  simp only [run, Run.bind_apply, Host.dispatch_apply host hslot, Host.invoke,
    Natives.runInitializer]
  cases how.run host.natives s args w <;> rfl

theorem run_dispatch_init_struct {shape : StructShape} {ident : TypeId}
    (hstruct : w.typeOf s = .struct shape ident) (args : List Value) :
    (dispatch s .init args).run host w = Behaviour.constructStruct s args w :=
  run_dispatch_init (by rw [hstruct]; rfl) args

/-- **The initializer** overrides the properties of its object, unchecked. -/
theorem property?_of_endsIn_init (hw : w.WellFormed) (hguards : w.Guards s p) {args : List Value}
    (hends : (dispatch s .init args).EndsIn host w w') :
    w'.property? s p = ((w.handed? s args).bind (Bindings.get? p)).or (w.property? s p) := by
  obtain ⟨shape, hshape⟩ := hguards.exists_shape
  have ⟨_, _, hstruct, _⟩ := hguards
  have hrun := hends
  rw [EndsIn, run_dispatch_init_struct hstruct, Behaviour.constructStruct_eq hshape] at hrun
  cases hhanded : w.handed? s args with
  | some entries =>
    have hw' : w' = w.setProperties s entries := by simpa [hhanded, eq_comm] using hrun
    rw [hw', World.property?_setProperties hguards.exists_object,
      Bindings.last?_eq_get? (Behaviour.nodup_of_handed? hw hhanded), Option.bind_some]
  | none =>
    have hw' : w' = w := by simpa [hhanded, eq_comm] using hrun
    rw [hw', Option.bind_none, Option.none_or]

/-- **Step**: an operation that avoids a guarded member leaves it as it is or as
    the initializer hands it over. -/
theorem property?_of_endsIn (hhost : host.Respects (World.only s p)) (hw : w.WellFormed)
    (hguards : w.Guards s p) (havoids : op.Avoids s p) (hvalues : w.SupportsAll op.values)
    (hends : op.EndsIn host w w') :
    w'.property? s p = (op.handed? w s p).or (w.property? s p) := by
  by_cases hinit : ∃ args, op = dispatch s .init args
  · obtain ⟨args, rfl⟩ := hinit
    have hhanded : (dispatch s .init args).handed? w s p =
        (w.handed? s args).bind (Bindings.get? p) := by
      unfold handed?
      dsimp only
      rw [if_pos rfl]
    rw [hhanded]
    exact property?_of_endsIn_init hw hguards hends
  · -- Everything else keeps the member as a sealed property.
    have hwrites : ∀ o name, op.Writes w o name → ¬ World.only s p o name := by
      intro o name hwrites ho
      obtain ⟨rfl, rfl⟩ := ho
      exact hinit (eq_init_of_writes hguards havoids hwrites)
    have hsafe := safe_of_endsIn hhost (hguards.fits hw) hvalues hwrites hends
    have hnone : op.handed? w s p = none := by
      unfold handed?
      split
      · next o args =>
        have ho : o ≠ s := by
          intro ho
          exact hinit ⟨args, by rw [ho]⟩
        rw [if_neg ho]
      · rfl
    rw [hnone, Option.none_or]
    exact hsafe.property?_eq ⟨rfl, rfl⟩

end member

end Operation

/-! ## Runs -/

/-- A **run** that avoids a member of an object, and keeps the object from being
    released: where it leads to, and what it hands over to the member last. -/
inductive AvoidingRun (host : Host) (s : ObjectId) (p : String) (w : World) :
    Option Value → World → Prop where
  | start : AvoidingRun host s p w none w
  | step {last : Option Value} {w₁ w₂ : World} (h : AvoidingRun host s p w last w₁)
      (op : Operation) (havoids : op.Avoids s p) (hvalues : w₁.SupportsAll op.values)
      (hends : op.EndsIn host w₁ w₂) :
      AvoidingRun host s p w ((op.handed? w₁ s p).or last) w₂
  | collect {last : Option Value} {w₁ : World} (h : AvoidingRun host s p w last w₁)
      (roots : List ObjectId) (halive : (w₁.collect roots).isAlive s = true) :
      AvoidingRun host s p w last (w₁.collect roots)

section runs
variable {host : Host} {w w' : World} {s : ObjectId} {p : String} {last : Option Value}

/-- The invariant of such a run. -/
theorem AvoidingRun.invariant (hwell : host.Respects World.unsealed)
    (hhost : host.Respects (World.only s p)) (hw : w.WellFormed) (hguards : w.Guards s p)
    (h : AvoidingRun host s p w last w') :
    w'.WellFormed ∧ w'.Guards s p ∧ w'.property? s p = last.or (w.property? s p) := by
  induction h with
  | start => exact ⟨hw, hguards, (Option.none_or).symm⟩
  -- The guard is part of the invariant, for the step is read off the type.
  | @step last w₁ w₂ _ op havoids hvalues hends ih =>
    obtain ⟨hw₁, hguards₁, hproperty⟩ := ih
    have hsafe := Operation.safe_of_endsIn hwell hw₁.fits hvalues (fun _ _ _ h => h) hends
    refine ⟨hsafe.fits.wellFormed, ?_, ?_⟩
    · obtain ⟨x, hx⟩ := hguards₁.exists_object
      have htype := hsafe.later.typeOf_eq (World.index_lt_of_object?_eq_some hx)
      rw [World.Guards, htype]
      exact hguards₁
    · rw [Operation.property?_of_endsIn hhost hw₁ hguards₁ havoids hvalues hends, hproperty,
        Option.or_assoc]
  | @collect last w₁ _ roots halive ih =>
    obtain ⟨hw₁, hguards₁, hproperty⟩ := ih
    refine ⟨hw₁.collect roots, ?_, (World.property?_collect halive p).trans hproperty⟩
    rw [World.Guards, World.typeOf_collect halive]
    exact hguards₁

end runs

/-! ## Two instances of a struct -/

/-- A struct whose only member is guarded. -/
def personType : TypeDescriptor := .struct ⟨"Person", ["age"], ["age"]⟩ (.declared 0)

/-- The prototype of the struct and two instances, of age 3 and of age 4. -/
def twoPersons : World where
  heap := World.initial.heap ++
    #[some ⟨personType, [(declaredName, .text "Person")], false, false⟩,
      some ⟨personType, [(declaredName, .text "Person"), ("age", .object ⟨5⟩)], true, false⟩,
      some ⟨.integer, [(payloadName, .int 3)], false, false⟩,
      some ⟨personType, [(declaredName, .text "Person"), ("age", .object ⟨7⟩)], true, false⟩,
      some ⟨.integer, [(payloadName, .int 4)], false, false⟩]
  declared := [("Person", personType)]
  nextIdent := 1

theorem reachable_twoPersons : twoPersons.Reachable Stock.host := by
  have hnames : ∀ w : World,
      w.SupportsAll [.text "Person", .list [.text "age"], .list [.text "age"]] := by
    simp [World.supports_list]
  have hinstance : ∀ (w : World) (n : Int64), w.SupportsAll [.object ⟨3⟩, .list [.int n]] := by
    simp [World.supports_list]
  have hinitial : World.initial.Reachable Stock.host := .initial
  have hdeclared := hinitial.step
    (.makeStruct (.text "Person") (.list [.text "age"]) (.list [.text "age"])) (hnames _) (.inl rfl)
  have hfirst := hdeclared.step (.newStruct (.object ⟨3⟩) (some (.list [.int 3])))
    (hinstance _ 3) (.inl rfl)
  exact hfirst.step (.newStruct (.object ⟨3⟩) (some (.list [.int 4]))) (hinstance _ 4) (.inl rfl)

/-! ## Whole runs -/

/-- **Guarded members** hold what an initializer has handed over last, and what
    they held before if none has.  So they stay as they are unless an initializer
    hands over another value. -/
theorem guarded_member_after_run {host : Host} {w w' : World} {s : ObjectId} {p : String}
    {shape : StructShape} {ident : TypeId} {last : Option Value}
    (hwell : host.Respects World.unsealed) (hhost : host.Respects (World.only s p))
    (hw : w.Reachable host) (hstruct : w.typeOf s = .struct shape ident)
    (hguarded : shape.isGuarded p = true) (hrun : AvoidingRun host s p w last w') :
    w'.property? s p = last.or (w.property? s p) ∧
      (w'.property? s p = w.property? s p ↔ ∀ v, last = some v → w.property? s p = some v) := by
  have hguards : w.Guards s p := ⟨shape, ident, hstruct, hguarded⟩
  obtain ⟨-, -, hproperty⟩ := hrun.invariant hwell hhost (hw.wellFormed hwell) hguards
  refine ⟨hproperty, ?_⟩
  rw [hproperty]
  cases last with
  | none => simp
  | some v => simp [eq_comm]

/-- A write to the age of the first person is refused; then its initializer is
    given the second person. -/
theorem guarded_member_handed_over :
    ∃ w, AvoidingRun Stock.host ⟨4⟩ "age" twoPersons (some (.object ⟨7⟩)) w ∧
      w.property? ⟨4⟩ "age" = some (.object ⟨7⟩) ∧
      w.property? ⟨4⟩ "age" ≠ twoPersons.property? ⟨4⟩ "age" := by
  have hnine : ∀ w : World, w.SupportsAll [.int 9] := by simp
  have hsecond : ∀ w : World, w.SupportsAll [.object ⟨6⟩] := by simp
  have hunmarked : (Operation.setAttr ⟨4⟩ "age" (.int 9)).Avoids ⟨4⟩ "age" := by
    intro hmarked
    exact absurd hmarked.2 (by decide)
  have hstart : AvoidingRun Stock.host ⟨4⟩ "age" twoPersons none twoPersons := .start
  have hrefused := hstart.step (.setAttr ⟨4⟩ "age" (.int 9)) hunmarked (hnine _) (.inr ⟨_, rfl⟩)
  have hrun := hrefused.step (.dispatch ⟨4⟩ .init [.object ⟨6⟩]) trivial (hsecond _) (.inl rfl)
  have hstruct : twoPersons.typeOf ⟨4⟩ = .struct ⟨"Person", ["age"], ["age"]⟩ (.declared 0) := rfl
  have hafter := guarded_member_after_run Stock.host_respects Stock.host_respects
    reachable_twoPersons hstruct rfl hrun
  refine ⟨_, hrun, hafter.1, ?_⟩
  intro heq
  have hsame := hafter.2.mp heq _ rfl
  cases hsame

/-- The age of a person is guarded, but the initializer of the person, given
    another one, writes it outside of any window. -/
theorem guarded_member_overwritten :
    twoPersons.Reachable Stock.host ∧ twoPersons.Guards ⟨4⟩ "age" ∧
      twoPersons.property? ⟨4⟩ "age" = some (.object ⟨5⟩) ∧
      twoPersons.payload? ⟨5⟩ = some (.int 3) ∧
      ∃ w, (Operation.dispatch ⟨4⟩ .init [.object ⟨6⟩]).EndsIn Stock.host twoPersons w ∧
        w.property? ⟨4⟩ "age" = some (.object ⟨7⟩) ∧ w.payload? ⟨7⟩ = some (.int 4) :=
  ⟨reachable_twoPersons, ⟨⟨"Person", ["age"], ["age"]⟩, .declared 0, rfl, rfl⟩, rfl, rfl,
    _, .inl rfl, rfl, rfl⟩

end DynamicObjects
