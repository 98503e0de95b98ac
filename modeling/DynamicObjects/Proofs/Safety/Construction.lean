import DynamicObjects.Construction
import DynamicObjects.Proofs.Safety.Text
import DynamicObjects.Proofs.Struct.Assignment

/-! # Constructions keep worlds well-formed

    Initializers write all over their receiver, which therefore must not be
    sealed; the receivers of constructions are new. -/

namespace DynamicObjects

open Run

variable {L : World.Locations} {w : World} {this : ObjectId} {args : List Value}

/-! ## Structs -/

namespace Behaviour

theorem constructStruct_keeps (hw : w.Fits L) (hthis : ∀ name, ¬ L this name) :
    (constructStruct this args).Keeps L w fun _ _ => True := by
  unfold constructStruct
  apply keeps_world_bind
  split
  · apply keeps_lift_bind hw
    intro shape _
    exact keeps_modify (hw.setProperty (World.supports_text _) (hthis _))
  · next o =>
    split
    · apply keeps_modify
      apply hw.setProperties _ fun name _ => hthis name
      intro entry hentry
      -- What has been released has no properties to copy.
      cases hx : w.object? o with
      | none =>
        rw [World.object, hx] at hentry
        cases hentry
      | some x =>
        rw [World.object, hx] at hentry
        exact hw.wellFormed.supports hx entry hentry
    · exact keeps_raise hw _
  · exact keeps_raise hw _

theorem supports_of_dataBinds (hw : w.WellFormed) {shape : StructShape} {data : Value}
    (hdata : w.Supports data) {entries : Bindings Value} (h : DataBinds w shape data entries) :
    ∀ entry ∈ entries, w.Supports entry.2 := by
  have hvalue := hw.unwrap hdata
  cases h with
  | dict h =>
    rw [h] at hvalue
    exact (World.supports_dict.mp hvalue).2
  | list h hlength =>
    rw [h] at hvalue
    exact fun entry hentry => World.supports_list.mp hvalue _ (List.of_mem_zip hentry).2

/-- The entries of a conversion are references. -/
theorem supports_toEntries (w : World) (entries : Bindings Value) :
    ∀ entry ∈ (w.toEntries entries).1, ∀ w' : World, w'.Supports entry.2 := by
  induction entries generalizing w with
  | nil => exact fun entry h => absurd h List.not_mem_nil
  | cons first rest ih =>
    intro entry hentry w'
    rcases List.mem_cons.mp hentry with rfl | hentry
    · exact World.supports_object _
    · exact ih _ entry hentry w'

theorem published_safe (hw : w.Fits L) (hthis : ∀ name, ¬ L this name) {shape : StructShape}
    (hshape : (w.typeOf this).shape = some shape) {entries : Bindings Value}
    (hentries : ∀ entry ∈ entries, w.Supports entry.2) :
    w.Safe L (published w this entries) := by
  have hassigned := membersAssigned_published hshape hw.wellFormed.settled entries
  -- Inside the window the world is consistent, if not settled.
  have hopened : (w.setUnderConstruction this true).Consistent := by
    refine hw.wellFormed.update (fun _ => rfl) ?_ ?_
    · intro x hx
      have hsupports := hw.wellFormed.supports hx
      exact hsupports
    · intro x hx
      have hnames := hw.wellFormed.names hx
      exact hnames
  have hwindow : w.Later (w.setUnderConstruction this true) := World.later_update _ _ fun _ => rfl
  have hbuilds : World.Builds (w.setUnderConstruction this true).heap.size
      (Value.IsSound (w.setUnderConstruction this true)) (w.setUnderConstruction this true)
      ((w.setUnderConstruction this true).toEntries entries).2 :=
    World.toEntries_builds (Nat.le_refl _) fun entry hentry =>
      (hentries entry hentry).later hwindow
  have hconverted := hbuilds.consistent hopened fun _ h => h
  have hlater : w.Later (published w this entries) :=
    (hwindow.trans hbuilds.later).trans (World.later_update _ _ fun _ => rfl)
  refine ⟨hlater, hw.later hlater ⟨?_, hassigned.settled⟩, fun {o name} ho => ?_⟩
  · refine hconverted.update (fun _ => rfl) ?_ ?_
    · intro x hx entry hentry
      rcases Bindings.mem_setAll hentry with h | h
      · exact supports_toEntries _ _ entry h _
      · exact hconverted.supports hx entry h
    · intro x hx
      exact Bindings.nodup_names_setAll (hconverted.names hx)
  · have hne : o ≠ this := fun e => hthis name (e ▸ ho)
    rw [World.property?, World.property?, World.object, World.object,
      hassigned.others hne (hw.index_lt ho)]

theorem assignMembers_keeps (hw : w.Fits L) (hthis : ∀ name, ¬ L this name) {data : Value}
    (hdata : w.Supports data) : (assignMembers this data).Keeps L w fun _ _ => True := by
  cases hshape : (w.typeOf this).shape with
  | none =>
    have hraised : assignMembers this data w = .raised (.notStruct (w.typeName this)) w := by
      have hshapeOf : w.shapeOf this = .error (.notStruct (w.typeName this)) := by
        rw [World.shapeOf, hshape]
      simp only [assignMembers, Run.bind_apply, Run.read_apply, id_eq, hshapeOf, Run.lift_error]
    exact keeps_of_eq_raised hw hraised
  | some shape =>
    rcases assignMembers_outcome hshape hw.wellFormed.settled data with
      ⟨entries, hbinds, -, hrun⟩ | ⟨f, -, hrun⟩
    · have hentries := supports_of_dataBinds hw.wellFormed hdata hbinds
      refine ⟨fun hdone => ?_, fun h => ?_⟩
      · obtain ⟨-, rfl⟩ := Outcome.done.inj (hrun.symm.trans hdone)
        exact ⟨published_safe hw hthis hshape hentries, trivial⟩
      · rw [hrun] at h
        cases h
    · exact keeps_of_eq_raised hw hrun

/-- A name and a list of names may be given in any way; what is declared is a
    type, which no object has yet. -/
theorem declareStruct_keeps (hw : w.Fits L) (shape : StructShape) :
    (declareStruct shape).Keeps L w fun _ _ => True :=
  keeps_step (hw.of_heap_eq rfl) trivial

/-! ## Modules -/

theorem names_toEntries (w : World) (entries : Bindings Value) :
    Bindings.names (w.toEntries entries).1 = Bindings.names entries := by
  induction entries generalizing w with
  | nil => rfl
  | cons entry rest ih => exact congrArg (entry.1 :: ·) (ih _)

theorem fillModule_keeps (hw : w.Fits L) (hthis : ∀ name, ¬ L this name) (name : String)
    {entries : Bindings Value} (hentries : w.Supports (.dict entries)) :
    (fillModule this name entries).Keeps L w fun _ _ => True := by
  obtain ⟨hnames, hvalues⟩ := World.supports_dict.mp hentries
  unfold fillModule
  have hstep : (Run.step fun w => w.toEntries entries).Keeps L w
      fun w' entries' => w'.Supports (.dict entries') := by
    refine keeps_step (hw.toEntries hvalues) (World.supports_dict.mpr ⟨?_, ?_⟩)
    · rw [names_toEntries]
      exact hnames
    · exact fun entry hentry => supports_toEntries w entries entry hentry _
  apply hstep.bind
  intro entries' w₁ hsafe hentries'
  have hnamed : w₁.Safe L (w₁.setProperty this declaredName (.text name)) :=
    hsafe.fits.setProperty (World.supports_text name) (hthis _)
  apply keeps_modify
  exact hnamed.trans (hnamed.fits.setProperty (hentries'.later hnamed.later) (hthis _))

theorem constructModule_keeps (hw : w.Fits L) (hthis : ∀ name, ¬ L this name)
    (hargs : w.SupportsAll args) : (constructModule this args).Keeps L w fun _ _ => True := by
  unfold constructModule
  apply keeps_world_bind
  split
  · apply keeps_lift_bind hw
    intro name _
    exact fillModule_keeps hw hthis name (World.supports_dict.mpr
      ⟨List.nodup_nil, fun entry h => absurd h List.not_mem_nil⟩)
  · next name bindings =>
    apply keeps_lift_bind hw
    intro name _
    apply keeps_lift_bind hw
    intro entries hentries
    -- The bindings are those of the data, and a dictionary supports each of its own.
    have hvalue := hw.wellFormed.unwrap (hargs bindings (by simp))
    unfold moduleBindings at hentries
    split at hentries
    · next entries' hdata =>
      obtain rfl := Except.ok.inj hentries
      rw [hdata] at hvalue
      exact fillModule_keeps hw hthis name hvalue
    · cases hentries
  · exact keeps_raise hw _

end Behaviour

/-! ## Initializers -/

section natives
variable {natives : Natives} (hnatives : natives.Respect L)
include hnatives

theorem Initializer.textFrom_keeps (hw : w.Fits L) (hargs : w.SupportsAll args) :
    (Initializer.textFrom natives args).Keeps L w fun _ _ => True := by
  unfold Initializer.textFrom
  apply keeps_world_bind
  split
  · exact keeps_pure hw trivial
  · exact keeps_pure hw trivial
  · split
    · exact keeps_pure hw trivial
    · exact Natives.stringify_keeps hnatives hw (World.supports_object _)
  · exact Natives.stringify_keeps hnatives hw (hargs _ List.mem_cons_self)

omit hnatives in
theorem supports_functionFrom (hw : w.WellFormed) (hargs : w.SupportsAll args) {f : Value}
    (h : Initializer.functionFrom w args = .ok f) : w.Supports f := by
  unfold Initializer.functionFrom at h
  cases hone : Arguments.one "function" args with
  | error fault =>
    rw [hone] at h
    cases h
  | ok v =>
    have hvalue := hw.unwrap (hargs v (Arguments.mem_of_one hone))
    rw [hone] at h
    simp only [bind, Except.bind] at h
    split at h
    · next g hdata =>
      obtain rfl := Except.ok.inj h
      rw [hdata] at hvalue
      exact hvalue
    · cases h

/-- **Initializers** write properties of their receiver only. -/
theorem Initializer.run_keeps (how : Initializer) (hw : w.Fits L) (hthis : ∀ name, ¬ L this name)
    (hargs : w.SupportsAll args) :
    (how.run natives this args).Keeps L w fun _ _ => True := by
  -- All of them end by storing a payload, but for modules and structs.
  have hstore : ∀ {w : World} {v : Value}, w.Fits L → w.Supports v →
      (Run.modify fun w => w.setPayload this v).Keeps L w fun _ _ => True :=
    fun hw hv => keeps_modify (hw.setProperty hv (hthis _))
  unfold Initializer.run
  apply keeps_world_bind
  cases how with
  | ignore => exact keeps_pure hw trivial
  | null => exact hstore hw World.supports_null
  | bool =>
    cases args with
    | nil => exact hstore hw (World.supports_bool _)
    | cons v rest =>
      apply (keeps_ofTerminating hw _).bind
      intro b w₁ hsafe _
      exact hstore hsafe.fits (World.supports_bool _)
  | integer => exact keeps_lift_bind hw fun n _ => hstore hw (World.supports_int n)
  | float => exact keeps_lift_bind hw fun x _ => hstore hw (World.supports_float x)
  | complex => exact keeps_lift_bind hw fun z _ => hstore hw (World.supports_complex z)
  | text =>
    apply (textFrom_keeps hnatives hw hargs).bind
    intro s w₁ hsafe _
    exact hstore hsafe.fits (World.supports_text s)
  | array =>
    apply keeps_lift_bind hw
    intro items hitems
    have hsupports : w.SupportsAll items := by
      unfold Initializer.itemsFrom at hitems
      split at hitems
      · obtain rfl := Except.ok.inj hitems
        exact World.supportsAll_nil
      · next v rest =>
        have hvalue := hw.wellFormed.unwrap (hargs v List.mem_cons_self)
        split at hitems
        · next items' hdata =>
          obtain rfl := Except.ok.inj hitems
          rw [hdata] at hvalue
          exact World.supports_list.mp hvalue
        · cases hitems
    apply (keeps_step (hw.toObjects hsupports) (World.supportsAll_toObjects w items)).bind
    intro items' w₁ hsafe hitems'
    exact hstore hsafe.fits (World.supports_list.mpr hitems')
  | module => exact Behaviour.constructModule_keeps hw hthis hargs
  | struct => exact Behaviour.constructStruct_keeps hw hthis
  | function =>
    exact keeps_lift_bind hw fun f hf => hstore hw (supports_functionFrom hw.wellFormed hargs hf)
  | wrapper =>
    exact keeps_lift_bind hw fun v h => hstore hw (hargs v (Arguments.mem_of_one h))

namespace Natives

theorem runInitializer_keeps (h : Handler .init) (hw : w.Fits L) (hthis : ∀ name, ¬ L this name)
    (hargs : w.SupportsAll args) :
    (natives.runInitializer h this args).Keeps L w World.Supports := by
  unfold runInitializer
  split
  · exact hnatives _ _ _ _ hw hthis hargs
  · apply (Initializer.run_keeps hnatives _ hw hthis hargs).bind
    intro _ w₁ hsafe _
    exact keeps_pure hsafe.fits World.supports_null

/-- **Constructions** write to no object that exists. -/
theorem newObject_keeps (T : TypeDescriptor) (hw : w.Fits L) (hargs : w.SupportsAll args) :
    (natives.newObject T args).Keeps L w fun _ o => ∀ name, ¬ L o name := by
  unfold newObject
  -- No sealed property is that of an object which does not exist yet.
  have hallocate : (Run.step fun w => w.allocate T).Keeps L w
      fun _ o => ∀ name, ¬ L o name := by
    apply keeps_step (hw.allocate T)
    intro name ho
    exact absurd (hw.index_lt ho) (Nat.lt_irrefl _)
  apply hallocate.bind
  intro o w₁ hsafe ho
  split
  · exact keeps_pure hsafe.fits ho
  · apply (runInitializer_keeps hnatives _ hsafe.fits ho (hargs.later hsafe.later)).bind
    intro _ w₂ hsafe₂ _
    exact keeps_pure hsafe₂.fits ho

theorem toText_keeps (hw : w.Fits L) {v : Value} (hv : w.Supports v) :
    (natives.toText v).Keeps L w fun _ _ => True := by
  have hfresh : (do
      let s ← natives.stringify v
      natives.newObject .string [.text s] : Run ObjectId).Keeps L w fun _ _ => True := by
    apply (stringify_keeps hnatives hw hv).bind
    intro s w₁ hsafe _
    exact (newObject_keeps hnatives .string hsafe.fits (by simp)).mono fun _ _ _ _ => trivial
  unfold toText
  dsimp only
  split
  · apply keeps_read_bind
    split
    · exact keeps_pure hw trivial
    · exact hfresh
  · exact hfresh

theorem makeStruct_keeps (hw : w.Fits L) (name members guarded : Value) :
    (natives.makeStruct name members guarded).Keeps L w fun _ _ => True := by
  unfold makeStruct
  apply keeps_world_bind
  apply keeps_lift_bind hw
  intro shape _
  apply (Behaviour.declareStruct_keeps hw shape).bind
  intro T w₁ hsafe _
  exact (newObject_keeps hnatives T hsafe.fits (by simp)).mono fun _ _ _ _ => trivial

theorem newStruct_keeps (hw : w.Fits L) (prototype : Value) {data : Option Value}
    (hdata : ∀ v, data = some v → w.Supports v) :
    (natives.newStruct prototype data).Keeps L w fun _ _ => True := by
  unfold newStruct
  split
  · next o =>
    apply keeps_read_bind
    split
    · exact keeps_raise hw _
    · have hargs : w.SupportsAll [.object o] := by simp
      -- The clone is new, so that nothing in it is sealed.
      apply (newObject_keeps hnatives _ hw hargs).bind
      intro clone w₁ hsafe hclone
      apply keeps_read_bind
      split
      · exact keeps_pure hsafe.fits trivial
      · exact keeps_pure hsafe.fits trivial
      · next data' _ hdata' =>
        obtain ⟨v, hv, rfl⟩ := Option.map_eq_some_iff.mp hdata'
        have hvalue := hsafe.fits.wellFormed.unwrap ((hdata v hv).later hsafe.later)
        apply (Behaviour.assignMembers_keeps hsafe.fits hclone hvalue).bind
        intro _ w₂ hsafe₂ _
        exact keeps_pure hsafe₂.fits trivial
  · exact keeps_raise hw _

theorem newModule_keeps (hw : w.Fits L) (name : String) {entries : Bindings Value}
    (hentries : w.Supports (.dict entries)) :
    (natives.newModule name entries).Keeps L w fun _ _ => True :=
  (newObject_keeps hnatives .module hw (by simp [hentries])).mono fun _ _ _ _ => trivial

end Natives

end natives

end DynamicObjects
