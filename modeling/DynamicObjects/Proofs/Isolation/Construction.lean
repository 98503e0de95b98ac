import DynamicObjects.Catalogue
import DynamicObjects.Proofs.Isolation.Text
import DynamicObjects.Proofs.Struct.Assignment

/-! # Constructions side by side

    A new object goes to the same place in worlds side by side and is given the
    same content.  Which types have been declared makes no difference, not even
    to a declaration. -/

namespace DynamicObjects

open Run

variable {S : Apart} {w w' : World} {this : ObjectId} {args : List Value}

namespace Behaviour

/-! ## Structs -/

theorem constructStruct_follows (hw : w.Beside S w') (hthis : w.Outside S this)
    (hargs : w.ClearAll S args) :
    (constructStruct this args).Oblivious S w w' fun _ _ => True := by
  unfold constructStruct
  apply follows_world_bind
  split
  · apply follows_lift_bind hw (hw.shapeOf_eq hthis)
    intro shape _
    exact follows_modify (hw.setProperty hthis declaredName (Value.within_text _))
  · next o =>
    have ho : w.Outside S o := Value.within_object.mp (hargs _ List.mem_cons_self)
    rw [hw.typeOf_eq hthis, hw.isInstanceOf_eq ho, hw.typeName_eq hthis]
    split
    · apply follows_modify
      rw [hw.object_eq ho]
      exact hw.setProperties hthis (hw.clear_properties o)
    · exact follows_raise hw _
  · rw [hw.typeName_eq hthis]
    exact follows_raise hw _

theorem memberData_eq (h : w.Beside S w') (shape : StructShape) {data : Value}
    (hdata : w.Clear S data) : memberData w' shape data = memberData w shape data := by
  rw [memberData, memberData, h.unwrap_eq hdata]

theorem clear_memberData (h : w.Beside S w') {shape : StructShape} {data : Value}
    (hdata : w.Clear S data) {entries : Bindings Value}
    (hentries : memberData w shape data = .ok entries) :
    ∀ entry ∈ entries, w.Clear S entry.2 := by
  have hvalue := h.clear_unwrap hdata
  cases memberData_eq_ok_iff.mp hentries with
  | dict hdict =>
    rw [hdict] at hvalue
    exact Value.within_dict.mp hvalue
  | list hlist hlength =>
    rw [hlist] at hvalue
    exact fun entry hentry => Value.within_list.mp hvalue _ (List.of_mem_zip hentry).2

theorem checkMembers_eq (h : w.Beside S w') (hthis : w.Outside S this) (shape : StructShape)
    (entries : Bindings Value) :
    checkMembers w' this shape entries = checkMembers w this shape entries := by
  induction entries with
  | nil => rfl
  | cons entry rest ih =>
    rw [checkMembers, checkMembers, h.checkMemberWrite_eq hthis, ih]

theorem assignMembers_follows (hw : w.Beside S w') (hthis : w.Outside S this) {data : Value}
    (hdata : w.Clear S data) :
    (assignMembers this data).Oblivious S w w' fun _ _ => True := by
  unfold assignMembers
  apply follows_world_bind
  apply follows_lift_bind hw (hw.shapeOf_eq hthis)
  intro shape _
  apply follows_lift_bind hw (memberData_eq hw shape hdata)
  intro entries hentries
  have hclear := clear_memberData hw hdata hentries
  apply (follows_modify (hw.setUnderConstruction hthis true)).bind
  intro _ w₁ w₁' hopened _
  have hthis₁ := hopened.outside hthis
  -- Inside the window the members are checked, which leaves everything as it is.
  have hchecked : (do
      let w ← Run.read id
      checkMembers w this shape entries : Run Unit).Oblivious S w₁ w₁' fun _ _ => True :=
    follows_world_bind (follows_lift hopened.beside
      (checkMembers_eq hopened.beside hthis₁ shape entries) fun _ _ => trivial)
  apply hchecked.attempt.bind
  intro result w₂ w₂' hattempted _
  have hthis₂ := hattempted.outside hthis₁
  cases result with
  | error f =>
    apply (follows_modify (hattempted.beside.setUnderConstruction hthis₂ false)).bind
    intro _ w₃ w₃' hclosed _
    exact follows_raise hclosed.beside f
  | ok u =>
    obtain ⟨hfst, hconverted, hobjects⟩ := hattempted.beside.toEntries
      fun entry hentry => hattempted.clear (hopened.clear (hclear entry hentry))
    apply (follows_step (Q := fun w₁ entries => ∀ entry ∈ entries, w₁.Clear S entry.2) hfst
      hconverted hobjects).bind
    intro entries' w₃ w₃' hstepped hentries'
    have hthis₃ := hstepped.outside hthis₂
    apply (follows_modify (hstepped.beside.setProperties hthis₃ hentries')).bind
    intro _ w₄ w₄' hset _
    have hthis₄ := hset.outside hthis₃
    apply (follows_modify (hset.beside.setUnderConstruction hthis₄ false)).bind
    intro _ w₅ w₅' hclosed _
    exact follows_modify (hclosed.beside.markInstance (hclosed.outside hthis₄))

theorem memberName_eq (h : w.Beside S w') {v : Value} (hv : w.Clear S v) :
    memberName w' v = memberName w v := by
  have hvalue := h.clear_unwrap hv
  rw [memberName, memberName, h.unwrap_eq hv]
  split
  · rfl
  · rw [h.kindName_eq hvalue]

theorem memberNames_eq (h : w.Beside S w') {v : Value} (hv : w.Clear S v) :
    memberNames w' v = memberNames w v := by
  have hvalue := h.clear_unwrap hv
  rw [memberNames, memberNames, h.unwrap_eq hv]
  cases hdata : w.unwrap v with
  | list items =>
    rw [hdata] at hvalue
    have hitems := Value.within_list.mp hvalue
    clear hdata hvalue
    change items.mapM (memberName w') = items.mapM (memberName w)
    induction items with
    | nil => rfl
    | cons item rest ih =>
      obtain ⟨hitem, hrest⟩ := List.forall_mem_cons.mp hitems
      rw [List.mapM_cons, List.mapM_cons, memberName_eq h hitem, ih hrest]
  | _ => rfl

theorem declaredShape_eq (h : w.Beside S w') {name members guarded : Value}
    (hname : w.Clear S name) (hmembers : w.Clear S members) (hguarded : w.Clear S guarded) :
    declaredShape w' name members guarded = declaredShape w name members guarded := by
  rw [declaredShape, declaredShape, h.unwrap_eq hname, memberNames_eq h hmembers,
    memberNames_eq h hguarded]

/-- A declaration takes the same identity, one that is not set apart. -/
theorem declareStruct_follows (hw : w.Beside S w') (shape : StructShape) :
    (declareStruct shape).Oblivious S w w' fun w₁ T => w₁.ClearType S T := by
  have hboth := hw.freshIdent.trans
    (hw.freshIdent.beside.declareType (.struct shape (.declared w.nextIdent)))
  refine follows_step ?_ ?_ ⟨fun _ ho => absurd ho List.not_mem_nil, fun n hn => ?_⟩
  · simp only [World.freshIdent, hw.nextIdent_eq]
  · simp only [World.freshIdent, hw.nextIdent_eq] at hboth ⊢
    exact hboth
  · obtain rfl := TypeId.declared.inj hn
    exact ⟨Nat.lt_succ_self _, fun hS => Nat.lt_irrefl _ (hw.ident_lt hS)⟩

/-! ## Modules -/

theorem moduleNameArgument_eq (h : w.Beside S w') {v : Value} (hv : w.Clear S v) :
    moduleNameArgument w' v = moduleNameArgument w v := by
  have hvalue := h.clear_unwrap hv
  rw [moduleNameArgument, moduleNameArgument, h.unwrap_eq hv]
  split
  · rfl
  · rw [h.kindName_eq hvalue]

theorem moduleBindings_eq (h : w.Beside S w') {v : Value} (hv : w.Clear S v) :
    moduleBindings w' v = moduleBindings w v := by
  have hvalue := h.clear_unwrap hv
  rw [moduleBindings, moduleBindings, h.unwrap_eq hv]
  split
  · rfl
  · rw [h.kindName_eq hvalue]

theorem fillModule_follows (hw : w.Beside S w') (hthis : w.Outside S this) (name : String)
    {entries : Bindings Value} (hentries : ∀ entry ∈ entries, w.Clear S entry.2) :
    (fillModule this name entries).Oblivious S w w' fun _ _ => True := by
  unfold fillModule
  obtain ⟨hfst, hconverted, hobjects⟩ := hw.toEntries hentries
  apply (follows_step (Q := fun w₁ entries => ∀ entry ∈ entries, w₁.Clear S entry.2) hfst
    hconverted hobjects).bind
  intro entries' w₁ w₁' honward hentries'
  have hthis₁ := honward.outside hthis
  have hnamed := honward.beside.setProperty hthis₁ declaredName (Value.within_text name)
  have hclear : (w₁.setProperty this declaredName (.text name)).Clear S (.dict entries') :=
    Value.within_dict.mpr fun entry hentry => hnamed.clear (hentries' entry hentry)
  exact follows_modify (hnamed.trans
    (hnamed.beside.setProperty (hnamed.outside hthis₁) namespaceName hclear))

theorem constructModule_follows (hw : w.Beside S w') (hthis : w.Outside S this)
    (hargs : w.ClearAll S args) :
    (constructModule this args).Oblivious S w w' fun _ _ => True := by
  unfold constructModule
  apply follows_world_bind
  split
  · next v =>
    apply follows_lift_bind hw (moduleNameArgument_eq hw (hargs v List.mem_cons_self))
    intro name _
    exact fillModule_follows hw hthis name fun entry hentry => absurd hentry List.not_mem_nil
  · next v bindings =>
    have hbindings : w.Clear S bindings := hargs bindings (by simp)
    apply follows_lift_bind hw (moduleNameArgument_eq hw (hargs v List.mem_cons_self))
    intro name _
    apply follows_lift_bind hw (moduleBindings_eq hw hbindings)
    intro entries hentries
    have hvalue := hw.clear_unwrap hbindings
    unfold moduleBindings at hentries
    split at hentries
    · -- The bindings are what the second argument holds.
      next entries' hdata =>
      obtain rfl := Except.ok.inj hentries
      rw [hdata] at hvalue
      exact fillModule_follows hw hthis name (Value.within_dict.mp hvalue)
    · cases hentries
  · exact follows_raise hw _

/-! ## Numbers -/

theorem integerOf_eq (h : w.Beside S w') {v : Value} (hv : w.Clear S v) :
    integerOf w' v = integerOf w v := by
  unfold integerOf
  split
  case h_5 => rw [h.kindName_eq hv]
  all_goals rfl

theorem integerFrom_eq (h : w.Beside S w') (hargs : w.ClearAll S args) :
    integerFrom w' args = integerFrom w args := by
  cases args with
  | nil => rfl
  | cons v rest =>
    have hv := hargs v List.mem_cons_self
    rw [integerFrom, integerFrom, h.unwrap_eq hv, integerOf_eq h (h.clear_unwrap hv)]

theorem floatOf_eq (h : w.Beside S w') {v : Value} (hv : w.Clear S v) :
    floatOf w' v = floatOf w v := by
  unfold floatOf
  split
  case h_5 => rw [h.kindName_eq hv]
  all_goals rfl

theorem floatFrom_eq (h : w.Beside S w') (hargs : w.ClearAll S args) :
    floatFrom w' args = floatFrom w args := by
  cases args with
  | nil => rfl
  | cons v rest =>
    have hv := hargs v List.mem_cons_self
    rw [floatFrom, floatFrom, h.unwrap_eq hv, floatOf_eq h (h.clear_unwrap hv)]

theorem componentOf_eq (h : w.Beside S w') {v : Value} (hv : w.Clear S v) :
    componentOf w' v = componentOf w v := by
  rw [componentOf, componentOf, h.kindName_eq hv]

theorem complexFrom_eq (h : w.Beside S w') (hargs : w.ClearAll S args) :
    complexFrom w' args = complexFrom w args := by
  match args with
  | [] => rfl
  | [v] =>
    have hv := hargs v List.mem_cons_self
    have hvalue := h.clear_unwrap hv
    rw [complexFrom, complexFrom, h.unwrap_eq hv]
    split
    · rfl
    · rw [componentOf_eq h hvalue]
  | [re, im] =>
    have hre := hargs re List.mem_cons_self
    have him := hargs im (List.mem_cons_of_mem _ List.mem_cons_self)
    rw [complexFrom, complexFrom, h.unwrap_eq hre, h.unwrap_eq him,
      componentOf_eq h (h.clear_unwrap hre), componentOf_eq h (h.clear_unwrap him)]
  | _ :: _ :: _ :: _ => rfl

end Behaviour

/-! ## Initializers -/

namespace Initializer

theorem itemsFrom_eq (h : w.Beside S w') (hargs : w.ClearAll S args) :
    itemsFrom w' args = itemsFrom w args := by
  cases args with
  | nil => rfl
  | cons v rest =>
    have hv := hargs v List.mem_cons_self
    have hvalue := h.clear_unwrap hv
    rw [itemsFrom, itemsFrom, h.unwrap_eq hv]
    split
    · rfl
    · rw [h.kindName_eq hvalue]

theorem clearAll_itemsFrom (h : w.Beside S w') (hargs : w.ClearAll S args) {items : List Value}
    (hitems : itemsFrom w args = .ok items) : w.ClearAll S items := by
  unfold itemsFrom at hitems
  split at hitems
  · obtain rfl := Except.ok.inj hitems
    exact fun v hv => absurd hv List.not_mem_nil
  · next v rest =>
    have hvalue := h.clear_unwrap (hargs v List.mem_cons_self)
    split at hitems
    · next items' hdata =>
      obtain rfl := Except.ok.inj hitems
      rw [hdata] at hvalue
      exact Value.within_list.mp hvalue
    · cases hitems

theorem functionFrom_eq (h : w.Beside S w') (hargs : w.ClearAll S args) :
    functionFrom w' args = functionFrom w args := by
  rw [functionFrom, functionFrom]
  cases hone : Arguments.one "function" args with
  | error f => rfl
  | ok v =>
    have hv := hargs v (Arguments.mem_of_one hone)
    have hvalue := h.clear_unwrap hv
    simp only [bind, Except.bind]
    rw [h.unwrap_eq hv]
    split
    · rfl
    · rw [h.kindName_eq hvalue]

theorem clear_functionFrom (h : w.Beside S w') (hargs : w.ClearAll S args) {f : Value}
    (hf : functionFrom w args = .ok f) : w.Clear S f := by
  unfold functionFrom at hf
  cases hone : Arguments.one "function" args with
  | error fault =>
    rw [hone] at hf
    cases hf
  | ok v =>
    have hvalue := h.clear_unwrap (hargs v (Arguments.mem_of_one hone))
    rw [hone] at hf
    simp only [bind, Except.bind] at hf
    split at hf
    · next g hdata =>
      obtain rfl := Except.ok.inj hf
      rw [hdata] at hvalue
      exact hvalue
    · cases hf

end Initializer

section natives
variable {natives : Natives} (hnatives : natives.Oblivious S)
include hnatives

theorem Initializer.textFrom_follows (hw : w.Beside S w') (hargs : w.ClearAll S args) :
    (textFrom natives args).Oblivious S w w' fun _ _ => True := by
  unfold textFrom
  apply follows_world_bind
  split
  · exact follows_pure hw trivial
  · exact follows_pure hw trivial
  · next o rest =>
    have hv := hargs _ List.mem_cons_self
    have ho : w.Outside S o := Value.within_object.mp hv
    rw [hw.isInstanceOf_eq ho, hw.textOf_eq ho]
    split
    · exact follows_pure hw trivial
    · exact Natives.render_follows hnatives hw .plain hv
  · exact Natives.render_follows hnatives hw .plain (hargs _ List.mem_cons_self)

/-- **Initializers** give a new object the same content. -/
theorem Initializer.run_follows (how : Initializer) (hw : w.Beside S w')
    (hthis : w.Outside S this) (hargs : w.ClearAll S args) :
    (how.run natives this args).Oblivious S w w' fun _ _ => True := by
  have hstore : ∀ {w₁ w₁' : World} {v : Value}, w.Onward S w₁ w₁' → w₁.Clear S v →
      (Run.modify fun w => w.setPayload this v).Oblivious S w₁ w₁' fun _ _ => True :=
    fun honward hv =>
      follows_modify (honward.beside.setProperty (honward.outside hthis) payloadName hv)
  -- All initializers end by storing a payload; what differs is where it comes from.
  unfold Initializer.run
  apply follows_world_bind
  cases how with
  | ignore => exact follows_pure hw trivial
  | null => exact hstore hw.refl Value.within_null
  | bool =>
    cases args with
    | nil => exact hstore hw.refl (Value.within_bool _)
    | cons v rest =>
      dsimp only
      rw [hw.truth_eq (hargs v List.mem_cons_self)]
      apply (follows_ofTerminating hw fun _ h => h).bind
      intro b w₁ w₁' honward _
      exact hstore honward (Value.within_bool _)
  | integer =>
    exact follows_lift_bind hw (Behaviour.integerFrom_eq hw hargs)
      fun n _ => hstore hw.refl (Value.within_int n)
  | float =>
    exact follows_lift_bind hw (Behaviour.floatFrom_eq hw hargs)
      fun x _ => hstore hw.refl (Value.within_float x)
  | complex =>
    exact follows_lift_bind hw (Behaviour.complexFrom_eq hw hargs)
      fun z _ => hstore hw.refl (Value.within_complex z)
  | text =>
    apply (textFrom_follows hnatives hw hargs).bind
    intro s w₁ w₁' honward _
    exact hstore honward (Value.within_text s)
  | array =>
    apply follows_lift_bind hw (itemsFrom_eq hw hargs)
    intro items hitems
    obtain ⟨hfst, hconverted, hobjects⟩ := hw.toObjects (clearAll_itemsFrom hw hargs hitems)
    apply (follows_step (Q := World.ClearAll S) hfst hconverted hobjects).bind
    intro items' w₁ w₁' honward hitems'
    exact hstore honward (Value.within_list.mpr hitems')
  | module => exact Behaviour.constructModule_follows hw hthis hargs
  | struct => exact Behaviour.constructStruct_follows hw hthis hargs
  | function =>
    exact follows_lift_bind hw (functionFrom_eq hw hargs)
      fun f hf => hstore hw.refl (clear_functionFrom hw hargs hf)
  | wrapper =>
    exact follows_lift_bind hw rfl fun v h => hstore hw.refl (hargs v (Arguments.mem_of_one h))

namespace Natives

theorem runInitializer_follows (h : Handler .init) (hw : w.Beside S w')
    (hthis : w.Outside S this) (hargs : w.ClearAll S args) :
    (natives.runInitializer h this args).Oblivious S w w' (World.Clear S) := by
  unfold runInitializer
  split
  · exact hnatives _ _ _ _ _ hw hthis hargs
  · apply (Initializer.run_follows hnatives _ hw hthis hargs).bind
    intro _ w₁ w₁' honward _
    exact follows_pure honward.beside Value.within_null

/-- **Constructions** make the same object. -/
theorem newObject_follows {T : TypeDescriptor} (hw : w.Beside S w') (hT : w.ClearType S T)
    (hargs : w.ClearAll S args) :
    (natives.newObject T args).Oblivious S w w' (World.Outside S) := by
  unfold newObject
  have hallocate : (Run.step fun w => w.allocate T).Oblivious S w w' (World.Outside S) :=
    follows_step (hw.allocate hT).1 (hw.allocate hT).2 (hw.outside_allocate T)
  apply hallocate.bind
  intro o w₁ w₁' honward ho
  split
  · exact follows_pure honward.beside ho
  · apply (runInitializer_follows hnatives _ honward.beside ho (honward.clearAll hargs)).bind
    intro _ w₂ w₂' honward₂ _
    exact follows_pure honward₂.beside (honward₂.outside ho)

/-- The builtin types share no objects, so that their objects can be made
    anywhere. -/
theorem newObject_builtin_follows {T : TypeDescriptor} (hT : T ∈ TypeDescriptor.builtins)
    (hw : w.Beside S w') (hargs : w.ClearAll S args) :
    (natives.newObject T args).Oblivious S w w' (World.Outside S) :=
  newObject_follows hnatives hw (World.clearType_builtin hT) hargs

theorem toText_follows (hw : w.Beside S w') {v : Value} (hv : w.Clear S v) :
    (natives.toText v).Oblivious S w w' (World.Outside S) := by
  have hfresh : (do
      let s ← natives.stringify v
      natives.newObject .string [.text s] : Run ObjectId).Oblivious S w w' (World.Outside S) := by
    apply (render_follows hnatives hw .plain hv).bind
    intro s w₁ w₁' honward _
    exact newObject_builtin_follows hnatives (by simp [TypeDescriptor.builtins]) honward.beside
      (List.forall_mem_singleton.mpr (Value.within_text s))
  unfold toText
  dsimp only
  split
  · next o =>
    have ho : w.Outside S o := Value.within_object.mp hv
    apply follows_read_bind
    rw [hw.typeOf_eq ho]
    split
    · -- A string is given back as it is, on both sides.
      exact follows_pure hw ho
    · exact hfresh
  · exact hfresh

theorem makeStruct_follows (hw : w.Beside S w') {name members guarded : Value}
    (hname : w.Clear S name) (hmembers : w.Clear S members) (hguarded : w.Clear S guarded) :
    (natives.makeStruct name members guarded).Oblivious S w w' (World.Outside S) := by
  unfold makeStruct
  apply follows_world_bind
  apply follows_lift_bind hw (Behaviour.declaredShape_eq hw hname hmembers hguarded)
  intro shape _
  apply (Behaviour.declareStruct_follows hw shape).bind
  intro T w₁ w₁' honward hT
  exact newObject_follows hnatives honward.beside hT fun v hv => absurd hv List.not_mem_nil

theorem newStruct_follows (hw : w.Beside S w') {prototype : Value}
    (hprototype : w.Clear S prototype) {data : Option Value}
    (hdata : ∀ v, data = some v → w.Clear S v) :
    (natives.newStruct prototype data).Oblivious S w w' (World.Outside S) := by
  unfold newStruct
  split
  · next o =>
    have ho : w.Outside S o := Value.within_object.mp hprototype
    apply follows_read_bind
    rw [hw.typeOf_eq ho]
    split
    · exact follows_raise hw _
    · have hargs : w.ClearAll S [.object o] := List.forall_mem_singleton.mpr hprototype
      apply (newObject_follows hnatives hw (hw.clear_typeOf o) hargs).bind
      intro clone w₁ w₁' honward hclone
      have hunwrapped : data.map w₁'.unwrap = data.map w₁.unwrap :=
        Option.map_congr fun v hv => honward.beside.unwrap_eq (honward.clear (hdata v hv))
      apply follows_read_bind
      rw [hunwrapped]
      split
      · exact follows_pure honward.beside hclone
      · exact follows_pure honward.beside hclone
      · -- There are member data, which are assigned to the clone.
        next data' _ hdata' =>
        obtain ⟨v, hv, rfl⟩ := Option.map_eq_some_iff.mp hdata'
        have hvalue := honward.beside.clear_unwrap (honward.clear (hdata v hv))
        apply (Behaviour.assignMembers_follows honward.beside hclone hvalue).bind
        intro _ w₂ w₂' honward₂ _
        exact follows_pure honward₂.beside (honward₂.outside hclone)
  · exact follows_raise hw _

theorem newModule_follows (hw : w.Beside S w') (name : String) {entries : Bindings Value}
    (hentries : w.Clear S (.dict entries)) :
    (natives.newModule name entries).Oblivious S w w' (World.Outside S) := by
  refine newObject_builtin_follows hnatives (by simp [TypeDescriptor.builtins]) hw ?_
  exact List.forall_mem_cons.mpr ⟨Value.within_text name, List.forall_mem_singleton.mpr hentries⟩

end Natives

/-! ## Builtin modules -/

namespace Catalogue

theorem structInstance_follows (hw : w.Beside S w') (name : String) {members : Bindings Value}
    (hmembers : ∀ entry ∈ members, w.Clear S entry.2) :
    (structInstance natives name members).Oblivious S w w' (World.Outside S) := by
  have hnames : w.Clear S (.list (members.names.map Value.text)) := by
    refine Value.within_list.mpr fun v hv => ?_
    obtain ⟨member, -, rfl⟩ := List.mem_map.mp hv
    exact Value.within_text member
  have hnone : w.Clear S (.list []) :=
    Value.within_list.mpr fun v hv => absurd hv List.not_mem_nil
  have hvalues : w.Clear S (.list (members.map Prod.snd)) := by
    refine Value.within_list.mpr fun v hv => ?_
    obtain ⟨entry, hentry, rfl⟩ := List.mem_map.mp hv
    exact hmembers entry hentry
  -- Names are texts and refer to nothing; the values have been asked to be clear.
  unfold structInstance
  apply (Natives.makeStruct_follows hnatives hw (Value.within_text name) hnames hnone).bind
  intro prototype w₁ w₁' honward hprototype
  apply Natives.newStruct_follows hnatives honward.beside (Value.within_object.mpr hprototype)
  intro v hv
  obtain rfl := Option.some.inj hv
  exact honward.clear hvalues

theorem nezha_follows (hw : w.Beside S w') :
    (nezha natives).Oblivious S w w' (World.Outside S) := by
  unfold nezha
  apply (structInstance_follows hnatives hw _ (by simp)).bind
  intro aobing w₁ w₁' honward haobing
  apply (structInstance_follows hnatives honward.beside _ (by simp [haobing])).bind
  intro nezha w₂ w₂' honward₂ hnezha
  exact Natives.newModule_follows hnatives honward₂.beside _
    (Value.within_dict.mpr (by simp [hnezha]))

theorem load_follows (hw : w.Beside S w') (name : String) :
    (load natives name).Oblivious S w w' (World.Outside S) := by
  unfold load
  split
  · next build hbuild =>
    obtain rfl : build = nezha := by
      have hmem := Bindings.mem_of_get?_eq_some hbuild
      exact (Prod.mk.inj (List.mem_singleton.mp hmem)).2
    exact nezha_follows hnatives hw
  · exact follows_raise hw _

end Catalogue

end natives

end DynamicObjects
