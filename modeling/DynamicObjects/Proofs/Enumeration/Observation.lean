import DynamicObjects.Proofs.Enumeration.Conversion
import DynamicObjects.Proofs.Enumeration.Equality
import DynamicObjects.Proofs.Struct.Assignment
import DynamicObjects.Proofs.Text.Characters

/-! # What shows of an enumeration

    The entries of a mapping are enumerated when it is compared, converted to an array,
    joined, made a module of, or assigned to the members of a struct.  None of this tells
    in which order they come.

    The argument:
    1. Arrays and joined texts are made of the names, which are sorted first.
    2. Modules and struct objects are given all entries, converted one after the other.
       In another order the new objects are others, and all else is alike.
    3. The members of a struct are all checked before any of them is written, so that the
       order decides at most which unknown member is named in the fault.

    Main results:
    - `World.Isomorphic.module`, `World.Isomorphic.assignMembers`: what is made of entries
    - `World.enumeration_unobservable`: all of it together -/

namespace DynamicObjects

/-! ## How runs end -/

/-- Two runs from worlds that are alike **end alike**: both with results that are related,
    or both with faults that are, in worlds that are isomorphic.  Old objects keep their
    partners; new ones are paired with new ones. -/
inductive Outcome.EndAlike {α : Type} (r : Renaming) (R : Renaming → α → α → Prop)
    (F : Fault → Fault → Prop) : Outcome α → Outcome α → Prop where
  | done {r₁ : Renaming} {a a' : α} {w₁ w₁' : World} (hle : r ≤ r₁)
      (hworlds : w₁.Isomorphic r₁ w₁') (h : R r₁ a a') :
      EndAlike r R F (.done a w₁) (.done a' w₁')
  | raised {r₁ : Renaming} {f f' : Fault} {w₁ w₁' : World} (hle : r ≤ r₁)
      (hworlds : w₁.Isomorphic r₁ w₁') (h : F f f') :
      EndAlike r R F (.raised f w₁) (.raised f' w₁')

/-- A new module, the attributes that are **read** of it afterwards, and the names that are
    bound in it. -/
def Host.moduleReadings (host : Host) (name bindings : Value) (names : List String) :
    Run (ObjectId × List (Except Fault Value) × List String) := do
  let o ← host.natives.newObject .module [name, bindings]
  let found ← host.readings o names
  let bound ← Run.read fun w => w.moduleAttributes o
  return (o, found, bound)

/-- Modules that are paired, with attributes that are alike under the same names. -/
structure ModulesAlike (r : Renaming)
    (a a' : ObjectId × List (Except Fault Value) × List String) : Prop where
  pairs : r.Pairs a.1 a'.1
  found : List.Forall₂ (ReadAlike r) a.2.1 a'.2.1
  bound_eq : a.2.2 = a'.2.2

/-- **One fault or one of several**: member data may have more than one fault, and either
    run may report any of them. -/
inductive World.FaultAlike (w : World) (o : ObjectId) (data : Value) : Fault → Fault → Prop where
  | same (f : Fault) : FaultAlike w o data f f
  | several {shape : StructShape} {f f' : Fault} (hshape : (w.typeOf o).shape = some shape)
      (hf : Behaviour.DataFault w shape data f) (hf' : Behaviour.DataFault w shape data f') :
      FaultAlike w o data f f'

/-! ## What is computed on the way -/

namespace Behaviour

/-- Names that are **joined** are first made strings of, and shown as they are. -/
theorem join_texts {natives : Natives} {w : World} {v : Value} {texts : List String}
    (hlist : w.elements? v = some (texts.map .text)) (s : ObjectId) :
    TextMethod.join.invoke natives s [v] w =
      newText (String.intercalate
        (Rendering.textOf (w.toObject (.list (texts.map .text))).2 s) texts)
        (w.toObject (.list (texts.map .text))).2 := by
  obtain ⟨os, w₁, lo, hi, hiterated, hgrows, hos, -⟩ := exists_iterated_all hlist
  have hworld : w₁ = (w.toObject (.list (texts.map .text))).2 := by
    rw [iterated, World.toArray?, hlist, Option.map_some] at hiterated
    exact (Outcome.done.inj hiterated).2.symm
  have htexts : List.Forall₂ w.IsText (texts.map .text) texts :=
    List.forall₂_map_left_iff.mpr (List.forall₂_same.mpr fun text _ => .raw text)
  have hshown : stringifyAll natives (os.map .object) w₁ = .done texts w₁ :=
    stringifyAll_texts (World.forall₂_isText htexts hgrows hos)
  rw [TextMethod.invoke, Arguments.one]
  simp only [Run.bind_apply, Run.lift_ok, hiterated, Run.read_apply, hshown]
  rw [hworld]

end Behaviour

/-- **A module** is made as soon as its name is a text and its bindings are a mapping. -/
theorem Natives.newObject_module (natives : Natives) {w : World} {name bindings : Value}
    {entries : Bindings Value} (hbindings : w.unwrap bindings = .dict entries) :
    natives.newObject .module [name, bindings] w =
      match Behaviour.moduleNameArgument (w.add (.bare .module)).2 name with
      | .error f => .raised f (w.add (.bare .module)).2
      | .ok name => .done ⟨w.heap.size⟩ (w.moduleMade name entries) := by
  have hslot : TypeDescriptor.module.slots .init = some (.construct .module) := rfl
  have hallocate : w.allocate .module = w.add (.bare .module) := rfl
  have hentries : Behaviour.moduleBindings (w.add (.bare .module)).2 bindings = .ok entries := by
    have hgrows : w.Grows (w.add (.bare .module)).2 :=
      ⟨(World.later_add w _).size_le, fun ho => World.object?_add_old w _ ho, rfl⟩
    rw [Behaviour.moduleBindings, hgrows.unwrap_eq hbindings fun o ho => by cases ho]
  simp only [newObject, hslot, runInitializer, Initializer.run, Behaviour.constructModule,
    Run.bind_apply, Run.step_apply, Run.read_apply, id_eq, hallocate]
  cases hname : Behaviour.moduleNameArgument (w.add (.bare .module)).2 name with
  | error f => rfl
  | ok text =>
    simp only [Run.lift_ok, hentries]
    rfl

namespace World

section alike
variable {r : Renaming} {w w' : World} {v v' : Value} {o p : ObjectId}
  {entries entries' : Bindings Value}

/-- What is like **a mapping** is one. -/
theorem Alike.exists_unwrap_dict (h : w.Alike r w') (hv : v.Alike r v')
    (hdict : w.unwrap v = .dict entries) :
    ∃ entries', w'.unwrap v' = .dict entries' ∧ Bindings.Alike r entries entries' := by
  have hunwrap := h.unwrap hv
  rw [hdict] at hunwrap
  cases hv' : w'.unwrap v' with
  | dict entries' =>
    rw [hv'] at hunwrap
    exact ⟨entries', rfl, Value.alike_dict.mp hunwrap⟩
  | _ =>
    rw [hv'] at hunwrap
    cases hunwrap

theorem alike_texts (texts : List String) :
    (Value.list (texts.map .text)).Alike r (.list (texts.map .text)) := by
  apply Value.alike_list.mpr
  apply List.forall₂_same.mpr
  intro u hu
  obtain ⟨text, -, rfl⟩ := List.mem_map.mp hu
  exact .text text

theorem Alike.moduleNameArgument_eq (h : w.Alike r w') (hv : v.Alike r v') :
    Behaviour.moduleNameArgument w v = Behaviour.moduleNameArgument w' v' := by
  have hunwrap := h.unwrap hv
  have hkind := h.kindName_eq hunwrap
  rw [Behaviour.moduleNameArgument, Behaviour.moduleNameArgument]
  generalize w.unwrap v = u at hunwrap hkind ⊢
  generalize w'.unwrap v' = u' at hunwrap hkind ⊢
  cases hunwrap with
  | text name => rfl
  | _ =>
    exact congrArg (fun kind => Except.error (Fault.argumentType "module" "a string" kind)) hkind

/-- **The same module** comes of mappings that are alike. -/
theorem Alike.moduleMade (h : w.Alike r w') (hentries : Bindings.Alike r entries entries')
    (name : String) : GiveAlike r w w' (⟨w.heap.size⟩, w.moduleMade name entries)
      (⟨w'.heap.size⟩, w'.moduleMade name entries') := by
  obtain ⟨r₁, hadd, hnew⟩ := h.add (Object.alike_bare .module)
  obtain ⟨r₂, hconverted, hobjects⟩ := hadd.alike.toEntries (hentries.mono hadd.le)
  have hnew := hnew.mono hconverted.le
  have hnamed := hconverted.alike.setProperty hnew declaredName (.text name)
  have hbound := hnamed.alike.setProperty hnew namespaceName (Value.alike_dict.mpr hobjects)
  exact ⟨r₂, ((hadd.trans hconverted).trans hnamed).trans hbound, hnew⟩

/-- **The same members** are published. -/
theorem Alike.published (h : w.Alike r w') (hop : r.Pairs o p)
    (hentries : Bindings.Alike r entries entries') :
    ∃ r₁, InStep r w w' r₁ (Behaviour.published w o entries)
      (Behaviour.published w' p entries') := by
  have hwindow : InStep r w w' r (w.setUnderConstruction o true)
      (w'.setUnderConstruction p true) :=
    h.update hop fun hxy => ⟨hxy.type_eq, hxy.properties, hxy.isInstance_eq, rfl⟩
  obtain ⟨r₁, hconverted, hobjects⟩ := hwindow.alike.toEntries hentries
  have hpublished : InStep r₁ _ _ r₁ (Behaviour.published w o entries)
      (Behaviour.published w' p entries') :=
    hconverted.alike.update (hop.mono hconverted.le) fun hxy =>
      ⟨hxy.type_eq, hxy.properties.setAll hobjects, rfl, rfl⟩
  exact ⟨r₁, (hwindow.trans hconverted).trans hpublished⟩

/-- A window that has been opened is **closed again** on both sides. -/
theorem Alike.closed (h : w.Alike r w') (hop : r.Pairs o p) :
    InStep r w w' r ((w.setUnderConstruction o true).setUnderConstruction o false)
      ((w'.setUnderConstruction p true).setUnderConstruction p false) := by
  have hopened : InStep r w w' r (w.setUnderConstruction o true)
      (w'.setUnderConstruction p true) :=
    h.update hop fun hxy => ⟨hxy.type_eq, hxy.properties, hxy.isInstance_eq, rfl⟩
  exact hopened.trans (hopened.alike.update hop fun hxy =>
    ⟨hxy.type_eq, hxy.properties, hxy.isInstance_eq, rfl⟩)

end alike

/-! ## Each use of a mapping -/

section uses
variable {r r₁ : Renaming} {w w' w₁ w₁' : World} {v v' : Value} {entries : Bindings Value}
  {α : Type} {R : Renaming → α → α → Prop} {F : Fault → Fault → Prop}

theorem InStep.done (hstep : InStep r w w' r₁ w₁ w₁') (hw : w.Isomorphic r w') {a a' : α}
    (h : R r₁ a a') : Outcome.EndAlike r R F (.done a w₁) (.done a' w₁') :=
  .done hstep.le (hstep.isomorphic hw) h

theorem InStep.raised (hstep : InStep r w w' r₁ w₁ w₁') (hw : w.Isomorphic r w') {f f' : Fault}
    (h : F f f') : Outcome.EndAlike r R F (.raised f w₁) (.raised f' w₁') :=
  .raised hstep.le (hstep.isomorphic hw) h

variable (hw : w.Isomorphic r w') (hv : v.Alike r v') (hdict : w.unwrap v = .dict entries)
include hw hv hdict

/-- The names are the **elements**, in the same order. -/
theorem Isomorphic.elements?_eq :
    w.elements? v = some ((Bindings.sortedNames entries).map .text) ∧
      w'.elements? v' = some ((Bindings.sortedNames entries).map .text) := by
  obtain ⟨entries', hdict', hentries⟩ := hw.exists_unwrap_dict hv hdict
  exact ⟨by rw [World.elements?, hdict],
    by rw [World.elements?, hdict', hentries.sortedNames_eq]⟩

/-- **Arrays** of the names. -/
theorem Isomorphic.toArray? : ∃ o w₁ o' w₁', w.toArray? v = some (o, w₁) ∧
    w'.toArray? v' = some (o', w₁') ∧
    Outcome.EndAlike r Renaming.Pairs Eq (.done o w₁) (.done o' w₁') := by
  obtain ⟨helements, helements'⟩ := hw.elements?_eq hv hdict
  rw [World.toArray?, World.toArray?, helements, helements']
  obtain ⟨r₁, hstep, hnew⟩ := hw.toAlike.toObject (alike_texts (Bindings.sortedNames entries))
  exact ⟨_, _, _, _, rfl, rfl, hstep.done hw hnew⟩

/-- **Texts** that are joined of the names. -/
theorem Isomorphic.join (natives : Natives) {s s' : ObjectId} (hs : r.Pairs s s') :
    Outcome.EndAlike r Value.Alike Eq (TextMethod.join.invoke natives s [v] w)
      (TextMethod.join.invoke natives s' [v'] w') := by
  obtain ⟨helements, helements'⟩ := hw.elements?_eq hv hdict
  rw [Behaviour.join_texts helements, Behaviour.join_texts helements']
  obtain ⟨r₁, hstep, -⟩ := hw.toAlike.toObject (alike_texts (Bindings.sortedNames entries))
  -- The separator is old, so that it is still the same text.
  rw [hstep.alike.textOf_eq (hs.mono hstep.le)]
  obtain ⟨r₂, hjoined, hnew⟩ := hstep.alike.toObject (.text _)
  exact (hstep.trans hjoined).done hw (.object hnew)

/-- **Modules** of the bindings, and what is read of them. -/
theorem Isomorphic.module (host : Host) {n n' : Value} (hn : n.Alike r n') (names : List String) :
    Outcome.EndAlike r ModulesAlike Eq (host.moduleReadings n v names w)
      (host.moduleReadings n' v' names w') := by
  obtain ⟨entries', hdict', hentries⟩ := hw.exists_unwrap_dict hv hdict
  obtain ⟨r₁, hadd, -⟩ := hw.toAlike.add (Object.alike_bare .module)
  have hname := hadd.alike.moduleNameArgument_eq (hn.mono hadd.le)
  simp only [Host.moduleReadings, Run.bind_apply, Natives.newObject_module _ hdict,
    Natives.newObject_module _ hdict', hname]
  cases Behaviour.moduleNameArgument (w'.add (.bare .module)).2 n' with
  | error f => exact hadd.raised hw rfl
  | ok text =>
    -- The names are bound in another order, to objects that are paired all the same.
    obtain ⟨r₂, hmade, hnew⟩ := hw.toAlike.moduleMade hentries text
    have hstore : ((w.moduleMade text entries).typeOf ⟨w.heap.size⟩).slots .getAttr =
        some (.getAttr .moduleNames) := by
      rw [typeOf_moduleMade]
      rfl
    obtain ⟨found, found', hfound, hfound', hreads⟩ :=
      hmade.alike.readings hnew host hstore names
    simp only [hfound, hfound', Run.read_apply, Run.pure_apply]
    exact hmade.done hw ⟨hnew, hreads, hmade.alike.moduleAttributes_eq hnew⟩

/-- **Members** that are assigned from the entries. -/
theorem Isomorphic.assignMembers {o o' : ObjectId} (ho : r.Pairs o o') :
    Outcome.EndAlike r (fun _ _ _ => True) (w.FaultAlike o v) (Behaviour.assignMembers o v w)
      (Behaviour.assignMembers o' v' w') := by
  obtain ⟨entries', hdict', hentries⟩ := hw.exists_unwrap_dict hv hdict
  have htype := hw.typeOf_eq ho
  cases hshape : (w.typeOf o).shape with
  | none =>
    have hraised : ∀ {u : World} {q : ObjectId} {data : Value}, (u.typeOf q).shape = none →
        Behaviour.assignMembers q data u = .raised (.notStruct (u.typeName q)) u := by
      intro u q data hnone
      simp only [Behaviour.assignMembers, World.shapeOf, hnone, Run.bind_apply, Run.read_apply,
        id_eq, Run.lift_error]
    rw [hraised hshape, hraised (htype ▸ hshape), hw.typeName_eq ho]
    exact hw.toAlike.inStep_refl.raised hw (.same _)
  | some shape =>
    have hshape' : (w'.typeOf o').shape = some shape := htype ▸ hshape
    rw [Behaviour.assignMembers_eq hshape, Behaviour.assignMembers_eq hshape',
      Behaviour.memberData_eq_ok_iff.mpr (.dict hdict),
      Behaviour.memberData_eq_ok_iff.mpr (.dict hdict')]
    have hwindow := Behaviour.underConstruction_window hshape
    have hwindow' := Behaviour.underConstruction_window hshape'
    have hnames : ∀ {name}, name ∈ Bindings.names entries ↔ name ∈ Bindings.names entries' :=
      hentries.values.mem_names_iff
    dsimp only
    cases hchecked : Behaviour.checkMembers (w.setUnderConstruction o true) o shape entries with
    | ok _ =>
      have hmembers := (Behaviour.checkMembers_eq_ok_iff hwindow).mp hchecked
      rw [(Behaviour.checkMembers_eq_ok_iff hwindow').mpr fun name hname =>
        hmembers name (hnames.mpr hname)]
      obtain ⟨r₁, hpublished⟩ := hw.toAlike.published ho hentries
      exact hpublished.done hw trivial
    | error f =>
      obtain ⟨name, hname, hunknown, rfl⟩ :=
        Behaviour.exists_of_checkMembers_eq_error hwindow hchecked
      -- The same name is unknown on the other side, though another one may be met first.
      cases hchecked' :
          Behaviour.checkMembers (w'.setUnderConstruction o' true) o' shape entries' with
      | ok _ =>
        have hmember := (Behaviour.checkMembers_eq_ok_iff hwindow').mp hchecked' name
          (hnames.mp hname)
        rw [hunknown] at hmember
        cases hmember
      | error f' =>
        obtain ⟨name', hname', hunknown', rfl⟩ :=
          Behaviour.exists_of_checkMembers_eq_error hwindow' hchecked'
        exact (hw.toAlike.closed ho).raised hw (.several hshape (.unknown hdict hname hunknown)
          (.unknown hdict (hnames.mpr hname') hunknown'))

end uses

/-! ## All uses -/

/-- Two worlds **hide the enumeration** of a mapping that is in one order in the first and
    in another one in the second: whatever it is used for ends alike. -/
structure HidesEnumeration (host : Host) (r : Renaming) (w : World) (v : Value) (w' : World)
    (v' : Value) : Prop where
  /-- Compared with any value, on either side. -/
  equality : ∀ {u u' : Value}, u.Alike r u' → ∀ {answer answer' : Bool},
    (w.structurallyEqual v u = some answer → w'.structurallyEqual v' u' = some answer' →
      answer = answer') ∧
    (w.structurallyEqual u v = some answer → w'.structurallyEqual u' v' = some answer' →
      answer = answer')
  /-- Made an array of. -/
  array : ∃ o w₁ o' w₁', w.toArray? v = some (o, w₁) ∧ w'.toArray? v' = some (o', w₁') ∧
    Outcome.EndAlike r Renaming.Pairs Eq (.done o w₁) (.done o' w₁')
  /-- Joined by any separator. -/
  join : ∀ {s s' : ObjectId}, r.Pairs s s' →
    Outcome.EndAlike r Value.Alike Eq (TextMethod.join.invoke host.natives s [v] w)
      (TextMethod.join.invoke host.natives s' [v'] w')
  /-- Made a module of, under any name, and read. -/
  module : ∀ {n n' : Value}, n.Alike r n' → ∀ names : List String,
    Outcome.EndAlike r ModulesAlike Eq (host.moduleReadings n v names w)
      (host.moduleReadings n' v' names w')
  /-- Assigned to the members of any object. -/
  assignment : ∀ {o o' : ObjectId}, r.Pairs o o' →
    Outcome.EndAlike r (fun _ _ _ => True) (w.FaultAlike o v) (Behaviour.assignMembers o v w)
      (Behaviour.assignMembers o' v' w')

/-- **Enumeration cannot be observed.**  Let two worlds be isomorphic, and let a mapping in
    the one be like a mapping in the other, which may enumerate its entries, and those of all
    mappings in it, in any order: comparisons that end give one answer, arrays and joined
    texts are the same, modules have the same attributes under the same names, and members
    are assigned in both worlds, to alike values, or in none.  What has been made is paired
    with what has been made, and the worlds are isomorphic again, so that this holds of all
    that follows.  One world and two orders of one mapping are the case of
    `isomorphic_within` and `Bindings.Alike.perm`. -/
theorem enumeration_unobservable (host : Host) {r : Renaming} {w w' : World} {v v' : Value}
    {entries : Bindings Value} (hw : w.Isomorphic r w') (hv : v.Alike r v')
    (hdict : w.unwrap v = .dict entries) : HidesEnumeration host r w v w' v' where
  equality hu := ⟨hw.structurallyEqual_eq hv hu, hw.structurallyEqual_eq hu hv⟩
  array := hw.toArray? hv hdict
  join hs := hw.join hv hdict host.natives hs
  module hn names := hw.module hv hdict host hn names
  assignment ho := hw.assignMembers hv hdict ho

/-- Coordinates of a point, in two orders. -/
def coordinates : Bindings Value := [("x", .int 1), ("y", .dict [("of", .object ⟨3⟩)])]

theorem isomorphic_points : points.Isomorphic (.within points) points := by
  have hnodes : points.nodes =
      [.null, .bool true, .bool false, .text "Point", .text "Point"] := rfl
  apply isomorphic_within
  · constructor
    · rintro ⟨_ | _ | _ | _ | _ | i⟩ x hx <;> cases hx <;> intro entry hentry <;>
        obtain rfl := List.mem_singleton.mp hentry
      · exact supports_null
      · exact supports_bool true
      · exact supports_bool false
      · exact supports_text "Point"
      · exact supports_text "Point"
    · rintro ⟨_ | _ | _ | _ | _ | i⟩ x hx <;> cases hx <;> exact List.nodup_singleton _
  · rw [hnodes]
    simp [Value.IsWithin]
  · rw [hnodes]
    simp [Value.IsIdentified]
  · decide

/-- In the other order the elements become other objects, and nothing shows of that. -/
theorem enumeration_unobservable_points :
    points.Isomorphic (.within points) points ∧
      (Value.dict coordinates).Alike (.within points) (.dict coordinates.reverse) ∧
      points.unwrap (.dict coordinates) = .dict coordinates ∧
      (points.toEntries coordinates).1 = [("x", .object ⟨5⟩), ("y", .object ⟨6⟩)] ∧
      (points.toEntries coordinates.reverse).1 = [("y", .object ⟨5⟩), ("x", .object ⟨6⟩)] ∧
      HidesEnumeration Stock.host (.within points) points (.dict coordinates) points
        (.dict coordinates.reverse) := by
  have hself : (Value.dict coordinates).Alike (.within points) (.dict coordinates) := by
    apply Value.alike_within
    · simp [coordinates, Value.within_dict, points, initial]
    · simp [coordinates, Value.nodes, Value.nodesEntries, Value.IsIdentified]
    · -- The mapping itself is the only one among its nodes.
      intro entries hentries
      simp only [coordinates, Value.nodes, Value.nodesEntries, List.append_nil, List.cons_append,
        List.nil_append, List.mem_cons, List.not_mem_nil, Value.dict.injEq, reduceCtorEq, or_false,
        false_or] at hentries
      rcases hentries with rfl | rfl <;> decide
  have hother : (Value.dict coordinates).Alike (.within points) (.dict coordinates.reverse) :=
    Value.alike_dict.mpr ((Value.alike_dict.mp hself).perm (List.reverse_perm _).symm)
  exact ⟨isomorphic_points, hother, rfl, rfl, rfl,
    enumeration_unobservable Stock.host isomorphic_points hother rfl⟩

end World

end DynamicObjects
