import DynamicObjects.Proofs.Attribute.Store
import DynamicObjects.Proofs.Types.Declaration

/-! # The members of a new instance

    A new instance of a struct holds the values that it was given, each under the name
    of its member.  Attributes read them back, with two reservations: a name that has
    been declared more than once holds the last one of its values, and a name that
    starts with the mark of properties addresses another property.

    The argument:
    1. Names and values are paired by position, and the last pair of a name counts.
    2. What an instantiation publishes are the conversions of these values.
    3. An attribute is the property of its name unless the name is marked, and a
       property has a marked name always.

    Main results:
    - `Bindings.last?_zip`: which value a name is paired with last
    - `members_read_back`: what attributes give after an instantiation -/

namespace DynamicObjects

/-! ## Pairs of names and values -/

section pairs
variable {α : Type} {names : List String} {values : List α} {name : String} {a : α}

/-- A name is paired last with the value at its last position. -/
theorem Bindings.last?_zip {i : Nat} (hname : names[i]? = some name) (ha : values[i]? = some a)
    (hlast : ∀ j, i < j → names[j]? ≠ some name) :
    Bindings.last? name (names.zip values) = some a := by
  induction names generalizing values i with
  | nil => cases hname
  | cons first rest ih =>
    cases values with
    | nil => cases ha
    | cons b others =>
      rw [List.zip_cons_cons, Bindings.last?]
      cases i with
      | zero =>
        obtain rfl := Option.some.inj hname
        obtain rfl := Option.some.inj ha
        -- The name is not among the rest.
        have hnone : Bindings.last? first (rest.zip others) = none := by
          rw [Bindings.last?_eq_none_iff, Bindings.mem_names]
          rintro ⟨c, hc⟩
          obtain ⟨j, hj⟩ := List.mem_iff_getElem?.mp (List.of_mem_zip hc).1
          exact hlast (j + 1) (Nat.succ_pos j) hj
        rw [hnone, if_pos rfl, Option.none_or]
      | succ i =>
        rw [ih hname ha fun j hj => hlast (j + 1) (Nat.succ_lt_succ hj), Option.some_or]

end pairs

/-! ## Names with the mark -/

namespace Host

/-- The attribute name that addresses a property, whatever that is called. -/
def marked (name : String) : String := String.ofList (propertyMark ++ name.toList)

theorem markedProperty?_marked (name : String) : markedProperty? (marked name) = some name := by
  rw [markedProperty?, marked, String.toList_ofList, List.take_left, if_pos rfl, List.drop_left,
    String.ofList_toList]

section attributes
variable {host : Host} {w : World} {o : ObjectId} {name : String} {v : Value}

/-- A marked name reads the property. -/
theorem getAttr_marked (hproperty : w.property? o name = some v) :
    host.getAttr o (marked name) w = .done v w := by
  simp only [getAttr, markedProperty?_marked, Run.read_apply, hproperty, Option.getD_some]

/-- In a struct, any other name reads its property, and a member without one is null. -/
theorem getAttr_struct_getD {shape : StructShape} {ident : TypeId}
    (htype : w.typeOf o = .struct shape ident) (hname : markedProperty? name = none)
    (hreadable : w.property? o name = none → shape.hasMember name = true) :
    host.getAttr o name w =
      .done ((w.property? o name).getD (.object World.nullObject)) w := by
  have hslot : (w.typeOf o).slots .getAttr = some (.getAttr .structMembers) := by
    rw [htype]
    exact (TypeDescriptor.keepsAttributes_struct shape ident).getAttr
  have hshape : w.shapeOf o = .ok shape := by
    rw [World.shapeOf, htype]
    rfl
  rw [getAttr_apply hslot hname, AttributeStore.get, hshape]
  cases hproperty : w.property? o name with
  | some v => rfl
  | none =>
    simp only [bind, Except.bind, hreadable hproperty, if_true, Option.getD_none]
    rfl

theorem getAttr_struct {shape : StructShape} {ident : TypeId}
    (htype : w.typeOf o = .struct shape ident) (hname : markedProperty? name = none)
    (hproperty : w.property? o name = some v) : host.getAttr o name w = .done v w := by
  rw [getAttr_struct_getD htype hname (by simp [hproperty]), hproperty, Option.getD_some]

end attributes

end Host

/-! ## Instantiation -/

namespace World

theorem grows_cloned (w : World) (T : TypeDescriptor) (prototype : ObjectId) :
    w.Grows (w.cloned T prototype) :=
  have hextends := w.extends_cloned T prototype
  ⟨hextends.size_le, hextends.object?_eq, rfl⟩

end World

namespace Natives

variable {natives : Natives} {w : World} {prototype : ObjectId} {shape : StructShape}
    {ident : TypeId} {data : Value} {values : List Value}

/-- The values may be in a raw list or in an array. -/
theorem newStruct_unwrap (htype : w.typeOf prototype = .struct shape ident)
    (hdata : w.unwrap data = .list values) :
    natives.newStruct (.object prototype) (some data) w =
      natives.newStruct (.object prototype) (some (.list values)) w := by
  have hunwrap : (w.cloned (.struct shape ident) prototype).unwrap data = .list values :=
    (w.grows_cloned _ _).unwrap_eq hdata fun _ h => by cases h
  have hlist : (w.cloned (.struct shape ident) prototype).unwrap (.list values) = .list values :=
    rfl
  have hsome : (TypeDescriptor.struct shape ident).shape.isNone = false := rfl
  simp only [newStruct, Run.bind_apply, Run.read_apply, htype, hsome, Bool.false_eq_true, if_false,
    natives.newObject_clone htype, Option.map_some, hunwrap, hlist]

/-- **A new instance** holds the conversion of each value, except for those whose names
    have been declared again. -/
theorem exists_newStruct (htype : w.typeOf prototype = .struct shape ident)
    (hdata : w.unwrap data = .list values) (hlength : values.length = shape.members.length) :
    ∃ o w', natives.newStruct (.object prototype) (some data) w = .done o w' ∧
      w'.typeOf o = .struct shape ident ∧
      ∀ (i : Nat) name v, shape.members[i]? = some name → values[i]? = some v →
        (∀ j, i < j → shape.members[j]? ≠ some name) →
        ∃ p, w'.property? o name = some (.object p) ∧ w'.IsConversion w.heap.size p v := by
  have hcloned := w.typeOf_cloned (.struct shape ident) prototype
  have hshape : ((w.cloned (.struct shape ident) prototype).typeOf ⟨w.heap.size⟩).shape =
      some shape := by
    rw [hcloned]
    rfl
  obtain ⟨x, hx⟩ := Behaviour.object?_of_shape hshape
  -- The clone is made first, then the members are published on it.
  refine ⟨_, _, (newStruct_unwrap htype hdata).trans (natives.newStruct_list htype hlength), ?_, ?_⟩
  · rw [Behaviour.typeOf_published hx, hcloned]
  · intro i name v hname hv hlast
    obtain ⟨p, hp, hconversion⟩ :=
      Behaviour.exists_property?_published hx (Bindings.last?_zip hname hv hlast)
    exact ⟨p, hp, hconversion.mono (w.grows_cloned _ _).size_le fun _ _ => rfl⟩

end Natives

/-! ## Reading back -/

/-- The members of a shape are the names that have been declared. -/
theorem memberNames_of_declaredShape {w : World} {name members guarded : Value}
    {shape : StructShape} (h : Behaviour.declaredShape w name members guarded = .ok shape) :
    Behaviour.memberNames w members = .ok shape.members := by
  rw [Behaviour.declaredShape] at h
  split at h
  · cases hmembers : Behaviour.memberNames w members with
    | error f =>
      rw [hmembers] at h
      cases h
    | ok names =>
      rw [hmembers] at h
      cases hguarded : Behaviour.memberNames w guarded with
      | error f =>
        rw [hguarded] at h
        cases h
      | ok guardedNames =>
        rw [hguarded] at h
        obtain rfl := Except.ok.inj h
        rfl
  · cases h

/-- **Members are read back**: whatever a declaration accepts as names, a list of as many
    values is accepted for an instance at any later time.  An attribute then gives the
    conversion of the value at each position whose name has not been declared again
    behind it, if the name is not marked; with the mark in front of it, the name of
    every such position does. -/
theorem members_read_back (host : Host) {w w₁ : World} {name members guarded : Value}
    {prototype : ObjectId}
    (hmade : host.natives.makeStruct name members guarded w = .done prototype w₁) :
    ∃ names, Behaviour.memberNames w members = .ok names ∧
      ∀ (w₂ : World) (data : Value) (values : List Value),
        w₂.typeOf prototype = w₁.typeOf prototype → w₂.unwrap data = .list values →
        values.length = names.length →
        ∃ o w₃, host.natives.newStruct (.object prototype) (some data) w₂ = .done o w₃ ∧
          ∀ (i : Nat) name v, names[i]? = some name → values[i]? = some v →
            (∀ j, i < j → names[j]? ≠ some name) →
            ∃ p, w₃.IsConversion w₂.heap.size p v ∧
              (Host.markedProperty? name = none →
                host.getAttr o name w₃ = .done (.object p) w₃) ∧
              host.getAttr o (Host.marked name) w₃ = .done (.object p) w₃ := by
  rw [Natives.makeStruct_eq] at hmade
  cases hshape : Behaviour.declaredShape w name members guarded with
  | error f =>
    rw [hshape] at hmade
    cases hmade
  | ok shape =>
    rw [hshape] at hmade
    cases hmade
    -- The names that have been declared are the members, so the list has one value for each
    -- of them.
    refine ⟨shape.members, memberNames_of_declaredShape hshape, ?_⟩
    intro w₂ data values htype hdata hlength
    rw [w.typeOf_structDeclared] at htype
    obtain ⟨o, w₃, hrun, htype₃, hholds⟩ := Natives.exists_newStruct htype hdata hlength
    refine ⟨o, w₃, hrun, fun i member v hmember hv hlast => ?_⟩
    obtain ⟨p, hp, hconversion⟩ := hholds i member v hmember hv hlast
    exact ⟨p, hconversion, fun hname => Host.getAttr_struct htype₃ hname hp, Host.getAttr_marked hp⟩

/-! ## Repeated and marked names -/

/-- The world after the declaration of a struct with two members, one of them marked. -/
def pairDeclared : World := World.initial.structDeclared ⟨"Pair", ["x", "aprop_y"], []⟩

/-- Both values are read back: the first one by the name of its member, the second one
    only with another mark. -/
theorem members_read_back_pair : ∃ o w₃ p q,
    Stock.host.natives.newStruct (.object ⟨3⟩) (some (.list [.int 1, .int 2])) pairDeclared =
      .done o w₃ ∧
    Stock.host.getAttr o "x" w₃ = .done (.object p) w₃ ∧ w₃.payload? p = some (.int 1) ∧
    Stock.host.getAttr o "aprop_aprop_y" w₃ = .done (.object q) w₃ ∧
      w₃.payload? q = some (.int 2) := by
  have hmade : Stock.host.natives.makeStruct (.text "Pair") (.list [.text "x", .text "aprop_y"])
      (.list []) World.initial = .done ⟨3⟩ pairDeclared := rfl
  obtain ⟨names, hnames, hread⟩ := members_read_back Stock.host hmade
  obtain rfl : names = ["x", "aprop_y"] := (Except.ok.inj hnames).symm
  obtain ⟨o, w₃, hrun, hmembers⟩ :=
    hread pairDeclared (.list [.int 1, .int 2]) [.int 1, .int 2] rfl rfl rfl
  have hx : ∀ j, 0 < j → (["x", "aprop_y"] : List String)[j]? ≠ some "x" := by
    rintro (_ | _ | j) hj <;> simp at hj ⊢
  have hy : ∀ j, 1 < j → (["x", "aprop_y"] : List String)[j]? ≠ some "aprop_y" := by
    rintro (_ | _ | j) hj <;> simp at hj ⊢
  obtain ⟨p, ⟨-, -, hp⟩, hget, -⟩ := hmembers 0 "x" (.int 1) rfl rfl hx
  obtain ⟨q, ⟨-, -, hq⟩, -, hget'⟩ := hmembers 1 "aprop_y" (.int 2) rfl rfl hy
  exact ⟨o, w₃, p, q, hrun, hget (by decide), hp, hget', hq⟩

/-- Of a repeated name the first value cannot be read back; what a marked name reads is
    another property, which is not there. -/
theorem repeated_and_marked_members :
    (∃ w₁ o w₂ p,
      Stock.host.natives.makeStruct (.text "Twice") (.list [.text "x", .text "x"]) (.list [])
        World.initial = .done ⟨3⟩ w₁ ∧
      Stock.host.natives.newStruct (.object ⟨3⟩) (some (.list [.int 1, .int 2])) w₁ =
        .done o w₂ ∧
      Stock.host.getAttr o "x" w₂ = .done (.object p) w₂ ∧ w₂.payload? p = some (.int 2)) ∧
    (∃ w₁ o w₂,
      Stock.host.natives.makeStruct (.text "Marked") (.list [.text "aprop_x"]) (.list [])
        World.initial = .done ⟨3⟩ w₁ ∧
      Stock.host.natives.newStruct (.object ⟨3⟩) (some (.list [.int 1])) w₁ = .done o w₂ ∧
      Stock.host.getAttr o "aprop_x" w₂ = .done (.object World.nullObject) w₂) :=
  ⟨⟨_, _, _, _, rfl, rfl, rfl, rfl⟩, ⟨_, _, _, rfl, rfl, rfl⟩⟩

end DynamicObjects
