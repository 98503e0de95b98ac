import DynamicObjects.Behaviour.Struct
import DynamicObjects.Proofs.Heap.Converted

/-! # Assignment of members

    Member data either sets all the members that it names or changes nothing.
    The checks come first and find the object in its window, where guarded
    members count as free; what is converted then are new objects, and one
    write publishes them.

    Main results:
    - `Behaviour.assignMembers_outcome`: the two outcomes of an assignment
    - `Behaviour.assignMembers_all_or_nothing`: what they leave -/

namespace DynamicObjects

namespace Behaviour

/-! ## Member data -/

/-- The bindings that member data stands for: those of a mapping, or the members
    in order of declaration with as many values. -/
inductive DataBinds (w : World) (shape : StructShape) (data : Value) : Bindings Value → Prop where
  | dict {entries : Bindings Value} (h : w.unwrap data = .dict entries) :
      DataBinds w shape data entries
  | list {values : List Value} (h : w.unwrap data = .list values)
      (hlength : values.length = shape.members.length) :
      DataBinds w shape data (shape.members.zip values)

/-- The reasons for which member data is refused. -/
inductive DataFault (w : World) (shape : StructShape) (data : Value) : Fault → Prop where
  | count {values : List Value} (h : w.unwrap data = .list values)
      (hlength : values.length ≠ shape.members.length) :
      DataFault w shape data (.memberCount shape.name shape.members.length)
  | kind (hdict : ∀ entries, w.unwrap data ≠ .dict entries)
      (hlist : ∀ values, w.unwrap data ≠ .list values) :
      DataFault w shape data (.memberDataNotList shape.name)
  | unknown {entries : Bindings Value} {name : String} (h : w.unwrap data = .dict entries)
      (hname : name ∈ Bindings.names entries) (hmember : shape.hasMember name = false) :
      DataFault w shape data (.noMember shape.name name)

section data
variable {w : World} {shape : StructShape} {data : Value}

theorem memberData_eq_ok_iff {entries : Bindings Value} :
    memberData w shape data = .ok entries ↔ DataBinds w shape data entries := by
  constructor
  · intro h
    rw [memberData] at h
    split at h
    · next entries' hdata =>
      obtain rfl := Except.ok.inj h
      exact .dict hdata
    · next values hdata =>
      split at h
      · next hlength =>
        obtain rfl := Except.ok.inj h
        exact .list hdata hlength
      · cases h
    · cases h
  · intro h
    cases h with
    | dict h => rw [memberData, h]
    | list h hlength => simp [memberData, h, hlength]

theorem dataFault_of_memberData {f : Fault} (h : memberData w shape data = .error f) :
    DataFault w shape data f := by
  rw [memberData] at h
  split at h
  · cases h
  · next values hdata =>
    split at h
    · cases h
    · next hlength =>
      obtain rfl := Except.error.inj h
      exact .count hdata hlength
  · next hdict hlist =>
    obtain rfl := Except.error.inj h
    exact .kind hdict hlist

/-- A list has values for members only. -/
theorem hasMember_of_mem_zip {values : List Value} {name : String}
    (h : name ∈ Bindings.names (shape.members.zip values)) : shape.hasMember name = true := by
  obtain ⟨v, hv⟩ := Bindings.mem_names.mp h
  exact List.contains_iff_mem.mpr (List.of_mem_zip hv).1

end data

/-! ## Checks inside the window -/

section window
variable {w : World} {this : ObjectId} {shape : StructShape}

/-- In its window an object may have any member written, guarded or not. -/
theorem checkMemberWrite_window (hthis : (w.object this).underConstruction = true)
    (name : String) :
    w.checkMemberWrite this shape name =
      if shape.hasMember name then .ok () else .error (.noMember shape.name name) := by
  rw [World.checkMemberWrite, hthis]
  cases shape.hasMember name <;> simp

theorem checkMembers_eq_ok_iff (hthis : (w.object this).underConstruction = true)
    {entries : Bindings Value} :
    checkMembers w this shape entries = .ok () ↔
      ∀ name ∈ Bindings.names entries, shape.hasMember name = true := by
  induction entries with
  | nil => simp [checkMembers, Bindings.names]
  | cons entry rest ih =>
    obtain ⟨name, v⟩ := entry
    rw [checkMembers, checkMemberWrite_window hthis]
    by_cases hmember : shape.hasMember name = true
    · rw [if_pos hmember]
      change checkMembers w this shape rest = .ok () ↔ _
      rw [ih]
      simp [Bindings.names, hmember]
    · rw [if_neg hmember]
      simp [Bindings.names, hmember, bind, Except.bind]

/-- The only fault inside the window is a name that is no member. -/
theorem exists_of_checkMembers_eq_error (hthis : (w.object this).underConstruction = true)
    {entries : Bindings Value} {f : Fault} (h : checkMembers w this shape entries = .error f) :
    ∃ name ∈ Bindings.names entries, shape.hasMember name = false ∧
      f = .noMember shape.name name := by
  induction entries with
  | nil => cases h
  | cons entry rest ih =>
    obtain ⟨name, v⟩ := entry
    rw [checkMembers, checkMemberWrite_window hthis] at h
    by_cases hmember : shape.hasMember name = true
    · rw [if_pos hmember] at h
      obtain ⟨other, hother, hf⟩ := ih h
      exact ⟨other, List.mem_cons_of_mem _ hother, hf⟩
    · rw [if_neg hmember] at h
      exact ⟨name, List.mem_cons_self, by simpa using hmember, (Except.error.inj h).symm⟩

end window

/-! ## The assignment as one step -/

/-- The world after bindings have been converted and published. -/
def published (w : World) (this : ObjectId) (entries : Bindings Value) : World :=
  let (entries, w) := (w.setUnderConstruction this true).toEntries entries
  w.update this fun x =>
    { x with
      properties := x.properties.setAll entries
      underConstruction := false
      isInstance := true }

theorem assignMembers_eq {w : World} {this : ObjectId} {shape : StructShape}
    (hshape : (w.typeOf this).shape = some shape) (data : Value) :
    assignMembers this data w =
      match memberData w shape data with
      | .error f => .raised f w
      | .ok entries =>
        match checkMembers (w.setUnderConstruction this true) this shape entries with
        | .error f =>
          .raised f ((w.setUnderConstruction this true).setUnderConstruction this false)
        | .ok () => .done () (published w this entries) := by
  have hshapeOf : w.shapeOf this = .ok shape := by rw [World.shapeOf, hshape]
  simp only [assignMembers, Run.bind_apply, Run.read_apply, id_eq, hshapeOf, Run.lift_ok]
  cases memberData w shape data with
  | error f => rfl
  | ok entries =>
    simp only [Run.lift_ok, Run.modify_apply, Run.attempt, Run.bind_apply, Run.read_apply, id_eq]
    -- The members are written only after all names have passed the check, so that a refusal
    -- has the flag to undo and nothing else.
    cases checkMembers (w.setUnderConstruction this true) this shape entries with
    | error f => rfl
    | ok u =>
      simp only [Run.lift_ok, Run.bind_apply, Run.step_apply, Run.modify_apply, published]
      simp only [World.setProperties, World.setUnderConstruction, World.markInstance,
        World.update_update]
      rfl

/-! ## The outcomes -/

/-- A struct object **has been assigned** bindings: it is an instance, each name
    holds the conversion of the value that is bound to it last, and nothing else
    of what existed has changed. -/
structure MembersAssigned (w w' : World) (this : ObjectId) (entries : Bindings Value) : Prop where
  instance_eq : (w'.object this).isInstance = true
  type_eq : w'.typeOf this = w.typeOf this
  assigned : ∀ {name : String} {v : Value}, Bindings.last? name entries = some v →
    ∃ o, w'.property? this name = some (.object o) ∧ w'.IsConversion w.heap.size o v
  kept : ∀ {name : String}, Bindings.last? name entries = none →
    w'.property? this name = w.property? this name
  others : ∀ {o : ObjectId}, o ≠ this → o.index < w.heap.size → w'.object? o = w.object? o
  settled : w'.Settled

/-- Only the last binding of each name counts. -/
theorem MembersAssigned.congr {w w' : World} {this : ObjectId} {entries others : Bindings Value}
    (h : MembersAssigned w w' this entries)
    (hsame : ∀ name, Bindings.last? name others = Bindings.last? name entries) :
    MembersAssigned w w' this others where
  instance_eq := h.instance_eq
  type_eq := h.type_eq
  assigned hlast := h.assigned (hsame _ ▸ hlast)
  kept hlast := h.kept (hsame _ ▸ hlast)
  others := h.others
  settled := h.settled

section outcomes
variable {w : World} {this : ObjectId} {shape : StructShape}
    (hshape : (w.typeOf this).shape = some shape) (hw : w.Settled)

include hshape in
/-- An object with a shape is alive. -/
theorem object?_of_shape : ∃ x, w.object? this = some x := by
  cases hx : w.object? this with
  | none =>
    rw [World.typeOf, World.object, hx] at hshape
    cases hshape
  | some x => exact ⟨x, rfl⟩

include hw in
theorem setUnderConstruction_restore :
    (w.setUnderConstruction this true).setUnderConstruction this false = w := by
  rw [World.setUnderConstruction, World.setUnderConstruction, World.update_update]
  apply World.update_eq_self
  intro x hx
  have hflag := hw this
  rw [World.object, hx, Option.getD_some] at hflag
  cases x
  cases hflag
  rfl

include hshape in
theorem underConstruction_window :
    ((w.setUnderConstruction this true).object this).underConstruction = true := by
  obtain ⟨x, hx⟩ := object?_of_shape hshape
  rw [World.object, World.setUnderConstruction, World.object?_update_self, hx]
  rfl

/-! ## What is published -/

/-- The bindings after their conversion inside the window. -/
abbrev windowEntries (w : World) (this : ObjectId) (entries : Bindings Value) :
    Bindings Value × World :=
  (w.setUnderConstruction this true).toEntries entries

theorem windowEntries_grows (w : World) (this : ObjectId) (entries : Bindings Value) :
    (w.setUnderConstruction this true).Grows (windowEntries w this entries).2 :=
  (World.toEntries_builds_any _ entries).grows (Nat.le_refl _)

theorem object?_published_self {x : Object} (hx : w.object? this = some x)
    (entries : Bindings Value) :
    (published w this entries).object? this =
      some { x with
        properties := x.properties.setAll (windowEntries w this entries).1
        underConstruction := false
        isInstance := true } := by
  have hlt : this.index < (w.setUnderConstruction this true).heap.size := by
    rw [World.setUnderConstruction, World.size_update]
    exact World.index_lt_of_object?_eq_some hx
  have hwindow : (windowEntries w this entries).2.object? this =
      some { x with underConstruction := true } := by
    rw [(windowEntries_grows w this entries).object?_eq hlt, World.setUnderConstruction,
      World.object?_update_self, hx]
    rfl
  unfold published
  rw [World.object?_update_self, hwindow]
  rfl

theorem object?_published_ne {o : ObjectId} (hne : o ≠ this) (entries : Bindings Value) :
    (published w this entries).object? o = (windowEntries w this entries).2.object? o :=
  World.object?_update_ne _ hne _

/-- Other objects are as they were, unless they are new. -/
theorem object?_published_old {o : ObjectId} (hne : o ≠ this) (ho : o.index < w.heap.size)
    (entries : Bindings Value) : (published w this entries).object? o = w.object? o := by
  have hlt : o.index < (w.setUnderConstruction this true).heap.size := by
    rw [World.setUnderConstruction, World.size_update]
    exact ho
  rw [object?_published_ne hne, (windowEntries_grows w this entries).object?_eq hlt,
    World.setUnderConstruction, World.object?_update_ne _ hne]

theorem property?_published {x : Object} (hx : w.object? this = some x)
    (entries : Bindings Value) (name : String) :
    (published w this entries).property? this name =
      (Bindings.last? name (windowEntries w this entries).1).or (w.property? this name) := by
  unfold World.property? World.object
  rw [object?_published_self hx, hx]
  exact Bindings.get?_setAll name x.properties _

theorem typeOf_published {x : Object} (hx : w.object? this = some x) (entries : Bindings Value) :
    (published w this entries).typeOf this = w.typeOf this := by
  rw [World.typeOf, World.typeOf, World.object, World.object, object?_published_self hx, hx]
  rfl

/-- Each name that is bound holds the conversion of what it is bound to last. -/
theorem exists_property?_published {x : Object} (hx : w.object? this = some x)
    {entries : Bindings Value} {name : String} {v : Value}
    (hlast : Bindings.last? name entries = some v) :
    ∃ o, (published w this entries).property? this name = some (.object o) ∧
      (published w this entries).IsConversion w.heap.size o v := by
  have hlt := World.index_lt_of_object?_eq_some hx
  have hsize : (w.setUnderConstruction this true).heap.size = w.heap.size := World.size_update ..
  rcases World.toEntries_last? entries (Nat.le_of_eq hsize.symm) name with
    ⟨hnone, -⟩ | ⟨u, o, hu, ho, hconversion⟩
  · rw [hnone] at hlast
    cases hlast
  · obtain rfl := Option.some.inj (hu.symm.trans hlast)
    refine ⟨o, by rw [property?_published hx, ho, Option.some_or], ?_⟩
    apply hconversion.mono (Nat.le_refl _)
    intro p hp _
    -- What is new is not the object itself.
    have hne : p ≠ this := by
      intro heq
      rw [heq] at hp
      omega
    exact object?_published_ne hne entries

/-- What is not bound stays. -/
theorem property?_published_unbound {x : Object} (hx : w.object? this = some x)
    {entries : Bindings Value} {name : String} (hlast : Bindings.last? name entries = none) :
    (published w this entries).property? this name = w.property? this name := by
  have hsize : (w.setUnderConstruction this true).heap.size = w.heap.size := World.size_update ..
  rcases World.toEntries_last? entries (Nat.le_of_eq hsize.symm) name with
    ⟨-, hnone⟩ | ⟨u, o, hu, -, -⟩
  · rw [property?_published hx, hnone, Option.none_or]
  · rw [hu] at hlast
    cases hlast

include hw in
/-- The window is closed again, and no other one has been opened. -/
theorem settled_published {x : Object} (hx : w.object? this = some x) (entries : Bindings Value) :
    (published w this entries).Settled := by
  intro o
  by_cases ho : o = this
  · rw [ho, World.object, object?_published_self hx]
    rfl
  · have hflag := ((w.setUnderConstruction this true).toEntries_builds_any
      entries).underConstruction_eq o
    have hwindow : (w.setUnderConstruction this true).object? o = w.object? o :=
      World.object?_update_ne _ ho _
    rw [World.object, World.object, hwindow] at hflag
    rw [World.object, object?_published_ne ho, hflag]
    exact hw o

include hshape hw in
theorem membersAssigned_published (entries : Bindings Value) :
    MembersAssigned w (published w this entries) this entries := by
  obtain ⟨x, hx⟩ := object?_of_shape hshape
  constructor
  · rw [World.object, object?_published_self hx]
    rfl
  · exact typeOf_published hx entries
  · intro name v hlast
    exact exists_property?_published hx hlast
  · intro name hlast
    exact property?_published_unbound hx hlast
  · intro o hne ho
    exact object?_published_old hne ho entries
  · exact settled_published hw hx entries

include hshape in
theorem assignMembers_eq_done {data : Value} {entries : Bindings Value}
    (hdata : DataBinds w shape data entries)
    (hnames : ∀ name ∈ Bindings.names entries, shape.hasMember name = true) :
    assignMembers this data w = .done () (published w this entries) := by
  rw [assignMembers_eq hshape, memberData_eq_ok_iff.mpr hdata]
  simp only
  rw [(checkMembers_eq_ok_iff (underConstruction_window hshape)).mpr hnames]

include hshape in
/-- An assignment that is done has bound and published something. -/
theorem exists_of_assignMembers_done {data : Value} {w' : World}
    (hdone : assignMembers this data w = .done () w') :
    ∃ entries, DataBinds w shape data entries ∧ w' = published w this entries := by
  rw [assignMembers_eq hshape] at hdone
  cases hdata : memberData w shape data with
  | error f => simp [hdata] at hdone
  | ok entries =>
    cases hchecked : checkMembers (w.setUnderConstruction this true) this shape entries with
    | error f => simp [hdata, hchecked] at hdone
    | ok u =>
      have hw' : w' = published w this entries := by simpa [hdata, hchecked, eq_comm] using hdone
      exact ⟨entries, memberData_eq_ok_iff.mp hdata, hw'⟩

include hshape hw in
theorem assignMembers_outcome (data : Value) :
    (∃ entries, DataBinds w shape data entries ∧
      (∀ name ∈ Bindings.names entries, shape.hasMember name = true) ∧
      assignMembers this data w = .done () (published w this entries)) ∨
    (∃ f, DataFault w shape data f ∧ assignMembers this data w = .raised f w) := by
  have hwindow := underConstruction_window hshape
  cases hdata : memberData w shape data with
  | error f =>
    refine .inr ⟨f, dataFault_of_memberData hdata, ?_⟩
    rw [assignMembers_eq hshape, hdata]
  | ok entries =>
    have hbinds := memberData_eq_ok_iff.mp hdata
    cases hchecked : checkMembers (w.setUnderConstruction this true) this shape entries with
    | ok u =>
      have hnames := (checkMembers_eq_ok_iff hwindow).mp hchecked
      exact .inl ⟨entries, hbinds, hnames, assignMembers_eq_done hshape hbinds hnames⟩
    | error f =>
      -- Only a mapping can name what is no member: a list is zipped with the members.
      obtain ⟨name, hname, hmember, rfl⟩ := exists_of_checkMembers_eq_error hwindow hchecked
      right
      refine ⟨.noMember shape.name name, ?_, ?_⟩
      · cases hbinds with
        | dict hdict => exact .unknown hdict hname hmember
        | list _ _ =>
          rw [hasMember_of_mem_zip hname] at hmember
          cases hmember
      · rw [assignMembers_eq hshape, hdata]
        simp only
        rw [hchecked, setUnderConstruction_restore hw]

include hshape hw in
/-- **All or nothing**: an assignment to a struct object either sets the members
    that the data binds, each to the conversion of what is bound to it last, or
    is refused and changes nothing at all.  A list with a value for each member
    is never refused, and comes to the same as a mapping with its bindings. -/
theorem assignMembers_all_or_nothing :
    (∀ data,
      (∃ entries w', DataBinds w shape data entries ∧
        (∀ name ∈ Bindings.names entries, shape.hasMember name = true) ∧
        assignMembers this data w = .done () w' ∧ MembersAssigned w w' this entries) ∨
      (∃ f, DataFault w shape data f ∧ assignMembers this data w = .raised f w)) ∧
    ∀ data mapping values entries, w.unwrap data = .list values →
      values.length = shape.members.length → w.unwrap mapping = .dict entries →
      (∀ name, Bindings.last? name entries = Bindings.last? name (shape.members.zip values)) →
      ∃ w₁ w₂, assignMembers this data w = .done () w₁ ∧
        assignMembers this mapping w = .done () w₂ ∧
        MembersAssigned w w₁ this (shape.members.zip values) ∧
        MembersAssigned w w₂ this (shape.members.zip values) := by
  constructor
  · intro data
    rcases assignMembers_outcome hshape hw data with ⟨entries, hbinds, hnames, hrun⟩ | hrefused
    · exact .inl ⟨entries, _, hbinds, hnames, hrun, membersAssigned_published hshape hw entries⟩
    · exact .inr hrefused
  · intro data mapping values entries hlist hlength hdict hsame
    -- The mapping binds the names that the list does, and these are members.
    have hnames : ∀ name ∈ Bindings.names entries, shape.hasMember name = true := by
      intro name hname
      refine hasMember_of_mem_zip (?_ : name ∈ Bindings.names (shape.members.zip values))
      by_contra hzip
      rw [← Bindings.last?_eq_none_iff, ← hsame, Bindings.last?_eq_none_iff] at hzip
      exact hzip hname
    exact ⟨_, _, assignMembers_eq_done hshape (.list hlist hlength) fun _ => hasMember_of_mem_zip,
      assignMembers_eq_done hshape (.dict hdict) hnames, membersAssigned_published hshape hw _,
      (membersAssigned_published hshape hw entries).congr fun name => (hsame name).symm⟩

end outcomes

/-- A mapping with a name that is no member is refused, though its other name is
    a member. -/
theorem assignMembers_unknown_member :
    ∃ w, w = (World.initial.allocate
        (.struct ⟨"Person", ["name", "age"], ["age"]⟩ (.declared 0))).2 ∧
      w.Settled ∧
      assignMembers ⟨3⟩ (.dict [("age", .int 30), ("nose", .int 1)]) w =
        .raised (.noMember "Person" "nose") w := by
  refine ⟨_, rfl, ?_⟩
  have hsettled := World.settled_allocate
    (.struct ⟨"Person", ["name", "age"], ["age"]⟩ (.declared 0)) World.settled_initial
  refine ⟨hsettled, ?_⟩
  have h := @assignMembers_all_or_nothing _ ⟨3⟩ ⟨"Person", ["name", "age"], ["age"]⟩ rfl hsettled
  rcases h.1 (.dict [("age", .int 30), ("nose", .int 1)]) with
    ⟨entries, w', hbinds, hnames, -⟩ | ⟨f, hfault, hrun⟩
  · cases hbinds with
    | dict h =>
      cases h
      exact absurd (hnames "nose" (by decide)) (by decide)
    | list h => cases h
  · rw [hrun]
    cases hfault with
    | count h => cases h
    | kind hdict => exact absurd rfl (hdict _)
    | unknown h hname hmember =>
      cases h
      simp only [Bindings.names, List.map_cons, List.map_nil, List.mem_cons, List.not_mem_nil,
        or_false] at hname
      rcases hname with rfl | rfl
      · cases hmember
      · rfl

end Behaviour

end DynamicObjects
